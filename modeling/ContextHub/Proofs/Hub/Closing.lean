import ContextHub.Proofs.Hub.Fates
/-!
# Dropping the queue

A queue is dropped with everything in it, and nothing happens to the events that it still held:
nobody who asked is told that they are done with. Posters may outlive the queue. Whatever they do
after it is gone (`Outlived`), their own events are refused and done with at once, and those that
were left behind stay the only ones that were handed in and never released.

A loop that discards what is left before its queue goes would tell everyone (`clear_informs`).
-/

namespace ContextHub.Hub

variable {A R : Type}

/-! ## Who is told -/

/-- The events that were done with and about which someone was told, latest first. -/
def told (h : Hub A R) : List Event := h.released.filter (·.notify)

/-- On the way from one hub to another, all who asked about events that were queued are told, of
each event once, and nobody else is. -/
def Informs (h h' : Hub A R) : Prop := h'.told.Perm (h.told ++ h.queuedEvents.filter (·.notify))

/-- Where nobody is told anything, all are told only if nobody asked. -/
theorem informs_iff_of_fates_eq {h h' : Hub A R} (hf : h'.fates = h.fates) :
    h.Informs h' ↔ ∀ e ∈ h.queuedEvents, e.notify = false := by
  have htold : h'.told = h.told := by rw [told, released, hf, told, released]
  have hnone : h.queuedEvents.filter (·.notify) = [] ↔
      ∀ e ∈ h.queuedEvents, e.notify = false := by
    simp only [List.filter_eq_nil_iff, Bool.not_eq_true]
  rw [Informs, htold, ← hnone]
  constructor
  · intro hp
    have hl := hp.length_eq
    rw [List.length_append] at hl
    exact List.length_eq_zero_iff.1 (by omega)
  · intro hnil
    rw [hnil, List.append_nil]

theorem queuedEvents_closed {h : Hub A R} (hq : h.queue = h.queue.close) : h.queuedEvents = [] := by
  rw [queuedEvents, hq]
  rfl

/-- A queue that is cleared before it goes leaves nobody untold. -/
theorem clear_informs (h : Hub A R) :
    Ends (do let _ ← discard fun _ => true; closeQueue) h (fun _ h' => h.Informs h')
      fun _ _ => False := by
  have hout : (h.queue.discard fun _ => true).1 = h.queuedEvents :=
    (Queue.matching_eq _ _).trans (List.filter_eq_self.2 fun _ _ => rfl)
  unfold discard
  rw [ends_bind, ends_bind, ends_get]
  refine ends_bind.2 (ends_set.2 (ends_bind.2 ((releaseAll_fates _ _).mono ?_ fun _ _ => id)))
  rintro _ h₁ ⟨-, hf⟩
  have hreleased : h₁.released = h.queuedEvents.reverse ++ h.released := by
    rw [released, hf, List.filterMap_append, (released_entries _).2, ← hout]
    rfl
  show (h₁.released.filter (·.notify)).Perm _
  rw [hreleased, List.filter_append, List.filter_reverse]
  exact (List.reverse_perm _).append_right _ |>.trans List.perm_append_comm

/-! ## After the queue is gone -/

/-- What someone with a poster can do. -/
inductive PosterCall where
  | post (e : Event)
  | postOrDie (e : Event)
  | defer (c : Callback)
  | deferOrDie (c : Callback)
  | requestUnload (id : InstanceId)
  | stop

def PosterCall.run : PosterCall → HubM A R Unit
  | post e => do let _ ← tryPost e
  | postOrDie e => Hub.postOrDie e
  | defer c => do let _ ← Hub.defer c
  | deferOrDie c => Hub.deferOrDie c
  | requestUnload id => do let _ ← Hub.requestUnload id
  | stop => stopLoop

/-- Posters are used from `h₀` on. One whose call halts is not the only one there is. -/
inductive Outlived (h₀ : Hub A R) : Hub A R → Prop
  | refl : Outlived h₀ h₀
  | call {h h' : Hub A R} (c : PosterCall) (hs : Outlived h₀ h)
      (hr : c.run h = .ok () h' ∨ ∃ e, c.run h = .error e h') : Outlived h₀ h'

theorem Outlived.tryPost {h₀ h h' : Hub A R} (hs : Outlived h₀ h) {e : Event}
    {r : Except QueueError Unit} (hr : tryPost e h = .ok r h') : Outlived h₀ h' := by
  have hend : Ends (PosterCall.post e).run h (fun _ h₁ => h₁ = h') fun _ _ => False := by
    unfold PosterCall.run
    rw [ends_bind, Ends, hr]
    rfl
  obtain ⟨_, h₁, hrun, rfl⟩ := hend.exists_ok
  exact hs.call _ (.inl hrun)

/-- What the journal tells of an event that is not accepted, latest first. -/
def refusal (e : Event) : List Entry := [.released e, .handed e false]

theorem offer_closed {q : Queue} (hq : q.closed = true) (t : Task) :
    q.offer t = .error (if q.reserved < q.capacity then .loopStopped else .queueFull) := by
  unfold Queue.offer
  rw [hq]
  split <;> rfl

theorem tryPost_closed {h : Hub A R} (hq : h.queue.closed = true) (e : Event) :
    Ends (tryPost e) h
      (fun r h' =>
        r = .error (if h.queue.reserved < h.queue.capacity then .loopStopped else .queueFull) ∧
          h'.queue = h.queue ∧ h'.fates = refusal e ++ h.fates)
      fun _ _ => False := by
  unfold tryPost
  rw [ends_bind, ends_get, offer_closed hq]
  exact ⟨rfl, rfl, rfl⟩

theorem defer_closed {h : Hub A R} (hq : h.queue.closed = true) (c : Callback) :
    Ends (defer c) h (fun b h' => b = false ∧ h'.queue = h.queue ∧ h'.fates = h.fates)
      fun _ _ => False := by
  unfold defer
  rw [ends_bind, ends_get, offer_closed hq]
  exact ⟨rfl, rfl, rfl⟩

/-- Without a queue, events are refused and nothing else happens to any. -/
def late : Law A R where
  rel h h' := h.queue.closed = true →
    h'.queue = h.queue ∧ ∃ es : List Event, h'.fates = es.flatMap refusal ++ h.fates
  halts h _ h' := h.queue.closed = true →
    h'.queue = h.queue ∧ ∃ es : List Event, h'.fates = es.flatMap refusal ++ h.fates
  refl _ _ := ⟨rfl, [], rfl⟩
  trans hab hbc hclosed := by
    obtain ⟨hq, es, hf⟩ := hab hclosed
    obtain ⟨hq', es', hf'⟩ := hbc (by rw [hq]; exact hclosed)
    exact ⟨hq'.trans hq, es' ++ es, by rw [hf', hf, List.flatMap_append, List.append_assoc]⟩
  halts_of_rel hab hbc hclosed := by
    obtain ⟨hq, es, hf⟩ := hab hclosed
    obtain ⟨hq', es', hf'⟩ := hbc (by rw [hq]; exact hclosed)
    exact ⟨hq'.trans hq, es' ++ es, by rw [hf', hf, List.flatMap_append, List.append_assoc]⟩

theorem tryPost_late (e : Event) : Obeys late (tryPost e : HubM A R _) := fun _ => .of_runs
  (fun _ _ hr hclosed =>
    have hend := (tryPost_closed hclosed e).ok hr
    ⟨hend.2.1, [e], hend.2.2⟩)
  fun _ _ hr hclosed => ((tryPost_closed hclosed e).error hr).elim

theorem late_posts : (late : Law A R).Posts where
  apart ha _ := ⟨ha.queue, [], ha.fates⟩
  halt _ _ _ := ⟨rfl, [], rfl⟩
  tryPost_obeys e _ := tryPost_late e
  defer_obeys c _ := .of_runs
    (fun _ _ hr hclosed =>
      have hend := (defer_closed hclosed c).ok hr
      ⟨hend.2.1, [], hend.2.2⟩)
    fun _ _ hr hclosed => ((defer_closed hclosed c).error hr).elim

theorem PosterCall.run_obeys (c : PosterCall) : Obeys (late : Law A R) c.run := by
  have hL : (late : Law A R).Posts := late_posts
  cases c with
  | post e => exact .bind (tryPost_late e) fun _ => .pure _
  | postOrDie e => exact hL.postOrDie_of_tryPost (tryPost_late e)
  | defer c => exact .bind (hL.defer_obeys c) fun _ => .pure _
  | deferOrDie c => exact hL.deferOrDie_obeys c
  | requestUnload id => exact .bind (hL.defer_obeys _) fun _ => .pure _
  | stop => exact hL.aside_obeys fun _ => ⟨⟨rfl, rfl, rfl, rfl⟩, rfl, rfl, rfl, rfl⟩

theorem Outlived.late {h₀ h : Hub A R} (hs : Outlived h₀ h) : Hub.late.rel h₀ h := by
  induction hs with
  | refl => exact Hub.late.refl h₀
  | call c _ hr ih =>
    rcases hr with hr | ⟨e, hr⟩
    · exact Hub.late.trans ih ((c.run_obeys _).ok hr)
    · exact Hub.late.halts_of_rel (e := e) ih ((c.run_obeys _).error hr)

/-! ## What is left behind -/

theorem balanced_refusals {left es : List Event} {fates : List Entry}
    (hb : (fates.filterMap Entry.handed?).Perm (fates.filterMap Entry.released? ++ left)) :
    ((es.flatMap refusal ++ fates).filterMap Entry.handed?).Perm
      ((es.flatMap refusal ++ fates).filterMap Entry.released? ++ left) := by
  induction es with
  | nil => exact hb
  | cons e es ih => exact ih.cons e

variable [Radio R] [Behaviour A]

/-- Dropping the queue leaves the fates of all events as they are, so everyone who asked is told
only if nobody did. From then on posters are refused and their events are done with at once; of all
that was ever handed in, exactly the events that were queued when the queue went are never done
with. -/
theorem left_events_are_never_released (h : Hub A R) :
    ∃ h', closeQueue h = .ok () h' ∧ h'.queuedEvents = [] ∧ h'.fates = h.fates ∧
      (h.Informs h' ↔ ∀ e ∈ h.queuedEvents, e.notify = false) ∧
      ∀ h'', Outlived h' h'' → h''.queuedEvents = [] ∧
        (∀ config, Used config h → h''.handed.Perm (h''.released ++ h.queuedEvents)) ∧
        ∀ e, ∃ h₃, h₃.fates = .released e :: .handed e false :: h''.fates ∧
          tryPost e h'' = .ok (.error (if h.queue.reserved < h.queue.capacity then .loopStopped
            else .queueFull)) h₃ := by
  refine ⟨_, rfl, rfl, rfl, informs_iff_of_fates_eq rfl, fun h'' hs => ?_⟩
  obtain ⟨hq, es, hf⟩ := hs.late rfl
  refine ⟨queuedEvents_closed (by rw [hq]; rfl), fun config hh => ?_, fun e => ?_⟩
  · obtain ⟨now, radios, metrics, hh⟩ := hh.handled
    rw [handed, released, hf]
    exact balanced_refusals hh.balanced
  · obtain ⟨r, h₃, hr, hr', -, hf₃⟩ := (tryPost_closed (h := h'') (by rw [hq]; rfl) e).exists_ok
    rw [hr', hq] at hr
    exact ⟨h₃, hf₃, hr⟩

/-- A broadcast that someone asked to be told about. -/
def inquiry : Event := { Event.toAll 32768 (.number 7) with notify := true }

/-- The broadcast is posted, the hub is shut down with it still queued, and the queue is dropped.
One that is posted later is refused, and someone is told; of the first one nobody ever is. -/
theorem inquiry_is_left_behind : ∃ h h' h'' : Hub Script Stations, Used {} h ∧
    closeQueue h = .ok () h' ∧ Outlived h' h'' ∧ h''.told = [{ inquiry with payload := .number 8 }] ∧
      h''.handed.Perm (h''.released ++ [inquiry]) := by
  obtain ⟨h, hh, hqueued, htold⟩ := used_of_ends (A := Script) {} 0 Stations.scripted none
    [.post inquiry, .turn .shutdown] (P := fun h => h.queuedEvents = [inquiry] ∧ h.told = [])
    (by decide +kernel)
  obtain ⟨h', hr, -, hf, -, hlate⟩ := left_events_are_never_released h
  obtain ⟨h₃, hf₃, hr₃⟩ := (hlate h' .refl).2.2 { inquiry with payload := .number 8 }
  have hs : Outlived h' h₃ := .tryPost .refl hr₃
  have hperm := (hlate h₃ hs).2.1 {} hh
  rw [hqueued] at hperm
  refine ⟨h, h', h₃, hh, hr, hs, ?_, hperm⟩
  have htold₃ : h₃.told = { inquiry with payload := .number 8 } :: h.told := by
    unfold told released
    rw [hf₃, hf]
    rfl
  rw [htold₃, htold]

/-- A hub that was shut down and whose queue was dropped did not tell of the broadcast it had. -/
theorem shutdown_hub_tells_nobody : ∃ h h' : Hub Script Stations, Used {} h ∧
    closeQueue h = .ok () h' ∧ h.queuedEvents = [inquiry] ∧ h'.queuedEvents = [] ∧ h'.told = [] ∧
      ¬ h.Informs h' := by
  obtain ⟨h, hh, hqueued, htold⟩ := used_of_ends (A := Script) {} 0 Stations.scripted none
    [.post inquiry, .turn .shutdown] (P := fun h => h.queuedEvents = [inquiry] ∧ h.told = [])
    (by decide +kernel)
  refine ⟨h, { h with queue := h.queue.close }, hh, rfl, hqueued, rfl, htold, fun hinforms => ?_⟩
  have hnobody := (informs_iff_of_fates_eq (h := h) rfl).1 hinforms
  rw [hqueued] at hnobody
  exact absurd (hnobody inquiry List.mem_cons_self) (by decide)

end ContextHub.Hub
