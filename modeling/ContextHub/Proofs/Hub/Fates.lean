import ContextHub.Proofs.Hub.Course
import ContextHub.Proofs.Hub.Expiries
import ContextHub.Proofs.Hub.Workings
import ContextHub.Simulation.World
/-!
# The fates of events

An event that is handed in is accepted into the queue, or done with at once. From the queue it is
discarded, or taken and dispatched, and it is done with when the handler of the last recipient has
returned. `Handling` is a run of a hub as a list of such `Fate`s, with its own work and any posts
in between. The journal tells exactly these (`Handling.fates_eq`), so at every moment what was
handed in is what was released and what is still queued or being dispatched
(`Handling.balanced`). Whatever a host does is such a run, up to where it halts.
-/

namespace ContextHub

def Task.event? : Task → Option Event
  | .event e => some e
  | .deferred _ => none

def Entry.handed? : Entry → Option Event
  | .handed e _ => some e
  | _ => none

def Entry.released? : Entry → Option Event
  | .released e => some e
  | _ => none

theorem Queue.matching_eq (p : Event → Bool) (ts : List Task) :
    matching p ts = (ts.filterMap Task.event?).filter p := by
  induction ts with
  | nil => rfl
  | cons t ts ih =>
    cases t with
    | event e => by_cases hp : p e = true <;> simp_all [matching, Task.event?]
    | deferred c => exact ih

theorem Queue.others_events (p : Event → Bool) (ts : List Task) :
    (others p ts).filterMap Task.event? = (ts.filterMap Task.event?).filter (!p ·) := by
  induction ts with
  | nil => rfl
  | cons t ts ih =>
    cases t with
    | event e => by_cases hp : p e = true <;> simp_all [others, Task.event?]
    | deferred c => exact ih

namespace Hub

variable {A R α : Type}

def queuedEvents (h : Hub A R) : List Event := h.queue.tasks.filterMap Task.event?

/-- The events that were handed in, latest first. -/
def handed (h : Hub A R) : List Event := h.fates.filterMap Entry.handed?

/-- The events that are done with, latest first. -/
def released (h : Hub A R) : List Event := h.fates.filterMap Entry.released?

/-- What becomes of an event. -/
inductive Fate where
  | accepted (e : Event)
  /-- The queue does not take it. -/
  | rejected (e : Event)
  /-- Its type is reserved, so it does not get to the queue. -/
  | refused (e : Event)
  | discarded (out : List Event)
  | taken (e : Event) (recipients : List InstanceId)
  /-- A recipient's handler begins. -/
  | delivered (watched : Bool) (d : Delivery) (time : Nat)
  /-- A recipient's handler has returned, or there was none to run. -/
  | returned (id : InstanceId)
  | finished (e : Event)

namespace Fate

/-- What the journal tells of a fate, in order. -/
def entries : Fate → List Entry
  | accepted e => [.handed e true]
  | rejected e => [.handed e false, .released e]
  | refused e => [.handed e false, .released e]
  | discarded out => out.map .released
  | taken _ _ => []
  | delivered watched d time => [.delivered watched d time]
  | returned _ => []
  | finished e => [.released e]

def returned? : Fate → Option InstanceId
  | returned id => some id
  | _ => none

/-- Whether a dispatch begins or ends. -/
def isTurn : Fate → Bool
  | taken _ _ => true
  | finished _ => true
  | _ => false

end Fate

/-- A fate befalls an event, in a hub that may be dispatching one to recipients that have not yet
returned. -/
inductive Befalls (h : Hub A R) : Option Dispatch → Fate → Hub A R → Option Dispatch → Prop
  | accepted {h' : Hub A R} {o : Option Dispatch} {e : Event} {q : Queue}
      (hoffer : h.queue.offer (.event e) = .ok q) (hq : h'.queuedEvents = h.queuedEvents ++ [e])
      (hf : h'.fates = .handed e true :: h.fates) : Befalls h o (.accepted e) h' o
  | rejected {h' : Hub A R} {o : Option Dispatch} {e : Event} {err : QueueError}
      (hoffer : h.queue.offer (.event e) = .error err) (hq : h'.queuedEvents = h.queuedEvents)
      (hf : h'.fates = .released e :: .handed e false :: h.fates) : Befalls h o (.rejected e) h' o
  | refused {h' : Hub A R} {o : Option Dispatch} {e : Event} (ht : e.type < EventType.firstUser)
      (hq : h'.queuedEvents = h.queuedEvents)
      (hf : h'.fates = .released e :: .handed e false :: h.fates) : Befalls h o (.refused e) h' o
  | discarded {h' : Hub A R} {o : Option Dispatch} (p : Event → Bool)
      (hq : h'.queuedEvents = h.queuedEvents.filter (!p ·))
      (hf : h'.fates = ((h.queuedEvents.filter p).map .released).reverse ++ h.fates) :
      Befalls h o (.discarded (h.queuedEvents.filter p)) h' o
  | taken {h' : Hub A R} {e : Event} {q : Queue} (hnext : h.queue.next? = some (.event e, q))
      (hq : h.queuedEvents = e :: h'.queuedEvents) (hf : h'.fates = h.fates) :
      Befalls h none (.taken e (h.registry.recipients e)) h' (some ⟨e, h.registry.recipients e⟩)
  | delivered {h' : Hub A R} {e : Event} {id : InstanceId} {ids : List InstanceId}
      (watched : Bool) (time : Nat) (hq : h'.queuedEvents = h.queuedEvents)
      (hf : h'.fates = .delivered watched ⟨id, e.sender, e.type, e.payload⟩ time :: h.fates) :
      Befalls h (some ⟨e, id :: ids⟩) (.delivered watched ⟨id, e.sender, e.type, e.payload⟩ time) h'
        (some ⟨e, id :: ids⟩)
  | returned {e : Event} {id : InstanceId} {ids : List InstanceId} :
      Befalls h (some ⟨e, id :: ids⟩) (.returned id) h (some ⟨e, ids⟩)
  | finished {h' : Hub A R} {e : Event} (hq : h'.queuedEvents = h.queuedEvents)
      (hf : h'.fates = .released e :: h.fates) : Befalls h (some ⟨e, []⟩) (.finished e) h' none

/-- A run of a hub as events see it: their fates, and work that does not concern them. -/
inductive Handling (h : Hub A R) (o : Option Dispatch) :
    List Fate → Hub A R → Option Dispatch → Prop
  | refl : Handling h o [] h o
  | work {fs : List Fate} {h₁ h' : Hub A R} {o' : Option Dispatch} (hs : Handling h o fs h₁ o')
      (hq : h'.queuedEvents = h₁.queuedEvents) (hf : h'.fates = h₁.fates) : Handling h o fs h' o'
  | fate {fs : List Fate} {f : Fate} {h₁ h' : Hub A R} {o₁ o' : Option Dispatch}
      (hs : Handling h o fs h₁ o₁) (hb : Befalls h₁ o₁ f h' o') : Handling h o (fs ++ [f]) h' o'

/-! ## What a run keeps -/

theorem Befalls.fates_eq {h h' : Hub A R} {o o' : Option Dispatch} {f : Fate}
    (hb : Befalls h o f h' o') : h'.fates = f.entries.reverse ++ h.fates := by
  cases hb with
  | taken _ _ hf => exact hf
  | returned => rfl
  | discarded p _ hf => exact hf
  | _ =>
    rename_i hf
    exact hf

/-- What is handed in is in the hub, or was released. -/
def Balanced (h : Hub A R) (o : Option Dispatch) : Prop :=
  h.handed.Perm (h.released ++ h.queuedEvents ++ (o.map Dispatch.event).toList)

theorem Balanced.same {h h' : Hub A R} {o : Option Dispatch} (hb : h.Balanced o)
    (hq : h'.queuedEvents = h.queuedEvents) (hf : h'.fates = h.fates) : h'.Balanced o := by
  unfold Balanced handed released at *
  rwa [hq, hf]

theorem released_entries (out : List Event) :
    (out.map Entry.released).reverse.filterMap Entry.handed? = [] ∧
      (out.map Entry.released).reverse.filterMap Entry.released? = out.reverse := by
  constructor
  · simp [List.filterMap_eq_nil_iff, Entry.handed?]
  · rw [List.filterMap_reverse, List.filterMap_map]
    exact congrArg List.reverse (List.filterMap_some)

theorem Befalls.balanced {h h' : Hub A R} {o o' : Option Dispatch} {f : Fate}
    (hb : Befalls h o f h' o') (hh : h.Balanced o) : h'.Balanced o' := by
  refine List.perm_iff_count.2 fun a => ?_
  have ha := List.perm_iff_count.1 hh a
  unfold handed released at *
  simp only [List.count_append] at ha ⊢
  cases hb with
  | accepted _ hq hf =>
    rw [hq, hf]
    simp only [List.filterMap_cons, Entry.handed?, Entry.released?, List.count_append,
      List.count_cons, List.count_nil]
    omega
  | rejected _ hq hf =>
    rw [hq, hf]
    simp only [List.filterMap_cons, Entry.handed?, Entry.released?, List.count_cons]
    omega
  | refused _ hq hf =>
    rw [hq, hf]
    simp only [List.filterMap_cons, Entry.handed?, Entry.released?, List.count_cons]
    omega
  | discarded p hq hf =>
    have hsplit := (List.filter_append_perm p h.queuedEvents).count_eq a
    rw [hq, hf, List.filterMap_append, List.filterMap_append, (released_entries _).1,
      (released_entries _).2, List.nil_append, List.count_append, List.count_reverse]
    rw [List.count_append] at hsplit
    omega
  | taken _ hq hf =>
    rw [hq] at ha
    rw [hf]
    simp only [Option.map_none, Option.map_some, Option.toList_none, Option.toList_some,
      List.count_cons, List.count_nil] at ha ⊢
    omega
  | delivered _ _ hq hf =>
    rw [hq, hf]
    exact ha
  | returned => exact ha
  | finished hq hf =>
    rw [hq, hf]
    simp only [List.filterMap_cons, Entry.handed?, Entry.released?, Option.map_none,
      Option.map_some, Option.toList_none, Option.toList_some, List.count_cons,
      List.count_nil] at ha ⊢
    omega

namespace Handling

variable {h h₁ h' : Hub A R} {o o₁ o' : Option Dispatch} {fs fs' : List Fate}

theorem trans (hs : Handling h o fs h₁ o₁) (hs' : Handling h₁ o₁ fs' h' o') :
    Handling h o (fs ++ fs') h' o' := by
  induction hs' with
  | refl => rwa [List.append_nil]
  | work _ hq hf ih => exact ih.work hq hf
  | fate _ hb ih =>
    rw [← List.append_assoc]
    exact ih.fate hb

/-- The journal tells of the fates, and of nothing else that happens to events. -/
theorem fates_eq (hs : Handling h o fs h' o') :
    h'.fates = (fs.flatMap Fate.entries).reverse ++ h.fates := by
  induction hs with
  | refl => rfl
  | work _ _ hf ih => exact hf.trans ih
  | fate _ hb ih => rw [hb.fates_eq, ih, List.flatMap_append, List.flatMap_singleton,
      List.reverse_append, List.append_assoc]

theorem balanced (hs : Handling h o fs h' o') (hh : h.Balanced o) : h'.Balanced o' := by
  induction hs with
  | refl => exact hh
  | work _ hq hf ih => exact ih.same hq hf
  | fate _ hb ih => exact hb.balanced ih

end Handling

/-! ## Dispatches -/

/-- Of the recipients `ids` for which `e` was taken, `served` have returned, and nothing else was
taken since. -/
def InDispatch (fs : List Fate) (e : Event) (ids served : List InstanceId) : Prop :=
  ∃ before since, fs = before ++ .taken e ids :: since ∧ since.filterMap Fate.returned? = served ∧
    ∀ f ∈ since, f.isTurn = false

theorem InDispatch.snoc {fs : List Fate} {e : Event} {ids served : List InstanceId}
    (hd : InDispatch fs e ids served) {f : Fate} (hf : f.isTurn = false) :
    InDispatch (fs ++ [f]) e ids (served ++ f.returned?.toList) := by
  obtain ⟨before, since, rfl, rfl, hsince⟩ := hd
  refine ⟨before, since ++ [f], List.append_assoc _ _ _, ?_, ?_⟩
  · rw [List.filterMap_append]
    cases f <;> rfl
  · exact List.forall_mem_append.2 ⟨hsince, by simpa using hf⟩

namespace Handling

variable {h h' : Hub A R} {o' : Option Dispatch} {fs : List Fate}

/-- The recipients of the event that is being dispatched have returned up to those that are left. -/
theorem inDispatch (hs : Handling h none fs h' o') {D : Dispatch} (ho : o' = some D) :
    ∃ served, InDispatch fs D.event (served ++ D.recipients) served := by
  induction hs generalizing D with
  | refl => cases ho
  | work _ _ _ ih => exact ih ho
  | @fate fs f h₁ h' o₁ o' _ hb ih =>
    have haside (hturn : f.isTurn = false) (hreturned : f.returned? = none) (heq : o₁ = some D) :
        ∃ served, InDispatch (fs ++ [f]) D.event (served ++ D.recipients) served := by
      obtain ⟨served, hd⟩ := ih heq
      have hd := hd.snoc hturn
      rw [hreturned, Option.toList_none, List.append_nil] at hd
      exact ⟨served, hd⟩
    cases hb with
    | taken =>
      cases ho
      exact ⟨[], fs, [], rfl, rfl, by simp⟩
    | @returned e id ids =>
      cases ho
      obtain ⟨served, hd⟩ := ih rfl
      refine ⟨served ++ [id], ?_⟩
      rw [List.append_assoc]
      exact hd.snoc rfl
    | finished => cases ho
    | _ => exact haside rfl rfl ho

/-- An event is done with when all its recipients have returned, one after the other. -/
theorem finished (hs : Handling h none fs h' o') {before after : List Fate} {e : Event}
    (hfs : fs = before ++ .finished e :: after) : ∃ ids, InDispatch before e ids ids := by
  induction hs generalizing after with
  | refl => simp at hfs
  | work _ _ _ ih => exact ih hfs
  | @fate fs f h₁ h' o₁ o' hs hb ih =>
    rcases TimerPool.snoc_eq_split hfs with ⟨-, rfl, rfl⟩ | ⟨rest, -, rfl⟩
    · cases hb
      obtain ⟨served, hd⟩ := hs.inDispatch rfl
      rw [List.append_nil] at hd
      exact ⟨served, hd⟩
    · exact ih rfl

end Handling

/-! ## Everything a hub does -/

/-- Whatever is being dispatched, and without an end to it, the hub runs. -/
def handling : Law A R where
  rel h h' := ∀ o, ∃ fs, Handling h o fs h' o
  halts h _ h' := ∀ o, ∃ fs, Handling h o fs h' o
  refl _ _ := ⟨[], .refl⟩
  trans h h' o := by
    obtain ⟨fs, hs⟩ := h o
    obtain ⟨fs', hs'⟩ := h' o
    exact ⟨_, hs.trans hs'⟩
  halts_of_rel h h' o := by
    obtain ⟨fs, hs⟩ := h o
    obtain ⟨fs', hs'⟩ := h' o
    exact ⟨_, hs.trans hs'⟩

theorem handling_of_work {h h' : Hub A R} (hq : h'.queuedEvents = h.queuedEvents)
    (hf : h'.fates = h.fates) : handling.rel h h' :=
  fun _ => ⟨[], .work .refl hq hf⟩

theorem handling_of_fate {h h' : Hub A R} {f : Fate} (hb : ∀ o, Befalls h o f h' o) :
    handling.rel h h' :=
  fun o => ⟨[f], .fate .refl (hb o)⟩

theorem events_of_offer {q q' : Queue} {t : Task} (hq : q.offer t = .ok q') :
    q'.tasks.filterMap Task.event? = q.tasks.filterMap Task.event? ++ t.event?.toList := by
  rw [offer_tasks hq, List.filterMap_append]
  cases t <;> rfl

theorem releaseAll_fates (out : List Event) (h : Hub A R) :
    Ends (out.forM fun e => do
        countDropped
        release e) h
      (fun _ h' => h'.queue = h.queue ∧ h'.fates = (out.map .released).reverse ++ h.fates)
      (fun _ _ => False) := by
  induction out generalizing h with
  | nil => exact ⟨rfl, rfl⟩
  | cons e out ih =>
    refine (ih _).mono (fun _ h' hr => ⟨hr.1, ?_⟩) fun _ _ he => he
    rw [hr.2, List.map_cons, List.reverse_cons, List.append_assoc]
    rfl

theorem discard_handling (p : Event → Bool) :
    Obeys handling (discard p : HubM A R (List Event)) := by
  intro h
  unfold discard
  rw [ends_bind, ends_get]
  refine ends_bind.2 (ends_set.2 (ends_bind.2 ((releaseAll_fates _ _).mono ?_ ?_)))
  · rintro _ h' ⟨hq, hf⟩
    refine handling_of_fate fun o => .discarded p ?_ ?_
    · rw [queuedEvents, hq]
      exact (congrArg (List.filterMap Task.event?) (discard_tasks h.queue p)).trans
        (Queue.others_events p h.queue.tasks)
    · rw [hf]
      exact congrArg (fun l => (List.map Entry.released l).reverse ++ h.fates)
        (Queue.matching_eq p h.queue.tasks)
  · exact fun _ _ => False.elim

theorem tryPost_handling (e : Event) : Obeys handling (tryPost e : HubM A R _) := by
  intro h
  unfold tryPost
  rw [ends_bind, ends_get]
  split
  · rename_i q hq
    exact handling_of_fate fun o => .accepted hq (events_of_offer hq) rfl
  · rename_i err hq
    exact handling_of_fate fun o => .rejected hq rfl rfl

theorem handling_overlooks : (handling : Law A R).Overlooks := by
  have hbeside {h h' : Hub A R} (hb : h.Beside h') : handling.rel h h' :=
    handling_of_work (by rw [queuedEvents, hb.queue, queuedEvents]) hb.fates
  have hposts : (handling : Law A R).Posts := by
    refine ⟨fun hb => hbeside hb.toBeside, fun _ _ _ => ⟨[], .refl⟩,
      fun e _ => tryPost_handling e, fun c h => ?_⟩
    unfold defer
    rw [ends_bind, ends_get]
    split
    · rename_i q hq
      exact handling_of_work ((events_of_offer hq).trans (List.append_nil _)) rfl
    · exact handling_of_work rfl rfl
  exact ⟨hposts.times (fun _ _ => handling_of_work rfl rfl)
    (fun e h ht => handling_of_fate fun o => .refused ht rfl rfl) discard_handling, hbeside⟩

theorem handling_works [Radio R] : (handling : Law A R).Works := handling_overlooks.works

theorem tick_handling : Obeys handling (tick : HubM A R Nat) :=
  handling_overlooks.tick_obeys (fun _ _ => handling_of_work rfl rfl) tryPost_handling

/-- The hub runs from `h₀` to `h`. -/
def Handled (h₀ h : Hub A R) (o : Option Dispatch) : Prop := ∃ fs, Handling h₀ none fs h o

/-- The hub halts on a run from `h₀`, perhaps while it dispatches an event. -/
def Strands (h₀ : Hub A R) (_ : Halt) (h : Hub A R) : Prop := ∃ o, h₀.Handled h o

namespace Handled

variable {h₀ h h' : Hub A R} {o o' : Option Dispatch}

theorem work (hh : h₀.Handled h o) (hq : h'.queuedEvents = h.queuedEvents)
    (hf : h'.fates = h.fates) : h₀.Handled h' o := by
  obtain ⟨fs, hs⟩ := hh
  exact ⟨fs, hs.work hq hf⟩

theorem fate (hh : h₀.Handled h o) {f : Fate} (hb : Befalls h o f h' o') : h₀.Handled h' o' := by
  obtain ⟨fs, hs⟩ := hh
  exact ⟨_, hs.fate hb⟩

theorem obeying {m : HubM A R α} (hm : Obeys handling m) (hh : h₀.Handled h o) :
    Ends m h (fun _ h' => h₀.Handled h' o) h₀.Strands := by
  obtain ⟨fs, hs⟩ := hh
  refine (hm h).mono (fun _ h' hr => ?_) fun _ h' he => ?_
  · obtain ⟨fs', hs'⟩ := hr o
    exact ⟨_, hs.trans hs'⟩
  · obtain ⟨fs', hs'⟩ := he o
    exact ⟨o, _, hs.trans hs'⟩

theorem balanced {config : Config} {now : Nat} {radios : R} {metrics : Option Metrics}
    (hh : (blank config now radios metrics).Handled h none) :
    h.handed.Perm (h.released ++ h.queuedEvents) := by
  obtain ⟨fs, hs⟩ := hh
  have hb := hs.balanced (.refl [])
  rwa [Balanced, Option.map_none, Option.toList_none, List.append_nil] at hb

end Handled

theorem release_handled {h₀ h : Hub A R} {e : Event} (hh : h₀.Handled h (some ⟨e, []⟩)) :
    Ends (release e) h (fun _ h' => h₀.Handled h' none) h₀.Strands :=
  hh.fate (.finished rfl rfl)

theorem dropUndelivered_handled {h₀ h : Hub A R} {e : Event}
    (hh : h₀.Handled h (some ⟨e, []⟩)) :
    Ends (dropUndelivered e) h (fun _ h' => h₀.Handled h' none) h₀.Strands := by
  have hL : (handling : Law A R).Overlooks := handling_overlooks
  unfold dropUndelivered
  split
  · exact release_handled hh
  · refine (hh.obeying (hL.emit_obeys _ _ _)).bind fun _ _ hh => ?_
    refine (hh.obeying (hL.modifyStats_obeys _)).bind fun _ _ hh => ?_
    exact (hh.obeying (hL.countMetric_obeys _)).bind fun _ _ => release_handled

variable [Radio R] [Behaviour A]

theorem deliverTo_handled {h₀ h : Hub A R} {e : Event} {id : InstanceId} {ids : List InstanceId}
    (hh : h₀.Handled h (some ⟨e, id :: ids⟩)) :
    Ends (deliverTo e id) h (fun _ h' => h₀.Handled h' (some ⟨e, ids⟩)) h₀.Strands := by
  unfold deliverTo
  rw [ends_bind, ends_get]
  dsimp only
  split
  · exact (hh.obeying (handling_works.runHandler_obeys _ _)).mono
      (fun _ _ hh => hh.fate .returned) fun _ _ he => he
  · rename_i a _
    let begun : Entry :=
      .delivered (Behaviour.watched a) ⟨id, e.sender, e.type, e.payload⟩ h.now
    have hh : h₀.Handled { h with journal := begun :: h.journal } _ :=
      hh.fate (.delivered _ _ rfl rfl)
    exact ends_bind.2 (ends_modify.2 ((hh.obeying (handling_works.runHandler_obeys _ _)).mono
      (fun _ _ hh => hh.fate .returned) fun _ _ he => he))

theorem deliverAll_handled {h₀ h : Hub A R} {e : Event} {ids : List InstanceId}
    (hh : h₀.Handled h (some ⟨e, ids⟩)) :
    Ends (ids.forM (deliverTo e)) h (fun _ h' => h₀.Handled h' (some ⟨e, []⟩)) h₀.Strands := by
  induction ids generalizing h with
  | nil => exact hh
  | cons id ids ih => exact (deliverTo_handled hh).bind fun _ _ => ih

theorem deliver_handled {h₀ h : Hub A R} {e : Event}
    (hh : h₀.Handled h (some ⟨e, h.registry.recipients e⟩)) :
    Ends (deliver e) h (fun _ h' => h₀.Handled h' none) h₀.Strands := by
  have hL : (handling : Law A R).Works := handling_works
  unfold deliver
  rw [ends_bind, ends_get]
  dsimp only
  rw [ends_ite]
  split
  · rename_i hnone
    rw [List.isEmpty_iff.1 hnone] at hh
    exact dropUndelivered_handled hh
  · refine (deliverAll_handled hh).bind fun _ _ hh => ?_
    refine (hh.obeying (hL.modifyStats_obeys _)).bind fun _ _ hh => ?_
    exact (hh.obeying (hL.countMetric_obeys _)).bind fun _ _ => release_handled

theorem runOnce_handled {h₀ h : Hub A R} (hh : h₀.Handled h none) :
    Ends runOnce h (fun _ h' => h₀.Handled h' none) h₀.Strands := by
  have hL : (handling : Law A R).Works := handling_works
  unfold runOnce
  rw [ends_bind, ends_get]
  split
  · exact hh
  · rename_i t q hq
    have htasks : h.queuedEvents = (t :: q.tasks).filterMap Task.event? := by
      rw [queuedEvents, next?_tasks hq]
    refine ends_bind.2 (ends_set.2 (.bind (P := fun _ h' => h₀.Handled h' none) ?_ fun _ _ => id))
    cases t with
    | deferred c =>
      have hh : h₀.Handled { h with queue := q } none := hh.work htasks.symm rfl
      exact hh.obeying (hL.deferred_obeys c fun _ => tick_handling)
    | event e =>
      have hh : h₀.Handled { h with queue := q } (some ⟨e, h.registry.recipients e⟩) :=
        hh.fate (.taken hq htasks rfl)
      unfold process
      rw [ends_bind, ends_get]
      exact (deliver_handled hh).bind fun _ _ hh =>
        hh.obeying (.get_bind fun _ => hL.countMetric_obeys _)

theorem usage_handled (u : Usage A R) {h₀ h : Hub A R} (hh : h₀.Handled h none) :
    Ends u.run h (fun _ h' => h₀.Handled h' none) h₀.Strands := by
  by_cases ht : u = .turn .runOnce
  · subst ht
    exact (runOnce_handled hh).bind fun _ _ => id
  · exact hh.obeying (handling_overlooks.usage_obeys_of_now (fun _ _ => handling_of_work rfl rfl) u
      (fun e _ => tryPost_handling e) (fun _ => tick_handling) ht)

theorem Used.handled {config : Config} {h : Hub A R} (hh : Used config h) :
    ∃ now radios metrics, (blank config now radios metrics).Handled h none := by
  induction hh with
  | @start now radios metrics h hr =>
    have hblank : (blank config now radios metrics : Hub A R).Handled _ none := ⟨[], .refl⟩
    exact ⟨now, radios, metrics, (hblank.obeying handling_works.powers.initialise_obeys).ok hr⟩
  | use _ u hr ih =>
    obtain ⟨now, radios, metrics, hh⟩ := ih
    exact ⟨now, radios, metrics, (usage_handled u hh).ok hr⟩

/-- At every moment of a run the events that were handed in are those that were released and those
that are still queued or being dispatched; the journal tells of each when its fate befalls it; and
an event that was taken is released when all its recipients have returned. Whatever hosts do is such
a run, and so is what they began when the hub halts. -/
theorem events_are_released_once (config : Config) :
    (∀ now radios metrics fs (h : Hub A R) o,
      Handling (blank config now radios metrics) none fs h o →
        h.handed.Perm (h.released ++ h.queuedEvents ++ (o.map Dispatch.event).toList) ∧
        h.fates.reverse = fs.flatMap Fate.entries ∧
        ∀ before e after, fs = before ++ .finished e :: after →
          ∃ ids, InDispatch before e ids ids) ∧
    (∀ h : Hub A R, Used config h → h.handed.Perm (h.released ++ h.queuedEvents) ∧
      ∃ now radios metrics fs, Handling (blank config now radios metrics) none fs h none) ∧
    ∀ (h : Hub A R) (u : Usage A R) e h', Used config h → u.run h = .error e h' →
      ∃ now radios metrics fs o, Handling (blank config now radios metrics) none fs h' o := by
  refine ⟨fun now radios metrics fs h o hs => ⟨hs.balanced (.refl []), ?_, ?_⟩, ?_, ?_⟩
  · rw [hs.fates_eq]
    exact (List.reverse_append).trans (List.reverse_reverse _)
  · exact fun before e after => hs.finished
  · intro h hh
    obtain ⟨now, radios, metrics, hh⟩ := hh.handled
    exact ⟨hh.balanced, now, radios, metrics, hh⟩
  · intro h u e h' hh hr
    obtain ⟨now, radios, metrics, hh⟩ := hh.handled
    obtain ⟨o, fs, hs⟩ := (usage_handled u hh).error hr
    exact ⟨now, radios, metrics, fs, o, hs⟩

/-- In a queue for two, one event is refused, one is rejected, one is discarded, one has no
recipient, and one is still queued. -/
theorem five_fates_are_balanced : ∃ h : Hub Script Stations, Used { queueCapacity := 2 } h ∧
    h.handed.length = 5 ∧ h.released.length = 4 ∧ h.queuedEvents.length = 1 ∧
      h.handed.Perm (h.released ++ h.queuedEvents) := by
  obtain ⟨h, hh, hhanded, hreleased, hqueued⟩ := used_of_ends (A := Script) { queueCapacity := 2 } 0
    Stations.scripted none
    [.turn (.load ⟨1⟩ {} { start := [.sendTo 7 0 ⟨1⟩] }),
      .post (.toOne 40000 (.number 1) ⟨1⟩), .post (.toOne 40000 (.number 2) ⟨1⟩),
      .turn .runOnce, .turn (.unload ⟨1⟩)]
    (P := fun h => h.handed.length = 5 ∧ h.released.length = 4 ∧ h.queuedEvents.length = 1)
    (by decide +kernel)
  exact ⟨h, hh, hhanded, hreleased, hqueued, ((events_are_released_once _).2.1 h hh).1⟩

end Hub

end ContextHub
