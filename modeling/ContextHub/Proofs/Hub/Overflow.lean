import ContextHub.Proofs.Hub.BoundedQueue
import ContextHub.Proofs.Hub.Expiries
import ContextHub.Proofs.Hub.Fates
import Mathlib.Data.List.TakeWhile
/-!
# Expiries that overflow the queue

A tick first collects all that is due and sets the alarm for what is left; then each expiry asks for
a place in the queue (`Announces`). As many as there is room for get one, in order. Of the others,
those of nanoapps are counted as lost, and the first one of the system halts the hub, so nobody
looks at what comes after it. Nothing else that a hub does accepts or loses expiries, unless a host
posts events that look like one, so the two counts add up over any run (`Accounted`).
-/

namespace ContextHub

open TimerPool

/-- The event of an expiry, if the entry tells that the queue accepted one. -/
def Entry.expiry? : Entry → Option Event
  | .handed e true => if e.type = EventType.timer then some e else none
  | _ => none

/-- Nanoapps are told of their expired timers by an event, the hub itself otherwise. -/
theorem TimerRequest.notice_isEvent (r : TimerRequest) :
    r.notice.event?.isSome = r.purpose.isNone := by
  unfold notice
  cases r.purpose <;> rfl

namespace Hub

variable {A R α : Type}

/-- The expiries that the queue accepted as events, latest first. -/
def acceptedExpiries (h : Hub A R) : List Event := h.fates.filterMap Entry.expiry?

/-- How many more tasks the queue takes. -/
def room (h : Hub A R) : Nat := h.queue.capacity - h.queue.tasks.length

/-- The expiries that find no room and are lost: those of nanoapps, until one of the system halts
the hub. -/
def lostOf (h : Hub A R) (fired : List TimerRequest) : List TimerRequest :=
  (fired.drop h.room).takeWhile (·.purpose.isNone)

/-- In `h'` all of `fired` had their turn at the queue of `h`, but for those after a halt. -/
structure Announces (h : Hub A R) (fired : List TimerRequest) (h' : Hub A R) : Prop where
  live : h'.queue.Live
  capacity : h'.queue.capacity = h.queue.capacity
  tasks : h'.queue.tasks = h.queue.tasks ++ (fired.take h.room).map (·.notice)
  accepted : h'.acceptedExpiries =
    ((fired.take h.room).filterMap (·.notice.event?)).reverse ++ h.acceptedExpiries
  timers : h'.timers = { h.timers with lost := h.timers.lost + (h.lostOf fired).length }
  stats : h'.stats = { h.stats with
    posted := h.stats.posted + (fired.take h.room).countP (·.purpose.isNone)
    dropped := h.stats.dropped + (h.lostOf fired).length }

theorem acceptedExpiries_note {h : Hub A R} {e : Entry} (he : e.expiry? = none) :
    ({ h with journal := e :: h.journal } : Hub A R).acceptedExpiries = h.acceptedExpiries := by
  unfold acceptedExpiries fates
  rw [List.filter_cons]
  split
  · exact List.filterMap_cons_none he
  · rfl

/-! ## One expiry -/

theorem room_of_offer {h : Hub A R} (hq : h.queue.Live) {t : Task} {q : Queue}
    (ho : h.queue.offer t = .ok q) : 0 < h.room := by
  rw [hq.offer t] at ho
  split at ho
  · exact Nat.sub_pos_of_lt ‹_›
  · cases ho

theorem room_of_refusal {h : Hub A R} (hq : h.queue.Live) {t : Task} {err : QueueError}
    (ho : h.queue.offer t = .error err) : h.room = 0 := by
  rw [hq.offer t] at ho
  split at ho
  · cases ho
  · exact Nat.sub_eq_zero_of_le (Nat.not_lt.1 ‹_›)

/-- With room, an expiry is queued. -/
theorem Announces.of_offer {r : TimerRequest} {h h' : Hub A R} {q : Queue} (hq : h.queue.Live)
    (ho : h.queue.offer r.notice = .ok q) (hqueue : h'.queue = q)
    (haccepted : h'.acceptedExpiries = r.notice.event?.toList ++ h.acceptedExpiries)
    (htimers : h'.timers = h.timers)
    (hstats : h'.stats = { h.stats with
      posted := h.stats.posted + if r.purpose.isNone then 1 else 0 }) : h.Announces [r] h' := by
  obtain ⟨hlive, hcap, htasks, -⟩ := hq.of_offer ho
  have hroom : 0 < h.room := room_of_offer hq ho
  have htake : [r].take h.room = [r] := List.take_of_length_le hroom
  have hlost : h.lostOf [r] = [] := by
    rw [lostOf, List.drop_eq_nil_of_le (by exact hroom)]
    rfl
  subst hqueue
  refine ⟨hlive, hcap, ?_, ?_, ?_, ?_⟩
  · rw [htasks, htake]
    rfl
  · rw [haccepted, htake]
    cases he : r.notice.event? <;> simp [he]
  · rw [htimers, hlost]
    rfl
  · rw [hstats, hlost, htake, List.countP_singleton]
    rfl

/-- Without room, one of a nanoapp is lost and one of the system is not. -/
theorem Announces.of_full {r : TimerRequest} {h h' : Hub A R} (hq : h.queue.Live)
    (hfull : h.room = 0) (hqueue : h'.queue = h.queue)
    (haccepted : h'.acceptedExpiries = h.acceptedExpiries)
    (htimers : h'.timers = { h.timers with
      lost := h.timers.lost + if r.purpose.isNone then 1 else 0 })
    (hstats : h'.stats = { h.stats with
      dropped := h.stats.dropped + if r.purpose.isNone then 1 else 0 }) : h.Announces [r] h' := by
  have hlost : (h.lostOf [r]).length = if r.purpose.isNone then 1 else 0 := by
    rw [lostOf, hfull, List.drop_zero, List.takeWhile_cons]
    split <;> rfl
  refine ⟨hqueue ▸ hq, by rw [hqueue], ?_, ?_, ?_, ?_⟩
  · rw [hqueue, hfull]
    exact (List.append_nil _).symm
  · rw [haccepted, hfull]
    rfl
  · rw [htimers, hlost]
  · rw [hstats, hlost, hfull]
    rfl

/-- An expiry is queued, or it is lost, or it halts the hub. -/
theorem postExpiry_announces (r : TimerRequest) {h : Hub A R} (hq : h.queue.Live) :
    Ends (postExpiry r) h
      (fun _ h' => h.Announces [r] h' ∧ (h.room = 0 → r.purpose.isNone = true))
      (fun e h' => h.Announces [r] h' ∧ h.room = 0 ∧ r.purpose.isNone = false ∧
        e = .fatal "Failed to defer SystemTimer callback") := by
  unfold postExpiry
  split
  · rename_i purpose hu
    have hn : r.notice = .deferred (.timerExpired r.handle purpose) := by
      rw [TimerRequest.notice, hu]
    unfold deferOrDie defer
    rw [ends_bind, ends_bind, ends_get, ← hn]
    split
    · rename_i q ho
      refine ⟨.of_offer hq ho rfl ?_ rfl ?_, fun hfull => ?_⟩
      · rw [hn]
        rfl
      · rw [hu]
        rfl
      · exact absurd (room_of_offer hq ho) (by omega)
    · rename_i err ho
      have hfull : h.room = 0 := room_of_refusal hq ho
      refine ⟨.of_full hq hfull rfl rfl ?_ ?_, hfull, by rw [hu]; rfl, rfl⟩
      · rw [hu]
        rfl
      · rw [hu]
        rfl
  · rename_i hu
    have hn : r.notice = .event (.toOne EventType.timer (.timer r.handle r.cookie) r.owner) := by
      rw [TimerRequest.notice, hu]
    unfold post tryPost
    rw [ends_bind, ends_bind, ends_bind, ends_get, ← hn]
    split
    · rename_i q ho
      refine ⟨.of_offer hq ho rfl ?_ rfl ?_, fun _ => by rw [hu]; rfl⟩
      · rw [hn]
        rfl
      · rw [hu]
        rfl
    · rename_i err ho
      have hfull : h.room = 0 := room_of_refusal hq ho
      refine ⟨.of_full hq hfull rfl ?_ ?_ ?_, fun _ => by rw [hu]; rfl⟩
      · rfl
      · rw [hu]
        rfl
      · rw [hu]
        rfl

/-! ## All expiries of a tick -/

theorem Announces.room {h g : Hub A R} {r : TimerRequest} (hr : h.Announces [r] g) :
    g.room = h.room - 1 := by
  unfold Hub.room
  rw [hr.capacity, hr.tasks, List.length_append, List.length_map, List.length_take,
    List.length_singleton]
  unfold Hub.room
  omega

theorem Announces.drop {h g : Hub A R} {r : TimerRequest} (hr : h.Announces [r] g)
    (fired : List TimerRequest) :
    (r :: fired).drop h.room = [r].drop h.room ++ fired.drop g.room := by
  rw [hr.room]
  exact (List.drop_append : ([r] ++ fired).drop h.room = _)

/-- Whoever goes on from one expiry had room for it, or it is one of a nanoapp. -/
theorem isNone_of_mem_drop {h : Hub A R} {r a : TimerRequest}
    (hgoes : h.room = 0 → r.purpose.isNone = true) (ha : a ∈ [r].drop h.room) :
    a.purpose.isNone = true := by
  obtain rfl := List.mem_singleton.1 (List.mem_of_mem_drop ha)
  refine hgoes (Nat.eq_zero_of_not_pos fun hpos => ?_)
  rw [List.drop_eq_nil_of_le (by exact hpos)] at ha
  cases ha

/-- One expiry after another, unless the first one halts the hub. -/
theorem Announces.cons {h g h' : Hub A R} {r : TimerRequest} {fired : List TimerRequest}
    (hr : h.Announces [r] g) (hgoes : h.room = 0 → r.purpose.isNone = true)
    (hfired : g.Announces fired h') : h.Announces (r :: fired) h' := by
  have htake : (r :: fired).take h.room = [r].take h.room ++ fired.take g.room := by
    rw [hr.room]
    exact (List.take_append : ([r] ++ fired).take h.room = _)
  have hlost : h.lostOf (r :: fired) = h.lostOf [r] ++ g.lostOf fired := by
    have hall : ∀ a ∈ [r].drop h.room, a.purpose.isNone = true := fun _ => isNone_of_mem_drop hgoes
    unfold lostOf
    rw [hr.drop fired, List.takeWhile_append_of_pos hall, List.takeWhile_eq_self_iff.2 hall]
  refine ⟨hfired.live, hfired.capacity.trans hr.capacity, ?_, ?_, ?_, ?_⟩
  · rw [hfired.tasks, hr.tasks, htake, List.map_append, List.append_assoc]
  · rw [hfired.accepted, hr.accepted, htake, List.filterMap_append, List.reverse_append,
      List.append_assoc]
  · rw [hfired.timers, hr.timers, hlost, List.length_append, Nat.add_assoc]
  · rw [hfired.stats, hr.stats, hlost, htake, List.length_append, List.countP_append, Nat.add_assoc,
      Nat.add_assoc]

/-- An expiry of the system that finds no room is the last one that had its turn. -/
theorem Announces.halt {h h' : Hub A R} {r : TimerRequest} (hr : h.Announces [r] h')
    (hfull : h.room = 0) (hsystem : r.purpose.isNone = false) (fired : List TimerRequest) :
    h.Announces (r :: fired) h' := by
  have htake : (r :: fired).take h.room = [r].take h.room := by rw [hfull]; rfl
  have hlost : h.lostOf (r :: fired) = h.lostOf [r] := by
    unfold lostOf
    rw [hfull, List.drop_zero, List.drop_zero, List.takeWhile_cons, List.takeWhile_cons, hsystem]
    rfl
  refine ⟨hr.live, hr.capacity, ?_, ?_, ?_, ?_⟩
  · rw [hr.tasks, htake]
  · rw [hr.accepted, htake]
  · rw [hr.timers, hlost]
  · rw [hr.stats, hlost, htake]

theorem postAll_announces (fired : List TimerRequest) {h : Hub A R} (hq : h.queue.Live) :
    Ends (fired.forM postExpiry) h
      (fun _ h' => h.Announces fired h' ∧ ∀ r ∈ fired.drop h.room, r.purpose.isNone = true)
      (fun e h' => h.Announces fired h' ∧ (∃ r ∈ fired.drop h.room, r.purpose.isNone = false) ∧
        e = .fatal "Failed to defer SystemTimer callback") := by
  induction fired generalizing h with
  | nil =>
    have hlost : h.lostOf [] = [] := by rw [lostOf, List.drop_nil, List.takeWhile_nil]
    refine ⟨⟨hq, rfl, ?_, ?_, ?_, ?_⟩, ?_⟩
    · rw [List.take_nil, List.map_nil, List.append_nil]
    · rw [List.take_nil]
      rfl
    · rw [hlost]
      rfl
    · rw [hlost, List.take_nil]
      rfl
    · rw [List.drop_nil]
      exact fun _ hr => (List.not_mem_nil hr).elim
  | cons r fired ih =>
    refine ends_bind.2 ((postExpiry_announces r hq).mono ?_ ?_)
    · rintro _ g ⟨hr, hgoes⟩
      rw [hr.drop fired]
      refine (ih hr.live).mono ?_ ?_
      · rintro _ h' ⟨hfired, hall⟩
        exact ⟨hr.cons hgoes hfired, fun a ha => (List.mem_append.1 ha).elim
          (isNone_of_mem_drop hgoes) (hall a)⟩
      · rintro e h' ⟨hfired, ⟨a, ha, hsystem⟩, he⟩
        exact ⟨hr.cons hgoes hfired, ⟨a, List.mem_append_right _ ha, hsystem⟩, he⟩
    · rintro e h' ⟨hr, hfull, hsystem, he⟩
      refine ⟨hr.halt hfull hsystem fired, ⟨r, ?_, hsystem⟩, he⟩
      rw [hfull]
      exact List.mem_cons_self

/-- A tick sets the pool and the alarm first and then posts all that fired. It goes on to the end if
and only if no expiry of the system is out of room. -/
theorem tick_announces {h : Hub A R} {fired : List TimerRequest} {pool : TimerPool}
    (hq : h.queue.Live) (ht : h.timers.tick? h.now = some (fired, pool)) :
    Ends tick h
      (fun n h' => n = fired.length ∧ ({ h with timers := pool } : Hub A R).Announces fired h' ∧
        ∀ r ∈ fired.drop h.room, r.purpose.isNone = true)
      (fun e h' => ({ h with timers := pool } : Hub A R).Announces fired h' ∧
        (∃ r ∈ fired.drop h.room, r.purpose.isNone = false) ∧
        e = .fatal "Failed to defer SystemTimer callback") := by
  unfold tick
  rw [ends_bind, ends_get, ht]
  have hlive : ({ h with timers := pool } : Hub A R).queue.Live := hq
  refine ends_bind.2 (ends_modify.2 (ends_bind.2 ((postAll_announces fired hlive).mono ?_ ?_)))
  · exact fun _ h' hall => ⟨rfl, hall⟩
  · exact fun _ _ => id

/-- Where all had their turn, each expiry of a nanoapp was accepted or lost. -/
theorem Announces.accounts {h h' : Hub A R} {fired : List TimerRequest} (ha : h.Announces fired h')
    (hall : ∀ r ∈ fired.drop h.room, r.purpose.isNone = true) :
    h'.acceptedExpiries.length + h'.timers.lost =
      h.acceptedExpiries.length + h.timers.lost + fired.countP (·.purpose.isNone) := by
  have hlost : (h.lostOf fired).length = (fired.drop h.room).countP (·.purpose.isNone) := by
    rw [lostOf, List.takeWhile_eq_self_iff.2 hall, List.countP_eq_length.2 hall]
  have haccepted : ((fired.take h.room).filterMap (·.notice.event?)).length =
      (fired.take h.room).countP (·.purpose.isNone) := by
    simp only [List.length_filterMap_eq_countP, TimerRequest.notice_isEvent]
  have hsplit : fired.countP (·.purpose.isNone) =
      (fired.take h.room).countP (·.purpose.isNone) +
        (fired.drop h.room).countP (·.purpose.isNone) := by
    rw [← List.countP_append, List.take_append_drop]
  rw [ha.accepted, ha.timers, List.length_append, List.length_reverse, hlost, haccepted]
  dsimp only
  omega

/-! ## Pools and queues of a run -/

/-- The pool is what its use has made of a new one, and the queue is live. -/
structure Sturdy (limits : TimerLimits) (h : Hub A R) : Prop where
  timers : Reachable limits h.timers
  queue : h.queue.Live

def sturdy (limits : TimerLimits) : Law A R where
  rel h h' := h.Sturdy limits → h'.Sturdy limits
  halts _ _ _ := True
  refl _ := id
  trans h h' hs := h' (h hs)
  halts_of_rel _ _ := trivial

theorem Sturdy.aside {limits : TimerLimits} {h h' : Hub A R} (hs : h.Sturdy limits)
    (htimers : h'.timers = h.timers) (hqueue : h'.queue = h.queue) : h'.Sturdy limits :=
  ⟨htimers ▸ hs.timers, hqueue ▸ hs.queue⟩

variable {limits : TimerLimits}

theorem tryPost_sturdy (e : Event) : Obeys (sturdy limits) (tryPost e : HubM A R _) := by
  intro h
  unfold tryPost
  rw [ends_bind, ends_get]
  split
  · rename_i q ho
    exact fun hs => ⟨hs.timers, (hs.queue.of_offer ho).1⟩
  · exact fun hs => hs.aside rfl rfl

theorem sturdy_overlooks : (sturdy limits : Law A R).Overlooks := by
  have hposts : (sturdy limits : Law A R).Posts := by
    refine ⟨fun ha hs => hs.aside ha.timers ha.queue, fun _ _ => trivial,
      fun e _ => tryPost_sturdy e, fun c h => ?_⟩
    unfold defer
    rw [ends_bind, ends_get]
    split
    · rename_i q ho
      exact fun hs => ⟨hs.timers, (hs.queue.of_offer ho).1⟩
    · exact fun hs => hs.aside rfl rfl
  have hdiscard (p : Event → Bool) : Obeys (sturdy limits) (discard p : HubM A R _) :=
    hposts.discard_obeys (fun _ p hs => ⟨hs.timers, (hs.queue.of_discard p).1⟩)
      (fun _ _ hs => hs.aside rfl rfl) p
  exact ⟨hposts.times_of_adjusts (fun h _ ha hs => ⟨ha.reachable hs.timers, hs.queue⟩)
    (fun _ _ _ hs => hs.aside rfl rfl) hdiscard, fun hb hs => hs.aside hb.timers hb.queue⟩

theorem tick_sturdy : Obeys (sturdy limits) (tick : HubM A R Nat) := by
  intro h
  cases ht : h.timers.tick? h.now with
  | none =>
    unfold tick
    rw [ends_bind, ends_get, ht]
    exact trivial
  | some ticked =>
    refine .of_runs (fun n h' hr hs => ?_) fun _ _ _ => trivial
    obtain ⟨-, ha, -⟩ := (tick_announces hs.queue ht).ok hr
    refine ⟨?_, ha.live⟩
    rw [ha.timers]
    exact (hs.timers.tick ht).hush _ _

variable [Radio R]

theorem sturdy_dispatches : (sturdy limits : Law A R).Dispatches :=
  ⟨sturdy_overlooks.works, fun _ _ _ _ hs => hs.aside rfl rfl⟩

variable [Behaviour A]

theorem usage_sturdy (u : Usage A R) : Obeys (sturdy limits) u.run := by
  have hL : (sturdy limits : Law A R).Dispatches := sturdy_dispatches
  by_cases ht : u = .turn .runOnce
  · subst ht
    refine .bind (hL.runOnce_obeys tick_sturdy fun h t q hn hs => ?_) fun _ => .pure _
    exact ⟨hs.timers, (hs.queue.of_next? hn).1⟩
  · exact sturdy_overlooks.usage_obeys_of_now (fun _ _ hs => hs.aside rfl rfl) u
      (fun e _ => tryPost_sturdy e) (fun _ => tick_sturdy) ht

theorem Used.sturdy {config : Config} {h : Hub A R} (hh : Used config h) :
    h.Sturdy config.timers := by
  induction hh with
  | start hr =>
    exact (sturdy_dispatches.powers.initialise_obeys _).ok hr ⟨.start, Queue.empty_live _⟩
  | use _ u hr ih => exact (usage_sturdy u _).ok hr ih

/-! ## Between ticks -/

/-- No expiry is accepted, and none is lost. -/
def unannounced : Law A R where
  rel h h' := h'.acceptedExpiries = h.acceptedExpiries ∧ h'.timers.lost = h.timers.lost
  halts _ _ _ := True
  refl _ := ⟨rfl, rfl⟩
  trans hr hr' := ⟨hr'.1.trans hr.1, hr'.2.trans hr.2⟩
  halts_of_rel _ _ := trivial

omit [Radio R] [Behaviour A] in
theorem tryPost_unannounced {e : Event} (he : e.type ≠ EventType.timer) :
    Obeys unannounced (tryPost e : HubM A R _) := by
  have hnone : (Entry.handed e true).expiry? = none := if_neg he
  intro h
  unfold tryPost
  rw [ends_bind, ends_get]
  split
  · exact ⟨acceptedExpiries_note (h := h) hnone, rfl⟩
  · exact ⟨rfl, rfl⟩

omit [Radio R] [Behaviour A] in
theorem unannounced_overlooks : (unannounced : Law A R).Overlooks := by
  have hbeside {h h' : Hub A R} (hb : h.Beside h') : unannounced.rel h h' :=
    ⟨congrArg (List.filterMap Entry.expiry?) hb.fates, congrArg TimerPool.lost hb.timers⟩
  have hposts : (unannounced : Law A R).Posts := by
    refine ⟨fun ha => hbeside ha.toBeside, fun _ _ => trivial, fun e he => tryPost_unannounced he,
      fun c h => ?_⟩
    unfold defer
    rw [ends_bind, ends_get]
    split <;> exact ⟨rfl, rfl⟩
  exact ⟨hposts.times_of_adjusts (fun _ _ ha => ⟨rfl, ha.lost⟩) (fun _ _ _ => ⟨rfl, rfl⟩)
    (hposts.discard_obeys (fun _ _ => ⟨rfl, rfl⟩) fun _ _ => ⟨rfl, rfl⟩), hbeside⟩

omit [Behaviour A] in
theorem unannounced_dispatches : (unannounced : Law A R).Dispatches := by
  refine ⟨unannounced_overlooks.works, fun h e _ hne => ⟨acceptedExpiries_note ?_, rfl⟩⟩
  cases e with
  | handed event accepted => exact absurd rfl (hne event accepted)
  | _ => rfl

/-! ## Expiries of a run -/

namespace Usage

/-- What fires while a host does something. -/
def fires (u : Usage A R) (h : Hub A R) : List TimerRequest :=
  match u with
  | tick => h.dueNow
  | turn .runOnce =>
    match h.queue.next? with
    | some (.deferred .timerTick, _) => h.dueNow
    | _ => []
  | _ => []

/-- The events that a host posts as if they were expiries, if there is room. -/
def feigns (u : Usage A R) (h : Hub A R) : List Event :=
  match u with
  | post e => if e.type = EventType.timer ∧ 0 < h.room then [e] else []
  | _ => []

omit [Radio R] [Behaviour A] in
theorem feigns_post {e : Event} {h : Hub A R} (he : e.type = EventType.timer) (hroom : 0 < h.room) :
    (post e : Usage A R).feigns h = [e] := if_pos ⟨he, hroom⟩

end Usage

/-- On the way to `h'`, as many expiries of nanoapps were accepted or lost as there are among
`fired`, and `n` more. -/
def Accounts (h : Hub A R) (fired : List TimerRequest) (n : Nat) (h' : Hub A R) : Prop :=
  h'.acceptedExpiries.length + h'.timers.lost =
    h.acceptedExpiries.length + h.timers.lost + fired.countP (·.purpose.isNone) + n

omit [Radio R] [Behaviour A] in
theorem accounts_of_unannounced {h h' : Hub A R} (hr : unannounced.rel h h') :
    h.Accounts [] 0 h' := by
  unfold Accounts
  rw [hr.1, hr.2]
  rfl

omit [Radio R] [Behaviour A] in
theorem tick_accounts {h : Hub A R} (hp : h.timers.Coherent) (hq : h.queue.Live) :
    Ends tick h (fun _ h' => h.Accounts h.dueNow 0 h') fun _ _ => True := by
  unfold dueNow
  cases ht : h.timers.tick? h.now with
  | none =>
    unfold tick
    rw [ends_bind, ends_get, ht]
    exact trivial
  | some ticked =>
    obtain ⟨q, hserves, hpool⟩ := tick?_eq_some hp ht
    refine (tick_announces hq ht).mono ?_ fun _ _ _ => trivial
    rintro _ h' ⟨-, ha, hall⟩
    have hlost : ticked.2.lost = h.timers.lost := by
      rw [hpool]
      exact hserves.lost
    have hsum := ha.accounts hall
    dsimp only at hsum
    rw [hlost] at hsum
    exact hsum

theorem process_tick_accounts {h : Hub A R} (hp : h.timers.Coherent) (hq : h.queue.Live) :
    Ends (process (.deferred .timerTick)) h (fun _ h' => h.Accounts h.dueNow 0 h')
      fun _ _ => True := by
  unfold process runCallback
  simp only [ends_bind, ends_get, modifyStats, countMetric, emit, ends_modify]
  refine (tick_accounts ?_ ?_).mono (fun _ _ ht => ht) fun _ _ => id
  · exact hp
  · exact hq

theorem runOnce_accounts {h : Hub A R} (hs : h.Sturdy limits) :
    Ends runOnce h (fun _ h' => h.Accounts ((Usage.turn .runOnce : Usage A R).fires h) 0 h')
      fun _ _ => True := by
  unfold runOnce
  rw [ends_bind, ends_get]
  dsimp only [Usage.fires]
  cases hn : h.queue.next? with
  | none => exact accounts_of_unannounced (unannounced.refl h)
  | some next =>
    obtain ⟨t, q⟩ := next
    have hp : ({ h with queue := q } : Hub A R).timers.Coherent := hs.timers.coherent
    have hq : ({ h with queue := q } : Hub A R).queue.Live := (hs.queue.of_next? hn).1
    refine ends_bind.2 (ends_set.2 (ends_bind.2 ?_))
    by_cases ht : t = .deferred .timerTick
    · subst ht
      exact (process_tick_accounts hp hq).mono (fun _ _ ht => ht) fun _ _ => id
    · have hother : Obeys unannounced (process t : HubM A R Unit) :=
        unannounced_dispatches.process_obeys t (absurd · ht)
      refine (hother { h with queue := q }).mono (fun _ h' hr => ?_) fun _ _ => id
      split
      · rename_i hnext
        cases hnext
        exact absurd rfl ht
      · exact accounts_of_unannounced hr

omit [Radio R] [Behaviour A] in
theorem tryPost_accounts {e : Event} (he : e.type = EventType.timer) {h : Hub A R}
    (hq : h.queue.Live) :
    Ends (tryPost e) h (fun _ h' => h.Accounts [] ((Usage.post e).feigns h).length h')
      fun _ _ => False := by
  unfold tryPost
  rw [ends_bind, ends_get]
  split
  · rename_i q ho
    have hsome : (Entry.handed e true).expiry? = some e := if_pos he
    rw [Usage.feigns_post he (room_of_offer hq ho)]
    show (List.filterMap Entry.expiry? (.handed e true :: h.fates)).length + _ = _
    rw [List.filterMap_cons_some hsome]
    exact Nat.add_right_comm _ 1 _
  · rename_i err ho
    unfold Usage.feigns
    dsimp only
    rw [if_neg fun hf => Nat.not_lt_of_le (Nat.le_of_eq (room_of_refusal hq ho)) hf.2]
    exact accounts_of_unannounced (h := h) ⟨rfl, rfl⟩

/-- Whatever a host does, each expiry of a nanoapp is accepted or lost. -/
theorem usage_accounts (u : Usage A R) {h : Hub A R} (hs : h.Sturdy limits) :
    Ends u.run h (fun _ h' => h.Accounts (u.fires h) (u.feigns h).length h') fun _ _ => True := by
  have hother (hpost : ∀ e, u = .post e → e.type ≠ EventType.timer) (hticks : u ≠ .tick)
      (hruns : u ≠ .turn .runOnce) : Ends u.run h (fun _ h' => h.Accounts [] 0 h')
        fun _ _ => True :=
    (unannounced_overlooks.usage_obeys_of_now (fun _ _ => ⟨rfl, rfl⟩) u
      (fun e he => tryPost_unannounced (hpost e he)) (absurd · hticks) hruns h).mono
        (fun _ _ => accounts_of_unannounced) fun _ _ => id
  cases u with
  | tick => exact (tick_accounts hs.timers.coherent hs.queue).bind fun _ _ => id
  | post e =>
    by_cases he : e.type = EventType.timer
    · unfold Usage.run post
      rw [ends_bind, ends_bind]
      refine (tryPost_accounts he hs.queue).mono (fun r h' ht => ?_) fun _ _ => False.elim
      split <;> exact ht
    · have hnone : (Usage.post e : Usage A R).feigns h = [] := if_neg fun hf => he hf.1
      rw [hnone]
      exact hother (fun _ heq => by cases heq; exact he) nofun nofun
  | turn t =>
    by_cases ht : t = .runOnce
    · subst ht
      exact (runOnce_accounts hs).bind fun _ _ => id
    · have hnone : (Usage.turn t).fires h = [] := by
        cases t with
        | runOnce => exact absurd rfl ht
        | _ => rfl
      rw [hnone]
      exact hother nofun nofun fun heq => ht (by cases heq; rfl)
  | _ => exact hother nofun nofun nofun

/-- Whatever hosts do from a new hub on leads to `h`; on the way `fired` fired, and the hosts
feigned some expiries. -/
inductive Accounted (config : Config) : List TimerRequest → List Event → Hub A R → Prop
  | start {now : Nat} {radios : R} {metrics : Option Metrics} {h : Hub A R}
      (hr : initialise (blank config now radios metrics) = .ok () h) : Accounted config [] [] h
  | use {fired : List TimerRequest} {feigned : List Event} {h h' : Hub A R}
      (hh : Accounted config fired feigned h) (u : Usage A R) (hr : u.run h = .ok () h') :
      Accounted config (fired ++ u.fires h) (feigned ++ u.feigns h) h'

section

variable {config : Config} {fired : List TimerRequest} {feigned : List Event} {h : Hub A R}

theorem Accounted.used (hh : Accounted config fired feigned h) : Used config h := by
  induction hh with
  | start hr => exact .start hr
  | use _ u hr ih => exact ih.use u hr

theorem Used.accounted (hh : Used config h) :
    ∃ fired feigned, Accounted config fired feigned h := by
  induction hh with
  | start hr => exact ⟨[], [], .start hr⟩
  | use _ u hr ih =>
    obtain ⟨fired, feigned, hh⟩ := ih
    exact ⟨_, _, hh.use u hr⟩

theorem Accounted.balanced (hh : Accounted config fired feigned h) :
    h.acceptedExpiries.length + h.timers.lost =
      fired.countP (·.purpose.isNone) + feigned.length := by
  induction hh with
  | start hr =>
    obtain ⟨haccepted, hlost⟩ := (unannounced_dispatches.powers.initialise_obeys _).ok hr
    rw [haccepted, hlost]
    rfl
  | use hh u hr ih =>
    have ht := (usage_accounts u hh.used.sturdy).ok hr
    unfold Accounts at ht
    rw [List.countP_append, List.length_append]
    omega

end

/-- In every tick of a hub, the pool has moved on and the alarm is set before the first expiry is
posted. As many expiries as there is room for are queued, in order; those of nanoapps after that are
counted as lost and as dropped, one by one, up to the first one of the system, which halts the hub.
Whatever hosts do, the expiries that the queue accepted and those that were lost are together those
of nanoapps that fired, and what the hosts feigned. -/
theorem expiries_are_queued_or_counted (config : Config) :
    (∀ h : Hub A R, Used config h → h.queue.Live ∧ h.timers.Coherent ∧
      ∃ fired feigned, Accounted config fired feigned h) ∧
    (∀ (h : Hub A R) fired pool, h.queue.Live → h.timers.Coherent →
      h.timers.tick? h.now = some (fired, pool) →
        (∃ q, Serves h.now h.timers fired q ∧ pool = q.rearm h.now) ∧
        Ends tick h
          (fun n h' => n = fired.length ∧ ({ h with timers := pool } : Hub A R).Announces fired h' ∧
            ∀ r ∈ fired.drop h.room, r.purpose.isNone = true)
          (fun e h' => ({ h with timers := pool } : Hub A R).Announces fired h' ∧
            (∃ r ∈ fired.drop h.room, r.purpose.isNone = false) ∧
            e = .fatal "Failed to defer SystemTimer callback")) ∧
    ∀ fired feigned (h : Hub A R), Accounted config fired feigned h →
      h.acceptedExpiries.length + h.timers.lost =
        fired.countP (·.purpose.isNone) + feigned.length := by
  refine ⟨fun h hh => ⟨hh.sturdy.queue, hh.sturdy.timers.coherent, hh.accounted⟩, ?_, ?_⟩
  · exact fun h fired pool hq hp ht => ⟨tick?_eq_some hp ht, tick_announces hq ht⟩
  · exact fun fired feigned h hh => hh.balanced

/-- A recurring timer that catches up four times, and one of the system that falls due between the
first two of them, in a queue for three. -/
theorem catching_up_overflows : ∃ (fired : List TimerRequest) (h : Hub Script Stations),
    Accounted { queueCapacity := 3 } fired [] h ∧ fired.countP (·.purpose.isNone) = 4 ∧
      h.queue.tasks.length = 3 ∧ h.acceptedExpiries.length = 2 ∧ h.timers.lost = 2 ∧
      h.stats.dropped = 2 := by
  obtain ⟨hused, hticks, hruns⟩ :=
    expiries_are_queued_or_counted (A := Script) (R := Stations) { queueCapacity := 3 }
  obtain ⟨h, hh, hcollects, hidle, hroom, haccepted, hlost, hdropped⟩ :=
    used_of_ends (A := Script) { queueCapacity := 3 } 0 Stations.scripted none
      [.setTimer { owner := ⟨1⟩, duration := 10, oneShot := false },
        .setTimer { owner := .system, duration := 15, purpose := some .wifiScanRetry },
        .turn (.advanceClock 40)]
      (P := fun h =>
        (h.timers.tick? h.now).map (fun c => (c.1.countP (·.purpose.isNone), c.1.length,
          (c.1.drop 3).countP (·.purpose.isNone), c.2.lost)) = some (4, 5, 2, 0) ∧
        h.queue.tasks = [] ∧ h.room = 3 ∧ h.acceptedExpiries.length = 0 ∧ h.timers.lost = 0 ∧
        h.stats.dropped = 0) (by decide +kernel)
  obtain ⟨⟨fired, pool⟩, ht, hc⟩ := Option.map_eq_some_iff.1 hcollects
  obtain ⟨hcount, hlength, hlate, hpool⟩ : fired.countP (·.purpose.isNone) = 4 ∧
      fired.length = 5 ∧ (fired.drop 3).countP (·.purpose.isNone) = 2 ∧ pool.lost = 0 := by
    simpa only [Prod.mk.injEq] using hc
  obtain ⟨hlive, hcoherent, past, feigned, haccounted⟩ := hused h hh
  have hlast : (fired.drop h.room).length = 2 := by rw [List.length_drop, hlength, hroom]
  have hrest : ∀ r ∈ fired.drop h.room, r.purpose.isNone = true :=
    List.countP_eq_length.1 (by rw [hlast, hroom, hlate])
  have hend : Ends tick h
      (fun _ h' => ({ h with timers := pool } : Hub Script Stations).Announces fired h')
      fun _ _ => False := by
    refine (hticks h fired pool hlive hcoherent ht).2.mono (fun _ _ hend => hend.2.1) ?_
    rintro e h' ⟨-, ⟨r, hr, hs⟩, -⟩
    exact absurd ((hrest r hr).symm.trans hs) (by decide)
  obtain ⟨n, h', hr, ha⟩ := hend.exists_ok
  have hrun : (Usage.tick : Usage Script Stations).run h = .ok () h' := by
    simp only [Usage.run, bind, EStateM.bind, hr]
    rfl
  have hfires : (Usage.tick : Usage Script Stations).fires h = fired := by
    show h.dueNow = fired
    rw [dueNow, ht]
  have hlosses : (h.lostOf fired).length = 2 := by
    rw [lostOf, List.takeWhile_eq_self_iff.2 hrest, hlast]
  have hbefore := hruns past feigned h haccounted
  obtain rfl : feigned = [] := List.length_eq_zero_iff.1 (by omega)
  have haccounted' : Accounted { queueCapacity := 3 } (past ++ fired) [] h' := by
    have huse := haccounted.use .tick hrun
    rwa [hfires] at huse
  have hafter := hruns _ _ h' haccounted'
  have hlost' : h'.timers.lost = 2 := by
    rw [ha.timers]
    exact (congrArg (pool.lost + ·) hlosses).trans (by rw [hpool])
  rw [List.countP_append] at hafter
  refine ⟨past ++ fired, h', haccounted', ?_, ?_, ?_, hlost', ?_⟩
  · rw [List.countP_append]
    omega
  · have htasks : h'.queue.tasks = h.queue.tasks ++ (fired.take h.room).map (·.notice) := ha.tasks
    rw [htasks, hidle, hroom, List.nil_append, List.length_map, List.length_take, hlength]
    rfl
  · omega
  · rw [ha.stats]
    exact (congrArg (h.stats.dropped + ·) hlosses).trans (by rw [hdropped])

/-- In a queue for one, a timer of the system that comes between two of nanoapps halts the hub, and
nothing counts the expiry after it. -/
theorem halted_tick_forgets : ∃ (h h' : Hub Script Stations) (e : Halt),
    Used { queueCapacity := 1 } h ∧ h.room = 1 ∧
      h.dueNow.map (·.purpose.isNone) = [true, false, true] ∧ tick h = .error e h' ∧
      h'.timers.lost = h.timers.lost ∧ h'.stats.dropped = h.stats.dropped ∧
      h'.acceptedExpiries.length = 1 := by
  obtain ⟨h, hh, hroom, hdue, hlost, hdropped, hend⟩ :=
    used_of_ends (A := Script) { queueCapacity := 1 } 0 Stations.scripted none
      [.setTimer { owner := ⟨1⟩, duration := 10 },
        .setTimer { owner := .system, duration := 10, purpose := some .wifiScanRetry },
        .setTimer { owner := ⟨1⟩, duration := 10 }, .turn (.advanceClock 10)]
      (P := fun h => h.room = 1 ∧ h.dueNow.map (·.purpose.isNone) = [true, false, true] ∧
        h.timers.lost = 0 ∧ h.stats.dropped = 0 ∧
        Ends tick h (fun _ _ => False) fun _ h' =>
          h'.timers.lost = 0 ∧ h'.stats.dropped = 0 ∧ h'.acceptedExpiries.length = 1)
      (by decide +kernel)
  unfold Ends at hend
  split at hend
  · exact hend.elim
  · rename_i e h' hr
    exact ⟨h, h', e, hh, hroom, hdue, hr, hend.1.trans hlost.symm, hend.2.1.trans hdropped.symm,
      hend.2.2⟩

/-- A host posts an event that looks like an expiry, after the one timer of a nanoapp has fired: two
expiries are accepted, for one that fired. -/
theorem feigned_expiry_is_accepted : ∃ (fired : List TimerRequest) (h : Hub Script Stations),
    Accounted {} fired [.toOne EventType.timer (.timer ⟨0⟩ .none) ⟨1⟩] h ∧
      fired.countP (·.purpose.isNone) = 1 ∧ h.acceptedExpiries.length = 2 ∧ h.timers.lost = 0 := by
  obtain ⟨h, hh, haccepted, hlost, hdue, hend⟩ :=
    used_of_ends (A := Script) {} 0 Stations.scripted none
      [.setTimer { owner := ⟨1⟩, duration := 10 }, .turn (.advanceClock 10)]
      (P := fun h => h.acceptedExpiries.length = 0 ∧ h.timers.lost = 0 ∧
        h.dueNow.countP (·.purpose.isNone) = 1 ∧
        Ends (Usage.tick : Usage Script Stations).run h (fun _ ticked => 0 < ticked.room ∧
          Ends (Usage.post (.toOne EventType.timer (.timer ⟨0⟩ .none) ⟨1⟩)).run ticked
            (fun _ h' => h'.acceptedExpiries.length = 2 ∧ h'.timers.lost = 0) fun _ _ => False)
          fun _ _ => False)
      (by decide +kernel)
  obtain ⟨_, ticked, hticks, hroom, hend⟩ := hend.exists_ok
  obtain ⟨_, h', hposts, haccepted', hlost'⟩ := hend.exists_ok
  obtain ⟨past, feigned, hpast⟩ := hh.accounted
  have hnone := hpast.balanced
  obtain rfl : feigned = [] := List.length_eq_zero_iff.1 (by omega)
  have hrun := (hpast.use .tick hticks).use (.post _) hposts
  refine ⟨past ++ h.dueNow, h', ?_, ?_, haccepted', hlost'⟩
  · rw [Usage.feigns_post rfl hroom] at hrun
    simpa only [Usage.fires, Usage.feigns, List.append_nil, List.nil_append] using hrun
  · rw [List.countP_append, hdue]
    omega

end Hub

end ContextHub
