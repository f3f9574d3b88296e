import ContextHub.Proofs.Hub.Expiries
import ContextHub.Simulation.World
import Mathlib.Data.List.Basic
/-!
# The task queue is one bounded queue

`Fifo` is the queue as it is meant: one list, a capacity, and nothing else. A queue in use is
`Live`: its counter of reserved slots is the number of its tasks, and that fits the capacity. The
two stages and the counter then answer every offer, take and discard as `Fifo` does on `tasks`.
`Queue.Used` lists the uses of the queue of a hub with the contents it went through.
-/

namespace ContextHub

/-- Whether a task is an event with `p`. -/
def Task.meets (p : Event → Bool) : Task → Bool
  | .event e => p e
  | .deferred _ => false

/-! ## The queue as it is meant -/

namespace Fifo

def offer (capacity : Nat) (ts : List Task) (t : Task) : Except QueueError (List Task) :=
  if ts.length < capacity then .ok (ts ++ [t]) else .error .queueFull

def next? : List Task → Option (Task × List Task)
  | [] => none
  | t :: rest => some (t, rest)

/-- The tasks that go, and those that stay. -/
def discard (p : Event → Bool) (ts : List Task) : List Task × List Task := ts.partition (·.meets p)

/-- The greatest length among some contents. -/
def greatest : List (List Task) → Nat
  | [] => 0
  | ts :: rest => max ts.length (greatest rest)

end Fifo

namespace Queue

/-! ## Taking and looking through -/

theorem others_eq_filter (p : Event → Bool) (ts : List Task) :
    others p ts = ts.filter (!·.meets p) := by
  unfold others
  congr 1
  funext t
  cases t <;> rfl

theorem matching_eq_filter (p : Event → Bool) (ts : List Task) :
    (matching p ts).map Task.event = ts.filter (·.meets p) := by
  induction ts with
  | nil => rfl
  | cons t ts ih =>
    unfold matching at ih ⊢
    cases t with
    | event e => by_cases hp : p e = true <;> simp [Task.meets, hp, ih]
    | deferred c => simp [Task.meets, ih]

theorem discard_eq_partition (p : Event → Bool) (ts : List Task) :
    ((matching p ts).map Task.event, others p ts) = Fifo.discard p ts := by
  unfold Fifo.discard
  rw [List.partition_eq_filter_filter, matching_eq_filter, others_eq_filter]
  rfl

theorem length_others (p : Event → Bool) (ts : List Task) :
    (others p ts).length + (matching p ts).length = ts.length := by
  have hl := List.length_eq_length_filter_add (l := ts) (·.meets p)
  have hm : (matching p ts).length = (ts.filter (·.meets p)).length := by
    rw [← matching_eq_filter, List.length_map]
  rw [others_eq_filter]
  omega

/-- Taking gives the first task, wherever it sits. -/
theorem next?_refines (q : Queue) :
    q.next?.map (fun x => (x.1, x.2.tasks)) = Fifo.next? q.tasks := by
  unfold Queue.next? tasks
  split
  · rename_i hp
    rw [hp]
    rfl
  · rename_i hp hi
    rw [hp, hi]
    rfl
  · rename_i hp hi
    rw [hp, hi]
    rfl

theorem discard_refines (q : Queue) (p : Event → Bool) :
    ((q.discard p).1.map Task.event, (q.discard p).2.tasks) = Fifo.discard p q.tasks := by
  rw [← discard_eq_partition]
  simp only [Queue.discard, tasks, List.append_nil]

/-! ## Live queues -/

/-- The counter is right, and the queue is open and not over its capacity. -/
structure Live (q : Queue) : Prop where
  opened : q.closed = false
  reserved : q.reserved = q.tasks.length
  bounded : q.tasks.length ≤ q.capacity

theorem tasks_length (q : Queue) : q.tasks.length = q.pending.length + q.inbox.length :=
  List.length_append

theorem empty_live (capacity : Nat) : (empty capacity).Live := ⟨rfl, rfl, Nat.zero_le _⟩

namespace Live

variable {q q' : Queue}

/-- A free slot is a free place in the inbox. -/
theorem inbox_length (hq : q.Live) (hc : q.reserved < q.capacity) :
    q.inbox.length < q.capacity := by
  have hl := q.tasks_length
  have hr := hq.reserved
  omega

theorem offer (hq : q.Live) (t : Task) :
    q.offer t = if q.tasks.length < q.capacity then .ok { q with
      inbox := q.inbox ++ [t]
      reserved := q.tasks.length + 1
      deepest := max q.deepest (q.tasks.length + 1) } else .error .queueFull := by
  unfold Queue.offer
  rw [hq.reserved, hq.opened]
  by_cases hc : q.tasks.length < q.capacity
  · have hi : q.inbox.length < q.capacity := hq.inbox_length (by rw [hq.reserved]; exact hc)
    simp only [hc, hi, Bool.false_eq_true, ↓reduceIte]
  · simp only [hc, ↓reduceIte]

/-- An offer is answered as a bounded list would. -/
theorem offer_refines (hq : q.Live) (t : Task) :
    (q.offer t).map tasks = Fifo.offer q.capacity q.tasks t := by
  rw [hq.offer t]
  unfold Fifo.offer
  split
  · simp only [Except.map, tasks, List.append_assoc]
  · rfl

theorem of_offer (hq : q.Live) {t : Task} (ho : q.offer t = .ok q') :
    q'.Live ∧ q'.capacity = q.capacity ∧ q'.tasks = q.tasks ++ [t] ∧
      q'.deepest = max q.deepest q'.tasks.length := by
  have ht : q'.tasks = q.tasks ++ [t] := Hub.offer_tasks ho
  have hl : q'.tasks.length = q.tasks.length + 1 := by rw [ht, List.length_append]; rfl
  rw [hq.offer t] at ho
  split at ho
  · rename_i hc
    cases ho
    exact ⟨⟨hq.opened, hl.symm, by rw [hl]; exact hc⟩, rfl, ht, by rw [hl]⟩
  · cases ho

theorem of_next? (hq : q.Live) {t : Task} (hn : q.next? = some (t, q')) :
    q'.Live ∧ q'.capacity = q.capacity ∧ q.tasks = t :: q'.tasks ∧ q'.deepest = q.deepest ∧
      q'.reserved + 1 = q.reserved := by
  have ht : Fifo.next? q.tasks = some (t, q'.tasks) := by rw [← next?_refines, hn]; rfl
  have htasks : q.tasks = t :: q'.tasks := by
    unfold Fifo.next? at ht
    split at ht <;> cases ht
    assumption
  have hkept : q'.capacity = q.capacity ∧ q'.closed = q.closed ∧ q'.deepest = q.deepest ∧
      q'.reserved = q.reserved - 1 := by
    unfold Queue.next? at hn
    split at hn <;> cases hn <;> exact ⟨rfl, rfl, rfl, rfl⟩
  obtain ⟨hcap, hclosed, hdeep, hres⟩ := hkept
  have hlen : q.tasks.length = q'.tasks.length + 1 := by rw [htasks, List.length_cons]
  have hr := hq.reserved
  have hb := hq.bounded
  exact ⟨⟨hclosed.trans hq.opened, by omega, by omega⟩, hcap, htasks, hdeep, by omega⟩

theorem of_discard (hq : q.Live) (p : Event → Bool) :
    (q.discard p).2.Live ∧ (q.discard p).1.length ≤ q.reserved ∧
      (q.discard p).2.tasks.length ≤ q.tasks.length := by
  have ht : (q.discard p).2.tasks = others p q.tasks := List.append_nil _
  have hl := length_others p q.tasks
  have hr := hq.reserved
  have hb := hq.bounded
  have hout : (q.discard p).1.length = (matching p q.tasks).length := rfl
  have hres : (q.discard p).2.reserved = q.reserved - (matching p q.tasks).length := rfl
  have hcap : (q.discard p).2.capacity = q.capacity := rfl
  refine ⟨⟨hq.opened, ?_, ?_⟩, ?_, ?_⟩
  · rw [hres, ht]
    omega
  · rw [ht, hcap]
    omega
  · omega
  · rw [ht]
    omega

end Live

end Queue

namespace Hub

variable {A R : Type} {h h' : Hub A R}

/-! ## The uses of a hub's queue -/

theorem tryPost_queue (e : Event) (h : Hub A R) :
    Ends (tryPost e) h
      (fun r h' => r = (h.queue.offer (.event e)).map (fun _ => ()) ∧
        match h.queue.offer (.event e) with
        | .ok q => h'.queue = q
        | .error _ => h'.queue = h.queue)
      (fun _ _ => False) := by
  unfold tryPost
  rw [ends_bind, ends_get]
  cases h.queue.offer (.event e) with
  | ok q => exact ⟨rfl, rfl⟩
  | error err => exact ⟨rfl, rfl⟩

theorem defer_queue (c : Callback) (h : Hub A R) :
    Ends (defer c) h
      (fun b h' => match h.queue.offer (.deferred c) with
        | .ok q => b = true ∧ h'.queue = q
        | .error _ => b = false ∧ h'.queue = h.queue)
      (fun _ _ => False) := by
  unfold defer
  rw [ends_bind, ends_get]
  cases h.queue.offer (.deferred c) with
  | ok q => exact ⟨rfl, rfl⟩
  | error err => exact ⟨rfl, rfl⟩

theorem discard_queue (p : Event → Bool) (h : Hub A R) :
    Ends (discard p) h
      (fun out h' => out = (h.queue.discard p).1 ∧ h'.queue = (h.queue.discard p).2)
      (fun _ _ => False) := by
  unfold discard
  rw [ends_bind, ends_get]
  refine ends_bind.2 (ends_set.2 (ends_bind.2 ?_))
  exact (releaseAll_ends _ _).mono (fun _ _ hr => ⟨rfl, hr.1⟩) fun _ _ => id

/-- From an empty queue of this capacity, the hub's queue was used in any order; `past` is what it
held before each use, latest first. What leaves the queue alone may happen in between. -/
inductive Queued (capacity : Nat) : List (List Task) → Hub A R → Prop
  | start {h : Hub A R} (hq : h.queue = .empty capacity) : Queued capacity [] h
  | post {past h h' e r} (hu : Queued capacity past h) (hr : tryPost e h = .ok r h') :
      Queued capacity (h.queue.tasks :: past) h'
  | defer {past h h' c b} (hu : Queued capacity past h) (hr : Hub.defer c h = .ok b h') :
      Queued capacity (h.queue.tasks :: past) h'
  | take {past h t q} (hu : Queued capacity past h) (hn : h.queue.next? = some (t, q)) :
      Queued capacity (h.queue.tasks :: past) { h with queue := q }
  | discard {past h h' p out} (hu : Queued capacity past h) (hr : Hub.discard p h = .ok out h') :
      Queued capacity (h.queue.tasks :: past) h'
  | aside {past} {h h' : Hub A R} (hu : Queued capacity past h) (hq : h'.queue = h.queue) :
      Queued capacity past h'

/-- A live queue of this capacity that was never longer than its deepest mark says. -/
structure Kept (capacity : Nat) (past : List (List Task)) (q : Queue) : Prop where
  live : q.Live
  capacity : q.capacity = capacity
  deepest : q.deepest = Fifo.greatest (q.tasks :: past)

variable {capacity : Nat} {past : List (List Task)} {q q' : Queue}

/-- After a use that leaves the queue alone. -/
theorem Kept.same (hk : Kept capacity past q) : Kept capacity (q.tasks :: past) q where
  live := hk.live
  capacity := hk.capacity
  deepest := by
    have hd := hk.deepest
    simp only [Fifo.greatest] at hd ⊢
    omega

theorem Kept.offer (hk : Kept capacity past q) {t : Task} (ho : q.offer t = .ok q') :
    Kept capacity (q.tasks :: past) q' := by
  obtain ⟨hl, hc, -, hd⟩ := hk.live.of_offer ho
  refine ⟨hl, hc.trans hk.capacity, ?_⟩
  have hold := hk.deepest
  simp only [Fifo.greatest] at hold ⊢
  omega

/-- After a use that makes the queue no longer. -/
theorem Kept.less (hk : Kept capacity past q) (hl : q'.Live) (hc : q'.capacity = q.capacity)
    (hd : q'.deepest = q.deepest) (ht : q'.tasks.length ≤ q.tasks.length) :
    Kept capacity (q.tasks :: past) q' := by
  refine ⟨hl, hc.trans hk.capacity, ?_⟩
  have hold := hk.deepest
  simp only [Fifo.greatest] at hold ⊢
  omega

theorem Queued.kept (hu : Queued capacity past h) : Kept capacity past h.queue := by
  induction hu with
  | start hq =>
    rw [hq]
    exact ⟨Queue.empty_live capacity, rfl, rfl⟩
  | @post past h h' e r _ hr ih =>
    have hend := ((tryPost_queue e h).ok hr).2
    split at hend
    · rename_i q ho
      rw [hend]
      exact ih.offer ho
    · rw [hend]
      exact ih.same
  | @defer past h h' c b _ hr ih =>
    have hend := (defer_queue c h).ok hr
    split at hend
    · rename_i q ho
      rw [hend.2]
      exact ih.offer ho
    · rw [hend.2]
      exact ih.same
  | @take past h t q _ hn ih =>
    obtain ⟨hl, hc, ht, hd, -⟩ := ih.live.of_next? hn
    have hlen : h.queue.tasks.length = q.tasks.length + 1 := by rw [ht, List.length_cons]
    refine ih.less hl hc hd ?_
    show q.tasks.length ≤ h.queue.tasks.length
    omega
  | @discard past h h' p out _ hr ih =>
    obtain ⟨-, hq⟩ := (discard_queue p h).ok hr
    obtain ⟨hl, -, ht⟩ := ih.live.of_discard p
    rw [hq]
    exact ih.less hl rfl rfl ht
  | aside _ hq ih =>
    rw [hq]
    exact ih

/-! ## Every use is that of one bounded list -/

/-- An offer to the list goes as the offer to the queue does. -/
theorem Kept.answer (hk : Kept capacity past q) (t : Task) :
    (∃ q', q.offer t = .ok q' ∧ Fifo.offer capacity q.tasks t = .ok q'.tasks) ∨
      q.offer t = .error .queueFull ∧ Fifo.offer capacity q.tasks t = .error .queueFull := by
  have ho := hk.live.offer_refines t
  rw [hk.capacity] at ho
  by_cases hc : q.tasks.length < capacity
  · left
    rw [hk.live.offer t, hk.capacity, if_pos hc] at ho ⊢
    exact ⟨_, rfl, ho.symm⟩
  · right
    rw [hk.live.offer t, hk.capacity, if_neg hc] at ho ⊢
    exact ⟨rfl, ho.symm⟩

theorem Kept.post (hk : Kept capacity past h.queue) (e : Event) :
    ∃ r h', tryPost e h = .ok r h' ∧ match Fifo.offer capacity h.queue.tasks (.event e) with
      | .ok ts => r = .ok () ∧ h'.queue.tasks = ts
      | .error err => r = .error err ∧ h'.queue = h.queue := by
  obtain ⟨r, h', hr, hv, hq⟩ := (tryPost_queue e h).exists_ok
  refine ⟨r, h', hr, ?_⟩
  rcases hk.answer (.event e) with ⟨q', ho, hf⟩ | ⟨ho, hf⟩
  · rw [ho] at hv hq
    rw [hf]
    exact ⟨hv, congrArg Queue.tasks hq⟩
  · rw [ho] at hv hq
    rw [hf]
    exact ⟨hv, hq⟩

theorem Kept.defer (hk : Kept capacity past h.queue) (c : Callback) :
    ∃ b h', Hub.defer c h = .ok b h' ∧
      match Fifo.offer capacity h.queue.tasks (.deferred c) with
      | .ok ts => b = true ∧ h'.queue.tasks = ts
      | .error _ => b = false ∧ h'.queue = h.queue := by
  obtain ⟨b, h', hr, hq⟩ := (defer_queue c h).exists_ok
  refine ⟨b, h', hr, ?_⟩
  rcases hk.answer (.deferred c) with ⟨q', ho, hf⟩ | ⟨ho, hf⟩
  · rw [ho] at hq
    rw [hf]
    exact ⟨hq.1, congrArg Queue.tasks hq.2⟩
  · rw [ho] at hq
    rw [hf]
    exact hq

theorem Kept.discard (hk : Kept capacity past h.queue) (p : Event → Bool) :
    ∃ out h', Hub.discard p h = .ok out h' ∧
      (out.map Task.event, h'.queue.tasks) = Fifo.discard p h.queue.tasks ∧
      h'.queue.reserved + out.length = h.queue.reserved := by
  obtain ⟨out, h', hr, rfl, hq⟩ := (discard_queue p h).exists_ok
  have hres : (h.queue.discard p).2.reserved =
      h.queue.reserved - (h.queue.discard p).1.length := rfl
  have hle := (hk.live.of_discard p).2.1
  refine ⟨_, h', hr, ?_, ?_⟩
  · rw [hq]
    exact h.queue.discard_refines p
  · rw [hq]
    omega

/-- In any use, the two stages and the counter of free slots are one bounded first-in-first-out
list: posting and deferring append if there is room and change nothing if there is none, taking
gives the head, discarding sifts out exactly the events in question. The counter is the length, no
subtraction from it clips, the inbox has a place wherever the counter has a slot, and the deepest
mark is the greatest length there was. -/
theorem queue_is_bounded_fifo (hu : Queued capacity past h) :
    (h.queue.reserved = h.queue.tasks.length ∧ h.queue.tasks.length ≤ capacity ∧
      (h.queue.reserved < capacity → h.queue.inbox.length < capacity) ∧
      h.queue.deepest = Fifo.greatest (h.queue.tasks :: past)) ∧
    (∀ e, ∃ r h', tryPost e h = .ok r h' ∧
      match Fifo.offer capacity h.queue.tasks (.event e) with
      | .ok ts => r = .ok () ∧ h'.queue.tasks = ts
      | .error err => r = .error err ∧ h'.queue = h.queue) ∧
    (∀ c, ∃ b h', defer c h = .ok b h' ∧
      match Fifo.offer capacity h.queue.tasks (.deferred c) with
      | .ok ts => b = true ∧ h'.queue.tasks = ts
      | .error _ => b = false ∧ h'.queue = h.queue) ∧
    (h.queue.next?.map (fun x => (x.1, x.2.tasks)) = Fifo.next? h.queue.tasks ∧
      ∀ t q, h.queue.next? = some (t, q) → q.reserved + 1 = h.queue.reserved) ∧
    ∀ p, ∃ out h', discard p h = .ok out h' ∧
      (out.map Task.event, h'.queue.tasks) = Fifo.discard p h.queue.tasks ∧
      h'.queue.reserved + out.length = h.queue.reserved := by
  have hk := hu.kept
  have hroom : h.queue.reserved < capacity → h.queue.inbox.length < capacity := by
    rw [← hk.capacity]
    exact hk.live.inbox_length
  have hbound : h.queue.tasks.length ≤ capacity := hk.capacity ▸ hk.live.bounded
  refine ⟨⟨hk.live.reserved, hbound, hroom, hk.deepest⟩, hk.post, hk.defer, ?_, hk.discard⟩
  refine ⟨h.queue.next?_refines, fun t q hn => ?_⟩
  obtain ⟨-, -, -, -, hres⟩ := hk.live.of_next? hn
  exact hres

/-- Two slots: a third task is refused, and discarding makes room without touching deferred work. -/
theorem two_slots_in_use : ∃ h : Hub Script Stations,
    Queued 2 [[.event (.toAll 1024 (.number 0)), .deferred .timerTick],
      [.event (.toAll 1024 (.number 0)), .deferred .timerTick],
      [.event (.toAll 1024 (.number 0))], []] h ∧
    h.queue.tasks = [.deferred .timerTick] ∧ h.queue.reserved = 1 ∧ h.queue.deepest = 2 := by
  have hu := Queued.discard (p := fun _ => true) (.post (e := .toAll 1024 (.number 0))
    (.defer (c := .timerTick) (.post (e := .toAll 1024 (.number 0))
      (.start (h := (blank { queueCapacity := 2 } 0 Stations.scripted none : Hub Script Stations))
        rfl) rfl) rfl) rfl) rfl
  have hf := queue_is_bounded_fifo hu
  exact ⟨_, hu, rfl, hf.1.1, hf.1.2.2.2⟩

end Hub

end ContextHub
