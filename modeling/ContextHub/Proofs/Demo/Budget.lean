import ContextHub.Proofs.Hub.BoundedQueue
import ContextHub.Proofs.Hub.Tracking
import ContextHub.Simulation.Demo
import Mathlib.Algebra.GroupWithZero.Nat
/-!
# What the tasks of the demo cost

A task costs one for itself and what the tasks cost that it may queue: a nanoapp's tick leads to a
request, a request to the radio's reports, a report to an answer. The tick of the pool costs what
all six timers of the demo can set off at once. Queued tasks are paid from a total that no new task
raises (`Affords`), so there are never more of them than the total, and each one that is processed
makes it smaller.
-/

namespace ContextHub.Demo

/-- The most that a tick of the pool leads to, and so the most tasks that are ever queued. -/
def allowance : Nat := 19

/-- What a task and everything that follows from it costs. -/
def cost : Task → Nat
  | .event e =>
    if e.type = EventType.timer ∧ e.target = .nanoapp ⟨2⟩ then 5
    else if e.type = EventType.timer ∧ e.target = .nanoapp ⟨3⟩ then 3
    else 1
  | .deferred .timerTick => allowance
  | .deferred (.timerExpired _ .wifiScanRetry) => 5
  | .deferred (.timerExpired _ _) => 2
  | .deferred (.report _) => 2
  | .deferred (.unload _) => 1

theorem cost_pos (t : Task) : 1 ≤ cost t := by
  unfold cost allowance
  split <;> try omega
  split
  · omega
  · split <;> omega

/-- What tasks cost together. -/
def totalCost (ts : List Task) : Nat := (ts.map cost).sum

@[simp] theorem totalCost_nil : totalCost [] = 0 := rfl

@[simp] theorem totalCost_cons (t : Task) (ts : List Task) :
    totalCost (t :: ts) = cost t + totalCost ts := rfl

@[simp] theorem totalCost_append (ts ts' : List Task) :
    totalCost (ts ++ ts') = totalCost ts + totalCost ts' := by
  simp [totalCost]

theorem length_le_totalCost (ts : List Task) : ts.length ≤ totalCost ts := by
  induction ts with
  | nil => simp
  | cons t ts ih =>
    have ht := cost_pos t
    simp only [List.length_cons, totalCost_cons]
    omega

/-- The timers that the hub itself sets in the demo. -/
def purposes : List TimerPurpose := [.wifiScanRetry, .wifiScanTimeout, .wwanCellInfoTimeout]

/-- The tasks that the demo queues. -/
def Foreseen : Task → Prop
  | .event e => e.target = .broadcast ∨ e.target = .nanoapp ⟨1⟩ ∨ e.target = .nanoapp ⟨2⟩ ∨
      e.target = .nanoapp ⟨3⟩
  | .deferred .timerTick => True
  | .deferred (.timerExpired _ purpose) => purpose ∈ purposes
  | .deferred (.report (.wifi (.scanResponse _ _))) => True
  | .deferred (.report (.wifi (.scan _))) => True
  | .deferred (.report (.wwan _)) => True
  | .deferred _ => False

def isReport : Task → Bool
  | .deferred (.report _) => true
  | _ => false

/-- Expiries of the hub's own timers are queued when nothing else is, so that no report is ahead of
one. -/
def Sorted (ts : List Task) : Prop :=
  ts.Pairwise fun t t' => isReport t = true → t'.expired? = none

/-- A queue of the demo: what is in it and `left` to queue more are paid from `total`. -/
structure Affords (total left : Nat) (q : Queue) : Prop where
  live : q.Live
  capacity : q.capacity = 96
  paid : totalCost q.tasks + left ≤ total
  allowed : total ≤ allowance
  deepest : q.deepest ≤ allowance
  foreseen : ∀ t ∈ q.tasks, Foreseen t
  sorted : Sorted q.tasks

namespace Affords

variable {total left less : Nat} {q : Queue}

theorem empty : Affords allowance allowance (.empty 96) where
  live := Queue.empty_live 96
  capacity := rfl
  paid := Nat.le_refl _
  allowed := Nat.le_refl _
  deepest := Nat.zero_le _
  foreseen t ht := by cases ht
  sorted := .nil

theorem spend (hq : Affords total left q) (hle : less ≤ left) : Affords total less q :=
  { hq with paid := by have := hq.paid; omega }

/-- What is not spent is saved. -/
theorem save (hq : Affords (total + left) left q) : Affords total 0 q :=
  { hq with
    paid := by have := hq.paid; omega
    allowed := by have := hq.allowed; omega }

/-- There is room for whatever can be paid. -/
theorem offer {t : Task} (hq : Affords total (left + cost t) q) (ht : Foreseen t)
    (hs : ∀ t' ∈ q.tasks, isReport t' = true → t.expired? = none) :
    ∃ q', q.offer t = .ok q' ∧ q'.tasks = q.tasks ++ [t] ∧ Affords total left q' := by
  have hpaid := hq.paid
  have hallowed := hq.allowed
  have hlen : q.tasks.length + 1 ≤ allowance := by
    have h₁ := length_le_totalCost q.tasks
    have h₂ := cost_pos t
    omega
  have hroom : q.tasks.length < q.capacity := by
    rw [hq.capacity]
    unfold allowance at hlen
    omega
  obtain ⟨q', ho⟩ : ∃ q', q.offer t = .ok q' := by
    rw [hq.live.offer t, if_pos hroom]
    exact ⟨_, rfl⟩
  obtain ⟨hlive, hcap, htasks, hdeep⟩ := hq.live.of_offer ho
  refine ⟨q', ho, htasks, hlive, hcap.trans hq.capacity, ?_, hallowed, ?_, ?_, ?_⟩
  · rw [htasks]
    simp only [totalCost_append, totalCost_cons, totalCost_nil]
    omega
  · have h := hq.deepest
    rw [hdeep, htasks, List.length_append, List.length_singleton]
    omega
  · rw [htasks]
    exact List.forall_mem_append.2 ⟨hq.foreseen, by simpa using ht⟩
  · rw [htasks]
    apply List.pairwise_append.2
    refine ⟨hq.sorted, List.pairwise_singleton _ _, ?_⟩
    intro t' ht' u hu
    rw [List.mem_singleton.1 hu]
    exact hs t' ht'

/-- A task that is taken leaves what it cost. -/
theorem take {q' : Queue} {t : Task} (hq : Affords total 0 q) (hn : q.next? = some (t, q')) :
    Affords total (cost t) q' ∧ q.tasks = t :: q'.tasks := by
  obtain ⟨hlive, hcap, htasks, hdeep, -⟩ := hq.live.of_next? hn
  have hpaid := hq.paid
  have hforeseen := hq.foreseen
  have hsorted := hq.sorted
  rw [htasks] at hpaid hforeseen hsorted
  rw [totalCost_cons] at hpaid
  refine ⟨⟨hlive, hcap.trans hq.capacity, ?_, hq.allowed, hdeep ▸ hq.deepest, ?_, ?_⟩, htasks⟩
  · omega
  · exact fun u hu => hforeseen u (List.mem_cons_of_mem t hu)
  · exact (List.pairwise_cons.1 hsorted).2

/-- The tick of the pool is alone in the queue. -/
theorem tick_alone (hq : Affords total left q) (hm : .deferred .timerTick ∈ q.tasks) :
    q.tasks = [.deferred .timerTick] := by
  obtain ⟨before, after, htasks⟩ := List.append_of_mem hm
  have hpaid := hq.paid
  have hallowed := hq.allowed
  have hcost : cost (.deferred .timerTick) = allowance := rfl
  rw [htasks, totalCost_append, totalCost_cons, hcost] at hpaid
  have hbefore := length_le_totalCost before
  have hafter := length_le_totalCost after
  have hnil : before = [] := List.eq_nil_of_length_eq_zero (by omega)
  have hnil' : after = [] := List.eq_nil_of_length_eq_zero (by omega)
  rw [htasks, hnil, hnil']
  rfl

end Affords

/-! ## Expiries in the queue -/

/-- What the hub's own timers were for that the queue still tells of. -/
def told (ts : List Task) : List TimerPurpose := (ts.filterMap Task.expired?).map Prod.snd

@[simp] theorem told_append (ts ts' : List Task) : told (ts ++ ts') = told ts ++ told ts' := by
  simp [told]

theorem told_eq_nil {ts : List Task} (h : ∀ t ∈ ts, t.expired? = none) : told ts = [] := by
  unfold told
  rw [List.filterMap_eq_nil_iff.2 h]
  rfl

theorem told_cons_of_none {t : Task} (h : t.expired? = none) (ts : List Task) :
    told (t :: ts) = told ts := by
  rw [told, List.filterMap_cons_none h, told]

theorem told_cons_expired (x : TimerHandle) (u : TimerPurpose) (ts : List Task) :
    told (.deferred (.timerExpired x u) :: ts) = u :: told ts := rfl

/-- Behind a report there are no expiries. -/
theorem told_of_report {t : Task} {ts : List Task} (hs : Sorted (t :: ts))
    (ht : isReport t = true) : told ts = [] :=
  told_eq_nil fun u hu => (List.pairwise_cons.1 hs).1 u hu ht

end ContextHub.Demo
