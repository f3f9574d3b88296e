import ContextHub.Proofs.Timer.Admission
import Mathlib.Data.Nat.PSub
/-!
# Room that is kept free

Admission counts with differences, and a difference of counts is a count only while the smaller one
is smaller. `strictRefusal?` is admission with differences that may fail, and in a reachable pool it
is the same as `refusal?`. There the bounds hold that the limits give, the slots reserved for
nanoapps are theirs, and a tick changes no count by bringing a timer back.
-/

namespace ContextHub.TimerPool

/-- The count of system timers; none if there were more nanoapp timers than timers. -/
def strictSystemCount? (p : TimerPool) : Option Nat := Nat.psub p.size p.nanoappCount

/-- Admission as in `refusal?`; no answer where it would count below zero. -/
def strictRefusal? (p : TimerPool) (owner : InstanceId) : Option (Option TimerError) :=
  if owner.isSystem then
    p.strictSystemCount?.map fun held =>
      if p.limits.system ≤ held then some (.systemLimitReached p.limits.system) else none
  else if p.limits.nanoapp ≤ p.nanoappCount then
    some (some (.nanoappLimitReached p.limits.nanoapp))
  else if p.limits.requests ≤ p.size then some (some (.poolFull p.limits.requests))
  else
    ((Nat.psub p.limits.nanoapp p.nanoappCount).bind (Nat.psub · 1)).map fun left =>
      if p.limits.floor ≤ p.heldBy owner ∧ left < p.limits.floor then
        some (.fairnessFloor owner (p.heldBy owner))
      else none

/-- Two pools count the same. -/
structure SameCounts (p q : TimerPool) : Prop where
  size : q.size = p.size
  nanoapps : q.nanoappCount = p.nanoappCount
  system : q.systemCount = p.systemCount
  each : ∀ owner, q.heldBy owner = p.heldBy owner

section

variable {p q : TimerPool}

theorem Coherent.strictSystemCount? (hp : p.Coherent) :
    p.strictSystemCount? = some p.systemCount := by
  have hle : p.nanoappCount ≤ p.size := hp.size_eq ▸ Nat.le_add_right _ _
  exact Nat.psub_eq_sub hle

theorem Coherent.strictRefusal? (hp : p.Coherent) (owner : InstanceId) :
    p.strictRefusal? owner = some (p.refusal? owner) := by
  unfold TimerPool.strictRefusal? refusal?
  rw [hp.strictSystemCount?]
  split
  · rfl
  split
  · rfl
  rename_i hn
  split
  · rfl
  -- some slot for nanoapps is free, and the new timer is counted off it
  have hlt : p.nanoappCount < p.limits.nanoapp := Nat.not_le.1 hn
  have hone : 1 ≤ p.limits.nanoapp - p.nanoappCount := by omega
  rw [Nat.psub_eq_sub hlt.le, Option.bind_some, Nat.psub_eq_sub hone, Option.map_some]

theorem Coherent.sameCounts (hp : p.Coherent) (hq : q.Coherent)
    (h : ∀ who, q.heldWhere who = p.heldWhere who) : SameCounts p q := by
  have hn : q.nanoappCount = p.nanoappCount := by
    rw [hq.nanoappCount_eq, hp.nanoappCount_eq, h]
  have hs : q.systemCount = p.systemCount := by
    rw [hq.systemCount_eq_heldWhere, hp.systemCount_eq_heldWhere, h]
  exact ⟨by rw [hq.size_eq, hp.size_eq, hn, hs], hn, hs, fun owner => h (· == owner)⟩

/-- Between its removal and its return in a tick, a recurring timer costs nobody anything. -/
theorem Coherent.sameCounts_renew (hp : p.Coherent) {now : Nat} {r : TimerRequest}
    (hpop : p.popDue? now = some (r, q)) (ho : r.oneShot = false) : SameCounts p (q.renew r) := by
  obtain ⟨-, ⟨rest, hl⟩, rfl⟩ := popDue?_eq_some hp hpop
  apply hp.sameCounts (renew_coherent hp hl)
  intro who
  have h := renew_heldWhere hp hl who
  rwa [ho, Bool.false_and, if_neg Bool.false_ne_true, Nat.add_zero] at h

theorem heldWhere_tick? (hp : p.Coherent) {now : Nat} {fired : List TimerRequest}
    (ht : p.tick? now = some (fired, q)) (who : InstanceId → Bool) :
    q.heldWhere who + fired.countP (fun r => r.oneShot && who r.owner) = p.heldWhere who := by
  obtain ⟨q', hserve, rfl⟩ := tick?_eq_some hp ht
  exact hserve.heldWhere who

/-- A nanoapp finds the pool full only after the nanoapps took all that was reserved for them. -/
theorem set_ne_poolFull {limits : TimerLimits} (hv : limits.faults = []) (hr : Reachable limits p)
    (hn : p.nanoappCount < limits.reserved) {now : Nat} {s : TimerSpec} {limit : Nat} :
    s.owner.isSystem = false → p.set now s ≠ .error (.poolFull limit) := by
  intro ho hs
  have hsys := hr.systemCount_le
  have hnest := TimerLimits.nested_of_valid hv
  have hroom : p.size < p.limits.requests := by
    rw [hr.coherent.size_eq, hr.withinLimits.same]
    unfold TimerLimits.system at hsys
    omega
  have hne : p.refusal? s.owner ≠ some (.poolFull limit) := by
    unfold refusal?
    rw [ho, if_neg Bool.false_ne_true, if_neg (Nat.not_le.2 hroom)]
    split_ifs <;> simp
  unfold set at hs
  simp only at hs
  split at hs
  · cases hs
  split at hs
  · cases hs
  split at hs
  · rename_i e hrefused
    rw [Except.error.inj hs] at hrefused
    exact hne hrefused
  · split at hs <;> cases hs

/-- In every pool that valid limits let come about: nanoapps and the system keep to their slots, and
no nanoapp holds more than the floor leaves to it; nanoapps find room while they hold less than is
reserved for them; admission never counts below zero; and a tick takes from the counts what fired
for the last time, with what comes back counted as before. -/
theorem counts_bounded {limits : TimerLimits} (hv : limits.faults = []) (hr : Reachable limits p) :
    (p.heldWhere (!·.isSystem) = p.nanoappCount ∧ p.nanoappCount ≤ limits.nanoapp) ∧
    (p.heldWhere (·.isSystem) = p.systemCount ∧
      p.systemCount ≤ limits.requests - limits.reserved) ∧
    (∀ owner, owner.isSystem = false →
      p.heldBy owner ≤ max limits.floor (limits.nanoapp - limits.floor)) ∧
    (p.nanoappCount < min limits.reserved limits.nanoapp → ∀ now s limit,
      s.owner.isSystem = false → p.set now s ≠ .error (.poolFull limit)) ∧
    (p.strictSystemCount? = some p.systemCount ∧
      ∀ owner, p.strictRefusal? owner = some (p.refusal? owner)) ∧
    (∀ now r q, p.popDue? now = some (r, q) → r.oneShot = false → SameCounts p (q.renew r)) ∧
    ∀ now fired q, p.tick? now = some (fired, q) →
      (∀ who, q.heldWhere who + fired.countP (fun r => r.oneShot && who r.owner) =
        p.heldWhere who) ∧
      ((∀ r ∈ fired, r.oneShot = false) → SameCounts p q) := by
  have hp := hr.coherent
  refine ⟨⟨hp.nanoappCount_eq.symm, hr.nanoappCount_le⟩,
    ⟨hp.systemCount_eq_heldWhere.symm, hr.systemCount_le⟩, hr.withinLimits.each, ?_,
    ⟨hp.strictSystemCount?, hp.strictRefusal?⟩, ?_, ?_⟩
  · intro hn now s limit ho
    exact set_ne_poolFull hv hr (Nat.lt_of_lt_of_le hn (Nat.min_le_left _ _)) ho
  · intro now r q hpop ho
    exact hp.sameCounts_renew hpop ho
  · intro now fired q ht
    have hcount := heldWhere_tick? hp ht
    refine ⟨hcount, fun hrec => hp.sameCounts (Serves.coherent_of_tick? hp ht) fun who => ?_⟩
    have hzero : fired.countP (fun r => r.oneShot && who r.owner) = 0 :=
      List.countP_eq_zero.2 fun r hm => by simp [hrec r hm]
    have h := hcount who
    rwa [hzero, Nat.add_zero] at h

end

/-- The system has taken both its slots and is refused a third. A nanoapp that holds one recurring
timer does not find the pool full, and a tick that fires this timer three times gives it back. -/
theorem reserve_holds : (⟨4, 3, 2, 1⟩ : TimerLimits).faults = [] ∧
    ∃ p, Reachable ⟨4, 3, 2, 1⟩ p ∧
      p.set 0 { owner := .system, duration := 1, purpose := some .wifiScanRetry } =
        .error (.systemLimitReached 2) ∧
      (∀ limit, p.set 0 { owner := ⟨2⟩, duration := 1 } ≠ .error (.poolFull limit)) ∧
      ∃ fired q, p.tick? 35 = some (fired, q) ∧ fired.length = 3 ∧ SameCounts p q := by
  obtain ⟨p, hp, hn, hsys, c, ht, hlen, hrec⟩ : ∃ p, (empty ⟨4, 3, 2, 1⟩).setAll? 0
        (List.replicate 2 { owner := .system, duration := 100, purpose := some .wifiScanRetry } ++
          [{ owner := ⟨1⟩, duration := 10, oneShot := false }]) = some p ∧
      p.nanoappCount = 1 ∧
      p.set 0 { owner := .system, duration := 1, purpose := some .wifiScanRetry } =
        .error (.systemLimitReached 2) ∧
      ∃ c, p.tick? 35 = some c ∧ c.1.length = 3 ∧ c.1.all (!·.oneShot) = true :=
    ⟨_, rfl, rfl, rfl, _, rfl, rfl, rfl⟩
  have hr : Reachable ⟨4, 3, 2, 1⟩ p := Reachable.start.setAll hp
  obtain ⟨-, -, -, hroom, -, -, htick⟩ := counts_bounded (by decide) hr
  refine ⟨by decide, p, hr, hsys, fun limit => ?_, c.1, c.2, ht, hlen, ?_⟩
  · exact hroom (by rw [hn]; decide) 0 _ limit rfl
  · exact (htick 35 c.1 c.2 ht).2 (by simpa using hrec)

end ContextHub.TimerPool
