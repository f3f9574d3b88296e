import ContextHub.Proofs.Demo.Budget
import ContextHub.Proofs.Hub.Expiries
import ContextHub.Proofs.Timer.Admission
import Mathlib.Algebra.Order.BigOperators.Group.List
import Mathlib.Algebra.Order.Group.Nat
/-!
# The timers of the demo

Every timer of the demo has a role: it is the one of a nanoapp, or the hub itself set it for some
purpose. `Census p` says that the pool holds at most one timer in each of six roles. So the pool
never comes near its limits, and whatever falls due at once can be paid from the allowance.
-/

namespace ContextHub

theorem subperm_map {α β : Type} {l l' : List α} (h : l.Subperm l') (f : α → β) :
    (l.map f).Subperm (l'.map f) := by
  obtain ⟨m, hperm, hsub⟩ := h
  exact ⟨m.map f, hperm.map f, hsub.map f⟩

theorem nodup_of_subperm {α : Type} {l l' : List α} (h : l.Subperm l') (hl : l'.Nodup) :
    l.Nodup := by
  obtain ⟨m, hperm, hsub⟩ := h
  exact hperm.nodup_iff.1 (hsub.nodup hl)

namespace TimerPool

/-! ## Ticks of a pool where nothing is overdue -/

/-- What a tick leaves was set for what the pool held. -/
theorem Serves.map_subperm {β : Type} {now : Nat} {p q : TimerPool} {fired : List TimerRequest}
    (h : Serves now p fired q) (f : TimerSpec → β) :
    (q.requests.map fun r => f r.toTimerSpec).Subperm
      (p.requests.map fun r => f r.toTimerSpec) := by
  induction h with
  | rest => exact .refl _
  | @serve p q r rest fired hp hl _ _ ih =>
    refine ih.trans ?_
    refine (((renew_perm hp hl).map _).subperm).trans ?_
    rw [hl]
    split
    · exact (List.sublist_cons_self _ _).subperm
    · exact .refl _

/-- One-shot timers that are left have always been there. -/
theorem Serves.mem_oneShot {now : Nat} {p q : TimerPool} {fired : List TimerRequest}
    (h : Serves now p fired q) {a : TimerRequest} (ha : a ∈ q.requests) (ho : a.oneShot = true) :
    a ∈ p.requests := by
  induction h with
  | rest => exact ha
  | @serve p q r rest fired hp hl _ _ ih =>
    rcases (mem_renew hp hl).1 (ih ha) with hrest | ⟨hr, rfl⟩
    · rw [hl]
      exact List.mem_cons_of_mem r hrest
    · exact absurd (ho.symm.trans hr) (by decide)

/-- Where nothing is overdue, what is due fires once. -/
theorem Serves.fired_perm {now : Nat} {p q : TimerPool} {fired : List TimerRequest}
    (h : Serves now p fired q) (hnow : now < Nanos.last)
    (hp : ∀ r ∈ p.requests, now ≤ r.expiration) :
    fired.Perm (p.requests.filter fun r => decide (r.expiration ≤ now)) := by
  induction h with
  | @rest p _ hlt =>
    rw [List.filter_eq_nil_iff.2]
    intro r hr
    have := hlt r hr
    simp only [decide_eq_true_eq]
    omega
  | @serve p q r rest fired hc hl hd _ ih =>
    have hr : r ∈ p.requests := hl ▸ List.mem_cons_self
    have hlater : r.oneShot = false → now < (r.renewed p.nextSeq).expiration := by
      intro ho
      have hperiod := hc.periodic r hr ho
      have hdue := hp r hr
      simp only [TimerRequest.renewed, Nanos.after]
      omega
    have hnext : ∀ a ∈ ((p.without r).renew r).requests, now ≤ a.expiration := by
      intro a ha
      rcases (mem_renew hc hl).1 ha with ha | ⟨ho, rfl⟩
      · exact hp a (hl ▸ List.mem_cons_of_mem r ha)
      · exact Nat.le_of_lt (hlater ho)
    rw [hl, List.filter_cons_of_pos (by simpa using hd)]
    refine List.Perm.cons r ((ih hnext).trans (((renew_perm hc hl).filter _).trans ?_))
    cases ho : r.oneShot with
    | true => exact .refl _
    | false =>
      rw [if_neg Bool.false_ne_true, List.filter_cons_of_neg]
      simpa using hlater ho

/-- What fires was there, and each timer fires once. -/
theorem Serves.fired_subperm {now : Nat} {p q : TimerPool} {fired : List TimerRequest}
    (h : Serves now p fired q) (hnow : now < Nanos.last)
    (hp : ∀ r ∈ p.requests, now ≤ r.expiration) :
    fired.Subperm p.requests :=
  (h.fired_perm hnow hp).subperm.trans List.filter_sublist.subperm

end TimerPool

namespace Demo

open TimerPool

/-! ## Roles -/

/-- Whose timer it is: a nanoapp's, or the hub's own for some purpose. -/
def roleOf (s : TimerSpec) : InstanceId ⊕ TimerPurpose :=
  match s.purpose with
  | some purpose => .inr purpose
  | none => .inl s.owner

theorem roleOf_eq_inr {s : TimerSpec} {u : TimerPurpose} :
    roleOf s = .inr u ↔ s.purpose = some u := by
  unfold roleOf
  cases s.purpose <;> simp

def roles : List (InstanceId ⊕ TimerPurpose) :=
  [.inl ⟨1⟩, .inl ⟨2⟩, .inl ⟨3⟩] ++ purposes.map .inr

/-- What it costs that a timer in this role falls due. -/
def roleCost : InstanceId ⊕ TimerPurpose → Nat
  | .inl id => if id = ⟨2⟩ then 5 else if id = ⟨3⟩ then 3 else 1
  | .inr .wifiScanRetry => 5
  | .inr _ => 2

theorem cost_notice (r : TimerRequest) : cost r.notice = roleCost (roleOf r.toTimerSpec) := by
  unfold TimerRequest.notice roleOf
  cases r.purpose with
  | none => simp [cost, roleCost, Event.toOne]
  | some u => cases u <;> rfl

/-- All at once can be paid from the allowance, beside the tick itself. -/
theorem roleCost_roles : (roles.map roleCost).sum + 1 = allowance := by decide

theorem told_notices (fired : List TimerRequest) :
    told (fired.map (·.notice)) = (fired.map (roleOf ·.toTimerSpec)).filterMap Sum.getRight? := by
  unfold told
  rw [List.map_filterMap, List.filterMap_map, List.filterMap_map]
  apply List.filterMap_congr
  intro r _
  simp only [Function.comp_apply, TimerRequest.notice, roleOf]
  cases r.purpose <;> rfl

/-- A purpose that is told of is that of a timer that fired. -/
theorem mem_told_notices {fired : List TimerRequest} {u : TimerPurpose}
    (hu : u ∈ told (fired.map (·.notice))) : ∃ r ∈ fired, r.purpose = some u := by
  rw [told_notices, List.filterMap_map] at hu
  obtain ⟨r, hr, he⟩ := List.mem_filterMap.1 hu
  refine ⟨r, hr, ?_⟩
  simp only [Function.comp_apply, roleOf] at he
  cases hp : r.purpose with
  | none => simp [hp] at he
  | some v => simpa [hp] using he

theorem getRight?_injective (a b : InstanceId ⊕ TimerPurpose) (u : TimerPurpose)
    (ha : u ∈ a.getRight?) (hb : u ∈ b.getRight?) : a = b := by
  rw [Option.mem_def, Sum.getRight?_eq_some_iff] at ha hb
  rw [ha, hb]

/-! ## The census -/

/-- At most one timer in each role, and no others. -/
structure Census (p : TimerPool) : Prop where
  coherent : p.Coherent
  limits : p.limits = {}
  lost : p.lost = 0
  single : (p.requests.map (roleOf ·.toTimerSpec)).Nodup
  known : ∀ r ∈ p.requests, roleOf r.toTimerSpec ∈ roles
  oneShot : ∀ r ∈ p.requests, r.purpose.isSome = true → r.oneShot = true

namespace Census

variable {p q : TimerPool}

theorem empty : Census (.empty {}) where
  coherent := coherent_empty {}
  limits := rfl
  lost := rfl
  single := .nil
  known r hr := by cases hr
  oneShot r hr := by cases hr

theorem subperm (hp : Census p) : (p.requests.map (roleOf ·.toTimerSpec)).Subperm roles := by
  apply hp.single.subperm
  intro role hrole
  obtain ⟨r, hr, rfl⟩ := List.mem_map.1 hrole
  exact hp.known r hr

theorem size_le (hp : Census p) : p.size ≤ 6 := by
  have h := hp.subperm.length_le
  rwa [List.length_map] at h

/-- Requests that are for the same purpose are one. -/
theorem eq_of_purpose (hp : Census p) {a b : TimerRequest} {u : TimerPurpose}
    (ha : a ∈ p.requests) (hb : b ∈ p.requests) (hau : a.purpose = some u)
    (hbu : b.purpose = some u) : a = b := by
  apply List.inj_on_of_nodup_map hp.single ha hb
  simp only [roleOf, hau, hbu]

theorem shed (hp : Census p) {out : TimerRequest → Bool} (hs : Sheds p out q)
    (hlost : q.lost = p.lost) : Census q where
  coherent := hs.coherent
  limits := hs.kept.limits.trans hp.limits
  lost := hlost.trans hp.lost
  single := by
    rw [hs.requests]
    exact (List.filter_sublist.map _).nodup hp.single
  known r hr := hp.known r (hs.mem.1 hr).1
  oneShot r hr := hp.oneShot r (hs.mem.1 hr).1

/-- A role in which there is no timer yet can be filled. -/
theorem set (hp : Census p) {s : TimerSpec} (hs : s.WellFormed) (hrole : roleOf s ∈ roles)
    (hfree : ∀ r ∈ p.requests, roleOf r.toTimerSpec ≠ roleOf s)
    (honce : s.purpose.isSome = true → s.oneShot = true) (now : Nat) :
    ∃ x q, p.set now s = .ok (x, q) ∧ p.Admits now s x q ∧ Census q := by
  have hsize := hp.size_le
  have hadmitted : p.refusal? s.owner = none := by
    have hlimits : p.limits.system = 32 ∧ p.limits.nanoapp = 32 ∧ p.limits.requests = 64 ∧
        p.limits.floor = 4 := by
      rw [hp.limits]
      decide
    have hall := hp.coherent.size_eq
    cases ho : s.owner.isSystem with
    | true =>
      rw [refusal?_system_eq_none ho]
      omega
    | false =>
      rw [refusal?_nanoapp_eq_none ho]
      omega
  obtain ⟨x, q, hset⟩ := exists_set_eq_ok hp.coherent (by omega) hs hadmitted now
  have ha := set_eq_ok hp.coherent hset
  refine ⟨x, q, hset, ha, ha.coherent, ha.limits.trans hp.limits, ?_, ?_, ?_, ?_⟩
  · exact (lost_of_set hset).trans hp.lost
  · rw [ha.requests, ((place_perm _ _).map _).nodup_iff, List.map_cons, List.nodup_cons]
    refine ⟨fun hm => ?_, hp.single⟩
    obtain ⟨r, hr, he⟩ := List.mem_map.1 hm
    exact hfree r hr he
  · intro r hr
    rcases ha.mem.1 hr with rfl | hr
    · exact hrole
    · exact hp.known r hr
  · intro r hr hu
    rcases ha.mem.1 hr with rfl | hr
    · exact honce hu
    · exact hp.oneShot r hr hu

variable {now : Nat} {fired : List TimerRequest}

theorem serve (hp : Census p) (hs : Serves now p fired q) : Census q where
  coherent := hs.coherent
  limits := hs.kept.1.trans hp.limits
  lost := hs.lost.trans hp.lost
  single := nodup_of_subperm (hs.map_subperm roleOf) hp.single
  known r hr := by
    obtain ⟨a, ha, -, hspec⟩ := hs.remains r hr
    exact hspec ▸ hp.known a ha
  oneShot r hr hu := by
    obtain ⟨a, ha, -, hspec⟩ := hs.remains r hr
    have ho := hp.oneShot a ha
    have hpurpose : a.purpose = r.purpose := congrArg TimerSpec.purpose hspec
    have hshot : a.oneShot = r.oneShot := congrArg TimerSpec.oneShot hspec
    rw [hpurpose, hshot] at ho
    exact ho hu

/-- The alarm is none of it. -/
theorem hush (hp : Census p) (hardware : Alarm Unit) : Census { p with hardware } :=
  { hp with coherent := hp.coherent.hush hardware p.lost }

theorem totalCost_fired (hp : Census p) (hf : fired.Subperm p.requests) :
    totalCost (fired.map (·.notice)) + 1 ≤ allowance := by
  have hroles := (subperm_map hf (roleOf ·.toTimerSpec)).trans hp.subperm
  obtain ⟨l, hl, hsub⟩ := subperm_map hroles roleCost
  have hsum : l.sum ≤ (roles.map roleCost).sum := hsub.sum_le_sum fun _ _ => Nat.zero_le _
  rw [hl.sum_eq, List.map_map] at hsum
  have heq : (fired.map (·.notice)).map cost =
      fired.map (roleCost ∘ fun r => roleOf r.toTimerSpec) := by
    rw [List.map_map]
    exact List.map_congr_left fun r _ => cost_notice r
  rw [totalCost, heq, ← roleCost_roles]
  exact Nat.succ_le_succ hsum

theorem told_fired_nodup (hp : Census p) (hf : fired.Subperm p.requests) :
    (told (fired.map (·.notice))).Nodup := by
  rw [told_notices]
  exact (nodup_of_subperm (subperm_map hf _) hp.single).filterMap getRight?_injective

end Census

end Demo

end ContextHub
