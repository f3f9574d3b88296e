import ContextHub.Timer.Pool
import Mathlib.Data.List.Lookmap
import Mathlib.Data.List.Nodup
import Mathlib.Data.List.Perm.Basic
/-!
# Coherent timer pools

A pool says the same thing several times: the requests in the order in which they fall due, an
index from handles to places in that order, a count of nanoapp timers, a counter of handles.
`Coherent p` says that the copies agree. Every operation keeps it, and under it a handle leads to
its request (`find?_eq_some_iff`) and the front is what is taken out first (`popDue?_eq_some`).
-/

namespace ContextHub

namespace TimerRequest

/-- `a` is served before `b`: it falls due earlier, or at the same time and was inserted
earlier. -/
def Before (a b : TimerRequest) : Prop :=
  a.expiration < b.expiration ∨ a.expiration = b.expiration ∧ a.seq < b.seq

theorem Before.trans {a b c : TimerRequest} (h : a.Before b) (h' : b.Before c) : a.Before c := by
  unfold Before at *; omega

theorem Before.key_ne {a b : TimerRequest} (h : a.Before b) : a.key ≠ b.key := by
  intro e
  simp only [key, Prod.mk.injEq] at e
  unfold Before at h
  omega

end TimerRequest

namespace TimerPool

/-- How many handles were issued, as long as they have not run through. -/
def issued (p : TimerPool) : Nat := p.lastHandle.succ.val

/-- The copies of what the pool holds agree with each other. -/
structure Coherent (p : TimerPool) : Prop where
  ordered : p.requests.Pairwise TimerRequest.Before
  numbered : ∀ r ∈ p.requests, r.seq < p.nextSeq
  indexed : ∀ h k, p.key? h = some k ↔ ∃ r ∈ p.requests, r.handle = h ∧ r.key = k
  valid : ∀ r ∈ p.requests, r.handle.isValid = true
  periodic : ∀ r ∈ p.requests, r.oneShot = false → 0 < r.duration
  timely : ∀ r ∈ p.requests, r.expiration ≤ Nanos.last
  owned : ∀ r ∈ p.requests, r.owner.isSystem = r.purpose.isSome
  counted : p.nanoappCount = (p.requests.filter (!·.owner.isSystem)).length
  counter : p.lastHandle.val < 4294967296
  below : p.wrapped = false → ∀ r ∈ p.requests, r.handle.val < p.issued

theorem coherent_empty (limits : TimerLimits) : (empty limits).Coherent where
  ordered := .nil
  numbered := by simp [empty]
  indexed := by simp [empty, key?]
  valid := by simp [empty]
  periodic := by simp [empty]
  timely := by simp [empty]
  owned := by simp [empty]
  counted := rfl
  counter := by simp [empty, TimerHandle.invalid]
  below := by simp [empty]

theorem Coherent.rearm {p : TimerPool} (hp : p.Coherent) (now : Nat) : (p.rearm now).Coherent :=
  ⟨hp.1, hp.2, hp.3, hp.4, hp.5, hp.6, hp.7, hp.8, hp.9, hp.10⟩

/-! ## What a handle leads to -/

section

variable {p : TimerPool} (hp : p.Coherent)

include hp

theorem Coherent.eq_of_key {a b : TimerRequest} (ha : a ∈ p.requests) (hb : b ∈ p.requests)
    (h : a.key = b.key) : a = b := by
  have hn : (p.requests.map TimerRequest.key).Nodup := by
    rw [List.Nodup, List.pairwise_map]
    exact hp.ordered.imp TimerRequest.Before.key_ne
  exact List.inj_on_of_nodup_map hn ha hb h

theorem Coherent.eq_of_handle {a b : TimerRequest} (ha : a ∈ p.requests) (hb : b ∈ p.requests)
    (h : a.handle = b.handle) : a = b := by
  have ka := (hp.indexed a.handle a.key).2 ⟨a, ha, rfl, rfl⟩
  have kb := (hp.indexed a.handle b.key).2 ⟨b, hb, h.symm, rfl⟩
  rw [ka] at kb
  exact hp.eq_of_key ha hb (Option.some.inj kb)

theorem Coherent.nodup : p.requests.Nodup := by
  refine hp.ordered.imp ?_
  rintro a b h rfl
  exact h.key_ne rfl

theorem key?_eq_none_iff {h : TimerHandle} :
    p.key? h = none ↔ ∀ r ∈ p.requests, r.handle ≠ h := by
  rw [Option.eq_none_iff_forall_not_mem]
  constructor
  · intro hk r hr e
    exact hk r.key ((hp.indexed h r.key).2 ⟨r, hr, e, rfl⟩)
  · intro hk k hm
    obtain ⟨r, hr, e, -⟩ := (hp.indexed h k).1 hm
    exact hk r hr e

theorem find?_eq_some_iff {h : TimerHandle} {r : TimerRequest} :
    p.find? h = some r ↔ r ∈ p.requests ∧ r.handle = h := by
  constructor
  · intro hf
    obtain ⟨k, hk, hr⟩ := Option.bind_eq_some_iff.1 hf
    obtain ⟨a, ha, hah, hak⟩ := (hp.indexed h k).1 hk
    have hm := List.mem_of_find?_eq_some hr
    have hkey : r.key = k := by simpa using List.find?_some hr
    have : r = a := hp.eq_of_key hm ha (hkey.trans hak.symm)
    exact ⟨hm, this ▸ hah⟩
  · rintro ⟨hm, rfl⟩
    have hk := (hp.indexed r.handle r.key).2 ⟨r, hm, rfl, rfl⟩
    obtain ⟨a, ha⟩ : ∃ a, p.requests.find? (·.key == r.key) = some a := by
      rw [← Option.isSome_iff_exists, List.find?_isSome]
      exact ⟨r, hm, by simp⟩
    have hkey : a.key = r.key := by simpa using List.find?_some ha
    rw [find?, hk, Option.bind_some, ha, hp.eq_of_key (List.mem_of_find?_eq_some ha) hm hkey]

theorem find?_eq_none_iff {h : TimerHandle} :
    p.find? h = none ↔ ∀ r ∈ p.requests, r.handle ≠ h := by
  rw [Option.eq_none_iff_forall_not_mem]
  constructor
  · intro hf r hr e
    exact hf r ((find?_eq_some_iff hp).2 ⟨hr, e⟩)
  · intro hf r hm
    exact hf r ((find?_eq_some_iff hp).1 hm).1 ((find?_eq_some_iff hp).1 hm).2

/-- Taking requests out by their place takes them out by their handle. -/
theorem filter_key_eq {r : TimerRequest} (hr : r ∈ p.requests) :
    p.requests.filter (·.key != r.key) = p.requests.filter (·.handle != r.handle) := by
  refine List.filter_congr fun a ha => ?_
  by_cases e : a = r
  · simp [e]
  · have hk : a.key ≠ r.key := fun h => e (hp.eq_of_key ha hr h)
    have hh : a.handle ≠ r.handle := fun h => e (hp.eq_of_handle ha hr h)
    rw [bne_iff_ne.2 hk, bne_iff_ne.2 hh]

end

end TimerPool

end ContextHub
