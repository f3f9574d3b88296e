import ContextHub.Proofs.Timer.Admission
/-!
# Handles that run through

There are fewer handles than a pool may ever set timers, so handles come back. `freeHandle?` passes
over the invalid one and over those in use, and the pool never holds so many that none is left. With
it the handles stay distinct and the index stays the inverse of the places in the pool, however
often the counter has gone round.
-/

namespace ContextHub.TimerPool

/-- The request at a place. -/
def at? (p : TimerPool) (k : Nat × Nat) : Option TimerRequest := p.requests.find? (·.key == k)

section

variable {limits : TimerLimits} {p : TimerPool}

theorem at?_eq_some_iff (hp : p.Coherent) {k : Nat × Nat} {r : TimerRequest} :
    p.at? k = some r ↔ r ∈ p.requests ∧ r.key = k := by
  constructor
  · intro h
    exact ⟨List.mem_of_find?_eq_some h, by simpa using List.find?_some h⟩
  · rintro ⟨hr, rfl⟩
    cases hf : p.at? r.key with
    | none =>
      have := List.find?_eq_none.1 hf r hr
      simp at this
    | some a =>
      have hk : a.key = r.key := by simpa using List.find?_some hf
      rw [hp.eq_of_key (List.mem_of_find?_eq_some hf) hr hk]

theorem Coherent.nodup_handles (hp : p.Coherent) : (p.requests.map (·.handle)).Nodup :=
  hp.nodup.map_on fun _ ha _ hb h => hp.eq_of_handle ha hb h

/-- As long as a pool holds few timers it has a handle for one more. -/
theorem Coherent.exists_newHandle (hp : p.Coherent) (hs : p.size < 4294967294) :
    ∃ h wrapped, p.newHandle? = some (h, wrapped) ∧ h.isValid = true ∧ p.key? h = none := by
  obtain ⟨⟨h, wrapped⟩, hn⟩ := Option.isSome_iff_exists.1 (newHandle?_isSome hp hs)
  obtain ⟨hv, hfresh, -⟩ := newHandle?_eq_some hp hn
  exact ⟨h, wrapped, hn, hv, (key?_eq_none_iff hp).2 hfresh⟩

theorem set_ne_handlesExhausted (hn : p.newHandle?.isSome = true) (now : Nat) (s : TimerSpec) :
    p.set now s ≠ .error .handlesExhausted := by
  obtain ⟨⟨h, wrapped⟩, hn⟩ := Option.isSome_iff_exists.1 hn
  intro hs
  unfold set at hs
  simp only [hn] at hs
  split at hs
  · cases hs
  split at hs
  · cases hs
  split at hs
  · rename_i hr
    unfold refusal? at hr
    split_ifs at hr <;> simp_all
  · cases hs

/-- However long a pool is used, and however often its handles run through: the timers in it have
distinct valid handles, the index and the places lead to each other, the count of nanoapp timers is
right, the system's timers are those with a purpose, and there is a handle for the next timer. -/
theorem handles_unique_and_indexed (hv : limits.faults = []) (hr : Reachable limits p) :
    (p.requests.map (·.handle)).Nodup ∧ (∀ r ∈ p.requests, r.handle ≠ .invalid) ∧
    (∀ r, r ∈ p.requests ↔ p.at? r.key = some r) ∧
    (∀ h k, p.key? h = some k ↔ ∃ r, p.at? k = some r ∧ r.handle = h) ∧
    (∀ h k, p.key? h = some k → ∃ r, p.find? h = some r ∧ k.1 = r.expiration) ∧
    p.nanoappCount = p.requests.countP (·.owner ≠ .system) ∧
    (∀ r ∈ p.requests, r.purpose.isSome = true ↔ r.owner = .system) ∧
    (∃ h wrapped, p.newHandle? = some (h, wrapped) ∧ h.isValid = true ∧ p.key? h = none) ∧
    ∀ now s, p.set now s ≠ .error .handlesExhausted := by
  have hp := hr.coherent
  have hsize := hr.size_lt hv
  refine ⟨hp.nodup_handles, ?_, ?_, ?_, ?_, ?_, ?_, hp.exists_newHandle hsize, ?_⟩
  · intro r hm
    simpa [TimerHandle.isValid] using hp.valid r hm
  · intro r
    rw [at?_eq_some_iff hp]
    simp
  · intro h k
    rw [hp.indexed]
    constructor
    · rintro ⟨r, hm, hh, hk⟩
      exact ⟨r, (at?_eq_some_iff hp).2 ⟨hm, hk⟩, hh⟩
    · rintro ⟨r, ha, hh⟩
      obtain ⟨hm, hk⟩ := (at?_eq_some_iff hp).1 ha
      exact ⟨r, hm, hh, hk⟩
  · intro h k hk
    obtain ⟨r, hm, hh, rfl⟩ := (hp.indexed h k).1 hk
    exact ⟨r, (find?_eq_some_iff hp).2 ⟨hm, hh⟩, rfl⟩
  · rw [hp.counted, List.countP_eq_length_filter]
    refine congrArg List.length (List.filter_congr fun r _ => ?_)
    rw [InstanceId.isSystem, decide_not, Bool.not_inj_iff, Bool.eq_iff_iff]
    simp
  · intro r hm
    rw [← hp.owned r hm]
    simp [InstanceId.isSystem]
  · exact set_ne_handlesExhausted (newHandle?_isSome hp hsize)

end

/-- The counter is moved to three before the invalid handle. The third timer from there gets the
handle 0, past the invalid one; with the counter moved back, the next gets 1, past the three that
are in use. -/
theorem handles_come_back : ({} : TimerLimits).faults = [] ∧
    ∃ p, Reachable {} p ∧ p.requests.map (·.handle.val) = [4294967293, 4294967294, 0, 1] ∧
      (p.requests.map (·.handle)).Nodup := by
  obtain ⟨q, hq, hw⟩ : ∃ q, ((empty {}).skipHandlesTo ⟨4294967292⟩).setAll? 0
      (List.replicate 3 { owner := ⟨1⟩, duration := 1 }) = some q ∧ q.wrapped = true :=
    ⟨_, rfl, rfl⟩
  have hq' : Reachable {} q :=
    (Reachable.start.skip ⟨4294967292⟩ (by decide) (.inr (by decide))).setAll hq
  obtain ⟨p, hp, hh⟩ : ∃ p,
      (q.skipHandlesTo ⟨4294967292⟩).setAll? 0 [{ owner := ⟨1⟩, duration := 1 }] = some p ∧
        p.requests.map (·.handle.val) = [4294967293, 4294967294, 0, 1] := by
    cases hq
    exact ⟨_, rfl, rfl⟩
  have hr : Reachable {} p := (hq'.skip ⟨4294967292⟩ (by decide) (.inl hw)).setAll hp
  exact ⟨by decide, p, hr, hh, (handles_unique_and_indexed (by decide) hr).1⟩

end ContextHub.TimerPool
