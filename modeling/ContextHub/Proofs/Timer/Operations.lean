import ContextHub.Proofs.Timer.Coherent
/-!
# Operations on coherent pools

Each operation on a coherent pool, said in terms of the requests alone, and that the pool stays
coherent. A removal leaves `without`, an admission `newRequest`; the alarm is nobody's concern here.
-/

namespace ContextHub.TimerPool

/-! ## Placing -/

theorem place_perm (r : TimerRequest) (l : List TimerRequest) : (place r l).Perm (r :: l) := by
  induction l with
  | nil => exact .refl _
  | cons x l ih =>
    simp only [place]
    split
    · exact .refl _
    · exact (ih.cons x).trans (.swap r x l)

theorem mem_place {a r : TimerRequest} {l : List TimerRequest} :
    a ∈ place r l ↔ a = r ∨ a ∈ l := by
  rw [(place_perm r l).mem_iff, List.mem_cons]

/-- What is numbered last goes behind all that fall due no later. -/
theorem place_ordered {r : TimerRequest} {l : List TimerRequest}
    (hl : l.Pairwise TimerRequest.Before) (hr : ∀ a ∈ l, a.seq < r.seq) :
    (place r l).Pairwise TimerRequest.Before := by
  induction l with
  | nil => exact List.pairwise_singleton _ _
  | cons x l ih =>
    obtain ⟨hx, hl'⟩ := List.pairwise_cons.1 hl
    simp only [place]
    split
    · rename_i hlt
      have hrx : r.Before x := Or.inl hlt
      refine List.pairwise_cons.2 ⟨?_, hl⟩
      intro a ha
      rcases List.mem_cons.1 ha with rfl | ha
      · exact hrx
      · exact hrx.trans (hx a ha)
    · rename_i hge
      have hs := hr x List.mem_cons_self
      have hxr : x.Before r := by unfold TimerRequest.Before; omega
      refine List.pairwise_cons.2 ⟨?_, ih hl' fun a ha => hr a (List.mem_cons_of_mem x ha)⟩
      intro a ha
      rcases mem_place.1 ha with rfl | ha
      · exact hxr
      · exact hx a ha

/-- What a filter drops leaves no trace of having been placed. -/
theorem filter_place {f : TimerRequest → Bool} {r : TimerRequest} (hr : f r = false)
    (l : List TimerRequest) : (place r l).filter f = l.filter f := by
  induction l with
  | nil => simp [place, hr]
  | cons x l ih =>
    simp only [place]
    split
    · rw [List.filter_cons_of_neg (by simp [hr])]
    · rw [List.filter_cons, List.filter_cons, ih]

/-! ## The index -/

theorem lookup_cons_ite {κ : Type} (h i : TimerHandle) (k : κ) (l : List (TimerHandle × κ)) :
    ((i, k) :: l).lookup h = if h = i then some k else l.lookup h := by
  by_cases e : h = i
  · rw [if_pos e, e, List.lookup_cons_self]
  · rw [if_neg e, List.lookup_cons, beq_eq_false_iff_ne.2 e]

theorem lookup_filter_ne {κ : Type} (l : List (TimerHandle × κ)) (h h' : TimerHandle) :
    (l.filter (·.1 != h)).lookup h' = if h' = h then none else l.lookup h' := by
  induction l with
  | nil => simp
  | cons x l ih =>
    obtain ⟨i, k⟩ := x
    by_cases hi : i = h
    · rw [List.filter_cons_of_neg (by simp [hi]), ih, lookup_cons_ite, hi]
      split <;> rfl
    · rw [List.filter_cons_of_pos (by simp [hi]), lookup_cons_ite, lookup_cons_ite, ih]
      by_cases e : h' = i
      · rw [if_pos e, if_neg fun e' => hi (e ▸ e'), if_pos e]
      · rw [if_neg e, if_neg e]

/-! ## Inserting -/

/-- What a request needs, so that a pool may take it in. -/
structure Fits (p : TimerPool) (r : TimerRequest) : Prop where
  valid : r.handle.isValid = true
  fresh : ∀ a ∈ p.requests, a.handle ≠ r.handle
  periodic : r.oneShot = false → 0 < r.duration
  timely : r.expiration ≤ Nanos.last
  owned : r.owner.isSystem = r.purpose.isSome
  below : p.wrapped = false → r.handle.val < p.issued

theorem insert_perm (p : TimerPool) (r : TimerRequest) :
    (p.insert r).requests.Perm ({ r with seq := p.nextSeq } :: p.requests) :=
  place_perm _ _

theorem mem_insert {p : TimerPool} {a r : TimerRequest} :
    a ∈ (p.insert r).requests ↔ a = { r with seq := p.nextSeq } ∨ a ∈ p.requests :=
  mem_place

theorem forall_mem_insert {p : TimerPool} {r : TimerRequest} {P : TimerRequest → Prop} :
    (∀ a ∈ (p.insert r).requests, P a) ↔
      P { r with seq := p.nextSeq } ∧ ∀ a ∈ p.requests, P a := by
  simp only [mem_insert, forall_eq_or_imp]

theorem key?_insert (p : TimerPool) (r : TimerRequest) (h : TimerHandle) :
    (p.insert r).key? h = if h = r.handle then some (r.expiration, p.nextSeq) else p.key? h := by
  simp only [key?, insert, lookup_cons_ite, lookup_filter_ne]
  by_cases e : h = r.handle
  · rw [if_pos e, if_pos e]
    rfl
  · rw [if_neg e, if_neg e, if_neg e]

theorem Coherent.insert {p : TimerPool} (hp : p.Coherent) {r : TimerRequest} (hr : p.Fits r) :
    (p.insert r).Coherent where
  ordered := place_ordered hp.ordered hp.numbered
  numbered := forall_mem_insert.2
    ⟨Nat.lt_succ_self _, fun a ha => Nat.lt_succ_of_lt (hp.numbered a ha)⟩
  indexed := by
    intro h k
    rw [key?_insert]
    split
    · rename_i e
      subst e
      constructor
      · intro hk
        exact ⟨_, mem_insert.2 (.inl rfl), rfl, Option.some.inj hk⟩
      · rintro ⟨a, ha, hh, hk⟩
        rcases mem_insert.1 ha with rfl | ha
        · rw [← hk]
          rfl
        · exact absurd hh (hr.fresh a ha)
    · rename_i e
      rw [hp.indexed]
      constructor
      · rintro ⟨a, ha, hh, hk⟩
        exact ⟨a, mem_insert.2 (.inr ha), hh, hk⟩
      · rintro ⟨a, ha, hh, hk⟩
        rcases mem_insert.1 ha with rfl | ha
        · exact absurd hh.symm e
        · exact ⟨a, ha, hh, hk⟩
  valid := forall_mem_insert.2 ⟨hr.valid, hp.valid⟩
  periodic := forall_mem_insert.2 ⟨hr.periodic, hp.periodic⟩
  timely := forall_mem_insert.2 ⟨hr.timely, hp.timely⟩
  owned := forall_mem_insert.2 ⟨hr.owned, hp.owned⟩
  counted := by
    rw [((insert_perm p r).filter _).length_eq]
    simp only [TimerPool.insert, hp.counted]
    by_cases hs : r.owner.isSystem
    · simp [hs]
    · simp [hs]
  counter := hp.counter
  below hw := forall_mem_insert.2 ⟨hr.below hw, hp.below hw⟩

/-! ## Removing -/

/-- The pool without one of its requests. -/
def without (p : TimerPool) (r : TimerRequest) : TimerPool :=
  { p with
    requests := p.requests.filter (·.handle != r.handle)
    index := p.index.filter (·.1 != r.handle)
    nanoappCount := if r.owner.isSystem then p.nanoappCount else p.nanoappCount - 1 }

theorem mem_without {p : TimerPool} {a r : TimerRequest} :
    a ∈ (p.without r).requests ↔ a ∈ p.requests ∧ a.handle ≠ r.handle := by
  simp only [without, List.mem_filter, bne_iff_ne]

section

variable {p : TimerPool} (hp : p.Coherent)

include hp

theorem remove?_eq_some_iff {h : TimerHandle} {r : TimerRequest} {q : TimerPool} :
    p.remove? h = some (r, q) ↔ r ∈ p.requests ∧ r.handle = h ∧ q = p.without r := by
  simp only [remove?, Option.map_eq_some_iff, Prod.mk.injEq, ↓existsAndEq, true_and,
    find?_eq_some_iff hp]
  constructor
  · rintro ⟨⟨hr, rfl⟩, rfl⟩
    exact ⟨hr, rfl, by rw [without, ← filter_key_eq hp hr]⟩
  · rintro ⟨hr, rfl, rfl⟩
    exact ⟨⟨hr, rfl⟩, by rw [without, ← filter_key_eq hp hr]⟩

theorem without_perm {r : TimerRequest} (hr : r ∈ p.requests) :
    p.requests.Perm (r :: (p.without r).requests) := by
  have he : (p.without r).requests = p.requests.erase r := by
    rw [hp.nodup.erase_eq_filter]
    refine List.filter_congr fun a ha => ?_
    by_cases e : a = r
    · rw [e, bne_self_eq_false, bne_self_eq_false]
    · rw [bne_iff_ne.2 e, bne_iff_ne.2 fun h => e (hp.eq_of_handle ha hr h)]
  rw [he]
  exact List.perm_cons_erase hr

/-- The front is what falls due first. -/
theorem without_front {r : TimerRequest} {rest : List TimerRequest} (h : p.requests = r :: rest) :
    (p.without r).requests = rest := by
  have hr : r ∈ p.requests := h ▸ List.mem_cons_self
  have hrest : ∀ a ∈ rest, a.handle ≠ r.handle := by
    intro a ha e
    have := hp.eq_of_handle (h ▸ List.mem_cons_of_mem r ha) hr e
    exact (List.nodup_cons.1 (h ▸ hp.nodup)).1 (this ▸ ha)
  simp only [without, h, List.filter_cons, bne_self_eq_false, Bool.false_eq_true, ↓reduceIte]
  exact List.filter_eq_self.2 fun a ha => bne_iff_ne.2 (hrest a ha)

theorem Coherent.without {r : TimerRequest} (hr : r ∈ p.requests) : (p.without r).Coherent where
  ordered := hp.ordered.filter _
  numbered a ha := hp.numbered a (mem_without.1 ha).1
  indexed := by
    intro h k
    have hl := lookup_filter_ne p.index r.handle h
    by_cases e : h = r.handle
    · rw [if_pos e] at hl
      rw [key?, TimerPool.without, hl]
      simp only [reduceCtorEq, false_iff]
      rintro ⟨a, ha, rfl, -⟩
      exact (mem_without.1 ha).2 e
    · rw [if_neg e] at hl
      rw [key?, TimerPool.without, hl, ← key?, hp.indexed]
      constructor
      · rintro ⟨a, ha, rfl, hk⟩
        exact ⟨a, mem_without.2 ⟨ha, e⟩, rfl, hk⟩
      · rintro ⟨a, ha, rfl, hk⟩
        exact ⟨a, (mem_without.1 ha).1, rfl, hk⟩
  valid a ha := hp.valid a (mem_without.1 ha).1
  periodic a ha := hp.periodic a (mem_without.1 ha).1
  timely a ha := hp.timely a (mem_without.1 ha).1
  owned a ha := hp.owned a (mem_without.1 ha).1
  counted := by
    have hl := ((without_perm hp hr).filter (!·.owner.isSystem)).length_eq
    rw [← hp.counted] at hl
    by_cases hs : r.owner.isSystem
    · simp only [List.filter_cons, hs, Bool.not_true, Bool.false_eq_true, ↓reduceIte] at hl
      simp only [TimerPool.without, hs, ↓reduceIte] at hl ⊢
      exact hl
    · simp only [List.filter_cons, hs, Bool.not_false, ↓reduceIte, List.length_cons] at hl
      simp only [TimerPool.without, hs, Bool.false_eq_true, ↓reduceIte] at hl ⊢
      omega
  counter := hp.counter
  below hw a ha := hp.below hw a (mem_without.1 ha).1

end

/-- What removals and the alarm leave alone. -/
structure Kept (p q : TimerPool) : Prop where
  limits : q.limits = p.limits
  nextSeq : q.nextSeq = p.nextSeq
  lastHandle : q.lastHandle = p.lastHandle
  wrapped : q.wrapped = p.wrapped

theorem Kept.refl (p : TimerPool) : Kept p p := ⟨rfl, rfl, rfl, rfl⟩

theorem Kept.trans {p q r : TimerPool} (h : Kept p q) (h' : Kept q r) : Kept p r :=
  ⟨h'.limits.trans h.limits, h'.nextSeq.trans h.nextSeq, h'.lastHandle.trans h.lastHandle,
    h'.wrapped.trans h.wrapped⟩

theorem without_kept (p : TimerPool) (r : TimerRequest) : Kept p (p.without r) :=
  ⟨rfl, rfl, rfl, rfl⟩

theorem rearm_kept (p : TimerPool) (now : Nat) : Kept p (p.rearm now) := ⟨rfl, rfl, rfl, rfl⟩

/-- What a removal of requests does: those that satisfy `out` are gone. -/
structure Sheds (p : TimerPool) (out : TimerRequest → Bool) (q : TimerPool) : Prop where
  requests : q.requests = p.requests.filter fun r => !out r
  coherent : q.Coherent
  kept : Kept p q

theorem Sheds.mem {p q : TimerPool} {out : TimerRequest → Bool} (h : Sheds p out q)
    {r : TimerRequest} : r ∈ q.requests ↔ r ∈ p.requests ∧ out r = false := by
  rw [h.requests, List.mem_filter, Bool.not_eq_true']

theorem Sheds.congr {p q : TimerPool} {out out' : TimerRequest → Bool} (h : Sheds p out q)
    (he : ∀ r ∈ p.requests, out r = out' r) : Sheds p out' q :=
  ⟨h.requests.trans (List.filter_congr fun r hr => by rw [he r hr]), h.coherent, h.kept⟩

/-- One removal and then another. -/
theorem Sheds.trans {p q q' : TimerPool} {out out' : TimerRequest → Bool} (h : Sheds p out q)
    (h' : Sheds q out' q') : Sheds p (fun r => out r || out' r) q' := by
  refine ⟨?_, h'.coherent, h.kept.trans h'.kept⟩
  rw [h'.requests, h.requests, List.filter_filter]
  refine List.filter_congr fun r _ => ?_
  rw [Bool.not_or, Bool.and_comm]

theorem Sheds.rearm {p q : TimerPool} {out : TimerRequest → Bool} (h : Sheds p out q) (now : Nat) :
    Sheds p out (q.rearm now) :=
  ⟨h.requests, h.coherent.rearm now, h.kept.trans (rearm_kept q now)⟩

theorem Sheds.rearmIfMoved {p q : TimerPool} {out : TimerRequest → Bool} (h : Sheds p out q)
    (before : Option TimerHandle) (now : Nat) : Sheds p out (q.rearmIfMoved before now) := by
  unfold TimerPool.rearmIfMoved
  split
  · exact h
  · exact h.rearm now

section

variable {p : TimerPool} (hp : p.Coherent)

include hp

theorem remove_sheds (h : TimerHandle) : Sheds p (·.handle == h) (p.remove h) := by
  unfold remove
  cases hr : p.remove? h with
  | none =>
    have hnone : ∀ r ∈ p.requests, r.handle ≠ h := by
      rw [remove?, Option.map_eq_none_iff] at hr
      exact (find?_eq_none_iff hp).1 hr
    refine ⟨?_, hp, .refl p⟩
    exact (List.filter_eq_self.2 fun r hr => by simp [hnone r hr]).symm
  | some x =>
    obtain ⟨r, q⟩ := x
    obtain ⟨hm, rfl, rfl⟩ := (remove?_eq_some_iff hp).1 hr
    exact ⟨rfl, hp.without hm, without_kept p r⟩

theorem cancel?_eq_some {now : Nat} {owner : InstanceId} {h : TimerHandle} {q : TimerPool}
    (hc : p.cancel? now owner h = some q) :
    (∃ r ∈ p.requests, r.handle = h ∧ r.owner = owner) ∧ Sheds p (·.handle == h) q := by
  unfold cancel? at hc
  split at hc
  · split at hc
    · cases hc
    · rename_i r hf
      split at hc
      · rename_i ho
        obtain ⟨hr, hh⟩ := (find?_eq_some_iff hp).1 hf
        refine ⟨⟨r, hr, hh, ho⟩, ?_⟩
        split at hc
        · rw [← Option.some.inj hc]
          exact (remove_sheds hp h).rearm now
        · rw [← Option.some.inj hc]
          exact remove_sheds hp h
      · cases hc
  · cases hc

theorem cancel?_eq_none_iff {now : Nat} {owner : InstanceId} {h : TimerHandle} :
    p.cancel? now owner h = none ↔ ∀ r ∈ p.requests, r.handle = h → r.owner ≠ owner := by
  unfold cancel?
  constructor
  · intro hc r hr hh ho
    have hf := (find?_eq_some_iff hp).2 ⟨hr, hh⟩
    have hv := hp.valid r hr
    rw [hh] at hv
    rw [if_pos hv, hf] at hc
    simp [ho] at hc
  · intro hno
    split
    · split
      · rfl
      · rename_i r hf
        obtain ⟨hr, hh⟩ := (find?_eq_some_iff hp).1 hf
        rw [if_neg (hno r hr hh)]
    · rfl

theorem foldl_remove_sheds (hs : List TimerHandle) :
    Sheds p (fun r => hs.contains r.handle) (hs.foldl remove p) := by
  induction hs generalizing p with
  | nil => exact ⟨(List.filter_eq_self.2 fun r _ => by simp).symm, hp, .refl p⟩
  | cons h hs ih =>
    have h₁ := remove_sheds hp h
    have h₂ := ih h₁.coherent
    refine ⟨?_, h₂.coherent, h₁.kept.trans h₂.kept⟩
    rw [List.foldl_cons, h₂.requests, h₁.requests, List.filter_filter]
    refine List.filter_congr fun r _ => ?_
    rw [List.contains_cons, Bool.not_or, Bool.and_comm]

theorem cancelAllOwnedBy_sheds (now : Nat) (owner : InstanceId) :
    (p.cancelAllOwnedBy now owner).1 = p.heldBy owner ∧
      Sheds p (·.owner == owner) (p.cancelAllOwnedBy now owner).2 := by
  refine ⟨List.length_map _, Sheds.rearmIfMoved ?_ _ now⟩
  have hs := foldl_remove_sheds hp ((p.ownedBy owner).map (·.handle))
  refine ⟨hs.requests.trans (List.filter_congr fun r hr => ?_), hs.coherent, hs.kept⟩
  rw [Bool.not_inj_iff, Bool.eq_iff_iff, List.contains_iff_mem, List.mem_map]
  constructor
  · rintro ⟨a, ha, he⟩
    obtain ⟨ha, ho⟩ := List.mem_filter.1 ha
    rwa [← hp.eq_of_handle ha hr he]
  · intro ho
    exact ⟨r, List.mem_filter.2 ⟨hr, ho⟩, rfl⟩

/-! ## The front -/

theorem popDue?_eq_none_iff {now : Nat} :
    p.popDue? now = none ↔ ∀ r ∈ p.requests, now < r.expiration := by
  unfold popDue? front?
  cases hl : p.requests with
  | nil => simp
  | cons r rest =>
    have hr : r ∈ p.requests := hl ▸ List.mem_cons_self
    simp only [List.head?_cons]
    split
    · rename_i hd
      rw [(remove?_eq_some_iff hp).2 ⟨hr, rfl, rfl⟩]
      simp only [reduceCtorEq, false_iff]
      intro h
      exact absurd (h r List.mem_cons_self) (Nat.not_lt.2 hd)
    · rename_i hd
      simp only [true_iff]
      intro a ha
      rcases List.mem_cons.1 ha with rfl | ha
      · omega
      · have := List.rel_of_pairwise_cons (hl ▸ hp.ordered) ha
        unfold TimerRequest.Before at this
        omega

theorem popDue?_eq_some {now : Nat} {r : TimerRequest} {q : TimerPool}
    (h : p.popDue? now = some (r, q)) :
    r.expiration ≤ now ∧ (∃ rest, p.requests = r :: rest) ∧ q = p.without r := by
  unfold popDue? front? at h
  cases hl : p.requests with
  | nil => simp [hl] at h
  | cons a rest =>
    rw [hl, List.head?_cons] at h
    simp only at h
    split at h
    · rename_i hd
      obtain ⟨hr, he, rfl⟩ := (remove?_eq_some_iff hp).1 h
      have ha : a ∈ p.requests := hl ▸ List.mem_cons_self
      have := hp.eq_of_handle hr ha he
      subst this
      exact ⟨hd, ⟨rest, rfl⟩, rfl⟩
    · cases h

end

/-! ## Handles -/

/-- Fewer handles were issued than there are. -/
def HandlesLeft (p : TimerPool) : Prop := p.wrapped = false ∧ p.lastHandle.succ.isValid = true

instance (p : TimerPool) : Decidable p.HandlesLeft := inferInstanceAs (Decidable (_ ∧ _))

theorem isValid_iff {h : TimerHandle} : h.isValid = true ↔ h.val ≠ 4294967295 := by
  rw [TimerHandle.isValid, bne_iff_ne, TimerHandle.invalid]
  constructor
  · intro hne e
    exact hne (by cases h; rw [← e])
  · rintro hne rfl
    exact hne rfl

theorem Kept.issued {p q : TimerPool} (h : Kept p q) : q.issued = p.issued := by
  rw [TimerPool.issued, h.lastHandle, ← TimerPool.issued]

theorem Kept.handlesLeft {p q : TimerPool} (h : Kept p q) : q.HandlesLeft ↔ p.HandlesLeft := by
  rw [HandlesLeft, HandlesLeft, h.wrapped, h.lastHandle]

theorem freeHandle?_eq_some {p : TimerPool} {n : Nat} {h h' : TimerHandle}
    (hf : p.freeHandle? h n = some h') :
    h'.isValid = true ∧ p.key? h' = none ∧ h'.val < 4294967296 := by
  induction n generalizing h with
  | zero => cases hf
  | succ n ih =>
    simp only [freeHandle?] at hf
    split at hf
    · rename_i hg
      rw [Bool.and_eq_true, Option.isNone_iff_eq_none] at hg
      obtain rfl := Option.some.inj hf
      exact ⟨hg.1, hg.2, Nat.mod_lt _ (by omega)⟩
    · exact ih hf

/-- A new handle is valid and in use by nobody. -/
theorem newHandle?_eq_some {p : TimerPool} (hp : p.Coherent) {h : TimerHandle} {wrapped : Bool}
    (hn : p.newHandle? = some (h, wrapped)) :
    h.isValid = true ∧ (∀ r ∈ p.requests, r.handle ≠ h) ∧ h.val < 4294967296 ∧
      (wrapped = false → p.HandlesLeft ∧ h = p.lastHandle.succ) := by
  unfold newHandle? at hn
  split at hn
  · obtain ⟨h', hf, he⟩ := Option.map_eq_some_iff.1 hn
    obtain ⟨rfl, rfl⟩ := Prod.mk.inj he
    obtain ⟨hv, hk, hlt⟩ := freeHandle?_eq_some hf
    exact ⟨hv, (key?_eq_none_iff hp).1 hk, hlt, by simp⟩
  · rename_i hw
    simp only [Bool.or_eq_true, Bool.not_eq_true', not_or, Bool.not_eq_true,
      Bool.not_eq_false] at hw
    obtain ⟨rfl, rfl⟩ := Prod.mk.inj (Option.some.inj hn)
    refine ⟨hw.2, ?_, Nat.mod_lt _ (by omega), fun _ => ⟨hw, rfl⟩⟩
    intro r hr e
    have := hp.below hw.1 r hr
    rw [issued, ← e] at this
    exact Nat.lt_irrefl _ this

theorem newHandle?_of_handlesLeft {p : TimerPool} (h : p.HandlesLeft) :
    p.newHandle? = some (p.lastHandle.succ, false) := by
  unfold newHandle?
  rw [if_neg]
  simp [h.1, h.2]

/-! ## Setting -/

/-- The request that a specification becomes when it is admitted under a handle. -/
def newRequest (p : TimerPool) (now : Nat) (s : TimerSpec) (h : TimerHandle) : TimerRequest :=
  { s with
    duration := Nanos.clamp s.duration
    handle := h
    expiration := Nanos.after now (Nanos.clamp s.duration)
    seq := p.nextSeq }

/-- What an admission does. -/
structure Admits (p : TimerPool) (now : Nat) (s : TimerSpec) (h : TimerHandle) (q : TimerPool) :
    Prop where
  owned : s.owner.isSystem = s.purpose.isSome
  periodic : s.oneShot = false → 0 < s.duration
  allowed : p.refusal? s.owner = none
  valid : h.isValid = true
  fresh : ∀ r ∈ p.requests, r.handle ≠ h
  requests : q.requests = place (p.newRequest now s h) p.requests
  nextSeq : q.nextSeq = p.nextSeq + 1
  limits : q.limits = p.limits
  unwrapped : q.wrapped = false → p.HandlesLeft ∧ h.val = p.issued ∧ q.issued = p.issued + 1
  coherent : q.Coherent

theorem Admits.mem {p q : TimerPool} {now : Nat} {s : TimerSpec} {h : TimerHandle}
    (ha : p.Admits now s h q) {r : TimerRequest} :
    r ∈ q.requests ↔ r = p.newRequest now s h ∨ r ∈ p.requests := by
  rw [ha.requests, mem_place]

theorem Admits.rearmIfMoved {p q : TimerPool} {now : Nat} {s : TimerSpec} {h : TimerHandle}
    (ha : p.Admits now s h q) (before : Option TimerHandle) (now' : Nat) :
    p.Admits now s h (q.rearmIfMoved before now') := by
  unfold TimerPool.rearmIfMoved
  split
  · exact ha
  · exact ⟨ha.1, ha.2, ha.3, ha.4, ha.5, ha.6, ha.7, ha.8, ha.9, ha.10.rearm now'⟩

theorem set_eq_ok {p q : TimerPool} (hp : p.Coherent) {now : Nat} {s : TimerSpec} {h : TimerHandle}
    (hs : p.set now s = .ok (h, q)) : p.Admits now s h q := by
  unfold set at hs
  simp only at hs
  split at hs
  · cases hs
  rename_i howned
  split at hs
  · cases hs
  rename_i hperiod
  split at hs
  · cases hs
  rename_i hallowed
  split at hs
  · cases hs
  rename_i h' wrapped hn
  obtain ⟨rfl, rfl⟩ := Prod.mk.inj (Except.ok.inj hs)
  obtain ⟨hv, hfresh, hlt, hunwrapped⟩ := newHandle?_eq_some hp hn
  have hperiod' : s.oneShot = false → 0 < Nanos.clamp s.duration := by
    intro ho
    simp only [ho, Bool.not_false, Bool.true_and, beq_iff_eq] at hperiod
    omega
  -- the handle counter moves first, so the pool that takes the request in is coherent already
  have hq : ({ p with lastHandle := h', wrapped } : TimerPool).Coherent :=
    { hp with
      counter := hlt
      below := by
        intro hw r hr
        obtain ⟨hl, rfl⟩ := hunwrapped hw
        have h₁ := hp.below hl.1 r hr
        have h₂ := isValid_iff.1 hv
        simp only [issued, TimerHandle.succ] at h₁ h₂ ⊢
        omega }
  apply Admits.rearmIfMoved
  refine ⟨not_not.1 howned, ?_, hallowed, hv, hfresh, rfl, rfl, rfl, ?_, ?_⟩
  · intro ho
    have := hperiod' ho
    simp only [Nanos.clamp] at this
    omega
  · intro hw
    obtain ⟨hl, rfl⟩ := hunwrapped hw
    have := isValid_iff.1 hv
    refine ⟨hl, rfl, ?_⟩
    simp only [insert, issued, TimerHandle.succ] at this ⊢
    omega
  · refine hq.insert ⟨hv, hfresh, hperiod', Nanos.after_le_last _ _, not_not.1 howned, ?_⟩
    intro hw
    obtain ⟨hl, rfl⟩ := hunwrapped hw
    have := isValid_iff.1 hv
    simp only [issued, TimerHandle.succ] at this ⊢
    omega

/-- While handles are left they are issued one after another. -/
theorem set_unwrapped {p q : TimerPool} {now : Nat} {s : TimerSpec} {h : TimerHandle}
    (hl : p.HandlesLeft) (hs : p.set now s = .ok (h, q)) : q.wrapped = false := by
  unfold set at hs
  simp only [newHandle?_of_handlesLeft hl] at hs
  split at hs
  · cases hs
  split at hs
  · cases hs
  split at hs
  · cases hs
  obtain ⟨-, rfl⟩ := Prod.mk.inj (Except.ok.inj hs)
  unfold rearmIfMoved
  split <;> rfl

/-- A request of the system for one expiry fails only where its slots or the handles are used up. -/
theorem set_system_eq_error {p : TimerPool} {now duration : Nat} {purpose : TimerPurpose}
    {e : TimerError}
    (hs : p.set now { owner := .system, duration, purpose := some purpose } = .error e) :
    p.limits.system ≤ p.systemCount ∨ ¬ p.HandlesLeft := by
  unfold set at hs
  simp only at hs
  split at hs
  · rename_i h
    exact absurd rfl h
  split at hs
  · rename_i h
    simp at h
  split at hs
  · rename_i hr
    left
    unfold refusal? at hr
    simp only [InstanceId.isSystem, beq_self_eq_true, ↓reduceIte] at hr
    split at hr
    · assumption
    · cases hr
  · right
    intro hl
    rw [newHandle?_of_handlesLeft hl] at hs
    cases hs

/-! ## Counting -/

/-- How many requests of the system there are. -/
theorem Coherent.systemCount_eq {p : TimerPool} (hp : p.Coherent) :
    p.systemCount = (p.requests.filter (·.owner.isSystem)).length := by
  have h := List.length_eq_length_filter_add (l := p.requests) (·.owner.isSystem)
  rw [systemCount, size, hp.counted]
  omega

end ContextHub.TimerPool
