import ContextHub.Proofs.Heap.Ledger
/-!
# Isolation of the heap's owners

`Call` is what anyone may ask of a heap, and `serveAll` what a sequence of calls leaves of it. A
call concerns its requester: what the others hold and their usage stay as they are (`serve_of_ne`).
The life of a block follows from its owner's calls alone: it is there until one of them gives it
back (`Call.givesBack`), it holds what they wrote into it (`contents`), and its number never comes
again (`serveAll_find?`).
-/

namespace ContextHub

namespace Heap

/-- What is asked of a heap. -/
inductive Call : Type 1
  | alloc (requester : InstanceId) (bytes : Nat)
  | free (requester : InstanceId) (ptr : Option HeapPtr)
  | freeAll (requester : InstanceId)
  | access (requester : InstanceId) (ptr : HeapPtr) {α : Type}
      (f : (n : Nat) → Vector UInt8 n → α × Vector UInt8 n)

namespace Call

def requester : Call → InstanceId
  | .alloc requester _ => requester
  | .free requester _ => requester
  | .freeAll requester => requester
  | .access requester _ _ => requester

/-- Whether the call gives back the block `ptr` of `owner`. -/
def givesBack (owner : InstanceId) (ptr : HeapPtr) : Call → Bool
  | .free requester p => requester == owner && p == some ptr
  | .freeAll requester => requester == owner
  | _ => false

/-- What the call makes of the contents of the block `ptr` of `owner`. -/
def write (owner : InstanceId) (ptr : HeapPtr) {n : Nat} (v : Vector UInt8 n) :
    Call → Vector UInt8 n
  | .access requester p f => if requester = owner ∧ p = ptr then (f n v).2 else v
  | _ => v

end Call

/-- What a call leaves of a heap; a refused one leaves it as it is. -/
def serve (h : Heap) : Call → Heap
  | .alloc requester bytes => ((h.alloc requester bytes).toOption.map (·.2)).getD h
  | .free _ none => h
  | .free requester (some ptr) => (h.free requester ptr).toOption.getD h
  | .freeAll requester => (h.freeAllOwnedBy requester).2
  | .access requester ptr f => ((h.access requester ptr f).map (·.2)).getD h

def serveAll (h : Heap) (calls : List Call) : Heap := calls.foldl serve h

/-- What a new block of `owner` holds after some calls. -/
def contents (owner : InstanceId) (ptr : HeapPtr) (bytes : Nat) (calls : List Call) :
    Vector UInt8 bytes :=
  calls.foldl (Call.write owner ptr) (Vector.replicate bytes 0)

/-! ## What a call does -/

/-- The heap with the contents of the block `ptr` replaced. -/
def rewrite (h : Heap) (ptr : HeapPtr) (data : Array UInt8) : Heap :=
  { h with blocks := h.blocks.map fun x => if x.ptr = ptr then { x with data } else x }

/-- What comes of a call: nothing, if it names no block of its requester's, and else one of four
things with what its requester has. -/
inductive Served (h : Heap) : Call → Heap → Prop
  | idle {c : Call} (hgive : ∀ b ∈ h.blocks, c.givesBack b.owner b.ptr = false)
      (hwrite : ∀ b ∈ h.blocks, ∀ n (v : Vector UInt8 n), c.write b.owner b.ptr v = v) :
      Served h c h
  | alloc {owner : InstanceId} {bytes : Nat} (hr : h.refusal? bytes = none) :
      Served h (.alloc owner bytes) (h.insert owner bytes)
  | free {b : Block} (hb : b ∈ h.blocks) : Served h (.free b.owner (some b.ptr)) (h.release b)
  | freeAll (owner : InstanceId) : Served h (.freeAll owner) (h.freeAllOwnedBy owner).2
  | access {b : Block} (hb : b ∈ h.blocks) {α : Type}
      (f : (n : Nat) → Vector UInt8 n → α × Vector UInt8 n) :
      Served h (.access b.owner b.ptr f) (h.rewrite b.ptr (f b.size ⟨b.data, rfl⟩).2.toArray)

section

variable {h : Heap} (he : h.Exact)

include he

/-- An owner's access to its own block. -/
theorem access_of_mem {b : Block} (hb : b ∈ h.blocks) {α : Type}
    (f : (n : Nat) → Vector UInt8 n → α × Vector UInt8 n) :
    h.access b.owner b.ptr f =
      some ((f b.size ⟨b.data, rfl⟩).1, h.rewrite b.ptr (f b.size ⟨b.data, rfl⟩).2.toArray) := by
  rw [Heap.access, (find?_eq_some_iff he).2 ⟨hb, rfl⟩]
  exact if_pos rfl

/-- Nobody else has access to a block. -/
theorem access_eq_none {requester : InstanceId} {ptr : HeapPtr}
    (hno : ∀ b ∈ h.blocks, b.ptr = ptr → b.owner ≠ requester) {α : Type}
    (f : (n : Nat) → Vector UInt8 n → α × Vector UInt8 n) : h.access requester ptr f = none := by
  cases ha : h.access requester ptr f with
  | none => rfl
  | some r =>
    obtain ⟨⟨b, hb, hptr, hown⟩, -⟩ := he.access_eq_some ha
    exact absurd hown (hno b hb hptr)

theorem served_free (requester : InstanceId) (ptr : HeapPtr) :
    Served h (.free requester (some ptr)) (h.serve (.free requester (some ptr))) := by
  rw [serve]
  cases hf : h.free requester ptr with
  | ok h' =>
    obtain ⟨b, hb, rfl, rfl, rfl⟩ := he.free_eq_ok.1 hf
    exact .free hb
  | error e =>
    refine .idle (fun b hb => ?_) (fun _ _ _ _ => by rfl)
    -- had the call named a block of the requester's, it would have been freed
    simp only [Call.givesBack, Bool.and_eq_false_iff, beq_eq_false_iff_ne]
    by_cases hown : requester = b.owner
    · refine .inr fun hptr => ?_
      have hok := he.free_eq_ok.2 ⟨b, hb, (Option.some.inj hptr).symm, hown.symm, rfl⟩
      rw [hf] at hok
      cases hok
    · exact .inl hown

theorem served_access (requester : InstanceId) (ptr : HeapPtr) {α : Type}
    (f : (n : Nat) → Vector UInt8 n → α × Vector UInt8 n) :
    Served h (.access requester ptr f) (h.serve (.access requester ptr f)) := by
  rw [serve]
  by_cases hex : ∃ b ∈ h.blocks, b.ptr = ptr ∧ b.owner = requester
  · obtain ⟨b, hb, rfl, rfl⟩ := hex
    rw [access_of_mem he hb]
    exact .access hb f
  · have hno : ∀ b ∈ h.blocks, b.ptr = ptr → b.owner ≠ requester :=
      fun b hb hptr hown => hex ⟨b, hb, hptr, hown⟩
    rw [access_eq_none he hno]
    refine .idle (fun _ _ => by rfl) fun b hb n v => if_neg ?_
    rintro ⟨hown, hptr⟩
    exact hno b hb hptr.symm hown.symm

theorem served (c : Call) : Served h c (h.serve c) := by
  cases c with
  | alloc requester bytes =>
    rw [serve, Heap.alloc]
    cases hr : h.refusal? bytes with
    | none => exact .alloc hr
    | some e => exact .idle (fun _ _ => by rfl) fun _ _ _ _ => by rfl
  | free requester ptr =>
    cases ptr with
    | none => exact .idle (fun _ _ => by simp [Call.givesBack]) fun _ _ _ _ => by rfl
    | some ptr => exact served_free he requester ptr
  | freeAll requester => exact .freeAll requester
  | access requester ptr f => exact served_access he requester ptr f

theorem sameShape_rewrite {b : Block} (hb : b ∈ h.blocks) {data : Array UInt8}
    (hsize : data.size = b.size) : ∀ x ∈ h.blocks,
      SameShape x (if x.ptr = b.ptr then { x with data } else x) := by
  intro x hx
  split
  · rename_i hptr
    obtain rfl : x = b := List.inj_on_of_nodup_map he.ptrs hx hb hptr
    exact ⟨rfl, rfl, hsize⟩
  · exact ⟨rfl, rfl, rfl⟩

end

theorem find?_eq_none_iff {h : Heap} {ptr : HeapPtr} :
    h.find? ptr = none ↔ ∀ b ∈ h.blocks, b.ptr ≠ ptr := by
  simp [find?]

theorem wasIssued_of_le {h h' : Heap} (hle : h.issued ≤ h'.issued) {ptr : HeapPtr}
    (hi : h.wasIssued ptr = true) : h'.wasIssued ptr = true := by
  simp only [wasIssued, decide_eq_true_eq] at hi ⊢
  omega

theorem sweep_issued (h : Heap) (owner : InstanceId) :
    (h.freeAllOwnedBy owner).2.issued = h.issued := by
  have hfold (out : List Block) (h : Heap) : (out.foldl release h).issued = h.issued := by
    induction out generalizing h with
    | nil => rfl
    | cons b out ih => exact ih (h.release b)
  exact hfold _ h

/-! ## What a call leaves alone -/

namespace Served

variable {h h' : Heap} {c : Call} (he : h.Exact) (hs : Served h c h')

include he hs

theorem exact : h'.Exact := by
  cases hs with
  | idle _ _ => exact he
  | alloc hr => exact he.insert hr
  | free hb => exact he.release hb
  | freeAll owner => exact he.sweep owner
  | access hb f => exact he.edit (sameShape_rewrite he hb (Vector.size_toArray _))

/-- A call leaves alone what belongs to others than its requester. -/
theorem of_ne {x : InstanceId} (hx : x ≠ c.requester) :
    h'.blocksOf x = h.blocksOf x ∧ h'.usageOf x = h.usageOf x := by
  -- numbers are unique, so a block of `x` has another number than a block of the requester
  have hptr : ∀ y ∈ h.blocksOf x, ∀ b ∈ h.blocks, b.owner = c.requester → y.ptr ≠ b.ptr := by
    intro y hy b hb hown heq
    obtain ⟨hyb, rfl⟩ := mem_blocksOf.1 hy
    obtain rfl : y = b := List.inj_on_of_nodup_map he.ptrs hyb hb heq
    exact hx hown
  cases hs with
  | idle _ _ => exact ⟨rfl, rfl⟩
  | alloc _ =>
    exact ⟨(blocksOf_insert _ _ _ _).trans (if_neg hx), (usageOf_insert _ _ _ _).trans (if_neg hx)⟩
  | @free b hb =>
    refine ⟨?_, (usageOf_release _ _ _).trans (if_neg hx)⟩
    have hswap : (h.release b).blocksOf x = (h.blocksOf x).filter (·.ptr != b.ptr) :=
      List.filter_comm _ _ _
    rw [hswap, List.filter_eq_self]
    intro y hy
    simpa using hptr y hy b hb rfl
  | freeAll owner =>
    exact ⟨(he.sweep_blocksOf _ _).trans (if_neg hx), (sweep_usageOf _ _ _).trans (if_neg hx)⟩
  | @access b hb _ f =>
    refine ⟨?_, rfl⟩
    rw [rewrite, edit_blocksOf (sameShape_rewrite he hb (Vector.size_toArray _))]
    refine (List.map_congr_left fun y hy => ?_).trans (List.map_id _)
    exact if_neg (hptr y hy b hb rfl)

omit he in
theorem issued_le : h.issued ≤ h'.issued := by
  cases hs with
  | idle _ _ => exact Nat.le_refl _
  | alloc _ => exact Nat.le_succ _
  | free _ => exact Nat.le_refl _
  | freeAll owner => exact Nat.le_of_eq (sweep_issued h owner).symm
  | access _ _ => exact Nat.le_refl _

/-- A number that was handed out and is no longer there does not come back. -/
theorem find?_of_none {ptr : HeapPtr} (hi : h.wasIssued ptr = true) (hno : h.find? ptr = none) :
    h'.find? ptr = none := by
  rw [find?_eq_none_iff] at hno ⊢
  cases hs with
  | idle _ _ => exact hno
  | alloc _ =>
    intro x hx
    rcases List.mem_cons.1 hx with rfl | hx
    · rintro rfl
      simp only [wasIssued, decide_eq_true_eq] at hi
      omega
    · exact hno x hx
  | free _ => exact fun x hx => hno x (mem_release.1 hx).1
  | freeAll owner =>
    rw [he.sweep_blocks]
    exact fun x hx => hno x (List.mem_filter.1 hx).1
  | access hb f =>
    intro x hx
    obtain ⟨y, hy, rfl⟩ := List.mem_map.1 hx
    rw [(sameShape_rewrite he hb (Vector.size_toArray _) y hy).ptr]
    exact hno y hy

/-- A block stays, with what its owner writes, until its owner gives it back. -/
theorem find?_of_some {ptr : HeapPtr} {owner : InstanceId} {n : Nat} {v : Vector UInt8 n}
    (hb : h.find? ptr = some ⟨ptr, owner, v.toArray⟩) :
    h'.find? ptr =
      if c.givesBack owner ptr then none else some ⟨ptr, owner, (c.write owner ptr v).toArray⟩ := by
  obtain ⟨a, rfl⟩ := v
  have hmem := ((find?_eq_some_iff he).1 hb).1
  have hsame : ∀ b ∈ h.blocks, b.ptr = ptr → b = ⟨ptr, owner, a⟩ :=
    fun b hb' hptr => List.inj_on_of_nodup_map he.ptrs hb' hmem hptr
  cases hs with
  | idle hgive hwrite =>
    rw [hgive _ hmem, hwrite _ hmem, hb]
    rfl
  | alloc hr =>
    exact (find?_eq_some_iff (he.insert hr)).2 ⟨List.mem_cons_of_mem _ hmem, rfl⟩
  | @free b hb' =>
    by_cases hptr : b.ptr = ptr
    · obtain rfl := hsame b hb' hptr
      rw [Call.givesBack, beq_self_eq_true, beq_self_eq_true]
      exact find?_eq_none_iff.2 fun x hx => (mem_release.1 hx).2
    · have hkeep : (some b.ptr == some ptr) = false := by simpa using hptr
      rw [Call.givesBack, hkeep, Bool.and_false]
      exact (find?_eq_some_iff (he.release hb')).2 ⟨mem_release.2 ⟨hmem, Ne.symm hptr⟩, rfl⟩
  | freeAll requester =>
    by_cases hown : requester = owner
    · subst hown
      rw [Call.givesBack, beq_self_eq_true]
      refine find?_eq_none_iff.2 fun x hx hptr => ?_
      rw [he.sweep_blocks] at hx
      obtain ⟨hx, hne⟩ := List.mem_filter.1 hx
      rw [hsame x hx hptr] at hne
      simp at hne
    · rw [Call.givesBack, beq_false_of_ne hown]
      refine (find?_eq_some_iff (he.sweep requester)).2 ⟨?_, rfl⟩
      rw [he.sweep_blocks]
      exact List.mem_filter.2 ⟨hmem, by simpa using Ne.symm hown⟩
  | @access b hb' _ f =>
    have hsize : (f b.size ⟨b.data, rfl⟩).2.toArray.size = b.size := Vector.size_toArray _
    refine (find?_eq_some_iff (he.edit (sameShape_rewrite he hb' hsize))).2 ⟨?_, rfl⟩
    refine List.mem_map.2 ⟨_, hmem, ?_⟩
    by_cases hptr : b.ptr = ptr
    · obtain rfl := hsame b hb' hptr
      rw [Call.write, if_pos rfl, if_pos ⟨rfl, rfl⟩]
      rfl
    · rw [Call.write, if_neg (Ne.symm hptr), if_neg fun hboth => hptr hboth.2]

end Served

/-! ## What a sequence of calls leaves alone -/

section

variable {h : Heap} (he : h.Exact) (calls : List Call)

include he

theorem serveAll_exact : (h.serveAll calls).Exact := by
  induction calls generalizing h with
  | nil => exact he
  | cons c calls ih => exact ih ((served he c).exact he)

theorem issued_le_serveAll : h.issued ≤ (h.serveAll calls).issued := by
  induction calls generalizing h with
  | nil => exact Nat.le_refl _
  | cons c calls ih =>
    have hs := served he c
    exact Nat.le_trans (hs.issued_le) (ih (hs.exact he))

theorem serveAll_find?_of_none {ptr : HeapPtr} (hi : h.wasIssued ptr = true)
    (hno : h.find? ptr = none) : (h.serveAll calls).find? ptr = none := by
  induction calls generalizing h with
  | nil => exact hno
  | cons c calls ih =>
    have hs := served he c
    exact ih (hs.exact he) (wasIssued_of_le hs.issued_le hi) (hs.find?_of_none he hi hno)

/-- The life of a block is what its owner makes of it. -/
theorem serveAll_find?_of_some {ptr : HeapPtr} {owner : InstanceId} {n : Nat} {v : Vector UInt8 n}
    (hb : h.find? ptr = some ⟨ptr, owner, v.toArray⟩) :
    (h.serveAll calls).find? ptr =
      if calls.any (·.givesBack owner ptr) then none
      else some ⟨ptr, owner, (calls.foldl (Call.write owner ptr) v).toArray⟩ := by
  induction calls generalizing h v with
  | nil => exact hb
  | cons c calls ih =>
    have hs := served he c
    have hstep := hs.find?_of_some he hb
    rw [List.any_cons, List.foldl_cons]
    cases hgive : c.givesBack owner ptr with
    | false =>
      rw [hgive] at hstep
      exact ih (hs.exact he) hstep
    | true =>
      rw [hgive] at hstep
      have hi := he.issued _ ((find?_eq_some_iff he).1 hb).1
      exact serveAll_find?_of_none (hs.exact he) calls (wasIssued_of_le hs.issued_le hi) hstep

theorem access_map_fst {ptr : HeapPtr} {owner : InstanceId} {n : Nat} {v : Vector UInt8 n}
    (hb : h.find? ptr = some ⟨ptr, owner, v.toArray⟩) {α : Type}
    (f : (n : Nat) → Vector UInt8 n → α × Vector UInt8 n) :
    (h.access owner ptr f).map (·.1) = some (f n v).1 := by
  obtain ⟨a, rfl⟩ := v
  have hmem := ((find?_eq_some_iff he).1 hb).1
  exact congrArg (Option.map (·.1)) (access_of_mem he hmem f)

end

theorem alloc_eq_ok {h h' : Heap} {owner : InstanceId} {bytes : Nat} {ptr : HeapPtr}
    (ha : h.alloc owner bytes = .ok (ptr, h')) :
    h.refusal? bytes = none ∧ ptr = ⟨h.issued + 1⟩ ∧ h' = h.insert owner bytes := by
  unfold Heap.alloc at ha
  split at ha
  · cases ha
  · rename_i hr
    cases ha
    exact ⟨hr, rfl, rfl⟩

theorem find?_insert (h : Heap) (owner : InstanceId) (bytes : Nat) :
    (h.insert owner bytes).find? ⟨h.issued + 1⟩ =
      some ⟨⟨h.issued + 1⟩, owner, (Vector.replicate bytes (0 : UInt8)).toArray⟩ :=
  List.find?_cons_of_pos (by simp)

/-- Whatever calls came before: a call leaves alone what belongs to others, and nobody but its owner
has access to a block. Whatever calls come after an allocation: its number is not handed out again;
until its owner gives it back, the block holds zeros changed by the owner's accesses alone; and from
then on nobody can do anything with that number. -/
theorem owners_are_isolated (limits : HeapLimits) (before : List Call) :
    let h := (empty limits).serveAll before
    (∀ (c : Call) (x : InstanceId), x ≠ c.requester →
      (h.serve c).blocksOf x = h.blocksOf x ∧ (h.serve c).usageOf x = h.usageOf x) ∧
    (∀ b ∈ h.blocks, ∀ x, x ≠ b.owner →
      ∀ {α : Type} (f : (n : Nat) → Vector UInt8 n → α × Vector UInt8 n),
        h.access x b.ptr f = none) ∧
    ∀ owner bytes ptr h₁, h.alloc owner bytes = .ok (ptr, h₁) → ∀ after : List Call,
      let h₂ := h₁.serveAll after
      (∀ x n p h₃, h₂.alloc x n = .ok (p, h₃) → p ≠ ptr) ∧
      (after.any (·.givesBack owner ptr) = false →
        h₂.find? ptr = some ⟨ptr, owner, (contents owner ptr bytes after).toArray⟩ ∧
        ∀ {α : Type} (f : (n : Nat) → Vector UInt8 n → α × Vector UInt8 n),
          (h₂.access owner ptr f).map (·.1) = some (f bytes (contents owner ptr bytes after)).1) ∧
      (after.any (·.givesBack owner ptr) = true → ∀ x,
        h₂.serve (.free x (some ptr)) = h₂ ∧
        ∀ {α : Type} (f : (n : Nat) → Vector UInt8 n → α × Vector UInt8 n),
          h₂.access x ptr f = none) := by
  intro h
  have he : h.Exact := serveAll_exact (exact_empty limits) before
  refine ⟨fun c x hx => (served he c).of_ne he hx, ?_, ?_⟩
  · intro b hb x hx α f
    refine access_eq_none he (fun y hy hptr => ?_) f
    obtain rfl : y = b := List.inj_on_of_nodup_map he.ptrs hy hb hptr
    exact Ne.symm hx
  · intro owner bytes ptr h₁ ha after h₂
    obtain ⟨hr, rfl, rfl⟩ := alloc_eq_ok ha
    have he₁ : (h.insert owner bytes).Exact := he.insert hr
    have he₂ : h₂.Exact := serveAll_exact he₁ after
    have hlife : h₂.find? _ = _ := serveAll_find?_of_some he₁ after (find?_insert h owner bytes)
    refine ⟨?_, ?_, ?_⟩
    · intro x n p h₃ hp heq
      obtain ⟨-, rfl, -⟩ := alloc_eq_ok hp
      have hle : h.issued + 1 ≤ h₂.issued := issued_le_serveAll he₁ after
      have hval := congrArg HeapPtr.val heq
      simp only at hval
      omega
    · intro hkept
      rw [hkept] at hlife
      exact ⟨hlife, access_map_fst he₂ hlife⟩
    · intro hgone x
      rw [hgone] at hlife
      have hno := find?_eq_none_iff.1 hlife
      refine ⟨?_, access_eq_none he₂ fun b hb hptr => absurd hptr (hno b hb)⟩
      rw [serve, Heap.free, hlife]
      rfl

/-- Two owners: the second cannot free the first one's block or write into it, nor does it lose it
with a sweep of its own; once the first freed it, the number is nobody's and the next block has
another. -/
theorem two_owners_are_isolated :
    let fill (byte : UInt8) (n : Nat) (_ : Vector UInt8 n) : Unit × Vector UInt8 n :=
      ((), Vector.replicate n byte)
    let after : List Call := [.alloc ⟨2⟩ 2, .access ⟨1⟩ ⟨1⟩ (fill 7), .access ⟨2⟩ ⟨1⟩ (fill 9),
      .free ⟨2⟩ (some ⟨1⟩), .freeAll ⟨2⟩]
    ∃ h₁, (empty {}).alloc ⟨1⟩ 3 = .ok (⟨1⟩, h₁) ∧
      ((h₁.serveAll after).find? ⟨1⟩).map (·.data) = some #[7, 7, 7] ∧
      ∀ x n p h₃, (h₁.serveAll (after ++ [.free ⟨1⟩ (some ⟨1⟩)])).alloc x n = .ok (p, h₃) →
        p ≠ ⟨1⟩ := by
  intro fill after
  refine ⟨_, rfl, ?_, ?_⟩
  · have hlife := ((owners_are_isolated {} []).2.2 ⟨1⟩ 3 ⟨1⟩ _ rfl after).2.1 rfl
    exact congrArg (Option.map (·.data)) hlife.1
  · exact ((owners_are_isolated {} []).2.2 ⟨1⟩ 3 ⟨1⟩ _ rfl _).1

end Heap

end ContextHub
