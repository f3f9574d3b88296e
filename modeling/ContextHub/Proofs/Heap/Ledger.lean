import ContextHub.Heap
import Mathlib.Data.List.Nodup
import Mathlib.Data.List.Perm.Basic
/-!
# What the heap ledger holds

A ledger is `Exact` if its counters are the sums over its blocks, in all and for each owner, and
its blocks keep within the limits. An exact ledger stays exact: an allocation adds one new block,
giving a block back takes out that block and nothing else, and a sweep takes out an owner's blocks
one by one. No subtraction on the way clips.
-/

namespace ContextHub

/-- The sum of some blocks' sizes. -/
def Block.total : List Block → Nat
  | [] => 0
  | b :: bs => b.size + total bs

theorem Block.total_cons (b : Block) (bs : List Block) : total (b :: bs) = b.size + total bs := rfl

theorem Block.total_perm {bs cs : List Block} (h : bs.Perm cs) : total bs = total cs := by
  induction h with
  | nil => rfl
  | cons b _ ih => rw [total_cons, total_cons, ih]
  | swap b c bs =>
    simp only [total_cons]
    omega
  | trans _ _ ih ih' => exact ih.trans ih'

theorem Block.size_le_total {b : Block} {bs : List Block} (hb : b ∈ bs) : b.size ≤ total bs := by
  induction bs with
  | nil => cases hb
  | cons c bs ih =>
    rw [total_cons]
    rcases List.mem_cons.1 hb with rfl | hb
    · omega
    · have hle := ih hb
      omega

theorem Block.total_filter_le (p : Block → Bool) (bs : List Block) :
    total (bs.filter p) ≤ total bs := by
  induction bs with
  | nil => exact Nat.le_refl _
  | cons b bs ih =>
    rw [List.filter_cons, total_cons]
    split
    · rw [total_cons]
      omega
    · omega

namespace Heap

/-- The blocks that an owner has. -/
def blocksOf (h : Heap) (owner : InstanceId) : List Block := h.blocks.filter (·.owner == owner)

/-- The bytes that an owner has. -/
def heldBy (h : Heap) (owner : InstanceId) : Nat := Block.total (h.blocksOf owner)

/-! ## Usage by owner -/

section

variable (usage : List (InstanceId × OwnerUsage))

theorem lookup_cons_of_ne {x o : InstanceId} (hx : x ≠ o) (u : OwnerUsage) :
    ((o, u) :: usage).lookup x = usage.lookup x := by
  rw [List.lookup_cons, beq_false_of_ne hx]

theorem lookup_chargeUsage (owner : InstanceId) (bytes : Nat) (x : InstanceId) :
    (chargeUsage owner bytes usage).lookup x =
      if x = owner then some (((usage.lookup owner).getD {}).recordAlloc bytes)
      else usage.lookup x := by
  induction usage with
  | nil =>
    by_cases hx : x = owner
    · simp [chargeUsage, hx]
    · simp [chargeUsage, hx, lookup_cons_of_ne]
  | cons e usage ih =>
    obtain ⟨o, u⟩ := e
    by_cases ho : o = owner
    · subst ho
      by_cases hx : x = o
      · simp [chargeUsage, hx]
      · simp [chargeUsage, hx, lookup_cons_of_ne]
    · rw [chargeUsage, if_neg ho, lookup_cons_of_ne _ (Ne.symm ho)]
      by_cases hxo : x = o
      · subst hxo
        simp [ho]
      · rw [lookup_cons_of_ne _ hxo, lookup_cons_of_ne _ hxo, ih]

theorem lookup_creditUsage (owner : InstanceId) (bytes : Nat) (x : InstanceId) :
    (creditUsage owner bytes usage).lookup x =
      if x = owner then (usage.lookup x).map (·.recordFree bytes) else usage.lookup x := by
  induction usage with
  | nil => simp [creditUsage]
  | cons e usage ih =>
    obtain ⟨o, u⟩ := e
    have hcons : creditUsage owner bytes ((o, u) :: usage) =
        (o, if o = owner then u.recordFree bytes else u) :: creditUsage owner bytes usage := by
      by_cases ho : o = owner <;> simp [creditUsage, ho]
    rw [hcons]
    by_cases hx : x = o
    · subst hx
      by_cases ho : x = owner <;> simp [ho]
    · rw [lookup_cons_of_ne _ hx, lookup_cons_of_ne _ hx, ih]

theorem lookup_dropUsage (owner x : InstanceId) :
    (usage.filter (·.1 != owner)).lookup x = if x = owner then none else usage.lookup x := by
  induction usage with
  | nil => simp
  | cons e usage ih =>
    obtain ⟨o, u⟩ := e
    by_cases ho : o = owner
    · subst ho
      rw [List.filter_cons_of_neg (by simp), ih]
      by_cases hx : x = o
      · simp [hx]
      · simp [hx, lookup_cons_of_ne]
    · rw [List.filter_cons_of_pos (by simpa using ho)]
      by_cases hx : x = o
      · subst hx
        simp [ho]
      · rw [lookup_cons_of_ne _ hx, lookup_cons_of_ne _ hx, ih]

end

theorem usageOf_insert (h : Heap) (owner : InstanceId) (bytes : Nat) (x : InstanceId) :
    (h.insert owner bytes).usageOf x =
      if x = owner then (h.usageOf x).recordAlloc bytes else h.usageOf x := by
  have hl := lookup_chargeUsage h.usage owner bytes x
  unfold usageOf
  rw [show (h.insert owner bytes).usage = chargeUsage owner bytes h.usage from rfl, hl]
  by_cases hx : x = owner
  · simp [hx]
  · simp [hx]

/-- What is given back counts for its owner alone. -/
theorem usageOf_release (h : Heap) (b : Block) (x : InstanceId) :
    (h.release b).usageOf x =
      if x = b.owner then { h.usageOf x with
        bytes := (h.usageOf x).bytes - b.size, count := (h.usageOf x).count - 1 }
      else h.usageOf x := by
  have hl := lookup_creditUsage h.usage b.owner b.size x
  unfold usageOf
  rw [show (h.release b).usage = creditUsage b.owner b.size h.usage from rfl, hl]
  by_cases hx : x = b.owner
  · rw [if_pos hx, if_pos hx]
    cases h.usage.lookup x with
    | none => simp
    | some u => rfl
  · rw [if_neg hx, if_neg hx]

/-! ## Exact ledgers -/

/-- The counters say what the blocks are, and the blocks keep within the limits. -/
structure Exact (h : Heap) : Prop where
  total : h.totalBytes = Block.total h.blocks
  bytes : ∀ owner, (h.usageOf owner).bytes = h.heldBy owner
  count : ∀ owner, (h.usageOf owner).count = (h.blocksOf owner).length
  ptrs : (h.blocks.map (·.ptr)).Nodup
  issued : ∀ b ∈ h.blocks, h.wasIssued b.ptr = true
  sizes : ∀ b ∈ h.blocks, 1 ≤ b.size ∧ b.size ≤ h.limits.blockBytes
  blockCount : h.blocks.length ≤ h.limits.blockCount
  ceiling : h.limits.enforceTotal = true → h.totalBytes ≤ h.limits.totalBytes

theorem exact_empty (limits : HeapLimits) : (empty limits).Exact where
  total := rfl
  bytes _ := rfl
  count _ := rfl
  ptrs := List.nodup_nil
  issued _ hb := by cases hb
  sizes _ hb := by cases hb
  blockCount := Nat.zero_le _
  ceiling _ := Nat.zero_le _

section

variable {h : Heap} {b : Block}

theorem mem_blocksOf {owner : InstanceId} :
    b ∈ h.blocksOf owner ↔ b ∈ h.blocks ∧ b.owner = owner := by
  simp [blocksOf]

/-- Counters that are right cover every block that is there. -/
theorem Exact.covers (he : h.Exact) (hb : b ∈ h.blocks) :
    b.size ≤ h.totalBytes ∧ b.size ≤ (h.usageOf b.owner).bytes ∧
      1 ≤ (h.usageOf b.owner).count := by
  have hmem : b ∈ h.blocksOf b.owner := mem_blocksOf.2 ⟨hb, rfl⟩
  have htotal : b.size ≤ Block.total h.blocks := Block.size_le_total hb
  have hheld : b.size ≤ h.heldBy b.owner := Block.size_le_total hmem
  have hcount : 0 < (h.blocksOf b.owner).length := List.length_pos_of_mem hmem
  rw [he.total, he.bytes, he.count]
  exact ⟨htotal, hheld, hcount⟩

/-! ### Allocating -/

theorem refusal?_eq_none (h : Heap) (bytes : Nat) :
    h.refusal? bytes = none ↔ 1 ≤ bytes ∧ bytes ≤ h.limits.blockBytes ∧
      h.blocks.length < h.limits.blockCount ∧
      (h.limits.enforceTotal = true → h.totalBytes + bytes ≤ h.limits.totalBytes) := by
  unfold refusal?
  by_cases hz : bytes = 0
  · simp [hz]
  by_cases hl : h.limits.blockBytes < bytes
  · rw [if_neg hz, if_pos hl]
    simp only [reduceCtorEq, false_iff]
    omega
  by_cases hc : h.limits.blockCount ≤ h.blockCount
  · rw [if_neg hz, if_neg hl, if_pos hc]
    unfold blockCount at hc
    simp only [reduceCtorEq, false_iff]
    omega
  have hcount : h.blocks.length < h.limits.blockCount := Nat.lt_of_not_le hc
  rw [if_neg hz, if_neg hl, if_neg hc]
  unfold available
  split
  · rename_i he
    simp only [reduceCtorEq, false_iff]
    intro hall
    have hfit := hall.2.2.2 he.1
    omega
  · rename_i he
    simp only [true_iff]
    refine ⟨by omega, by omega, hcount, fun henf => ?_⟩
    have hroom : ¬ h.limits.totalBytes - h.totalBytes < bytes := fun hlt => he ⟨henf, hlt⟩
    omega

theorem blocksOf_insert (h : Heap) (owner : InstanceId) (bytes : Nat) (x : InstanceId) :
    (h.insert owner bytes).blocksOf x =
      if x = owner then ⟨⟨h.issued + 1⟩, owner, Array.replicate bytes 0⟩ :: h.blocksOf x
      else h.blocksOf x := by
  unfold blocksOf insert
  by_cases hx : x = owner
  · simp [hx]
  · simp [hx, Ne.symm hx]

theorem heldBy_insert (h : Heap) (owner : InstanceId) (bytes : Nat) (x : InstanceId) :
    (h.insert owner bytes).heldBy x = if x = owner then h.heldBy x + bytes else h.heldBy x := by
  unfold heldBy
  rw [blocksOf_insert]
  by_cases hx : x = owner
  · rw [if_pos hx, if_pos hx, Block.total_cons, Block.size, Array.size_replicate, Nat.add_comm]
  · rw [if_neg hx, if_neg hx]

theorem Exact.insert (he : h.Exact) {owner : InstanceId} {bytes : Nat}
    (hr : h.refusal? bytes = none) : (h.insert owner bytes).Exact := by
  obtain ⟨hpos, hmax, hcount, hceil⟩ := (h.refusal?_eq_none bytes).1 hr
  have hsize : Block.size ⟨⟨h.issued + 1⟩, owner, Array.replicate bytes 0⟩ = bytes :=
    Array.size_replicate
  refine ⟨?_, fun x => ?_, fun x => ?_, ?_, fun b hb => ?_, fun b hb => ?_, hcount, hceil⟩
  · show h.totalBytes + bytes = Block.total (_ :: h.blocks)
    rw [Block.total_cons, hsize, he.total, Nat.add_comm]
  · rw [usageOf_insert, heldBy_insert, ← he.bytes x]
    split <;> rfl
  · rw [usageOf_insert, blocksOf_insert]
    by_cases hx : x = owner
    · rw [if_pos hx, if_pos hx, List.length_cons, ← he.count x]
      rfl
    · rw [if_neg hx, if_neg hx, he.count x]
  · show ((⟨h.issued + 1⟩ : HeapPtr) :: h.blocks.map (·.ptr)).Nodup
    refine List.nodup_cons.2 ⟨fun hmem => ?_, he.ptrs⟩
    -- a block's number is never used again
    obtain ⟨b, hb, hptr⟩ := List.mem_map.1 hmem
    have hold := he.issued b hb
    simp only [wasIssued, decide_eq_true_eq, hptr] at hold
    omega
  · have hold : b ∈ h.blocks → h.wasIssued b.ptr = true := he.issued b
    simp only [wasIssued, decide_eq_true_eq] at hold ⊢
    rcases List.mem_cons.1 hb with rfl | hb
    · exact ⟨Nat.succ_pos _, Nat.le_refl _⟩
    · have hiss := hold hb
      exact ⟨hiss.1, Nat.le_succ_of_le hiss.2⟩
  · rcases List.mem_cons.1 hb with rfl | hb
    · rw [hsize]
      exact ⟨hpos, hmax⟩
    · exact he.sizes b hb

/-! ### Giving back -/

/-- Of blocks with different numbers, one is taken out. -/
theorem perm_cons_filter {bs : List Block} (hn : (bs.map (·.ptr)).Nodup) (hb : b ∈ bs) :
    bs.Perm (b :: bs.filter (·.ptr != b.ptr)) := by
  induction bs with
  | nil => cases hb
  | cons c bs ih =>
    obtain ⟨hnot, hnod⟩ := List.nodup_cons.1 hn
    rcases List.mem_cons.1 hb with rfl | hmem
    · have hkeep : bs.filter (·.ptr != b.ptr) = bs := by
        refine List.filter_eq_self.2 fun x hx => ?_
        have hne : x.ptr ≠ b.ptr := fun heq => hnot (List.mem_map.2 ⟨x, hx, heq⟩)
        simpa using hne
      rw [List.filter_cons_of_neg (by simp), hkeep]
    · have hne : c.ptr ≠ b.ptr := fun heq => hnot (List.mem_map.2 ⟨b, hmem, heq.symm⟩)
      rw [List.filter_cons_of_pos (by simpa using hne)]
      exact ((ih hnod hmem).cons c).trans (.swap b c _)

theorem Exact.perm_release (he : h.Exact) (hb : b ∈ h.blocks) :
    h.blocks.Perm (b :: (h.release b).blocks) := perm_cons_filter he.ptrs hb

theorem mem_release {x : Block} :
    x ∈ (h.release b).blocks ↔ x ∈ h.blocks ∧ x.ptr ≠ b.ptr := by
  simp [release]

theorem Exact.blocksOf_release (he : h.Exact) (hb : b ∈ h.blocks) (x : InstanceId) :
    (h.blocksOf x).Perm (if x = b.owner then b :: (h.release b).blocksOf x
      else (h.release b).blocksOf x) := by
  have hp := (he.perm_release hb).filter (·.owner == x)
  by_cases hx : x = b.owner
  · rw [if_pos hx]
    rwa [List.filter_cons_of_pos (by simp [hx])] at hp
  · rw [if_neg hx]
    rwa [List.filter_cons_of_neg (by simpa using Ne.symm hx)] at hp

/-- What an owner has goes down by the block that is given back. -/
theorem Exact.heldBy_release (he : h.Exact) (hb : b ∈ h.blocks) (x : InstanceId) :
    h.heldBy x = if x = b.owner then b.size + (h.release b).heldBy x
      else (h.release b).heldBy x := by
  have hp := Block.total_perm (he.blocksOf_release hb x)
  unfold heldBy
  rw [hp]
  split
  · rw [Block.total_cons]
  · rfl

theorem Exact.release (he : h.Exact) (hb : b ∈ h.blocks) : (h.release b).Exact := by
  have hp := he.perm_release hb
  have htotal : h.totalBytes = b.size + Block.total (h.release b).blocks := by
    rw [he.total, Block.total_perm hp, Block.total_cons]
  have hlen : h.blocks.length = (h.release b).blocks.length + 1 := by
    rw [hp.length_eq, List.length_cons]
  refine ⟨?_, fun x => ?_, fun x => ?_, ?_, fun c hc => ?_, fun c hc => ?_, ?_, fun henf => ?_⟩
  · show h.totalBytes - b.size = _
    omega
  · have hheld := he.heldBy_release hb x
    have hold := he.bytes x
    rw [usageOf_release]
    by_cases hx : x = b.owner
    · rw [if_pos hx] at hheld ⊢
      show (h.usageOf x).bytes - b.size = _
      omega
    · rw [if_neg hx] at hheld ⊢
      omega
  · have hblocks := (he.blocksOf_release hb x).length_eq
    have hold := he.count x
    rw [usageOf_release]
    by_cases hx : x = b.owner
    · rw [if_pos hx, List.length_cons] at hblocks
      rw [if_pos hx]
      show (h.usageOf x).count - 1 = _
      omega
    · rw [if_neg hx] at hblocks ⊢
      omega
  · exact he.ptrs.sublist (List.filter_sublist.map _)
  · exact he.issued c (mem_release.1 hc).1
  · exact he.sizes c (mem_release.1 hc).1
  · have hmax := he.blockCount
    show (h.release b).blocks.length ≤ h.limits.blockCount
    omega
  · have hceil := he.ceiling henf
    show h.totalBytes - b.size ≤ h.limits.totalBytes
    omega

theorem find?_eq_some_iff (he : h.Exact) {ptr : HeapPtr} :
    h.find? ptr = some b ↔ b ∈ h.blocks ∧ b.ptr = ptr := by
  unfold find?
  constructor
  · intro hf
    exact ⟨List.mem_of_find?_eq_some hf, by simpa using List.find?_some hf⟩
  · rintro ⟨hb, rfl⟩
    have hsome : (h.blocks.find? (·.ptr == b.ptr)).isSome = true :=
      List.find?_isSome.2 ⟨b, hb, by simp⟩
    obtain ⟨c, hc⟩ := Option.isSome_iff_exists.1 hsome
    have hptr : c.ptr = b.ptr := by simpa using List.find?_some hc
    have hsame := List.inj_on_of_nodup_map he.ptrs (List.mem_of_find?_eq_some hc) hb hptr
    rw [hc, hsame]

/-- A block goes if its owner names it, and only then. -/
theorem Exact.free_eq_ok (he : h.Exact) {requester : InstanceId} {ptr : HeapPtr} {h' : Heap} :
    h.free requester ptr = .ok h' ↔
      ∃ b ∈ h.blocks, b.ptr = ptr ∧ b.owner = requester ∧ h' = h.release b := by
  unfold free
  constructor
  · intro hf
    split at hf
    · cases hf
    · rename_i b hfind
      obtain ⟨hb, hptr⟩ := (find?_eq_some_iff he).1 hfind
      split at hf
      · rename_i hown
        cases hf
        exact ⟨b, hb, hptr, hown, rfl⟩
      · cases hf
  · rintro ⟨b, hb, hptr, hown, rfl⟩
    rw [(find?_eq_some_iff he).2 ⟨hb, hptr⟩]
    exact if_pos hown

/-! ### Sweeping -/

theorem foldl_release_blocks (out : List Block) (h : Heap) :
    (out.foldl Heap.release h).blocks = h.blocks.filter (fun x => out.all (x.ptr != ·.ptr)) := by
  induction out generalizing h with
  | nil => simp
  | cons b out ih =>
    rw [List.foldl_cons, ih]
    simp only [Heap.release, List.filter_filter, List.all_cons]
    exact List.filter_congr fun x _ => Bool.and_comm _ _

/-- Giving back touches neither the limits nor the mark. -/
theorem foldl_release_kept (out : List Block) (h : Heap) :
    (out.foldl Heap.release h).limits = h.limits ∧
      (out.foldl Heap.release h).peakBytes = h.peakBytes := by
  induction out generalizing h with
  | nil => exact ⟨rfl, rfl⟩
  | cons b out ih => exact ih (h.release b)

/-- Giving several blocks back, one by one. -/
theorem Exact.foldl_release (he : h.Exact) {out : List Block} (hout : out.Sublist h.blocks) :
    (out.foldl Heap.release h).Exact := by
  have hn := he.ptrs.sublist (hout.map _)
  have hsub := hout.subset
  clear hout
  induction out generalizing h with
  | nil => exact he
  | cons b out ih =>
    obtain ⟨hnot, hnod⟩ := List.nodup_cons.1 hn
    refine ih (he.release (hsub List.mem_cons_self)) hnod fun c hc => ?_
    have hne : c.ptr ≠ b.ptr := fun heq => hnot (List.mem_map.2 ⟨c, hc, heq⟩)
    exact mem_release.2 ⟨hsub (List.mem_cons_of_mem b hc), hne⟩

theorem foldl_release_usageOf {out : List Block} {owner : InstanceId}
    (hown : ∀ b ∈ out, b.owner = owner) (h : Heap) {x : InstanceId} (hx : x ≠ owner) :
    (out.foldl Heap.release h).usageOf x = h.usageOf x := by
  induction out generalizing h with
  | nil => rfl
  | cons b out ih =>
    rw [List.foldl_cons, ih (fun c hc => hown c (List.mem_cons_of_mem b hc)), usageOf_release,
      if_neg (by rwa [hown b List.mem_cons_self])]

/-- A sweep takes an owner's blocks, all of them and no others. -/
theorem Exact.sweep_blocks (he : h.Exact) (owner : InstanceId) :
    (h.freeAllOwnedBy owner).2.blocks = h.blocks.filter (·.owner != owner) := by
  have hb : (h.freeAllOwnedBy owner).2.blocks =
      ((h.blocks.filter (·.owner == owner)).foldl Heap.release h).blocks := rfl
  rw [hb, foldl_release_blocks]
  refine List.filter_congr fun x hx => ?_
  by_cases hown : x.owner = owner
  · have hmem : x ∈ h.blocks.filter (·.owner == owner) := by simp [hx, hown]
    have hall : (h.blocks.filter (·.owner == owner)).all (x.ptr != ·.ptr) = false := by
      rw [List.all_eq_false]
      exact ⟨x, hmem, by simp⟩
    rw [hall]
    simp [hown]
  · have hall : (h.blocks.filter (·.owner == owner)).all (x.ptr != ·.ptr) = true := by
      rw [List.all_eq_true]
      intro c hc
      obtain ⟨hcb, hco⟩ := mem_blocksOf.1 hc
      -- numbers are unique, so a block of another owner has another number
      have hne : x.ptr ≠ c.ptr := fun heq =>
        hown ((List.inj_on_of_nodup_map he.ptrs hx hcb heq) ▸ hco)
      simpa using hne
    rw [hall]
    simp [hown]

theorem sweep_usageOf (h : Heap) (owner x : InstanceId) :
    (h.freeAllOwnedBy owner).2.usageOf x = if x = owner then {} else h.usageOf x := by
  have hu : (h.freeAllOwnedBy owner).2.usageOf x =
      ((((h.blocks.filter (·.owner == owner)).foldl Heap.release h).usage.filter
        (·.1 != owner)).lookup x).getD {} := rfl
  rw [hu, lookup_dropUsage]
  by_cases hx : x = owner
  · rw [if_pos hx, if_pos hx]
    rfl
  · rw [if_neg hx, if_neg hx]
    exact foldl_release_usageOf (fun b hb => (mem_blocksOf.1 hb).2) h hx

theorem Exact.sweep_blocksOf (he : h.Exact) (owner x : InstanceId) :
    (h.freeAllOwnedBy owner).2.blocksOf x = if x = owner then [] else h.blocksOf x := by
  unfold blocksOf
  rw [he.sweep_blocks, List.filter_filter]
  by_cases hx : x = owner
  · rw [if_pos hx, List.filter_eq_nil_iff]
    intro b _
    simp [hx]
  · rw [if_neg hx]
    refine List.filter_congr fun b _ => ?_
    by_cases hb : b.owner = x
    · simp [hb, hx]
    · simp [hb]

theorem Exact.sweep (he : h.Exact) (owner : InstanceId) : (h.freeAllOwnedBy owner).2.Exact := by
  have hfold : ((h.blocks.filter (·.owner == owner)).foldl Heap.release h).Exact :=
    he.foldl_release List.filter_sublist
  refine ⟨hfold.total, fun x => ?_, fun x => ?_, hfold.ptrs, hfold.issued, hfold.sizes,
    hfold.blockCount, hfold.ceiling⟩
  · rw [sweep_usageOf, heldBy, he.sweep_blocksOf]
    by_cases hx : x = owner
    · rw [if_pos hx, if_pos hx]
      rfl
    · rw [if_neg hx, if_neg hx, he.bytes]
      rfl
  · rw [sweep_usageOf, he.sweep_blocksOf]
    by_cases hx : x = owner
    · rw [if_pos hx, if_pos hx]
      rfl
    · rw [if_neg hx, if_neg hx, he.count]

/-! ### Changing contents -/

/-- What the ledger counts of a block stays as it is. -/
structure SameShape (b c : Block) : Prop where
  ptr : c.ptr = b.ptr
  owner : c.owner = b.owner
  size : c.size = b.size

theorem edit_blocksOf {put : Block → Block} (hput : ∀ b ∈ h.blocks, SameShape b (put b))
    (x : InstanceId) :
    ({ h with blocks := h.blocks.map put } : Heap).blocksOf x = (h.blocksOf x).map put := by
  show (h.blocks.map put).filter (·.owner == x) = (h.blocks.filter (·.owner == x)).map put
  rw [List.filter_map]
  congr 1
  refine List.filter_congr fun b hb => ?_
  simp only [Function.comp_apply, (hput b hb).owner]

theorem total_map_put {bs : List Block} {put : Block → Block}
    (hput : ∀ b ∈ bs, SameShape b (put b)) : Block.total (bs.map put) = Block.total bs := by
  induction bs with
  | nil => rfl
  | cons b bs ih =>
    rw [List.map_cons, Block.total_cons, Block.total_cons, (hput b List.mem_cons_self).size,
      ih fun c hc => hput c (List.mem_cons_of_mem b hc)]

theorem edit_heldBy {put : Block → Block} (hput : ∀ b ∈ h.blocks, SameShape b (put b))
    (x : InstanceId) :
    ({ h with blocks := h.blocks.map put } : Heap).heldBy x = h.heldBy x := by
  unfold heldBy
  rw [edit_blocksOf hput]
  exact total_map_put fun b hb => hput b (mem_blocksOf.1 hb).1

theorem Exact.edit (he : h.Exact) {put : Block → Block}
    (hput : ∀ b ∈ h.blocks, SameShape b (put b)) :
    ({ h with blocks := h.blocks.map put } : Heap).Exact where
  total := he.total.trans (total_map_put hput).symm
  bytes x := (he.bytes x).trans (edit_heldBy hput x).symm
  count x := by
    rw [edit_blocksOf hput, List.length_map]
    exact he.count x
  ptrs := by
    have hsame : (h.blocks.map put).map (·.ptr) = h.blocks.map (·.ptr) := by
      rw [List.map_map]
      exact List.map_congr_left fun b hb => (hput b hb).ptr
    show ((h.blocks.map put).map (·.ptr)).Nodup
    rw [hsame]
    exact he.ptrs
  issued c hc := by
    obtain ⟨b, hb, rfl⟩ := List.mem_map.1 hc
    rw [(hput b hb).ptr]
    exact he.issued b hb
  sizes c hc := by
    obtain ⟨b, hb, rfl⟩ := List.mem_map.1 hc
    rw [(hput b hb).size]
    exact he.sizes b hb
  blockCount := (List.length_map put).symm ▸ he.blockCount
  ceiling := he.ceiling

/-- A block's owner may change what is in it, and nothing else. -/
theorem Exact.access_eq_some (he : h.Exact) {α : Type} {requester : InstanceId} {ptr : HeapPtr}
    {f : (n : Nat) → Vector UInt8 n → α × Vector UInt8 n} {a : α} {h' : Heap}
    (ha : h.access requester ptr f = some (a, h')) :
    (∃ b ∈ h.blocks, b.ptr = ptr ∧ b.owner = requester) ∧
      ∃ put : Block → Block, (∀ b ∈ h.blocks, SameShape b (put b)) ∧
        h' = { h with blocks := h.blocks.map put } := by
  unfold access at ha
  split at ha
  · cases ha
  · rename_i b hfind
    obtain ⟨hb, hptr⟩ := (find?_eq_some_iff he).1 hfind
    split at ha
    · rename_i hown
      cases ha
      refine ⟨⟨b, hb, hptr, hown⟩, _, fun x hx => ?_, rfl⟩
      by_cases hxp : x.ptr = ptr
      · have hsame : x = b := List.inj_on_of_nodup_map he.ptrs hx hb (hxp.trans hptr.symm)
        rw [if_pos hxp]
        exact ⟨rfl, rfl, by rw [hsame]; exact Vector.size_toArray _⟩
      · rw [if_neg hxp]
        exact ⟨rfl, rfl, rfl⟩
    · cases ha

end

end Heap

end ContextHub
