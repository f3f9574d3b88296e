import ContextHub.Hub.Calls
import ContextHub.Proofs.Heap.Ledger
import ContextHub.Proofs.Hub.Law
import ContextHub.Simulation.World
/-!
# The heap of a hub in use

`HeapUsed` lists the uses of a hub's heap, with the moments it went through. After any of them the
ledger is exact, and its marks are the greatest sums there were: of all blocks ever, and of an
owner's blocks since that owner was last swept.
-/

namespace ContextHub

/-- A heap as it was, and whom the step that followed swept. -/
structure Moment where
  heap : Heap
  swept : Option InstanceId := none

namespace Moment

/-- The most bytes there were. -/
def peak : List Moment → Nat
  | [] => 0
  | m :: rest => max (Block.total m.heap.blocks) (peak rest)

/-- The most bytes that an owner had since its last sweep; latest moments come first. -/
def peakOf (owner : InstanceId) : List Moment → Nat
  | [] => 0
  | m :: rest =>
    if m.swept = some owner then 0 else max (m.heap.heldBy owner) (peakOf owner rest)

theorem peak_cons (h : Heap) (swept : Option InstanceId) (past : List Moment) :
    peak (⟨h, swept⟩ :: past) = max (Block.total h.blocks) (peak past) := rfl

theorem peakOf_unswept (owner : InstanceId) (h : Heap) (past : List Moment) :
    peakOf owner (⟨h, none⟩ :: past) = max (h.heldBy owner) (peakOf owner past) :=
  if_neg (Option.some_ne_none owner).symm

theorem peakOf_other {owner x : InstanceId} (hx : x ≠ owner) (h : Heap) (past : List Moment) :
    peakOf x (⟨h, some owner⟩ :: past) = max (h.heldBy x) (peakOf x past) :=
  if_neg fun heq => hx (Option.some.inj heq).symm

theorem peakOf_swept (owner : InstanceId) (h : Heap) (past : List Moment) :
    peakOf owner (⟨h, some owner⟩ :: past) = 0 := if_pos rfl

end Moment

/-- An exact ledger whose marks are right for the moments before. -/
structure Heap.Tallied (limits : HeapLimits) (past : List Moment) (h : Heap) : Prop where
  exact : h.Exact
  limits : h.limits = limits
  peak : h.peakBytes = max (Block.total h.blocks) (Moment.peak past)
  peakOf : ∀ owner,
    (h.usageOf owner).peakBytes = max (h.heldBy owner) (Moment.peakOf owner past)

namespace Heap.Tallied

variable {limits : HeapLimits} {past : List Moment} {h h' : Heap}

theorem empty (limits : HeapLimits) : Tallied limits [] (Heap.empty limits) where
  exact := exact_empty limits
  limits := rfl
  peak := rfl
  peakOf _ := rfl

/-- After a step without a sweep in which nobody came to hold more. -/
theorem less (ht : Tallied limits past h) (he : h'.Exact) (hl : h'.limits = h.limits)
    (hpeak : h'.peakBytes = h.peakBytes)
    (hpeaks : ∀ x, (h'.usageOf x).peakBytes = (h.usageOf x).peakBytes)
    (htotal : Block.total h'.blocks ≤ Block.total h.blocks)
    (hheld : ∀ x, h'.heldBy x ≤ h.heldBy x) : Tallied limits (⟨h, none⟩ :: past) h' where
  exact := he
  limits := hl.trans ht.limits
  peak := by
    have hold := ht.peak
    rw [hpeak, Moment.peak_cons]
    omega
  peakOf x := by
    have hold := ht.peakOf x
    have hx := hheld x
    rw [hpeaks, Moment.peakOf_unswept]
    omega

theorem same (ht : Tallied limits past h) : Tallied limits (⟨h, none⟩ :: past) h :=
  ht.less ht.exact rfl rfl (fun _ => rfl) (Nat.le_refl _) fun _ => Nat.le_refl _

theorem insert (ht : Tallied limits past h) {owner : InstanceId} {bytes : Nat}
    (hr : h.refusal? bytes = none) : Tallied limits (⟨h, none⟩ :: past) (h.insert owner bytes) where
  exact := ht.exact.insert hr
  limits := ht.limits
  peak := by
    have hold := ht.peak
    have hsum := ht.exact.total
    have hnew : (h.insert owner bytes).totalBytes = Block.total (h.insert owner bytes).blocks :=
      (ht.exact.insert hr).total
    have htotal : (h.insert owner bytes).totalBytes = h.totalBytes + bytes := rfl
    have hmark : (h.insert owner bytes).peakBytes = max h.peakBytes (h.totalBytes + bytes) := rfl
    rw [hmark, Moment.peak_cons]
    omega
  peakOf x := by
    have hold := ht.peakOf x
    have hbytes := ht.exact.bytes x
    rw [usageOf_insert, heldBy_insert, Moment.peakOf_unswept]
    by_cases hx : x = owner
    · rw [if_pos hx, if_pos hx]
      show max (h.usageOf x).peakBytes ((h.usageOf x).bytes + bytes) = _
      omega
    · rw [if_neg hx, if_neg hx]
      omega

theorem release (ht : Tallied limits past h) {b : Block} (hb : b ∈ h.blocks) :
    Tallied limits (⟨h, none⟩ :: past) (h.release b) := by
  refine ht.less (ht.exact.release hb) rfl rfl (fun x => ?_) ?_ fun x => ?_
  · rw [usageOf_release]
    split <;> rfl
  · have hp := Block.total_perm (ht.exact.perm_release hb)
    rw [Block.total_cons] at hp
    omega
  · have hheld := ht.exact.heldBy_release hb x
    split at hheld <;> omega

theorem edit (ht : Tallied limits past h) {put : Block → Block}
    (hput : ∀ b ∈ h.blocks, SameShape b (put b)) :
    Tallied limits (⟨h, none⟩ :: past) { h with blocks := h.blocks.map put } :=
  ht.less (ht.exact.edit hput) rfl rfl (fun _ => rfl) (Nat.le_of_eq (total_map_put hput))
    fun x => Nat.le_of_eq (edit_heldBy hput x)

theorem sweep (ht : Tallied limits past h) (owner : InstanceId) :
    Tallied limits (⟨h, some owner⟩ :: past) (h.freeAllOwnedBy owner).2 where
  exact := ht.exact.sweep owner
  limits := by
    rw [← ht.limits]
    exact (foldl_release_kept _ h).1
  peak := by
    have hold := ht.peak
    have hsub : Block.total (h.freeAllOwnedBy owner).2.blocks ≤ Block.total h.blocks := by
      rw [ht.exact.sweep_blocks]
      exact Block.total_filter_le _ _
    have hmark : (h.freeAllOwnedBy owner).2.peakBytes = h.peakBytes := (foldl_release_kept _ h).2
    rw [hmark, Moment.peak_cons]
    omega
  peakOf x := by
    have hold := ht.peakOf x
    rw [sweep_usageOf, heldBy, ht.exact.sweep_blocksOf]
    by_cases hx : x = owner
    · subst hx
      rw [if_pos rfl, if_pos rfl, Moment.peakOf_swept]
      rfl
    · rw [if_neg hx, if_neg hx, Moment.peakOf_other hx]
      show _ = max (h.heldBy x) _
      omega

end Heap.Tallied

namespace Hub

variable {A R : Type}

/-! ## The uses of a hub's heap -/

theorem heapAlloc_heap (owner : InstanceId) (bytes : Nat) (h : Hub A R) :
    Ends (heapAlloc owner bytes) h
      (fun r h' => if h.heap.refusal? bytes = none then
          r = some ⟨h.heap.issued + 1⟩ ∧ h'.heap = h.heap.insert owner bytes
        else r = none ∧ h'.heap = h.heap)
      (fun _ _ => False) := by
  unfold heapAlloc Heap.alloc
  rw [ends_bind, ends_get]
  cases h.heap.refusal? bytes with
  | none => exact ⟨rfl, rfl⟩
  | some e => exact ⟨rfl, rfl⟩

/-- A block goes exactly if its owner names it. -/
theorem heapFree_heap (requester : InstanceId) (ptr : Option HeapPtr) (h : Hub A R)
    (he : h.heap.Exact) :
    Ends (heapFree requester ptr) h
      (fun _ h' =>
        (∃ b ∈ h.heap.blocks, ptr = some b.ptr ∧ b.owner = requester ∧
          h'.heap = h.heap.release b) ∨
        (∀ b ∈ h.heap.blocks, ptr = some b.ptr → b.owner ≠ requester) ∧ h'.heap = h.heap)
      (fun _ _ => False) := by
  cases ptr with
  | none => exact .inr ⟨fun _ _ heq => (by cases heq), rfl⟩
  | some ptr =>
    unfold heapFree
    have hfree (heap : Heap) : h.heap.free requester ptr = .ok heap ↔
        ∃ b ∈ h.heap.blocks, b.ptr = ptr ∧ b.owner = requester ∧ heap = h.heap.release b :=
      he.free_eq_ok
    rw [ends_bind, ends_get]
    split
    · rename_i heap hok
      obtain ⟨b, hb, rfl, hown, rfl⟩ := (hfree heap).1 hok
      exact .inl ⟨b, hb, rfl, hown, rfl⟩
    all_goals
      rename_i herr
      refine .inr ⟨fun b hb hptr hown => ?_, rfl⟩
      have hok := (hfree (h.heap.release b)).2 ⟨b, hb, (Option.some.inj hptr).symm, hown, rfl⟩
      rw [hok] at herr
      cases herr

/-- From an empty ledger with these limits, the hub's heap was used in any order; `past` are the
moments before each use, latest first. What leaves the heap alone may happen in between. -/
inductive HeapUsed (limits : HeapLimits) : List Moment → Hub A R → Prop
  | start {h : Hub A R} (hh : h.heap = .empty limits) : HeapUsed limits [] h
  | alloc {past h h' owner bytes r} (hu : HeapUsed limits past h)
      (hr : heapAlloc owner bytes h = .ok r h') : HeapUsed limits (⟨h.heap, none⟩ :: past) h'
  | free {past h h' requester ptr r} (hu : HeapUsed limits past h)
      (hr : heapFree requester ptr h = .ok r h') : HeapUsed limits (⟨h.heap, none⟩ :: past) h'
  | access {past h heap requester ptr} {α : Type} {a : α}
      {f : (n : Nat) → Vector UInt8 n → α × Vector UInt8 n} (hu : HeapUsed limits past h)
      (ha : h.heap.access requester ptr f = some (a, heap)) :
      HeapUsed limits (⟨h.heap, none⟩ :: past) { h with heap }
  | sweep {past h} (owner : InstanceId) (hu : HeapUsed limits past h) :
      HeapUsed limits (⟨h.heap, some owner⟩ :: past)
        { h with heap := (h.heap.freeAllOwnedBy owner).2 }
  | aside {past} {h h' : Hub A R} (hu : HeapUsed limits past h) (hh : h'.heap = h.heap) :
      HeapUsed limits past h'

variable {h : Hub A R} {limits : HeapLimits} {past : List Moment}

theorem HeapUsed.tallied (hu : HeapUsed limits past h) : h.heap.Tallied limits past := by
  induction hu with
  | start hh =>
    rw [hh]
    exact .empty limits
  | @alloc past h h' owner bytes r _ hr ih =>
    have hend := (heapAlloc_heap owner bytes h).ok hr
    split at hend
    · rename_i hnone
      rw [hend.2]
      exact ih.insert hnone
    · rw [hend.2]
      exact ih.same
  | @free past h h' requester ptr r _ hr ih =>
    rcases (heapFree_heap requester ptr h ih.exact).ok hr with ⟨b, hb, -, -, hh⟩ | ⟨-, hh⟩
    · rw [hh]
      exact ih.release hb
    · rw [hh]
      exact ih.same
  | @access past h heap requester ptr α a f _ ha ih =>
    obtain ⟨-, put, hput, rfl⟩ := ih.exact.access_eq_some ha
    exact ih.edit hput
  | sweep owner _ ih => exact ih.sweep owner
  | aside _ hh ih =>
    rw [hh]
    exact ih

/-! ## The ledger is exact -/

/-- In any use, the ledger's counters are the sums over the blocks that are live, in all and for
each owner; its marks are the greatest such sums there were, an owner's since its last sweep; and
the blocks keep within the limits. Giving blocks back one by one, as freeing and sweeping do, never
clips a counter. An allocation is granted exactly if no limit stands against it, and adds one block
under a new number; freeing takes out exactly the block that its owner names; a sweep takes out
exactly the owner's blocks and its entry, and returns what the entry said. -/
theorem heap_ledger_is_exact (hu : HeapUsed limits past h) :
    (h.heap.totalBytes = Block.total h.heap.blocks ∧
      h.heap.blockCount = h.heap.blocks.length ∧
      ∀ owner, (h.heap.usageOf owner).bytes = h.heap.heldBy owner ∧
        (h.heap.usageOf owner).count = (h.heap.blocksOf owner).length) ∧
    (h.heap.peakBytes = max (Block.total h.heap.blocks) (Moment.peak past) ∧
      ∀ owner, (h.heap.usageOf owner).peakBytes =
        max (h.heap.heldBy owner) (Moment.peakOf owner past)) ∧
    ((∀ b ∈ h.heap.blocks, 1 ≤ b.size ∧ b.size ≤ limits.blockBytes) ∧
      h.heap.blocks.length ≤ limits.blockCount ∧
      (limits.enforceTotal = true → h.heap.totalBytes ≤ limits.totalBytes)) ∧
    (∀ out b, (out ++ [b]).Sublist h.heap.blocks →
      b.size ≤ (out.foldl Heap.release h.heap).totalBytes ∧
      b.size ≤ ((out.foldl Heap.release h.heap).usageOf b.owner).bytes ∧
      1 ≤ ((out.foldl Heap.release h.heap).usageOf b.owner).count) ∧
    (∀ owner bytes, ∃ r h', heapAlloc owner bytes h = .ok r h' ∧
      (r.isSome = true ↔ 1 ≤ bytes ∧ bytes ≤ limits.blockBytes ∧
        h.heap.blocks.length < limits.blockCount ∧
        (limits.enforceTotal = true → h.heap.totalBytes + bytes ≤ limits.totalBytes)) ∧
      (r = none → h'.heap = h.heap) ∧
      ∀ ptr, r = some ptr → h.heap.wasIssued ptr = false ∧
        h'.heap.blocks = ⟨ptr, owner, Array.replicate bytes 0⟩ :: h.heap.blocks) ∧
    (∀ requester ptr, ∃ h', heapFree requester ptr h = .ok () h' ∧
      ∀ b, b ∈ h'.heap.blocks ↔ b ∈ h.heap.blocks ∧ ¬ (ptr = some b.ptr ∧ b.owner = requester)) ∧
    ∀ owner, (h.heap.freeAllOwnedBy owner).1 = h.heap.usageOf owner ∧
      (h.heap.freeAllOwnedBy owner).2.blocks = h.heap.blocks.filter (·.owner != owner) ∧
      (∀ e ∈ (h.heap.freeAllOwnedBy owner).2.usage, e.1 ≠ owner) ∧
      ∀ x, x ≠ owner → (h.heap.freeAllOwnedBy owner).2.usageOf x = h.heap.usageOf x := by
  have ht := hu.tallied
  have he := ht.exact
  have hl := ht.limits
  have hsizes := he.sizes
  have hcount := he.blockCount
  have hceil := he.ceiling
  rw [hl] at hsizes hcount hceil
  refine ⟨⟨he.total, rfl, fun owner => ⟨he.bytes owner, he.count owner⟩⟩,
    ⟨ht.peak, ht.peakOf⟩, ⟨hsizes, hcount, hceil⟩, fun out b hout => ?clips,
    fun owner bytes => ?alloc, fun requester ptr => ?free, fun owner => ?sweep⟩
  case clips =>
    have hfirst : out.Sublist h.heap.blocks := (List.sublist_append_left out [b]).trans hout
    refine (he.foldl_release hfirst).covers ?_
    rw [Heap.foldl_release_blocks]
    refine List.mem_filter.2 ⟨hout.subset (by simp), ?_⟩
    -- numbers are unique, so none of those before took it out
    have hn := he.ptrs.sublist (hout.map _)
    rw [List.map_append, List.nodup_append] at hn
    rw [List.all_eq_true]
    intro c hc
    have hne : c.ptr ≠ b.ptr := hn.2.2 _ (List.mem_map_of_mem hc) _ (by simp)
    simpa using hne.symm
  case alloc =>
    obtain ⟨r, h', hr, hend⟩ := (heapAlloc_heap owner bytes h).exists_ok
    have hnone := h.heap.refusal?_eq_none bytes
    rw [hl] at hnone
    refine ⟨r, h', hr, ?_⟩
    split at hend
    · rename_i hgrant
      obtain ⟨rfl, hheap⟩ := hend
      refine ⟨by simpa using hnone.1 hgrant, (fun heq => by cases heq), ?_⟩
      rintro ptr ⟨⟩
      rw [hheap]
      refine ⟨?_, rfl⟩
      simp [Heap.wasIssued]
    · rename_i hrefuse
      obtain ⟨rfl, hheap⟩ := hend
      refine ⟨?_, fun _ => hheap, fun ptr heq => by cases heq⟩
      rw [← hnone]
      simp [hrefuse]
  case free =>
    obtain ⟨r, h', hr, hend⟩ := (heapFree_heap requester ptr h he).exists_ok
    refine ⟨h', hr, fun c => ?_⟩
    rcases hend with ⟨b, hb, rfl, hown, hheap⟩ | ⟨hkeep, hheap⟩
    · rw [hheap, Heap.mem_release]
      refine and_congr_right fun hc => ?_
      constructor
      · rintro hne ⟨heq, -⟩
        exact hne (Option.some.inj heq).symm
      · intro hnot heq
        have hsame : c = b := List.inj_on_of_nodup_map he.ptrs hc hb heq
        exact hnot ⟨by rw [heq], by rw [hsame, hown]⟩
    · rw [hheap]
      exact ⟨fun hc => ⟨hc, fun hnamed => hkeep c hc hnamed.1 hnamed.2⟩, And.left⟩
  case sweep =>
    refine ⟨rfl, he.sweep_blocks owner, fun e hmem => ?_, fun x hx => ?_⟩
    · simpa using (List.mem_filter.1 hmem).2
    · rw [Heap.sweep_usageOf, if_neg hx]

/-- Two owners fill a small heap, one of them tries to free the other's block, and is swept. -/
theorem swept_heap_keeps_its_mark : ∃ past, ∃ h : Hub Script Stations,
    HeapUsed { totalBytes := 12, blockBytes := 8, blockCount := 2 } past h ∧
    h.heap.totalBytes = 4 ∧ h.heap.peakBytes = 12 ∧ (h.heap.usageOf ⟨2⟩).peakBytes = 4 ∧
    (h.heap.usageOf ⟨1⟩).peakBytes = 0 := by
  let start : Hub Script Stations :=
    blank { memory := { totalBytes := 12, blockBytes := 8, blockCount := 2 } } 0
      Stations.scripted none
  have hfirst := HeapUsed.alloc (.start (h := start) rfl)
    (show heapAlloc ⟨1⟩ 8 start = .ok _ _ from rfl)
  have hsecond := hfirst.alloc (show heapAlloc ⟨2⟩ 4 _ = .ok _ _ from rfl)
  have hforeign := hsecond.free (show heapFree ⟨1⟩ (some ⟨2⟩) _ = .ok _ _ from rfl)
  have hu := hforeign.sweep ⟨1⟩
  obtain ⟨⟨htotal, -⟩, ⟨hpeak, hpeaks⟩, -⟩ := heap_ledger_is_exact hu
  exact ⟨_, _, hu, htotal, hpeak, hpeaks ⟨2⟩, hpeaks ⟨1⟩⟩

end Hub

end ContextHub
