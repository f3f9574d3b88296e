import ContextHub.Ids
/-!
# The heap ledger

Blocks of bytes, each with one owner. The ledger refuses an allocation that passes one of its
limits, frees a block only for its owner, and gives back all that an owner still holds in one
sweep. A block's number is never used again. `OwnerUsage` is kept beside the blocks: what an
owner holds and the most bytes it held since its last sweep.
-/

namespace ContextHub

/-- The number of a block, counted from one over the life of the heap. -/
structure HeapPtr where
  val : Nat
  deriving DecidableEq, Repr, Inhabited

structure HeapLimits where
  totalBytes : Nat := 262144
  blockBytes : Nat := 65536
  blockCount : Nat := 1024
  enforceTotal : Bool := true
  deriving DecidableEq, Repr, Inhabited

inductive AllocError where
  | zeroSize
  | tooLarge (requested max : Nat)
  | heapExhausted (requested available : Nat)
  | tooManyAllocations (max : Nat)
  deriving DecidableEq, Repr

def AllocError.message : AllocError → String
  | zeroSize => "Zero-byte allocation"
  | tooLarge requested max =>
    s!"Allocation of {requested} bytes exceeds the per-allocation limit of {max}"
  | heapExhausted requested available =>
    s!"Allocation of {requested} bytes exceeds remaining heap ({available} bytes)"
  | tooManyAllocations max => s!"Allocation count limit of {max} reached"

/-- Why a block stays where it is although someone asked to free it. -/
inductive FreeRefusal where
  | unknown
  | foreign (owner : InstanceId)
  deriving DecidableEq, Repr

structure OwnerUsage where
  bytes : Nat := 0
  count : Nat := 0
  peakBytes : Nat := 0
  deriving DecidableEq, Repr, Inhabited

namespace OwnerUsage

def recordAlloc (u : OwnerUsage) (bytes : Nat) : OwnerUsage :=
  { bytes := u.bytes + bytes
    count := u.count + 1
    peakBytes := max u.peakBytes (u.bytes + bytes) }

def recordFree (u : OwnerUsage) (bytes : Nat) : OwnerUsage :=
  { u with bytes := u.bytes - bytes, count := u.count - 1 }

end OwnerUsage

structure Block where
  ptr : HeapPtr
  owner : InstanceId
  data : Array UInt8
  deriving DecidableEq, Repr, Inhabited

def Block.size (b : Block) : Nat := b.data.size

structure Heap where
  limits : HeapLimits
  blocks : List Block := []
  usage : List (InstanceId × OwnerUsage) := []
  /-- How many blocks were ever handed out. -/
  issued : Nat := 0
  totalBytes : Nat := 0
  peakBytes : Nat := 0
  deriving Repr, Inhabited

namespace Heap

def empty (limits : HeapLimits) : Heap := { limits }

/-! ## What the ledger holds -/

def find? (h : Heap) (ptr : HeapPtr) : Option Block := h.blocks.find? (·.ptr == ptr)

def blockCount (h : Heap) : Nat := h.blocks.length

def usageOf (h : Heap) (owner : InstanceId) : OwnerUsage := (h.usage.lookup owner).getD {}

/-- Whether a block of this number was ever handed out. -/
def wasIssued (h : Heap) (ptr : HeapPtr) : Bool := decide (1 ≤ ptr.val ∧ ptr.val ≤ h.issued)

/-- Bytes left under the total ceiling. -/
def available (h : Heap) : Nat := h.limits.totalBytes - h.totalBytes

/-! ## Allocation -/

/-- Counts an allocation for `owner`, who may be new to the ledger. -/
def chargeUsage (owner : InstanceId) (bytes : Nat) :
    List (InstanceId × OwnerUsage) → List (InstanceId × OwnerUsage)
  | [] => [(owner, OwnerUsage.recordAlloc {} bytes)]
  | (o, u) :: rest =>
    if o = owner then (o, u.recordAlloc bytes) :: rest
    else (o, u) :: chargeUsage owner bytes rest

/-- The limit that an allocation of this size would pass, if any. -/
def refusal? (h : Heap) (bytes : Nat) : Option AllocError :=
  if bytes = 0 then some .zeroSize
  else if h.limits.blockBytes < bytes then some (.tooLarge bytes h.limits.blockBytes)
  else if h.limits.blockCount ≤ h.blockCount then
    some (.tooManyAllocations h.limits.blockCount)
  else if h.limits.enforceTotal ∧ h.available < bytes then
    some (.heapExhausted bytes h.available)
  else none

/-- Adds a block of zeros that no limit refuses. -/
def insert (h : Heap) (owner : InstanceId) (bytes : Nat) : Heap :=
  { h with
    blocks := ⟨⟨h.issued + 1⟩, owner, Array.replicate bytes 0⟩ :: h.blocks
    usage := chargeUsage owner bytes h.usage
    issued := h.issued + 1
    totalBytes := h.totalBytes + bytes
    peakBytes := max h.peakBytes (h.totalBytes + bytes) }

def alloc (h : Heap) (owner : InstanceId) (bytes : Nat) : Except AllocError (HeapPtr × Heap) :=
  match h.refusal? bytes with
  | some e => .error e
  | none => .ok (⟨h.issued + 1⟩, h.insert owner bytes)

/-! ## Giving blocks back -/

def creditUsage (owner : InstanceId) (bytes : Nat) (usage : List (InstanceId × OwnerUsage)) :
    List (InstanceId × OwnerUsage) :=
  usage.map fun e => if e.1 = owner then (e.1, e.2.recordFree bytes) else e

/-- Takes one block out of the ledger. -/
def release (h : Heap) (b : Block) : Heap :=
  { h with
    blocks := h.blocks.filter (·.ptr != b.ptr)
    usage := creditUsage b.owner b.size h.usage
    totalBytes := h.totalBytes - b.size }

/-- Frees a block for its owner only. -/
def free (h : Heap) (requester : InstanceId) (ptr : HeapPtr) : Except FreeRefusal Heap :=
  match h.find? ptr with
  | none => .error .unknown
  | some b => if b.owner = requester then .ok (h.release b) else .error (.foreign b.owner)

/-- Releases all of an owner's blocks and forgets the owner; returns what it still held. -/
def freeAllOwnedBy (h : Heap) (owner : InstanceId) : OwnerUsage × Heap :=
  let swept := (h.blocks.filter (·.owner == owner)).foldl release h
  (h.usageOf owner, { swept with usage := swept.usage.filter (·.1 != owner) })

/-! ## Contents -/

/-- Lets a block's owner read and change its contents; the length stays what it is. -/
def access {α : Type} (h : Heap) (requester : InstanceId) (ptr : HeapPtr)
    (f : (n : Nat) → Vector UInt8 n → α × Vector UInt8 n) : Option (α × Heap) :=
  match h.find? ptr with
  | none => none
  | some b =>
    if b.owner = requester then
      let r := f b.size ⟨b.data, rfl⟩
      let put (x : Block) : Block := if x.ptr = ptr then { x with data := r.2.toArray } else x
      some (r.1, { h with blocks := h.blocks.map put })
    else none

/-- Sets every byte and tells how many there are. -/
def filling (byte : UInt8) (n : Nat) (_ : Vector UInt8 n) : Nat × Vector UInt8 n :=
  (n, Vector.replicate n byte)

/-- Adds the bytes up. -/
def summing (n : Nat) (v : Vector UInt8 n) : Nat × Vector UInt8 n :=
  (v.toArray.foldl (fun s b => s + b.toNat) 0, v)

end Heap

end ContextHub
