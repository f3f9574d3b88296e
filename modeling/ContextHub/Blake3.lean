import ContextHub.Bytes
import ContextHub.Text.Hex
/-!
# The BLAKE3 digest

The 32-byte BLAKE3 hash of a byte sequence. The input is cut into chunks of 1024 bytes and each
chunk into blocks of 64; compressing the blocks one after the other gives the chunk's chaining
value. The chunks are the leaves of a binary tree whose left subtrees are full, and the root is
compressed with a flag of its own.
-/

namespace ContextHub.Blake3

/-- Eight words carried from block to block. -/
abbrev Chain := Vector UInt32 8

/-- Sixteen words: a message block, or the state of a compression. -/
abbrev Words := Vector UInt32 16

def iv : Chain :=
  #v[0x6a09e667, 0xbb67ae85, 0x3c6ef372, 0xa54ff53a, 0x510e527f, 0x9b05688c, 0x1f83d9ab,
     0x5be0cd19]

def chunkStart : UInt32 := 1
def chunkEnd : UInt32 := 2
def parent : UInt32 := 4
def root : UInt32 := 8

def rotateRight (x n : UInt32) : UInt32 := (x >>> n) ||| (x <<< (32 - n))

/-- Mixes two message words into four words of the state. -/
def quarter (s : Words) (a b c d : Fin 16) (x y : UInt32) : Words :=
  let va := s[a] + s[b] + x
  let vd := rotateRight (s[d] ^^^ va) 16
  let vc := s[c] + vd
  let vb := rotateRight (s[b] ^^^ vc) 12
  let va := va + vb + y
  let vd := rotateRight (vd ^^^ va) 8
  let vc := vc + vd
  let vb := rotateRight (vb ^^^ vc) 7
  (((s.set a va a.isLt).set b vb b.isLt).set c vc c.isLt).set d vd d.isLt

/-- Mixes the columns and then the diagonals. -/
def round (s m : Words) : Words :=
  let s := quarter s 0 4 8 12 m[0] m[1]
  let s := quarter s 1 5 9 13 m[2] m[3]
  let s := quarter s 2 6 10 14 m[4] m[5]
  let s := quarter s 3 7 11 15 m[6] m[7]
  let s := quarter s 0 5 10 15 m[8] m[9]
  let s := quarter s 1 6 11 12 m[10] m[11]
  let s := quarter s 2 7 8 13 m[12] m[13]
  quarter s 3 4 9 14 m[14] m[15]

def permute (m : Words) : Words :=
  #v[m[2], m[6], m[3], m[10], m[7], m[0], m[4], m[13], m[1], m[11], m[12], m[5], m[9], m[14],
     m[15], m[8]]

def rounds : Nat → Words → Words → Words
  | 0, s, _ => s
  | n + 1, s, m => rounds n (round s m) (permute m)

/-- A block that is ready to be compressed. -/
structure Node where
  chain : Chain
  block : Words
  counter : Nat
  length : Nat
  flags : UInt32

namespace Node

def compress (n : Node) (counter : Nat) (flags : UInt32) : Chain :=
  let k := n.chain
  let start : Words :=
    #v[k[0], k[1], k[2], k[3], k[4], k[5], k[6], k[7], iv[0], iv[1], iv[2], iv[3],
       UInt32.ofNat counter, UInt32.ofNat (counter / 4294967296), UInt32.ofNat n.length, flags]
  let s := rounds 7 start n.block
  Vector.ofFn fun i : Fin 8 => s[i.val] ^^^ s[i.val + 8]

def chaining (n : Node) : Chain := n.compress n.counter n.flags

def digest (n : Node) : Chain := n.compress 0 (n.flags ||| root)

end Node

/-- Four bytes as a word, the lowest first; missing bytes are zero. -/
def word (bytes : Array UInt8) (at_ : Nat) : UInt32 :=
  let b (i : Nat) : UInt32 := (bytes[at_ + i]?.getD 0).toUInt32
  b 0 ||| (b 1 <<< 8) ||| (b 2 <<< 16) ||| (b 3 <<< 24)

def blockWords (bytes : Array UInt8) (start : Nat) : Words :=
  Vector.ofFn fun i : Fin 16 => word bytes (start + 4 * i.val)

/-- The blocks of one chunk from `start` on, all but the last compressed. -/
def chunkNode (chunk : Array UInt8) (counter : Nat) : Nat → Nat → Chain → Node
  | 0, start, chain =>
    let flags := if start = 0 then chunkStart ||| chunkEnd else chunkEnd
    ⟨chain, blockWords chunk start, counter, chunk.size - start, flags⟩
  | n + 1, start, chain =>
    let flags := if start = 0 then chunkStart else 0
    let node : Node := ⟨chain, blockWords chunk start, counter, 64, flags⟩
    chunkNode chunk counter n (start + 64) node.chaining

/-- The leaf of a chunk. -/
def leaf (chunk : Array UInt8) (counter : Nat) : Node :=
  chunkNode chunk counter ((chunk.size - 1) / 64) 0 iv

/-- The leaves of an input from the chunk `counter` on. -/
def leaves (input : Array UInt8) : Nat → Nat → List Node
  | 0, _ => []
  | n + 1, counter =>
    leaf (input.extract (counter * 1024) (counter * 1024 + 1024)) counter ::
      leaves input n (counter + 1)

def join (left right : Node) : Node :=
  let l := left.chaining
  let r := right.chaining
  ⟨iv, Vector.cast (by rfl) (l ++ r), 0, 64, parent⟩

/-- The tree over at least one leaf; the left part is the largest power of two below the count. -/
def tree : Nat → Node → List Node → Node
  | _, first, [] => first
  | 0, first, _ => first
  | fuel + 1, first, second :: rest =>
    let all := first :: second :: rest
    let k := Nat.pow 2 (all.length - 1).log2
    match all.drop k with
    | [] => first
    | r :: rs => join (tree fuel first ((second :: rest).take (k - 1))) (tree fuel r rs)

def rootNode (input : Array UInt8) : Node :=
  match leaves input ((input.size - 1) / 1024) 1 with
  | ls => tree ls.length (leaf (input.extract 0 1024) 0) ls

def wordBytes (w : UInt32) : List UInt8 := Bytes.encode 4 w.toNat

/-- The 32 bytes of the hash. -/
def hash (input : Array UInt8) : List UInt8 :=
  ((rootNode input).digest.toList.map wordBytes).flatten

/-- The hash in lower-case hexadecimal. -/
def hexHash (input : Array UInt8) : String := Hex.ofBytes (hash input)

end ContextHub.Blake3
