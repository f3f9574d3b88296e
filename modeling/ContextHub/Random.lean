/-!
# Pseudo-random numbers

The xoshiro256++ generator on four 64-bit words, seeded by SplitMix64. Every draw returns the
generator that follows, so a seed fixes the whole sequence.
-/

namespace ContextHub

structure Random where
  a : UInt64
  b : UInt64
  c : UInt64
  d : UInt64
  deriving DecidableEq, Repr

namespace Random

def rotateLeft (x n : UInt64) : UInt64 := (x <<< n) ||| (x >>> (64 - n))

/-! ## Seeding -/

def splitMixStep (s : UInt64) : UInt64 := s + 0x9e3779b97f4a7c15

def splitMixOut (s : UInt64) : UInt64 :=
  let z := (s ^^^ (s >>> 30)) * 0xbf58476d1ce4e5b9
  let z := (z ^^^ (z >>> 27)) * 0x94d049bb133111eb
  z ^^^ (z >>> 31)

def ofSeed (seed : UInt64) : Random :=
  let s1 := splitMixStep seed
  let s2 := splitMixStep s1
  let s3 := splitMixStep s2
  let s4 := splitMixStep s3
  ⟨splitMixOut s1, splitMixOut s2, splitMixOut s3, splitMixOut s4⟩

/-! ## Drawing -/

def next (r : Random) : UInt64 × Random :=
  let result := rotateLeft (r.a + r.d) 23 + r.a
  let t := r.b <<< 17
  let c := r.c ^^^ r.a
  let d := r.d ^^^ r.b
  let b := r.b ^^^ c
  let a := r.a ^^^ d
  (result, ⟨a, b, c ^^^ t, rotateLeft d 45⟩)

def next64 (r : Random) : Nat × Random := (r.next.1.toNat, r.next.2)

/-- The upper half of a draw. -/
def next32 (r : Random) : Nat × Random := (r.next.1.toNat / 4294967296, r.next.2)

/-- A number below `size`, for a positive `size` of at most 32 bits: the upper half of a product,
with one more draw when the lower half leaves the result undecided. -/
def below (r : Random) (size : Nat) : Nat × Random :=
  let (x, r) := r.next32
  let hi := x * size / 4294967296
  let lo := x * size % 4294967296
  if 4294967296 - size < lo then
    let (y, r) := r.next32
    if 4294967296 ≤ lo + y * size / 4294967296 then (hi + 1, r) else (hi, r)
  else (hi, r)

/-- An integer from `low` to `high`, both included. -/
def between (r : Random) (low high : Int) : Int × Random :=
  let (n, r) := r.below (high - low + 1).toNat
  (low + n, r)

/-- The six lowest bytes of a draw, the lowest first. -/
def sixBytes (r : Random) : List UInt8 × Random :=
  let (x, r) := r.next64
  ((List.range 6).map fun i => UInt8.ofNat (x >>> (8 * i)), r)

end Random

end ContextHub
