/-!
# Little-endian bytes

A number as a fixed count of bytes, the lowest first, and back. `decode_encode` says that a number
that fits comes back, `length_encode` that the count is exact.
-/

namespace ContextHub.Bytes

/-- The `count` lowest bytes of a number. -/
def encode : Nat → Nat → List UInt8
  | 0, _ => []
  | count + 1, n => UInt8.ofNat n :: encode count (n / 256)

def decode : List UInt8 → Nat
  | [] => 0
  | b :: rest => b.toNat + 256 * decode rest

theorem length_encode (count n : Nat) : (encode count n).length = count := by
  induction count generalizing n with
  | zero => rfl
  | succ count ih => simp [encode, ih]

theorem decode_encode {count n : Nat} (h : n < Nat.pow 256 count) :
    decode (encode count n) = n := by
  induction count generalizing n with
  | zero => simp [Nat.lt_one_iff.mp (by simpa using h)]; rfl
  | succ count ih =>
    have small : n / 256 < Nat.pow 256 count := Nat.div_lt_of_lt_mul (by
      rw [Nat.mul_comm]
      exact h)
    simp only [encode, decode, ih small, UInt8.toNat_ofNat']
    omega

end ContextHub.Bytes
