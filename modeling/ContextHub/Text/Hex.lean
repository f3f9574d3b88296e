/-!
# Hexadecimal text

Fixed-width and byte-wise lower-case hexadecimal. `ofBytes` writes two digits for each byte;
`padded` fills a number with zeros on the left and keeps every digit of a longer one.
-/

namespace ContextHub.Hex

def digits (n : Nat) : String := String.ofList (Nat.toDigits 16 n)

/-- At least `width` digits. -/
def padded (width n : Nat) : String :=
  let ds := Nat.toDigits 16 n
  String.ofList (List.replicate (width - ds.length) '0' ++ ds)

def ofByte (b : UInt8) : String := padded 2 b.toNat

def ofBytes (bytes : List UInt8) : String := String.join (bytes.map ofByte)

/-- A 16-bit value as `0x` and four digits. -/
def word16 (n : Nat) : String := "0x" ++ padded 4 n

/-- A 64-bit value as `0x` and sixteen digits. -/
def word64 (n : Nat) : String := "0x" ++ padded 16 n

/-- The value of one hexadecimal digit of either case. -/
def digit? (c : Char) : Option Nat :=
  if '0' ≤ c ∧ c ≤ '9' then some (c.toNat - '0'.toNat)
  else if 'a' ≤ c ∧ c ≤ 'f' then some (c.toNat - 'a'.toNat + 10)
  else if 'A' ≤ c ∧ c ≤ 'F' then some (c.toNat - 'A'.toNat + 10)
  else none

/-- Reads pairs of digits; an odd digit or a foreign character is refused. -/
def bytes? : List Char → Option (List UInt8)
  | [] => some []
  | [_] => none
  | a :: b :: rest => do
    let hi ← digit? a
    let lo ← digit? b
    let tail ← bytes? rest
    pure (UInt8.ofNat (16 * hi + lo) :: tail)

end ContextHub.Hex
