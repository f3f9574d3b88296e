import ContextHub.Binary64.Reader
import ContextHub.Config.Setting
/-!
# Numbers in JSON

A number without a point or a power of ten is whole if 64 bits hold it; every other one is a
double. Of the digits, as many count as 64 bits hold; they are rounded to a double, which is then
multiplied with or divided by the double of a power of ten, rounding again. So the result may be a
neighbour of the double nearest to what is written.
-/

namespace ContextHub.Json

open Decimal (digits wordCount)

/-! ## Products and quotients of doubles -/

def magnitude : Binary64 → Binary64.Ratio
  | .finite _ m e => Binary64.scaled 2 m e
  | _ => (0, 1)

/-- The largest power of ten that a double can hold. -/
def greatestPower : Nat := 308

def powerOfTen (k : Nat) : Binary64 := .ofRatio false (Nat.pow 10 k) 1

/-- The double nearest to a product. -/
def product (x y : Binary64) : Binary64 :=
  let (a, b) := magnitude x
  let (c, d) := magnitude y
  .ofRatio false (a * c) (b * d)

/-- The double nearest to a quotient. -/
def quotient (x y : Binary64) : Binary64 :=
  let (a, b) := magnitude x
  let (c, d) := magnitude y
  .ofRatio false (a * d) (b * c)

/-- Divides by ten to the power `k`, at most `steps` times by the largest power; what is left to
divide after three such steps is zero. -/
def lowered : Nat → Binary64 → Nat → Binary64
  | 0, _, _ => .ofRatio false 0 1
  | steps + 1, x, k =>
    if k ≤ greatestPower then quotient x (powerOfTen k)
    else lowered steps (quotient x (powerOfTen greatestPower)) (k - greatestPower)

/-- A double by its digits and the power of ten behind them; none if it is too large. -/
def real? (negative : Bool) (n : Nat) (power : Int) : Option Binary64 :=
  let x := Binary64.ofRatio false n 1
  let y :=
    if n = 0 then x
    else if 0 ≤ power then
      if power ≤ greatestPower then product x (powerOfTen power.toNat) else .infinite false
    else lowered 3 x (-power).toNat
  match y with
  | .finite _ m e => some (.finite negative m e)
  | _ => none

/-! ## Reading -/

/-- Adds digits to a number while 64 bits hold it; also tells how many are left over. -/
def absorb (n : Nat) : List Char → Nat × Nat
  | [] => (n, 0)
  | c :: rest =>
    let m := 10 * n + (c.toNat - '0'.toNat)
    if m < wordCount then absorb m rest else (n, rest.length + 1)

/-- A whole number; none if 64 bits do not hold it, or if it is a negative zero. -/
def whole? (negative : Bool) (n : Nat) : Option Setting :=
  if !negative then some (.unsigned n)
  else if 0 < n ∧ 2 * n ≤ wordCount then some (.signed (-n))
  else none

/-- The digits behind a point, if one is there, and what follows them. -/
def fraction? : List Char → Option (Option (List Char) × List Char)
  | '.' :: cs =>
    let (ds, rest) := digits cs
    if ds.isEmpty then none else some (some ds, rest)
  | cs => some (none, cs)

/-- A power of ten, if one is there, and what follows it. -/
def power? : List Char → Option (Option Int × List Char)
  | [] => some (none, [])
  | c :: cs =>
    if c = 'e' ∨ c = 'E' then
      let (negative, cs) := Decimal.sign cs
      let (ds, rest) := digits cs
      let n : Int := Decimal.value ds
      if ds.isEmpty then none else some (some (if negative then -n else n), rest)
    else some (none, c :: cs)

/-- Whether digits may stand before the point: a zero only stands there alone. -/
def isWholePart : List Char → Bool
  | [] => false
  | ['0'] => true
  | c :: _ => c != '0'

/-- The number at the front, and what follows it. -/
def number? (cs : List Char) : Option (Setting × List Char) := do
  let (negative, cs) := match cs with
    | '-' :: cs => (true, cs)
    | cs => (false, cs)
  let (ds, rest) := digits cs
  if !isWholePart ds then none
  let (frac, rest) ← fraction? rest
  let (power, rest) ← power? rest
  let (n, left) := absorb 0 ds
  let (m, unread) := absorb n (frac.getD [])
  let place : Int := left - ((frac.getD []).length - unread : Int) + power.getD 0
  let whole := if left = 0 ∧ frac.isNone ∧ power.isNone then whole? negative n else none
  match whole with
  | some v => return (v, rest)
  | none => return (.decimal (← real? negative m place), rest)

end ContextHub.Json
