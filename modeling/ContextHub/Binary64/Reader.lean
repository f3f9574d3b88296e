import ContextHub.Binary64
/-!
# Reading decimal numbers

A sign, digits with or without a point, and perhaps a power of ten. At least one digit must stand
before or after the point, and nothing may follow.
-/

namespace ContextHub.Decimal

/-- The digits at the front, and what follows them. -/
def digits (cs : List Char) : List Char × List Char :=
  (cs.takeWhile (·.isDigit), cs.dropWhile (·.isDigit))

/-- The value of some decimal digits. -/
def value (ds : List Char) : Nat := ds.foldl (fun n c => 10 * n + (c.toNat - '0'.toNat)) 0

/-- How many numbers 64 bits tell apart. -/
def wordCount : Nat := 18446744073709551616

/-- A whole number: digits alone, at least one. -/
def natural? (cs : List Char) : Option Nat :=
  match cs with
  | [] => none
  | _ => if cs.all (·.isDigit) then some (value cs) else none

/-- Splits a sign off; `true` is a minus. -/
def sign : List Char → Bool × List Char
  | '-' :: rest => (true, rest)
  | '+' :: rest => (false, rest)
  | cs => (false, cs)

/-- The digits after a point, and what follows. -/
def fraction : List Char → List Char × List Char
  | '.' :: rest => digits rest
  | cs => ([], cs)

/-- A power of ten, which may be missing but not be incomplete. -/
def power? : List Char → Option Int
  | [] => some 0
  | c :: rest =>
    if c = 'e' ∨ c = 'E' then
      let (negative, ds) := sign rest
      (natural? ds).map fun n => if negative then -(n : Int) else n
    else none

/-- The double nearest to what is written. A power so large or so small that the digits do not
matter is cut. -/
def double? (cs : List Char) : Option Binary64 :=
  let (negative, cs) := sign cs
  let (whole, cs) := digits cs
  let (frac, cs) := fraction cs
  let ds := whole ++ frac
  if ds.isEmpty then none
  else
    (power? cs).map fun (e : Int) =>
      let place : Int := e - frac.length
      .ofDecimal negative (value ds) (max (-(ds.length + 400)) (min 400 place))

end ContextHub.Decimal
