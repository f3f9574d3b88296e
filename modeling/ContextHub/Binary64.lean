/-!
# Double-precision numbers

A double is a sign, a mantissa of at most 53 bits and a power of two; infinities and the value
that is not a number stand beside them. `ofRatio` rounds a quotient to the nearest double, a tie
to the even mantissa. `shortest` finds the fewest decimal digits that read back as the same
double: for each count of digits it tries the two neighbours of the value on that decimal grid
and takes the nearer of those inside the interval of numbers that round to the double.
-/

namespace ContextHub

inductive Binary64 where
  | finite (negative : Bool) (mantissa : Nat) (exponent : Int)
  | infinite (negative : Bool)
  | notANumber
  deriving DecidableEq, Repr

namespace Binary64

/-- The mantissa that has all 53 bits and is the least of them. -/
def leastFull : Nat := 4503599627370496

def leastExponent : Int := -1074

def greatestExponent : Int := 971

/-! ## Exact quotients -/

/-- A non-negative fraction; the denominator is positive. -/
abbrev Ratio := Nat × Nat

/-- `n` times a power of `base`. -/
def scaled (base n : Nat) (e : Int) : Ratio :=
  if 0 ≤ e then (n * Nat.pow base e.toNat, 1) else (n, Nat.pow base (-e).toNat)

def atMost (a b : Ratio) : Bool := a.1 * b.2 ≤ b.1 * a.2

/-- Divides to the nearest whole number, a tie to the even one. -/
def divideNearest (num den : Nat) : Nat :=
  let q := num / den
  let r := num % den
  if 2 * r < den then q
  else if den < 2 * r then q + 1
  else if q % 2 = 0 then q else q + 1

/-! ## Rounding to a double -/

/-- The largest exponent at which the quotient still has 53 bits. -/
def exponentOf (num den : Nat) : Int :=
  let guess : Int := (num.log2 : Int) - den.log2 - 53
  let (n, d) := if 0 ≤ guess then (num, den <<< guess.toNat) else (num <<< (-guess).toNat, den)
  let e := if 2 * leastFull * d ≤ n then guess + 1 else guess
  max e leastExponent

/-- The double nearest to a quotient. -/
def ofRatio (negative : Bool) (num den : Nat) : Binary64 :=
  if num = 0 then finite negative 0 leastExponent
  else
    let e := exponentOf num den
    let m := if 0 ≤ e then divideNearest num (den <<< e.toNat)
      else divideNearest (num <<< (-e).toNat) den
    let (m, e) := if m = 2 * leastFull then (leastFull, e + 1) else (m, e)
    if greatestExponent < e then infinite negative else finite negative m e

/-- The double nearest to `n` times a power of ten. -/
def ofDecimal (negative : Bool) (n : Nat) (power : Int) : Binary64 :=
  let (num, den) := scaled 10 n power
  ofRatio negative num den

/-- The whole number nearest to `n` that a double can hold. -/
def roundNat (n : Nat) : Nat :=
  match ofRatio false n 1 with
  | finite _ m e => if 0 ≤ e then m <<< e.toNat else m >>> (-e).toNat
  | _ => n

/-! ## The fewest digits -/

/-- How many zeros follow the decimal point of a number below one. -/
def leadingZeros (v : Ratio) : Nat :=
  ((List.range 400).find? fun k => v.2 ≤ v.1 * Nat.pow 10 (k + 1)).getD 0

/-- How many digits a number has before the decimal point; below one, the leading zeros after it
count as negative. -/
def decimalPoint (v : Ratio) : Int :=
  if v.2 ≤ v.1 then (Nat.toDigits 10 (v.1 / v.2)).length else Int.negOfNat (leadingZeros v)

/-- Which of two equally near neighbours is taken. -/
inductive Tie where
  | up
  | even
  deriving DecidableEq, Repr

/-- The better of two neighbours on the grid of `10 ^ place`, if one of them is in the interval. -/
def onGrid (tie : Tie) (v low high : Ratio) (closed : Bool) (place : Int) : Option Nat :=
  let c := if 0 ≤ place then v.1 / (v.2 * Nat.pow 10 place.toNat)
    else v.1 * Nat.pow 10 (-place).toNat / v.2
  let inside (n : Nat) : Bool :=
    let x := scaled 10 n place
    if closed then atMost low x && atMost x high else !atMost x low && !atMost high x
  let middle := scaled 10 (2 * c + 1) place
  let takesLower : Bool :=
    if atMost middle (2 * v.1, v.2) then
      tie = .even && c % 2 == 0 && atMost (2 * v.1, v.2) middle
    else true
  match inside c, inside (c + 1) with
  | true, true => some (if takesLower then c else c + 1)
  | true, false => some c
  | false, true => some (c + 1)
  | false, false => none

/-- The same number without a zero as its last digit: a neighbour above may be a power of ten. -/
def dropZero (c : Nat) (place : Int) : Nat × Int :=
  if c % 10 = 0 then (c / 10, place + 1) else (c, place)

/-- Digits and their decimal place, for a mantissa that is not zero. -/
def shortest (tie : Tie) (m : Nat) (e : Int) : Nat × Int :=
  let v := scaled 2 m e
  let lowGap := if m = leastFull ∧ leastExponent < e then 1 else 2
  let low := scaled 2 (4 * m - lowGap) (e - 2)
  let high := scaled 2 (4 * m + 2) (e - 2)
  let point := decimalPoint v
  let tries := (List.range 17).filterMap fun (n : Nat) =>
    let place : Int := point - (n + 1)
    (onGrid tie v low high (m % 2 == 0) place).map (dropZero · place)
  tries.headD (v.1 / v.2, 0)

/-! ## Text -/

/-- Digits with as many zeros or places as needed, never with an exponent. -/
def positional (digits : Nat) (place : Int) : String :=
  let ds := Nat.toDigits 10 digits
  if 0 ≤ place then String.ofList (ds ++ List.replicate place.toNat '0')
  else
    let places := (-place).toNat
    if places < ds.length then
      String.ofList (ds.take (ds.length - places)) ++ "." ++
        String.ofList (ds.drop (ds.length - places))
    else "0." ++ String.ofList (List.replicate (places - ds.length) '0' ++ ds)

/-- Whole values without a point, others with as few digits as read back. -/
def text : Binary64 → String
  | finite negative m e =>
    let body := if m = 0 then "0" else let (d, place) := shortest .up m e; positional d place
    if negative then "-" ++ body else body
  | infinite negative => if negative then "-inf" else "inf"
  | notANumber => "NaN"

/-- One digit before the point, if there are more, and a power of ten with its sign. -/
def scientific (digits : Nat) (place : Int) : String :=
  let ds := Nat.toDigits 10 digits
  let tail := ds.drop 1
  let fraction := if tail.isEmpty then "" else "." ++ String.ofList tail
  let power : Int := place + tail.length
  let sign := if power < 0 then "-" else "+"
  String.ofList (ds.take 1) ++ fraction ++ "e" ++ sign ++ toString power.natAbs

/-- With a point in every value, and with a power of ten for those of more than sixteen digits
before the point or five zeros after it. -/
def pointed (digits : Nat) (place : Int) : String :=
  let point : Int := (Nat.toDigits 10 digits).length + place
  if point ≤ -5 ∨ 16 < point then scientific digits place
  else if 0 ≤ place then positional digits place ++ ".0"
  else positional digits place

def pointedText : Binary64 → String
  | finite negative m e =>
    let body := if m = 0 then "0.0" else let (d, place) := shortest .even m e; pointed d place
    if negative then "-" ++ body else body
  | x => x.text

/-- The text of the double nearest to an integer. -/
def integerText (n : Int) : String := (ofRatio (decide (n < 0)) n.natAbs 1).text

end Binary64

end ContextHub
