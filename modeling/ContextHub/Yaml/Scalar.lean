import ContextHub.Binary64.Reader
import ContextHub.Config.Setting
import ContextHub.Text.Hex
/-!
# Plain scalars

What a scalar without quotes stands for: nothing, a flag, a whole number, a decimal number, or else
its own text. Digits that begin with a zero are text, and so is a number too large for a double.
-/

namespace ContextHub.Yaml

open Decimal (wordCount)

/-- The value of at least one digit in a base up to sixteen. -/
def digits? (base : Nat) (cs : List Char) : Option Nat :=
  match cs with
  | [] => none
  | _ => cs.foldlM (fun n c => do
      let d ← Hex.digit? c
      if d < base then some (base * n + d) else none) 0

/-- Whether digits begin with a zero that means nothing. -/
def hasIdleZero : List Char → Bool
  | '0' :: c :: rest => (c :: rest).all (·.isDigit)
  | _ => false

/-- A whole number without a sign, in base ten or after a mark for another base. -/
def natural? : List Char → Option Nat
  | '0' :: 'x' :: rest => digits? 16 rest
  | '0' :: 'o' :: rest => digits? 8 rest
  | '0' :: 'b' :: rest => digits? 2 rest
  | cs => if hasIdleZero cs then none else digits? 10 cs

/-- A number that was written without a minus; too large a one is none. -/
def ofNatural (n : Nat) : Option Setting :=
  if n < wordCount then some (.unsigned n)
  else if n < wordCount * wordCount then some (.wide n)
  else none

def ofNegative (n : Nat) : Option Setting :=
  if 2 * n ≤ wordCount then some (.signed (-n))
  else if 2 * n ≤ wordCount * wordCount then some (.wide (-n))
  else none

def whole? : List Char → Option Setting
  | '-' :: cs => (natural? cs).bind ofNegative
  | '+' :: cs => (natural? cs).bind ofNatural
  | cs => (natural? cs).bind ofNatural

def infinity : List String := [".inf", ".Inf", ".INF"]

def notANumber : List String := [".nan", ".NaN", ".NAN"]

/-- A finite double, written with digits. -/
def finite? (cs : List Char) : Option Setting :=
  match Decimal.double? cs with
  | some (.finite negative m e) => some (.decimal (.finite negative m e))
  | _ => none

def decimal? (cs : List Char) : Option Setting :=
  let (negative, body) := Decimal.sign cs
  if infinity.contains (String.ofList body) then some (.decimal (.infinite negative))
  else if notANumber.contains (String.ofList cs) then some (.decimal .notANumber)
  else finite? cs

/-- A decimal number whose sign is not followed by an idle zero. -/
def properDecimal? (cs : List Char) : Option Setting :=
  if hasIdleZero (Decimal.sign cs).2 then none else decimal? cs

/-- Whether a word stands for nothing. -/
def isNull (s : String) : Bool := ["~", "null", "Null", "NULL"].contains s

def flag? (s : String) : Option Setting :=
  if ["true", "True", "TRUE"].contains s then some (.flag true)
  else if ["false", "False", "FALSE"].contains s then some (.flag false)
  else none

/-- What a plain scalar stands for. -/
def resolve (s : String) : Setting :=
  if s = "" ∨ isNull s then .nothing
  else
    let number? := (whole? s.toList).orElse fun _ => properDecimal? s.toList
    ((flag? s).orElse fun _ => number?).getD (.text s)

end ContextHub.Yaml
