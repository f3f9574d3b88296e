import ContextHub.Json.Number
import ContextHub.Text.Hex
/-!
# Settings as JSON

A document of one value. Objects are tables, in which the last of several entries with one key
holds.
-/

namespace ContextHub.Json

/-- What keeps a text from being a JSON document. -/
inductive Fault where
  | ended
  | unexpected (c : Char)
  | badNumber
  | badEscape
  | control (c : Char)
  | trailing
  | tooDeep
  deriving DecidableEq, Repr

def Fault.message : Fault → String
  | ended => "the text ends inside a value"
  | unexpected c => s!"unexpected character {c}"
  | badNumber => "a number is malformed or too large"
  | badEscape => "unknown escape in a string"
  | control c => s!"the character {c.toNat} must be escaped"
  | trailing => "text after the end of the value"
  | tooDeep => "the nesting is too deep"

def isSpace (c : Char) : Bool := c == ' ' || c == '\n' || c == '\t' || c == '\r'

def skip (cs : List Char) : List Char := cs.dropWhile isSpace

/-! ## Strings -/

/-- The characters that short escapes stand for. -/
def escapes : List (Char × Char) :=
  [('"', '"'), ('\\', '\\'), ('/', '/'), ('b', '\x08'), ('f', '\x0c'), ('n', '\n'), ('r', '\r'),
   ('t', '\t')]

/-- Where the reader of a string stands. -/
inductive EscapeState where
  | none
  | started
  /-- So many digits of a code unit are missing; `high` is the first half of a pair, or zero. -/
  | code (missing value high : Nat)
  /-- Behind the first half of a pair, with the backslash read or not. -/
  | half (isStarted : Bool) (high : Nat)
  deriving DecidableEq, Repr

/-- What a complete code unit makes of a string. -/
inductive Unit16 where
  | char (c : Char)
  | firstHalf (high : Nat)
  | stray
  deriving DecidableEq, Repr

/-- What a code unit is behind a first half, or behind none if `high` is zero. -/
def unit16 (high value : Nat) : Unit16 :=
  let isSecond : Bool := 0xdc00 ≤ value && value < 0xe000
  let isFirst : Bool := 0xd800 ≤ value && value < 0xdc00
  if high ≠ 0 then
    if isSecond then .char (Char.ofNat (0x10000 + (high - 0xd800) * 0x400 + (value - 0xdc00)))
    else .stray
  else if isFirst then .firstHalf value
  else if isSecond then .stray
  else .char (Char.ofNat value)

/-- The rest of a string, and what follows its closing quote. -/
def stringFrom (state : EscapeState) (text : List Char) :
    List Char → Except Fault (String × List Char)
  | [] => .error .ended
  | c :: rest =>
    match state with
    | .none =>
      if c = '"' then .ok (String.ofList text.reverse, rest)
      else if c = '\\' then stringFrom .started text rest
      else if c.toNat < 0x20 then .error (.control c)
      else stringFrom .none (c :: text) rest
    | .started =>
      match escapes.lookup c with
      | some d => stringFrom .none (d :: text) rest
      | none => if c = 'u' then stringFrom (.code 4 0 0) text rest else .error .badEscape
    | .code missing value high =>
      match Hex.digit? c with
      | none => .error .badEscape
      | some d =>
        let value := 16 * value + d
        if 1 < missing then stringFrom (.code (missing - 1) value high) text rest
        else
          match unit16 high value with
          | .char e => stringFrom .none (e :: text) rest
          | .firstHalf h => stringFrom (.half false h) text rest
          | .stray => .error .badEscape
    | .half false high =>
      if c = '\\' then stringFrom (.half true high) text rest else .error .badEscape
    | .half true high =>
      if c = 'u' then stringFrom (.code 4 0 high) text rest else .error .badEscape

/-! ## Values -/

mutual

/-- The value at the front, and what follows it, if `fuel` exceeds what its characters need. -/
def value : Nat → List Char → Except Fault (Setting × List Char)
  | 0, _ => .error .tooDeep
  | fuel + 1, cs =>
    match skip cs with
    | [] => .error .ended
    | 'n' :: 'u' :: 'l' :: 'l' :: rest => .ok (.nothing, rest)
    | 't' :: 'r' :: 'u' :: 'e' :: rest => .ok (.flag true, rest)
    | 'f' :: 'a' :: 'l' :: 's' :: 'e' :: rest => .ok (.flag false, rest)
    | '"' :: rest => (stringFrom .none [] rest).map fun r => (.text r.1, r.2)
    | '[' :: rest =>
      match skip rest with
      | ']' :: rest => .ok (.list [], rest)
      | rest => items fuel rest []
    | '\x7b' :: rest =>
      match skip rest with
      | '\x7d' :: rest => .ok (.table [], rest)
      | rest => members fuel rest []
    | c :: rest =>
      if c = '-' ∨ c.isDigit then
        match number? (c :: rest) with
        | some r => .ok r
        | none => .error .badNumber
      else .error (.unexpected c)

/-- The remaining items of an array; `acc` holds those before, backwards. -/
def items : Nat → List Char → List Setting → Except Fault (Setting × List Char)
  | 0, _, _ => .error .tooDeep
  | fuel + 1, cs, acc => do
    let (v, rest) ← value fuel cs
    match skip rest with
    | ',' :: rest => items fuel rest (v :: acc)
    | ']' :: rest => return (.list (v :: acc).reverse, rest)
    | c :: _ => throw (.unexpected c)
    | [] => throw .ended

/-- The remaining members of an object; `acc` holds those before, backwards. -/
def members : Nat → List Char → List (String × Setting) → Except Fault (Setting × List Char)
  | 0, _, _ => .error .tooDeep
  | fuel + 1, cs, acc => do
    let (key, rest) ← match skip cs with
      | '"' :: rest => stringFrom .none [] rest
      | c :: _ => .error (.unexpected c)
      | [] => .error .ended
    let rest ← match skip rest with
      | ':' :: rest => pure rest
      | c :: _ => throw (.unexpected c)
      | [] => throw .ended
    let (v, rest) ← value fuel rest
    match skip rest with
    | ',' :: rest => members fuel rest ((key, v) :: acc)
    | '\x7d' :: rest => return (.ofEntries ((key, v) :: acc).reverse, rest)
    | c :: _ => throw (.unexpected c)
    | [] => throw .ended

end

/-- The settings of a document. -/
def setting (text : String) : Except Fault Setting := do
  let cs := text.toList
  let (v, rest) ← value (2 * cs.length + 2) cs
  if (skip rest).isEmpty then return v else throw .trailing

end ContextHub.Json
