import ContextHub.Text.Hex
import ContextHub.Yaml.Cursor
import ContextHub.Yaml.Gap
/-!
# Quoted scalars

Between single quotes a quote is written twice and nothing else is special. Between double quotes
a backslash starts an escape, and before a line break it takes that break away. A line of a quoted
scalar may not begin or end a document.
-/

namespace ContextHub.Yaml

/-- The text of a scalar and where what follows it begins. -/
structure Lexeme where
  text : List Char
  cursor : Cursor
  deriving Repr

/-- The rest of a scalar in single quotes; `text` and `gap` are as in `plainFrom`. -/
def singleFrom (text : List Char) (gap : Gap) (p : Place) : List Char → Except Fault Lexeme
  | [] => .error .unclosed
  | '\'' :: '\'' :: rest => singleFrom ('\'' :: gap.onto text) .nothing (p.right 2) rest
  | '\'' :: rest => .ok ⟨(gap.onto text).reverse, ⟨p.right 1, rest⟩⟩
  | c :: rest =>
    if isBlank c then singleFrom text (gap.blank c) (p.after c) rest
    else if isBreak c then singleFrom text (gap.lineBreak c) (p.after c) rest
    else if p.column = 0 ∧ isMarker (c :: rest) then .error .markerInside
    else singleFrom (c :: gap.onto text) .nothing (p.after c) rest

/-- The characters that short escapes stand for. -/
def escapes : List (Char × Nat) :=
  [('0', 0x00), ('a', 0x07), ('b', 0x08), ('t', 0x09), ('\t', 0x09), ('n', 0x0a), ('v', 0x0b),
   ('f', 0x0c), ('r', 0x0d), ('e', 0x1b), (' ', 0x20), ('"', 0x22), ('/', 0x2f), ('\\', 0x5c),
   ('N', 0x85), ('_', 0xa0), ('L', 0x2028), ('P', 0x2029)]

/-- How many hexadecimal digits follow the escapes that name a code point. -/
def codeWidth? : Char → Option Nat
  | 'x' => some 2
  | 'u' => some 4
  | 'U' => some 8
  | _ => none

/-- The character of a code point, unless there is none. -/
def charOf? (n : Nat) : Option Char :=
  if n < 0xd800 ∨ (0xe000 ≤ n ∧ n < 0x110000) then some (Char.ofNat n) else none

/-- Where the reader of a double-quoted scalar stands. -/
inductive EscapeState where
  | none
  | started
  /-- So many digits of a code point are missing. -/
  | code (missing value : Nat)
  deriving DecidableEq, Repr

/-- The rest of a scalar in double quotes; `text` and `gap` are as in `plainFrom`. -/
def doubleFrom (state : EscapeState) (text : List Char) (gap : Gap) (p : Place) :
    List Char → Except Fault Lexeme
  | [] => .error .unclosed
  | c :: rest =>
    match state with
    | .none =>
      if isBlank c then doubleFrom .none text (gap.blank c) (p.after c) rest
      else if isBreak c then doubleFrom .none text (gap.lineBreak c) (p.after c) rest
      else if p.column = 0 ∧ isMarker (c :: rest) then .error .markerInside
      else if c = '"' then .ok ⟨(gap.onto text).reverse, ⟨p.after c, rest⟩⟩
      else if c = '\\' then doubleFrom .started (gap.onto text) .nothing (p.after c) rest
      else doubleFrom .none (c :: gap.onto text) .nothing (p.after c) rest
    | .started =>
      if isBreak c then doubleFrom .none text (.breaks none []) (p.after c) rest
      else
        match codeWidth? c, escapes.lookup c with
        | some width, _ => doubleFrom (.code width 0) text .nothing (p.after c) rest
        | none, some n => doubleFrom .none (Char.ofNat n :: text) .nothing (p.after c) rest
        | none, none => .error .badEscape
    | .code missing value =>
      match Hex.digit? c with
      | none => .error .badEscape
      | some d =>
        let value := 16 * value + d
        if missing ≤ 1 then
          match charOf? value with
          | none => .error .badEscape
          | some e => doubleFrom .none (e :: text) .nothing (p.after c) rest
        else doubleFrom (.code (missing - 1) value) text .nothing (p.after c) rest

end ContextHub.Yaml
