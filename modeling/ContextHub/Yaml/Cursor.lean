import ContextHub.Yaml.Character
import ContextHub.Yaml.Fault
/-!
# Places in a document

A cursor is what is left of a document together with the line and column where that begins.
Columns count characters. Within a line, `Cursor.moveTo` goes on to a rest of the line.
-/

namespace ContextHub.Yaml

structure Place where
  line : Nat := 0
  column : Nat := 0
  deriving DecidableEq, Repr

namespace Place

/-- The place behind a character. -/
def after (p : Place) (c : Char) : Place :=
  if isBreak c then ⟨p.line + 1, 0⟩ else ⟨p.line, p.column + 1⟩

/-- So many columns further on the same line. -/
def right (p : Place) (n : Nat) : Place := ⟨p.line, p.column + n⟩

end Place

structure Cursor where
  place : Place := {}
  rest : List Char
  deriving DecidableEq, Repr

namespace Cursor

/-- Goes on to a part of the rest that begins on the same line. -/
def moveTo (c : Cursor) (rest : List Char) : Cursor :=
  ⟨c.place.right (c.rest.length - rest.length), rest⟩

/-- Passes some characters of the line. -/
def skip (c : Cursor) (n : Nat) : Cursor := c.moveTo (c.rest.drop n)

/-- Goes on to the next line if nothing but a comment is left of this one. -/
def endLine? (c : Cursor) : Option Cursor :=
  let cs := c.rest.dropWhile isBlank
  let cs := if cs.head? = some '#' then cs.dropWhile (!isBreak ·) else cs
  match cs with
  | [] => some (c.moveTo [])
  | b :: rest => if isBreak b then some ⟨c.place.after b, rest⟩ else none

end Cursor

end ContextHub.Yaml
