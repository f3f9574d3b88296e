import ContextHub.Yaml.Cursor
import ContextHub.Yaml.Gap
/-!
# Plain scalars

Scalars without quotes. One ends before a comment, a colon that ends a key, a document marker, a
line that is not indented enough and, in flow collections, before an indicator of those.
-/

namespace ContextHub.Yaml

/-- Characters that cannot start a plain scalar whatever follows them. -/
def reserved : List Char := ",[]\x7b\x7d#&*!|>'\"%@`".toList

/-- Whether a plain scalar can start here. -/
def startsPlain (inFlow : Bool) : List Char → Bool
  | [] => false
  | c :: rest =>
    if isSpace c || reserved.contains c then false
    else if c = '-' then !(rest.head?.any isBlank)
    else if c = '?' ∨ c = ':' then !inFlow && !atSpace rest
    else true

/-- Whether a colon before this is neither part of a word nor the end of a key. -/
def isStray : List Char → Bool
  | [] => false
  | c :: _ => isFlowIndicator c || c == '?'

structure PlainScalar where
  text : List Char
  /-- Behind the white space that follows the text. -/
  cursor : Cursor
  /-- Whether that white space goes on to another line. -/
  endsLine : Bool
  deriving Repr

/-- Whether a plain scalar ends before a character that is no space. -/
def endsPlain (inFlow : Bool) (margin : Nat) (gap : Gap) (p : Place) (c : Char)
    (rest : List Char) : Bool :=
  (!gap.isEmpty && (c == '#' || (!inFlow && p.column < margin))) ||
    (p.column == 0 && isMarker (c :: rest)) ||
    (c == ':' && atSpace rest) || (inFlow && isFlowIndicator c)

/-- The rest of a plain scalar whose lines are indented by `margin` at least; `text` is what was
read, backwards, and `gap` the white space since. -/
def plainFrom (inFlow : Bool) (margin : Nat) (text : List Char) (gap : Gap) (p : Place) :
    List Char → Except Fault PlainScalar
  | [] => .ok ⟨text.reverse, ⟨p, []⟩, gap.hasBreak⟩
  | c :: rest =>
    if isBlank c then
      if c = '\t' ∧ gap.hasBreak ∧ p.column < margin then .error .tab
      else plainFrom inFlow margin text (gap.blank c) (p.after c) rest
    else if isBreak c then plainFrom inFlow margin text (gap.lineBreak c) (p.after c) rest
    else if endsPlain inFlow margin gap p c rest then
      .ok ⟨text.reverse, ⟨p, c :: rest⟩, gap.hasBreak⟩
    else if inFlow ∧ c = ':' ∧ isStray rest then .error .strayColon
    else plainFrom inFlow margin (c :: gap.onto text) .nothing (p.after c) rest

/-- The plain scalar at a cursor. -/
def plain (inFlow : Bool) (margin : Nat) (c : Cursor) : Except Fault PlainScalar :=
  plainFrom inFlow margin [] .nothing c.place c.rest

end ContextHub.Yaml
