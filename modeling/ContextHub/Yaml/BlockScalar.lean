import ContextHub.Yaml.Quoted
/-!
# Block scalars

A header, then lines indented under it. The indentation is the one the header tells, or else that
of the first line with content. After a bar every break is kept; after an angle, a single break
between two lines that do not start with a blank becomes a space. The header also tells what
happens to the breaks at the end: they go, one stays, or all stay.
-/

namespace ContextHub.Yaml

/-- What is kept of the breaks at the end. -/
inductive Chomp where
  | strip
  | clip
  | keep
  deriving DecidableEq, Repr

def chomp? : Char → Option Chomp
  | '-' => some .strip
  | '+' => some .keep
  | _ => none

structure BlockHeader where
  chomp : Chomp := .clip
  /-- By how much the lines are indented, if the header tells. -/
  indent : Option Nat := none
  deriving DecidableEq, Repr

/-- A digit of a header; zero is not one. -/
def indentDigit? (c : Char) : Option Nat :=
  if c.isDigit ∧ c ≠ '0' then some (c.toNat - '0'.toNat) else none

/-- A header with at most one sign and one digit, in either order, and what follows it. -/
def blockHeader : List Char → BlockHeader × List Char
  | [] => ({}, [])
  | c :: rest =>
    match chomp? c, indentDigit? c, rest.head?.bind chomp?, rest.head?.bind indentDigit? with
    | some k, _, _, some n => ({ chomp := k, indent := some n }, rest.drop 1)
    | some k, _, _, none => ({ chomp := k }, rest)
    | none, some n, some k, _ => ({ chomp := k, indent := some n }, rest.drop 1)
    | none, some n, none, _ => ({ indent := some n }, rest)
    | none, none, _, _ => ({}, c :: rest)

/-- What is fixed while the lines of a block scalar are read. -/
structure BlockLayout where
  isFolded : Bool
  /-- The least indentation of a line with content. -/
  margin : Nat
  deriving DecidableEq, Repr

/-- The lines of a block scalar so far. -/
structure BlockText where
  /-- The text without the breaks at its end, backwards. -/
  text : List Char := []
  /-- The break that ended the last line with content. -/
  lineEnd : Option Char := none
  /-- The breaks of empty lines since, backwards. -/
  more : List Char := []
  /-- Whether the last line with content starts with a blank. -/
  startsBlank : Bool := false
  /-- The widest indentation of the lines before the first one with content. -/
  widest : Nat := 0
  /-- The indentation, once it is known. -/
  indent : Option Nat := none
  deriving Repr

namespace BlockText

/-- The text with the break that ended its last line, if that was kept. -/
def closed (b : BlockText) : List Char := b.lineEnd.toList ++ b.text

/-- The indentation that a first line with content fixes. -/
def indentAt (l : BlockLayout) (b : BlockText) (column : Nat) : Nat :=
  b.indent.getD (max (max b.widest column) (max l.margin 1))

/-- Begins a line with content: joins it to the text before. -/
def beginLine (l : BlockLayout) (b : BlockText) (indent : Nat) (c : Char) : BlockText :=
  let folds := l.isFolded && b.lineEnd == some '\n' && !b.startsBlank && !isBlank c
  let before := if folds then (if b.more.isEmpty then ' ' :: b.text else b.text) else b.closed
  { text := c :: (b.more ++ before), startsBlank := isBlank c, indent := some indent }

/-- The whole text, as the header wants its end. -/
def finish (k : Chomp) (b : BlockText) : List Char :=
  match k with
  | .strip => b.text.reverse
  | .clip => b.closed.reverse
  | .keep => (b.more ++ b.closed).reverse

end BlockText

/-- Whether a column is still before the indentation. -/
def isShort (b : BlockText) (column : Nat) : Bool := b.indent.all (column < ·)

/-- The rest of a block scalar; `inLine` says that a line with content has begun. -/
def blockFrom (l : BlockLayout) (k : Chomp) (inLine : Bool) (b : BlockText) (p : Place) :
    List Char → Except Fault Lexeme
  | [] => .ok ⟨b.finish k, ⟨p, []⟩⟩
  | c :: rest =>
    if inLine then
      if isBreak c then blockFrom l k false { b with lineEnd := some c } (p.after c) rest
      else blockFrom l k true { b with text := c :: b.text } (p.after c) rest
    else if c = ' ' ∧ isShort b p.column then blockFrom l k false b (p.after c) rest
    else if c = '\t' ∧ isShort b p.column then .error .tab
    else if isBreak c then
      blockFrom l k false { b with more := c :: b.more, widest := max b.widest p.column }
        (p.after c) rest
    else
      let indent := b.indentAt l p.column
      if p.column = indent then blockFrom l k true (b.beginLine l indent c) (p.after c) rest
      else .ok ⟨b.finish k, ⟨p, c :: rest⟩⟩

/-- The block scalar whose indicator stands before the cursor. -/
def blockScalar (isFolded : Bool) (margin : Nat) (c : Cursor) : Except Fault Lexeme :=
  let (h, rest) := blockHeader c.rest
  match (c.moveTo rest).endLine? with
  | none => .error .badHeader
  | some c =>
    blockFrom ⟨isFolded, margin⟩ h.chomp false { indent := h.indent.map (margin - 1 + ·) }
      c.place c.rest

end ContextHub.Yaml
