import ContextHub.Yaml.Token
/-!
# Layout

What the reader of tokens knows at a place: the columns of the block collections that are open,
the flow collections that are open, and where a key may have begun. That something was a key shows
only at its colon; until then the place of the key is remembered, and the tokens for the key and
for the mapping that it may open are put there afterwards. A key without a question mark stands on
one line and is at most 1024 characters long.
-/

namespace ContextHub.Yaml

/-- Where a key may have begun. -/
structure PossibleKey where
  /-- Whether only a key can stand there. -/
  isRequired : Bool
  /-- How many tokens stand before it. -/
  index : Nat
  place : Place
  deriving DecidableEq, Repr

namespace PossibleKey

def maxLength : Nat := 1024

/-- Whether a colon at a place is too far away to end the key. -/
def isStale (k : PossibleKey) (p : Place) : Bool :=
  k.place.line < p.line || k.place.column + maxLength < p.column

/-- Gives a key up. -/
def dropped : Option PossibleKey → Except Fault Unit
  | some k => if k.isRequired then .error .valueMissing else .ok ()
  | none => .ok ()

/-- Gives a key up if it is stale. -/
def fresh (p : Place) (key : Option PossibleKey) : Except Fault (Option PossibleKey) :=
  if key.any (·.isStale p) then do
    dropped key
    return none
  else .ok key

end PossibleKey

structure Layout where
  cursor : Cursor
  /-- The latest first. -/
  tokens : List Token := []
  /-- The columns of the open block collections, the innermost first. -/
  indents : List Nat := []
  key : Option PossibleKey := none
  /-- For each open flow collection the possible key outside it, the innermost first. -/
  outerKeys : List (Option PossibleKey) := []
  /-- Whether a key may begin here. -/
  allowsKey : Bool := true
  deriving Repr

namespace Layout

def inFlow (l : Layout) : Bool := !l.outerKeys.isEmpty

def column (l : Layout) : Nat := l.cursor.place.column

/-- The least column of what belongs to the innermost block collection. -/
def margin (l : Layout) : Nat :=
  match l.indents with
  | [] => 0
  | n :: _ => n + 1

def push (l : Layout) (t : Token) : Layout := { l with tokens := t :: l.tokens }

/-- Puts a token where only `index` tokens stand before it. -/
def insertAt (l : Layout) (index : Nat) (t : Token) : Layout :=
  { l with tokens := l.tokens.insertIdx (l.tokens.length - index) t }

/-! ## Possible keys -/

/-- Gives up the possible key, and lets a key begin here or not. -/
def withoutKey (l : Layout) (allowsKey : Bool) : Except Fault Layout := do
  PossibleKey.dropped l.key
  return { l with key := none, allowsKey := allowsKey }

/-- Remembers that a key may begin here. -/
def saveKey (l : Layout) : Except Fault Layout :=
  if l.allowsKey then do
    PossibleKey.dropped l.key
    let isRequired := !l.inFlow && l.indents.head? == some l.column
    return { l with key := some ⟨isRequired, l.tokens.length, l.cursor.place⟩ }
  else .ok l

/-- Gives up the keys that no colon can reach from here. -/
def freshKeys (l : Layout) : Except Fault Layout := do
  let p := l.cursor.place
  return { l with key := ← PossibleKey.fresh p l.key
                  outerKeys := ← l.outerKeys.mapM (PossibleKey.fresh p) }

/-! ## Indentation -/

/-- Opens a block collection at a column, its token behind `index` others, unless one that is as
deep is open. -/
def roll (l : Layout) (column index : Nat) (t : Token) : Layout :=
  if !l.inFlow && l.indents.head?.all (· < column) then
    { l with indents := column :: l.indents }.insertAt index t
  else l

/-- Opens a block collection here. -/
def rollHere (l : Layout) (t : Token) : Layout := l.roll l.column l.tokens.length t

/-- Closes the innermost block collections, as many as are deeper than a column. -/
def unroll (l : Layout) (column : Nat) : Layout :=
  if l.inFlow then l
  else
    let deeper := l.indents.takeWhile (column < ·)
    { l with indents := l.indents.drop deeper.length
             tokens := deeper.map (fun _ => .blockEnd) ++ l.tokens }

/-- Closes all block collections. -/
def unrollAll (l : Layout) : Layout :=
  if l.inFlow then l
  else { l with indents := [], tokens := l.indents.map (fun _ => .blockEnd) ++ l.tokens }

/-! ## Spaces between tokens -/

def byteOrderMark : Char := '\ufeff'

/-- Whether a character between tokens means nothing. A tab may not stand where a key may begin
in a block. -/
def isSkipped (inFlow allowsKey : Bool) (p : Place) (c : Char) : Bool :=
  c == ' ' || (c == '\t' && (inFlow || !allowsKey)) || (c == byteOrderMark && p.column == 0)

/-- The next token's place, and whether a key may begin there: a new line lets it, in a block.
`inComment` says that a comment has begun. -/
def approachFrom (inFlow inComment allowsKey : Bool) (p : Place) : List Char → Cursor × Bool
  | [] => (⟨p, []⟩, allowsKey)
  | c :: rest =>
    if isBreak c then approachFrom inFlow false (allowsKey || !inFlow) (p.after c) rest
    else if inComment || c == '#' then approachFrom inFlow true allowsKey (p.after c) rest
    else if isSkipped inFlow allowsKey p c then
      approachFrom inFlow false allowsKey (p.after c) rest
    else (⟨p, c :: rest⟩, allowsKey)

/-- Goes to the next token and closes what does not reach there. -/
def approach (l : Layout) : Except Fault Layout := do
  let (cursor, allowsKey) :=
    approachFrom l.inFlow false l.allowsKey l.cursor.place l.cursor.rest
  let l ← { l with cursor := cursor, allowsKey := allowsKey }.freshKeys
  return l.unroll l.column

end Layout

end ContextHub.Yaml
