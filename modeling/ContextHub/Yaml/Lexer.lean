import ContextHub.Yaml.BlockScalar
import ContextHub.Yaml.Layout
import ContextHub.Yaml.Plain
/-!
# From characters to tokens

One step for each kind of token; `Layout.step` chooses by the characters at the cursor, and
`tokens` repeats it to the end of the text.
-/

namespace ContextHub.Yaml

namespace Layout

/-- Passes some characters of the line and adds a token. -/
def take (l : Layout) (n : Nat) (t : Token) : Layout :=
  { l with cursor := l.cursor.skip n }.push t

/-! ## Documents -/

def readDirective (l : Layout) : Except Fault Layout := do
  let l ← l.unrollAll.withoutKey false
  let (d, cursor) ← directive (l.cursor.skip 1)
  return { l with cursor := cursor }.push (.directive d)

def readMarker (l : Layout) (t : Token) : Except Fault Layout := do
  return (← l.unrollAll.withoutKey false).take 3 t

/-- The tokens at the end of the text. -/
def finish (l : Layout) : Except Fault (List Token) := do
  return (← l.unrollAll.withoutKey false).tokens.reverse

/-! ## Collections -/

def openFlow (l : Layout) (t : Token) : Except Fault Layout := do
  let l ← l.saveKey
  return { l with key := none, outerKeys := l.key :: l.outerKeys, allowsKey := true }.take 1 t

/-- Closes the innermost flow collection; if none is open only the token is added. -/
def closeFlow (l : Layout) (t : Token) : Except Fault Layout := do
  let l ← l.withoutKey false
  match l.outerKeys with
  | [] => return l.take 1 t
  | key :: outer => return { l with key := key, outerKeys := outer }.take 1 t

def readComma (l : Layout) : Except Fault Layout := do
  return (← l.withoutKey true).take 1 .comma

/-- Opens a block collection here if none is open at this column; one may only begin where a key
may. -/
def opened (l : Layout) (t : Token) (f : Fault) : Except Fault Layout :=
  if l.inFlow then .ok l
  else if l.allowsKey then .ok (l.rollHere t)
  else .error f

def readEntry (l : Layout) : Except Fault Layout := do
  let l ← l.opened .blockSequence .entryNotAllowed
  return (← l.withoutKey true).take 1 .entry

def readKey (l : Layout) : Except Fault Layout := do
  let l ← l.opened .blockMapping .keyNotAllowed
  return (← l.withoutKey !l.inFlow).take 1 .key

/-- A colon ends the possible key, or stands before the value of an earlier one. -/
def readValue (l : Layout) : Except Fault Layout :=
  match l.key with
  | some k =>
    let l := (l.insertAt k.index .key).roll k.place.column k.index .blockMapping
    .ok ({ l with key := none, allowsKey := false }.take 1 .value)
  | none => do
    let l ← l.opened .blockMapping .valueNotAllowed
    return { l with allowsKey := !l.inFlow }.take 1 .value

/-! ## Nodes -/

/-- Makes the node that begins here a possible key; no other begins before white space. -/
def beginNode (l : Layout) : Except Fault Layout := do
  return { (← l.saveKey) with allowsKey := false }

def readAnchor (l : Layout) (token : String → Token) : Except Fault Layout := do
  let l ← l.beginNode
  let (name, cursor) ← anchorName (l.cursor.skip 1)
  return { l with cursor := cursor }.push (token name)

def readTag (l : Layout) : Except Fault Layout := do
  let l ← l.beginNode
  let (t, cursor) ← tag l.inFlow (l.cursor.skip 1)
  return { l with cursor := cursor }.push (.tag t)

def readQuoted (l : Layout) (c : Char) : Except Fault Layout := do
  let l ← l.beginNode
  let inside := l.cursor.skip 1
  let s ← if c = '"' then doubleFrom .none [] .nothing inside.place inside.rest
    else singleFrom [] .nothing inside.place inside.rest
  return { l with cursor := s.cursor }.push (.scalar .literal s.text)

def readBlock (l : Layout) (isFolded : Bool) : Except Fault Layout := do
  let l ← l.withoutKey true
  let s ← blockScalar isFolded l.margin (l.cursor.skip 1)
  return { l with cursor := s.cursor }.push (.scalar .literal s.text)

def readPlain (l : Layout) : Except Fault Layout := do
  let l ← l.beginNode
  let s ← plain l.inFlow l.margin l.cursor
  return { l with cursor := s.cursor, allowsKey := s.endsLine }.push (.scalar .plain s.text)

/-! ## All tokens -/

/-- Reads the token at the cursor, which begins with `c` before `rest`. -/
def step (l : Layout) (c : Char) (rest : List Char) : Except Fault Layout :=
  if l.column = 0 ∧ c = '%' then l.readDirective
  else if l.column = 0 ∧ isMarker (c :: rest) then
    l.readMarker (if c = '-' then .documentStart else .documentEnd)
  else if c = '[' then l.openFlow .listOpen
  else if c = '\x7b' then l.openFlow .tableOpen
  else if c = ']' then l.closeFlow .listClose
  else if c = '\x7d' then l.closeFlow .tableClose
  else if c = ',' then l.readComma
  else if c = '-' ∧ atSpace rest then l.readEntry
  else if c = '?' ∧ (l.inFlow ∨ atSpace rest) then l.readKey
  else if c = ':' ∧ (l.inFlow ∨ atSpace rest) then l.readValue
  else if c = '*' then l.readAnchor .reference
  else if c = '&' then l.readAnchor .anchor
  else if c = '!' then l.readTag
  else if (c = '|' ∨ c = '>') ∧ !l.inFlow then l.readBlock (c = '>')
  else if c = '\'' ∨ c = '"' then l.readQuoted c
  else if startsPlain l.inFlow (c :: rest) then l.readPlain
  else .error (if c = '\t' then .tab else .badStart c)

/-- The tokens from here, if `fuel` exceeds their number. -/
def run : Nat → Layout → Except Fault (List Token)
  | 0, _ => .error .tooDeep
  | fuel + 1, l => do
    let l ← l.approach
    match l.cursor.rest with
    | [] => l.finish
    | c :: rest => run fuel (← l.step c rest)

end Layout

/-- The tokens of a document; each takes a character at least. -/
def tokens (cs : List Char) : Except Fault (List Token) :=
  Layout.run (cs.length + 1) { cursor := { rest := cs } }

end ContextHub.Yaml
