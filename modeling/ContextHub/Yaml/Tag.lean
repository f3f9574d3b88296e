import ContextHub.Text.Hex
import ContextHub.Yaml.Cursor
/-!
# Tags, anchors and directives

The properties that may stand before a node, and the lines that may stand before a document. A tag
is kept as the bytes that it spells, with every percent escape read; in a document it is written
out between angles, or as a handle and a rest, where a directive tells what the handle stands for.
-/

namespace ContextHub.Yaml

abbrev Tag := List UInt8

namespace Tag

def ofString (s : String) : Tag := s.toUTF8.toList

def toString? (t : Tag) : Option String := String.fromUTF8? ⟨t.toArray⟩

/-- What a handle stands for unless a directive tells otherwise. -/
def usualHandles : List (List Char × Tag) :=
  [("!".toList, ofString "!"), ("!!".toList, ofString "tag:yaml.org,2002:")]

end Tag

/-! ## Tags -/

/-- Whether a character may stand in a tag; some may only where no flow collection is read. -/
def isUri (isVerbatim : Bool) (c : Char) : Bool :=
  isWord c || ";/?:@&=+$.!~*'()".toList.contains c || (isVerbatim && ",[]".toList.contains c)

/-- How many bytes make up a character whose first byte this is. -/
def sequenceLength? (byte : Nat) : Option Nat :=
  if byte < 0x80 then some 1
  else if byte / 0x20 = 6 then some 2
  else if byte / 0x10 = 14 then some 3
  else if byte / 8 = 30 then some 4
  else none

/-- How many bytes of a character are missing behind a byte, if so many were missing before it. -/
def missingAfter? (missing byte : Nat) : Option Nat :=
  if missing = 0 then (sequenceLength? byte).map (· - 1)
  else if byte / 0x40 = 2 then some (missing - 1)
  else none

/-- The bytes that the front of a text spells, and the rest. The last character of several bytes
has `missing` of them to come, and each must be an escape. -/
def uriFrom (isVerbatim : Bool) (missing : Nat) (bytes : List UInt8) :
    List Char → Except Fault (Tag × List Char)
  | '%' :: a :: b :: rest =>
    match Hex.digit? a, Hex.digit? b with
    | some x, some y =>
      match missingAfter? missing (16 * x + y) with
      | some n => uriFrom isVerbatim n (UInt8.ofNat (16 * x + y) :: bytes) rest
      | none => .error .badTag
    | _, _ => .error .badTag
  | [] => if missing = 0 then .ok (bytes.reverse, []) else .error .badTag
  | c :: rest =>
    if missing ≠ 0 ∨ c = '%' then .error .badTag
    else if isUri isVerbatim c then uriFrom isVerbatim 0 (UInt8.ofNat c.toNat :: bytes) rest
    else .ok (bytes.reverse, c :: rest)

/-- The bytes that the front of a text spells, at least one, and the rest. -/
def uri (isVerbatim : Bool) (cs : List Char) : Except Fault (Tag × List Char) := do
  let (t, rest) ← uriFrom isVerbatim 0 [] cs
  if t.isEmpty then throw .badTag
  return (t, rest)

/-- The letters of a handle behind its exclamation mark, and whether another mark ends them. -/
def handle (cs : List Char) : List Char × Bool × List Char :=
  let letters := cs.takeWhile isWord
  match cs.dropWhile isWord with
  | '!' :: rest => (letters, true, rest)
  | rest => (letters, false, rest)

/-- A tag as it is written: its handle, which is empty if the tag is written out, and the rest. -/
structure TagText where
  handle : List Char
  suffix : Tag
  deriving DecidableEq, Repr

/-- The tag behind an exclamation mark, and what follows it. -/
def tagText (cs : List Char) : Except Fault (TagText × List Char) :=
  match cs with
  | '<' :: cs => do
    let (t, rest) ← uri true cs
    match rest with
    | '>' :: rest => return (⟨[], t⟩, rest)
    | _ => throw .badTag
  | cs =>
    match handle cs with
    | (letters, true, rest) => do
      let (t, rest) ← uri false rest
      return (⟨'!' :: letters ++ ['!'], t⟩, rest)
    | (letters, false, rest) => do
      let (t, rest) ← uriFrom false 0 [] rest
      let t := letters.map (UInt8.ofNat ·.toNat) ++ t
      return (if t.isEmpty then ⟨[], Tag.ofString "!"⟩ else ⟨['!'], t⟩, rest)

/-- The tag at a cursor that stands behind its exclamation mark. White space must follow, or in a
flow collection a comma. -/
def tag (inFlow : Bool) (c : Cursor) : Except Fault (TagText × Cursor) := do
  let (t, rest) ← tagText c.rest
  if atSpace rest || (inFlow && rest.head? == some ',') then return (t, c.moveTo rest)
  else throw .badTag

/-! ## Anchors -/

/-- Characters other than spaces that may follow a name. -/
def nameEnds : List Char := "?:,]\x7d%@`".toList

/-- The name of an anchor or alias at a cursor. -/
def anchorName (c : Cursor) : Except Fault (String × Cursor) :=
  let name := c.rest.takeWhile isWord
  let rest := c.rest.dropWhile isWord
  if !name.isEmpty && (atSpace rest || rest.head?.any nameEnds.contains) then
    .ok (String.ofList name, c.moveTo rest)
  else .error .badName

/-! ## Directives -/

inductive Directive where
  | version (major minor : Nat)
  /-- What a handle stands for. -/
  | handle (name : List Char) (t : Tag)
  deriving DecidableEq, Repr

/-- A number of at most nine digits. -/
def versionNumber (cs : List Char) : Except Fault (Nat × List Char) :=
  let ds := cs.takeWhile (·.isDigit)
  if ds.isEmpty ∨ 9 < ds.length then .error .badDirective
  else .ok (ds.foldl (fun n c => 10 * n + (c.toNat - '0'.toNat)) 0, cs.dropWhile (·.isDigit))

def versionDirective (cs : List Char) : Except Fault (Directive × List Char) := do
  let (major, rest) ← versionNumber (cs.dropWhile isBlank)
  match rest with
  | '.' :: rest =>
    let (minor, rest) ← versionNumber rest
    return (.version major minor, rest)
  | _ => throw .badDirective

def handleDirective (cs : List Char) : Except Fault (Directive × List Char) :=
  match cs.dropWhile isBlank with
  | '!' :: cs =>
    let (letters, isClosed, rest) := handle cs
    if !isClosed && !letters.isEmpty then .error .badDirective
    else if !(rest.head?.any isBlank) then .error .badDirective
    else do
      let (t, rest) ← uri true (rest.dropWhile isBlank)
      if !atSpace rest then throw .badDirective
      return (.handle ('!' :: letters ++ if isClosed then ['!'] else []) t, rest)
  | _ => .error .badDirective

/-- The directive at a cursor that stands behind its percent sign. -/
def directive (c : Cursor) : Except Fault (Directive × Cursor) := do
  let name := c.rest.takeWhile isWord
  let rest := c.rest.dropWhile isWord
  if !atSpace rest then throw .badDirective
  let (d, rest) ←
    if name = "YAML".toList then versionDirective rest
    else if name = "TAG".toList then handleDirective rest
    else throw .badDirective
  match (c.moveTo rest).endLine? with
  | some c => return (d, c)
  | none => throw .badDirective

end ContextHub.Yaml
