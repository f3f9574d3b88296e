import ContextHub.Binary64.Reader
import ContextHub.Config.Setting
import ContextHub.Text.Quoted
/-!
# Settings from environment variables

A variable whose name begins with the prefix, in letters of either case, gives one setting: the
rest of its name in lower case is the path, at whose double underscores and points the levels
part. White space around the name and around the rest does not count, and a name with an empty
level is passed over.

The value is a flag, a number, a quoted text, a list in brackets or a table in braces; anything
else is text. A value that does not end where it should is text as a whole. Of a quoted text with
escapes, what stands before the first of them is cut to as many bytes as it has characters; a cut
through a character is an error.
-/

namespace ContextHub.Variables

/-! ## White space -/

def isSpace (c : Char) : Bool :=
  c == ' ' || c == '\t' || c == '\n' || c == '\r' || c == '\x0c'

def skip (cs : List Char) : List Char := cs.dropWhile isSpace

/-- White space beyond that of `isSpace`. -/
def otherSpaces : List Nat :=
  [0x0b, 0x85, 0xa0, 0x1680, 0x2000, 0x2001, 0x2002, 0x2003, 0x2004, 0x2005, 0x2006, 0x2007,
   0x2008, 0x2009, 0x200a, 0x2028, 0x2029, 0x202f, 0x205f, 0x3000]

def isWhite (c : Char) : Bool := isSpace c || otherSpaces.contains c.toNat

/-- A word without the white space around it. -/
def trim (cs : List Char) : List Char :=
  ((cs.dropWhile isWhite).reverse.dropWhile isWhite).reverse

/-! ## Names -/

def prefixText : String := "nanohub_"

/-- Splits a name into its levels. -/
def levels : List Char → List Char → List (List Char)
  | [], acc => [acc.reverse]
  | '_' :: '_' :: rest, acc => acc.reverse :: levels rest []
  | '.' :: rest, acc => acc.reverse :: levels rest []
  | c :: rest, acc => levels rest (c :: acc)

/-- The path that a variable's name gives; none if the variable is not about settings. -/
def path? (name : String) : Option (List String) :=
  let cs := trim (name.toList.map Char.toLower)
  let own := prefixText.toList
  if own.isPrefixOf cs then
    let parts := levels (trim (cs.drop own.length)) []
    if parts.all (!·.isEmpty) then some (parts.map String.ofList) else none
  else none

/-! ## Values -/

def isSeparator (c : Char) : Bool :=
  c == ',' || c == '[' || c == ']' || c == '\x7b' || c == '\x7d'

def isNameChar (c : Char) : Bool := c.isAlphanum || c == '_' || c == '-'

/-- What an unquoted word stands for. -/
def word (cs : List Char) : Setting :=
  let asText := Setting.text (String.ofList cs)
  let double := if cs.contains '.' then Decimal.double? cs else none
  match double, Decimal.sign cs, Decimal.natural? (Decimal.sign cs).2 with
  | some x, _, _ => .decimal x
  | none, (false, _), some n => if n < Decimal.wordCount then .unsigned n else asText
  | none, (true, _), some n => if 2 * n ≤ Decimal.wordCount then .signed (-n) else asText
  | none, _, none => asText

/-! ## Quoted texts -/

/-- A cut after so many bytes that falls inside a character, which begins at a byte before it. -/
structure SplitCharacter where
  index : Nat
  char : Char
  start : Nat
  deriving DecidableEq, Repr

def SplitCharacter.message (s : SplitCharacter) : String :=
  s!"end byte index {s.index} is not a char boundary; it is inside '{Quoted.encodeChar s.char}' " ++
    s!"(bytes {s.start}..{s.start + s.char.utf8Size} of string)"

/-- Why the reader of a value stops. -/
inductive Misfit where
  /-- The whole is text. -/
  | noValue
  | split (s : SplitCharacter)
  deriving DecidableEq, Repr

abbrev Reading := Except Misfit

/-- The characters that the first `count` bytes make up, the first of them at byte `start`. -/
def firstBytes (count start : Nat) : List Char → Except SplitCharacter (List Char)
  | [] => .ok []
  | c :: rest =>
    if count ≤ start then .ok []
    else if start + c.utf8Size ≤ count then
      (firstBytes count (start + c.utf8Size) rest).map (c :: ·)
    else .error ⟨count, c, start⟩

/-- What stands before the closing quote, and what follows it. -/
def enclosed : List Char → Option (List Char × List Char)
  | [] => none
  | '"' :: rest => some ([], rest)
  | '\\' :: c :: rest => (enclosed rest).map fun r => ('\\' :: c :: r.1, r.2)
  | c :: rest => (enclosed rest).map fun r => (c :: r.1, r.2)

/-- The characters that short escapes stand for. -/
def escapes : List (Char × Char) :=
  [('b', '\x08'), ('t', '\t'), ('n', '\n'), ('f', '\x0c'), ('r', '\r'), ('"', '"'), ('\\', '\\')]

/-- Where the reader of a quoted text stands. -/
inductive EscapeState where
  | none
  | started
  /-- So many digits of a code point are missing. -/
  | code (missing value : Nat)
  deriving DecidableEq, Repr

/-- Whether a character may stand in a quoted text as it is. -/
def isOpen (c : Char) : Bool := c == '\t' || (0x20 ≤ c.toNat && c.toNat ≠ 0x7f)

/-- The text that is written with escapes. -/
def unescape? : EscapeState → List Char → Option (List Char)
  | .none, [] => some []
  | _, [] => none
  | .none, c :: rest =>
    if c = '\\' then unescape? .started rest
    else if isOpen c then (unescape? .none rest).map (c :: ·)
    else none
  | .started, c :: rest =>
    match escapes.lookup c with
    | some d => (unescape? .none rest).map (d :: ·)
    | none =>
      if c = 'u' then unescape? (.code 4 0) rest
      else if c = 'U' then unescape? (.code 8 0) rest
      else none
  | .code missing value, c :: rest => do
    let value := 16 * value + (← Hex.digit? c)
    if missing ≤ 1 then
      if value.isValidChar then (unescape? .none rest).map (Char.ofNat value :: ·) else none
    else unescape? (.code (missing - 1) value) rest

def orNoValue {α : Type} : Option α → Reading α
  | some a => .ok a
  | none => .error .noValue

/-- The text that stands between two quotes as `cs`. -/
def quotedText (cs : List Char) : Reading (List Char) := do
  let before := cs.takeWhile (· != '\\')
  let escaped := cs.dropWhile (· != '\\')
  if !before.all isOpen then throw .noValue
  if escaped.isEmpty then return before
  match firstBytes before.length 0 before with
  | .error s => throw (.split s)
  | .ok before => return before ++ (← orNoValue (unescape? .none escaped))

/-- The text after its opening quote, and what follows the closing one. -/
def quoted (cs : List Char) : Reading (List Char × List Char) := do
  let (inside, rest) ← orNoValue (enclosed cs)
  return (← quotedText inside, rest)

/-! ## Values of all kinds -/

/-- The name before an equals sign, and what follows that. -/
def name (cs : List Char) : Reading (List Char × List Char) := do
  let (s, rest) ← match skip cs with
    | '"' :: rest => quoted rest
    | cs =>
      let s := cs.takeWhile isNameChar
      if s.isEmpty then throw .noValue else pure (s, cs.dropWhile isNameChar)
  match skip rest with
  | '=' :: rest => return (s, rest)
  | _ => throw .noValue

mutual

/-- The value at the front, and what follows it and its blanks. -/
def value : Nat → List Char → Reading (Setting × List Char)
  | 0, _ => .error .noValue
  | fuel + 1, cs => do
    let (v, rest) ← match skip cs with
      | 't' :: 'r' :: 'u' :: 'e' :: rest => .ok (.flag true, rest)
      | 'f' :: 'a' :: 'l' :: 's' :: 'e' :: rest => .ok (.flag false, rest)
      | '[' :: rest => items fuel rest []
      | '\x7b' :: rest => entries fuel rest []
      | '"' :: rest => (quoted rest).map fun r => (.text (String.ofList r.1), r.2)
      | '\'' :: c :: '\'' :: rest => .ok (.text (String.singleton c), rest)
      | '\'' :: _ => .error .noValue
      | cs => .ok (word (trim (cs.takeWhile (!isSeparator ·))), cs.dropWhile (!isSeparator ·))
    return (v, skip rest)

/-- The remaining items of a list; `acc` holds those before, backwards. -/
def items : Nat → List Char → List Setting → Reading (Setting × List Char)
  | 0, _, _ => .error .noValue
  | _ + 1, ']' :: rest, acc => .ok (.list acc.reverse, rest)
  | fuel + 1, cs, acc => do
    let (v, rest) ← value fuel cs
    match rest with
    | ',' :: rest => items fuel rest (v :: acc)
    | ']' :: rest => return (.list (v :: acc).reverse, rest)
    | _ => throw .noValue

/-- The remaining entries of a table; `acc` holds those before, backwards. -/
def entries : Nat → List Char → List (String × Setting) → Reading (Setting × List Char)
  | 0, _, _ => .error .noValue
  | _ + 1, '\x7d' :: rest, acc => .ok (.ofEntries acc.reverse, rest)
  | fuel + 1, cs, acc => do
    let (s, rest) ← name cs
    let (v, rest) ← value fuel rest
    let e := (String.ofList s, v)
    match rest with
    | ',' :: rest => entries fuel rest (e :: acc)
    | '\x7d' :: rest => return (.ofEntries (e :: acc).reverse, rest)
    | _ => throw .noValue

end

/-- What a variable's text stands for. -/
def setting (text : String) : Except SplitCharacter Setting :=
  let cs := text.toList
  match value (2 * cs.length + 2) cs with
  | .ok (v, []) => .ok v
  | .error (.split s) => .error s
  | _ => .ok (.text text)

/-! ## All variables -/

/-- A value under a path of tables. -/
def nested (v : Setting) : List String → Setting
  | [] => v
  | key :: rest => .table [(key, nested v rest)]

/-- The settings that some variables give, later ones laid over earlier ones. -/
def settings (vars : List (String × String)) : Except SplitCharacter Setting :=
  vars.foldlM (fun t e =>
    match path? e.1 with
    | none => .ok t
    | some path => (setting e.2).map fun v => t.overlay (nested v path)) (.table [])

end ContextHub.Variables
