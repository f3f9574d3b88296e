/-!
# Characters of a document

Which characters may stand in a document, and the classes that the readers tell apart: blanks,
line breaks, the indicators of flow collections, and the letters of names. Before reading, every
break that editors write is made a newline; the separators of lines and of paragraphs are breaks
that stay themselves.
-/

namespace ContextHub.Yaml

def isBlank (c : Char) : Bool := c == ' ' || c == '\t'

def isBreak (c : Char) : Bool := c == '\n' || c == '\u2028' || c == '\u2029'

def isSpace (c : Char) : Bool := isBlank c || isBreak c

/-- Whether what follows is the end or white space. -/
def atSpace : List Char → Bool
  | [] => true
  | c :: _ => isSpace c

/-- A letter of a name or a handle. -/
def isWord (c : Char) : Bool := c.isAlphanum || c == '_' || c == '-'

def isFlowIndicator (c : Char) : Bool :=
  c == ',' || c == '[' || c == ']' || c == '\x7b' || c == '\x7d'

/-- Whether a line that starts here begins or ends a document. -/
def isMarker : List Char → Bool
  | '-' :: '-' :: '-' :: rest => atSpace rest
  | '.' :: '.' :: '.' :: rest => atSpace rest
  | _ => false

/-- Whether a character may stand in a document. -/
def isAllowed (c : Char) : Bool :=
  c == '\t' || c == '\n' || c == '\r' || c == '\x85' || (' ' ≤ c && c ≤ '~') ||
    ('\xa0' ≤ c && c ≤ '\ufffd') || 0x10000 ≤ c.toNat

/-- Makes a carriage return, alone or before a newline, and a next-line character newlines. -/
def unifyBreaks : List Char → List Char
  | '\r' :: '\n' :: rest => '\n' :: unifyBreaks rest
  | '\r' :: rest => '\n' :: unifyBreaks rest
  | '\x85' :: rest => '\n' :: unifyBreaks rest
  | c :: rest => c :: unifyBreaks rest
  | [] => []

end ContextHub.Yaml
