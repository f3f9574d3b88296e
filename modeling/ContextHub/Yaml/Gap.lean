import ContextHub.Yaml.Character
/-!
# White space inside scalars

Blanks between two words of a scalar are kept unless a line break follows them. Of several breaks
the first only separates, and becomes a space if it stands alone; the further ones are kept.
Blanks around breaks do not count.
-/

namespace ContextHub.Yaml

/-- The white space since the last word of a scalar, the latest first. -/
inductive Gap where
  | nothing
  | blanks (cs : List Char)
  /-- No first break is there if the one that opened the gap was escaped. -/
  | breaks (first : Option Char) (more : List Char)
  deriving DecidableEq, Repr

namespace Gap

/-- Lets a blank follow. -/
def blank (c : Char) : Gap → Gap
  | nothing => blanks [c]
  | blanks cs => blanks (c :: cs)
  | breaks first more => breaks first more

/-- Lets a line break follow. -/
def lineBreak (c : Char) : Gap → Gap
  | breaks first more => breaks first (c :: more)
  | _ => breaks (some c) []

def isEmpty : Gap → Bool
  | nothing => true
  | _ => false

def hasBreak : Gap → Bool
  | breaks _ _ => true
  | _ => false

/-- Puts what a gap stands for on a text, both with the latest character first. -/
def onto (text : List Char) : Gap → List Char
  | nothing => text
  | blanks cs => cs ++ text
  | breaks none more => more ++ text
  | breaks (some c) more =>
    if c = '\n' then (if more.isEmpty then [' '] else more) ++ text else more ++ c :: text

end Gap

end ContextHub.Yaml
