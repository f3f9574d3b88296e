import ContextHub.Yaml.Tag
/-!
# Tokens

What the text of a document is cut into. Block collections, which have no brackets, get tokens of
their own where their indentation begins and ends.
-/

namespace ContextHub.Yaml

inductive Style where
  | plain
  /-- In quotes or as a block: what is written is text. -/
  | literal
  deriving DecidableEq, Repr

inductive Token where
  | directive (d : Directive)
  | documentStart
  | documentEnd
  | blockSequence
  | blockMapping
  | blockEnd
  | listOpen
  | listClose
  | tableOpen
  | tableClose
  /-- A hyphen before an entry of a block sequence. -/
  | entry
  | comma
  | key
  | value
  /-- An alias, which stands for the node of an anchor. -/
  | reference (name : String)
  | anchor (name : String)
  | tag (t : TagText)
  | scalar (style : Style) (text : List Char)
  deriving DecidableEq, Repr

end ContextHub.Yaml
