/-!
# Faults of a document

What keeps a text from being a document, and a document from being a table.
-/

namespace ContextHub.Yaml

inductive Fault where
  | control (c : Char)
  | tab
  | badStart (c : Char)
  | unclosed
  | badEscape
  | markerInside
  | strayColon
  | badHeader
  | badDirective
  | badTag
  | badName
  | entryNotAllowed
  | keyNotAllowed
  | valueNotAllowed
  | valueMissing
  | documentExpected
  | repeatedDirective
  | nodeExpected
  | entryExpected
  | keyExpected
  | separatorExpected
  | unknownHandle
  | unknownAnchor (name : String)
  | secondDocument
  | keyNotScalar
  | unfitTag
  | tooDeep
  | tooManyAliases
  | notATable
  deriving DecidableEq, Repr

def Fault.message : Fault → String
  | control c => s!"the character {c.toNat} is not allowed"
  | tab => "a tab stands where only spaces may"
  | badStart c => s!"no token starts with {c}"
  | unclosed => "a quote is not closed"
  | badEscape => "unknown escape in a quoted scalar"
  | markerInside => "a document marker stands inside a quoted scalar"
  | strayColon => "a colon stands inside a plain scalar"
  | badHeader => "a block scalar begins wrongly"
  | badDirective => "unknown or incomplete directive"
  | badTag => "incomplete tag"
  | badName => "an anchor or alias has no proper name"
  | entryNotAllowed => "a sequence entry is not allowed here"
  | keyNotAllowed => "a key is not allowed here"
  | valueNotAllowed => "a value is not allowed here"
  | valueMissing => "a key has no colon"
  | documentExpected => "the start of a document was expected"
  | repeatedDirective => "a directive is given twice"
  | nodeExpected => "a value was expected"
  | entryExpected => "a sequence entry was expected"
  | keyExpected => "a key was expected"
  | separatorExpected => "a comma or a closing bracket was expected"
  | unknownHandle => "the handle of a tag is not declared"
  | unknownAnchor name => s!"no anchor has the name {name}"
  | secondDocument => "there is more than one document"
  | keyNotScalar => "a key is not a scalar"
  | unfitTag => "a scalar does not fit its tag"
  | tooDeep => "the nesting is too deep"
  | tooManyAliases => "the aliases repeat too much"
  | notATable => "the document is not a table"

end ContextHub.Yaml
