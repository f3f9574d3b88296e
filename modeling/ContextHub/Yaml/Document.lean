import ContextHub.Yaml.Grammar
import ContextHub.Yaml.Lexer
import ContextHub.Yaml.Meaning
/-!
# Documents

A text with one document that is a table, or without content: its characters are checked, cut
into tokens, and the node that these make up is interpreted.
-/

namespace ContextHub.Yaml

/-- The characters of a text, if all may stand in a document. -/
def characters (s : String) : Except Fault (List Char) :=
  match s.toList.find? (!isAllowed ·) with
  | some c => .error (.control c)
  | none => .ok (unifyBreaks s.toList)

/-- The node of a document; none if the text holds none. -/
def document (s : String) : Except Fault (Option Node) := do
  document? (← tokens (← characters s))

/-- The entries of a document that is a table or has no content. -/
def table? (s : String) : Except Fault (List (String × Setting)) := do
  match ← document s with
  | none => return []
  | some n => n.table

end ContextHub.Yaml
