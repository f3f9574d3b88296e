/-!
# Structured text

How values are laid out inside one line of diagnostic text: optional values, lists, sets, and
records with named fields.
-/

namespace ContextHub.Structured

def option {α : Type} (render : α → String) : Option α → String
  | none => "None"
  | some a => "Some(" ++ render a ++ ")"

def list (items : List String) : String := "[" ++ ", ".intercalate items ++ "]"

def set (items : List String) : String := "\x7b" ++ ", ".intercalate items ++ "\x7d"

/-- A record's name and its fields in order. -/
def record (name : String) (fields : List (String × String)) : String :=
  let body := ", ".intercalate (fields.map fun f => f.1 ++ ": " ++ f.2)
  name ++ " \x7b " ++ body ++ " \x7d"

/-- The names of the flags that are set, joined by bars; no flag at all is a zero. -/
def flags (names : List (Nat × String)) (bits : Nat) : String :=
  let held := names.filter fun n => bits &&& n.1 = n.1
  match held with
  | [] => "0x0"
  | _ => " | ".intercalate (held.map (·.2))

end ContextHub.Structured
