/-!
# Log lines

A log line has a level, a message and named values. `Level.passes` says which lines a threshold
lets through: its own level and the graver ones.
-/

namespace ContextHub

inductive Level where
  | error
  | warn
  | info
  | debug
  | trace
  deriving DecidableEq, Repr

namespace Level

def name : Level → String
  | error => "ERROR"
  | warn => "WARN"
  | info => "INFO"
  | debug => "DEBUG"
  | trace => "TRACE"

/-- Graver levels come first; rank zero is kept for a threshold that stops everything. -/
def rank : Level → Nat
  | error => 1
  | warn => 2
  | info => 3
  | debug => 4
  | trace => 5

/-- Whether a line of this level passes; `none` lets nothing through. -/
def passes (threshold : Option Level) (l : Level) : Bool :=
  match threshold with
  | none => false
  | some t => decide (l.rank ≤ t.rank)

/-- Reads a threshold in lower case. -/
def threshold? : String → Option (Option Level)
  | "off" => some none
  | "error" => some (some error)
  | "warn" => some (some warn)
  | "info" => some (some info)
  | "debug" => some (some debug)
  | "trace" => some (some trace)
  | _ => none

end Level

structure LogLine where
  level : Level
  message : String
  fields : List (String × String)
  deriving DecidableEq, Repr

/-- The level, the message, and each named value after a blank. -/
def LogLine.text (l : LogLine) : String :=
  l.level.name ++ " " ++ l.message ++ String.join (l.fields.map fun f => " " ++ f.1 ++ "=" ++ f.2)

end ContextHub
