import ContextHub.Binary64.Reader
/-!
# Arguments

A subcommand with its options, and options of the whole program before or after it. An option that
takes a value has it behind an equals sign or as the next argument, which must not look like an
option itself. An option may stand only once at each of the two places.

Arguments are read from the left, and the first fault counts. Whoever asks for help or for the
version gets it, unless there is a fault before.
-/

namespace ContextHub.CommandLine

inductive UsageError where
  | missingCommand
  | unknownCommand (name : String)
  | unexpected (argument : String)
  | missingValue (option : String)
  | repeated (option : String)
  | badValue (option value : String)
  deriving DecidableEq, Repr

def UsageError.message : UsageError → String
  | missingCommand => "a subcommand is required"
  | unknownCommand name => s!"unrecognized subcommand '{name}'"
  | unexpected argument => s!"unexpected argument '{argument}'"
  | missingValue option => s!"a value is required for '{option}'"
  | repeated option => s!"the argument '{option}' cannot be used multiple times"
  | badValue option value => s!"invalid value '{value}' for '{option}'"

/-- Why the arguments do not lead to a command. -/
inductive Detour where
  | help
  | version
  | fault (e : UsageError)
  deriving DecidableEq, Repr

/-! ## Options -/

/-- What an option is given. -/
inductive OptionKind where
  | flag
  | natural
  | text
  | path
  deriving DecidableEq, Repr

/-- A whole number of 64 bits, with a plus or without. -/
def natural? (s : String) : Option Nat :=
  let cs := match s.toList with
    | '+' :: cs => cs
    | cs => cs
  (Decimal.natural? cs).filter (· < Decimal.wordCount)

/-- Whether a value will do; a path is not empty. -/
def OptionKind.accepts : OptionKind → String → Bool
  | flag, _ => false
  | natural, v => (natural? v).isSome
  | text, _ => true
  | path, v => v ≠ ""

/-- Options by their long names. -/
abbrev Grammar := List (String × OptionKind)

/-- The options that stand anywhere. -/
def everywhere : Grammar := [("config", .path)]

/-- The long names of short options. -/
def shortNames : List (Char × String) := [('c', "config"), ('h', "help"), ('V', "version")]

/-- An option as it was found, without a value if it takes none. -/
abbrev Found := String × Option String

/-- An argument by its looks. -/
inductive Token where
  | long (name : String) (value : Option String)
  | short (letter : Char) (value : Option String)
  /-- The end of all options. -/
  | stop
  | word (text : String)
  deriving DecidableEq, Repr

/-- Splits at the first equals sign. -/
def splitValue (cs : List Char) : String × Option String :=
  let name := String.ofList (cs.takeWhile (· != '='))
  match cs.dropWhile (· != '=') with
  | [] => (name, none)
  | _ :: value => (name, some (String.ofList value))

def Token.ofText (s : String) : Token :=
  match s.toList with
  | ['-'] => word s
  | ['-', '-'] => stop
  | '-' :: '-' :: cs => let (name, value) := splitValue cs; long name value
  | ['-', c] => short c none
  | '-' :: c :: '=' :: cs => short c (some (String.ofList cs))
  | '-' :: c :: cs => short c (some (String.ofList cs))
  | _ => word s

def Token.isWord : Token → Bool
  | word _ => true
  | _ => false

/-- Whether a short option takes the rest of its argument as its value. -/
def takesRest (letter : Char) : Bool := letter == 'c'

/-- The long name of an option and its attached value. What is attached to a short option without
a value does not count. -/
def Token.option? : Token → Option (String × Option String)
  | long name value => some (name, value)
  | short c value => (shortNames.lookup c).map (·, if takesRest c then value else none)
  | _ => none

/-- The value of an option: the attached one, or else the next argument. -/
def valueOf (kind : OptionKind) (name : String) (attached : Option String) (rest : List String) :
    Except UsageError (Option String × List String) :=
  let checked (v : String) (rest : List String) :=
    if kind.accepts v then .ok (some v, rest) else .error (.badValue name v)
  match kind, attached, rest with
  | .flag, none, rest => .ok (none, rest)
  | _, some v, rest => checked v rest
  | _, none, [] => .error (.missingValue name)
  | _, none, v :: rest =>
    if (Token.ofText v).isWord then checked v rest else .error (.missingValue name)

theorem valueOf_length {kind : OptionKind} {name : String} {attached v : Option String}
    {rest rest' : List String} (h : valueOf kind name attached rest = .ok (v, rest')) :
    rest'.length ≤ rest.length := by
  unfold valueOf at h
  grind

/-- The options at the front of some arguments, and the arguments from the first word on. -/
def options (g : Grammar) (args : List String) (found : List Found) :
    Except Detour (List Found × List String) :=
  match args with
  | [] => .ok (found.reverse, [])
  | a :: rest =>
    match Token.ofText a with
    | .word _ => .ok (found.reverse, a :: rest)
    | .stop =>
      match rest with
      | [] => .ok (found.reverse, [])
      | b :: _ => .error (.fault (.unexpected b))
    | token =>
      match token.option? with
      | none => .error (.fault (.unexpected a))
      | some ("help", none) => .error .help
      | some (name, attached) =>
        match g.lookup name with
        | none =>
          .error (if name = "version" ∧ attached = none then .version else .fault (.unexpected a))
        | some kind =>
          if (found.lookup name).isSome then .error (.fault (.repeated name))
          else
            match h : valueOf kind name attached rest with
            | .error e => .error (.fault e)
            | .ok (v, rest') =>
              have := valueOf_length h
              options g rest' ((name, v) :: found)
termination_by args.length

def has (found : List Found) (name : String) : Bool := (found.lookup name).isSome

def value? (found : List Found) (name : String) : Option String := (found.lookup name).join

/-- The number given for an option, if it is given. -/
def number? (found : List Found) (name : String) : Option Nat :=
  (value? found name).bind natural?

/-! ## Commands -/

structure SimulateOptions where
  seed : Nat := 0
  durationMs : Nat := 60000
  chaos : Bool := false
  /-- The digest that the trace must have. -/
  expected : Option String := none
  dump : Bool := false
  metrics : Bool := false
  deriving DecidableEq, Repr

structure RunOptions where
  /-- How long to run; without a bound if none. -/
  durationSecs : Option Nat := none
  tickMs : Nat := 1000
  deriving DecidableEq, Repr

inductive Command where
  | run (o : RunOptions)
  | simulate (o : SimulateOptions)
  | config
  deriving DecidableEq, Repr

structure Invocation where
  configFile : Option String := none
  command : Command
  deriving DecidableEq, Repr

def simulateGrammar : Grammar :=
  [("seed", .natural), ("duration-ms", .natural), ("chaos", .flag), ("validate-hash", .text),
   ("dump", .flag), ("metrics", .flag)]

def runGrammar : Grammar := [("duration-secs", .natural), ("tick-ms", .natural)]

def simulateOptions (found : List Found) : SimulateOptions :=
  let d : SimulateOptions := {}
  { seed := (number? found "seed").getD d.seed
    durationMs := (number? found "duration-ms").getD d.durationMs
    chaos := has found "chaos"
    expected := value? found "validate-hash"
    dump := has found "dump"
    metrics := has found "metrics" }

def runOptions (found : List Found) : RunOptions :=
  let d : RunOptions := {}
  { durationSecs := number? found "duration-secs"
    tickMs := (number? found "tick-ms").getD d.tickMs }

/-- The options that a subcommand knows, and what it makes of them. -/
def command? : String → Option (Grammar × (List Found → Command))
  | "run" => some (runGrammar, fun found => .run (runOptions found))
  | "simulate" => some (simulateGrammar, fun found => .simulate (simulateOptions found))
  | "config" => some ([], fun _ => .config)
  | _ => none

/-- After a subcommand there is no version to ask for. -/
def Detour.afterCommand : Detour → Detour
  | .version => .fault (.unexpected "version")
  | d => d

/-- What is asked for after the word for help: at most one subcommand, or help itself. -/
def helpOn : List String → Detour
  | [] => .help
  | [name] =>
    if name = "help" ∨ (command? name).isSome then .help else .fault (.unknownCommand name)
  | _ :: name :: _ => .fault (.unknownCommand name)

/-- Reads all arguments of the program; a file given after the subcommand goes before one given
ahead of it. -/
def parse (args : List String) : Except Detour Invocation := do
  let (found, rest) ← options everywhere args []
  match rest with
  | [] => throw (.fault .missingCommand)
  | "help" :: topics => throw (helpOn topics)
  | name :: args =>
    match command? name with
    | none => throw (.fault (.unknownCommand name))
    | some (g, make) =>
      let (own, rest) ← (options (g ++ everywhere) args []).mapError Detour.afterCommand
      match rest with
      | a :: _ => throw (.fault (.unexpected a))
      | [] =>
        return { configFile := (value? own "config").orElse fun _ => value? found "config"
                 command := make own }

end ContextHub.CommandLine
