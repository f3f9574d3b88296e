import ContextHub.Config.Decode
import ContextHub.Config.Validate
import ContextHub.Config.Variables
import ContextHub.Yaml.Document
/-!
# Loading a configuration

The defaults, then files, then environment variables, each laid over what came before; the result
must be valid. Without a file of its own choice the hub looks for its usual one and for one named
after the place where it runs, and neither must exist.

Of several errors the first of these counts: the chosen file is missing, a variable cannot be
read, a file is malformed, the settings do not fit, the configuration is invalid.
-/

namespace ContextHub

inductive ConfigError where
  | fileNotFound (path : String)
  | unreadable (s : Variables.SplitCharacter)
  /-- Of several malformed files the last is named first. -/
  | malformed (faults : List Yaml.Fault)
  | unfit (e : DecodeError)
  | invalid (faults : List ConfigFault)
  deriving Repr

def ConfigError.message : ConfigError → String
  | fileNotFound path => s!"Configuration file not found: {path}"
  | unreadable s => s.message
  | malformed faults =>
    "Configuration parsing error: " ++ "\n".intercalate (faults.map Yaml.Fault.message)
  | unfit e => s!"Configuration parsing error: {e.message .layered}"
  | invalid faults => ConfigFault.report faults

/-- What stands under a path. -/
inductive FileEntry where
  | file (text : String)
  | folder
  deriving DecidableEq, Repr

/-- A file system as a reader sees it. -/
abbrev Files := String → Option FileEntry

namespace Files

/-- What stands at a place in the tree of the given files. -/
def entryAt (entries : List (List String × String)) (place : List String) : Option FileEntry :=
  match entries.lookup place with
  | some text => some (.file text)
  | none =>
    if place.isEmpty || entries.any (fun e => place.isPrefixOf e.1) then some .folder else none

/-- Whether a part of a path leads nowhere else. -/
def isIdle (part : String) : Bool := part == "" || part == "."

/-- Goes from one place to another; only a folder leads on. Above the tree there are folders, of
which nothing else is known; that is no place. -/
def walk (entries : List (List String × String)) :
    Option (List String) → List String → Option FileEntry
  | none, parts => if parts.all fun p => isIdle p || p == ".." then some .folder else none
  | some place, [] => entryAt entries place
  | some place, part :: rest =>
    match entryAt entries place with
    | some .folder =>
      if isIdle part then walk entries (some place) rest
      else if part = ".." then
        walk entries (if place.isEmpty then none else some place.dropLast) rest
      else walk entries (some (place ++ [part])) rest
    | _ => none

/-- Paths from the top of the system that hold no settings on any machine. -/
def systemPaths : List (List String) :=
  [[], ["bin"], ["dev"], ["dev", "null"], ["etc"], ["home"], ["lib"], ["proc"], ["root"], ["sys"],
   ["tmp"], ["usr"], ["var"]]

/-- What stands under a path from the top of the system. -/
def fromTop (parts : List String) : Option FileEntry :=
  if systemPaths.contains (parts.filter fun p => !isIdle p && p != "..") then some .folder else none

/-- The files of a list, with the folders that hold them, seen from the folder at the root. -/
def ofList (entries : List (String × String)) : Files := fun path =>
  let entries := entries.map fun e => ((e.1.splitOn "/").filter (· ≠ ""), e.2)
  if path = "" then none
  else if path.startsWith "/" then fromTop (path.splitOn "/")
  else walk entries (some []) (path.splitOn "/")

end Files

namespace Config

/-- The variable that names the place where the hub runs. -/
def placeVariable : String := "NANOHUB_ENV"

def defaultPlace : String := "production"

def usualFile : String := "config/nanohub.yaml"

def placeFile (place : String) : String := s!"config/{place}.yaml"

/-- The place where the hub runs, as its variables tell. -/
def place (vars : List (String × String)) : String :=
  (vars.lookup placeVariable).getD defaultPlace

/-- The settings of what stands under a path; a folder has none, and neither has nothing. -/
def layer : Option FileEntry → Except Yaml.Fault Setting
  | some (.file text) => do return .table (← Yaml.table? text)
  | some .folder => .ok (.table [])
  | none => .ok (.table [])

/-- Lays settings over others and reads the result. -/
def finish (below above : Setting) : Except ConfigError Config :=
  match ofSetting .layered (below.overlay above) with
  | .error e => .error (.unfit e)
  | .ok c =>
    match c.validated with
    | .error faults => .error (.invalid faults)
    | .ok c => .ok c

/-- The settings of the usual places. -/
def usualLayers (files : Files) (vars : List (String × String)) : Except ConfigError Setting :=
  match layer (files usualFile), layer (files (placeFile (place vars))) with
  | .ok usual, .ok local_ => .ok (usual.overlay local_)
  | .ok _, .error f => .error (.malformed [f])
  | .error f, .ok _ => .error (.malformed [f])
  | .error f, .error g => .error (.malformed [g, f])

/-- Loads from the usual places. -/
def load (files : Files) (vars : List (String × String)) : Except ConfigError Config :=
  match Variables.settings vars with
  | .error s => .error (.unreadable s)
  | .ok above => do finish (← usualLayers files vars) above

/-- Loads from one file. -/
def loadFrom (files : Files) (vars : List (String × String)) (path : String) :
    Except ConfigError Config :=
  match files path, Variables.settings vars with
  | none, _ => .error (.fileNotFound path)
  | some _, .error s => .error (.unreadable s)
  | some entry, .ok above =>
    match layer (some entry) with
    | .error f => .error (.malformed [f])
    | .ok below => finish below above

end Config

end ContextHub
