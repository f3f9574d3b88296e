import ContextHub.CommandLine.Respond
/-!
# The program

Reads what the invocation needs to see of the surroundings, lets the library answer, and prints. A
live run follows the clock of the machine.
-/

open ContextHub CommandLine

/-- What an opened path holds; a folder can be opened but not read. -/
def readOpened (h : IO.FS.Handle) : IO FileEntry := do
  try
    return .file (← h.readToEnd)
  catch _ => return .folder

/-- What stands under a path, if anything does. -/
def lookAt (path : String) : IO (Option FileEntry) := do
  try
    let h ← IO.FS.Handle.mk path .read
    return some (← readOpened h)
  catch _ => return none

/-- The variables of this process, in the order of their names. -/
def processVariables : IO (List (String × String)) := do
  try
    let bytes ← IO.FS.readBinFile "/proc/self/environ"
    let entries := ((String.fromUTF8? bytes).getD "").splitOn "\x00"
    let vars := entries.filterMap fun e =>
      match splitValue e.toList with
      | (name, some value) => some (name, value)
      | _ => none
    return vars.mergeSort fun a b => decide (a.1 ≤ b.1)
  catch _ => return []

/-- Looks at every file that the arguments may make the program read. -/
def surroundings (vars : List (String × String)) (args : List String) : IO Files := do
  let given := match parse args with
    | .ok i => i.configFile.toList
    | .error _ => []
  let paths := given ++ [Config.usualFile, Config.placeFile (Config.place vars)]
  let seen ← paths.mapM fun p => return (p, ← lookAt p)
  return fun p => (seen.lookup p).join

/-- Prints what there is to say and gives the exit code. -/
def conclude (e : Ending) : IO UInt32 := do
  IO.print e.output
  if !e.complaint.isEmpty then IO.eprintln s!"Error: {e.complaint}"
  return UInt32.ofNat e.exitCode

/-- The longest pause of a live run, in milliseconds. -/
def pauseMs : Nat := 10

partial def follow (started : Nat) (run : LiveRun) : IO UInt32 := do
  let now := (← IO.monoNanosNow) - started
  match run.proceed now with
  | .error ending => conclude ending
  | .ok run =>
    if run.seconds.any fun s => decide (Nanos.ofSeconds s ≤ now) then conclude run.finish
    else
      IO.sleep (UInt32.ofNat pauseMs)
      follow started run

def main (args : List String) : IO UInt32 := do
  let vars ← processVariables
  match respond (← surroundings vars args) vars args with
  | .done ending => conclude ending
  | .live run => follow (← IO.monoNanosNow) run
