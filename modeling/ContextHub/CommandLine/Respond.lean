import ContextHub.CommandLine.Arguments
import ContextHub.Config.Load
import ContextHub.Config.Render
import ContextHub.Hub.Dump
import ContextHub.Simulation.Demo
/-!
# Answers to invocations

What the program prints and its exit code: two for a usage that makes no sense, one for any other
failure, and 101 if the hub halts or a variable cannot be read. A live run is handed out as a hub
that has been started; `LiveRun.finish` ends it, and if the hub halts then, that is a failure.
-/

namespace ContextHub.CommandLine

/-- How the program ends. -/
structure Ending where
  exitCode : Nat := 0
  output : String := ""
  /-- What is said about a failure. -/
  complaint : String := ""
  deriving DecidableEq, Repr

namespace Ending

def usage (e : UsageError) : Ending := { exitCode := 2, complaint := e.message }

def failed (message : String) : Ending := { exitCode := 1, complaint := message }

def stopped (message : String) : Ending := { exitCode := 101, complaint := message }

/-- What is said when a hub halts. -/
def haltText : Halt → String
  | .fatal message => message
  | .endless => "the hub does not come to rest"

def halted (h : Halt) : Ending := stopped (haltText h)

def unloaded : ConfigError → Ending
  | .unreadable s => stopped s.message
  | e => failed e.message

end Ending

def helpText : String :=
  "Usage: nanohub [OPTIONS] <COMMAND>\n\n" ++
    "Commands:\n" ++
    "  run       Run the runtime on host time until Ctrl-C\n" ++
    "  simulate  Run the demo nanoapps on virtual time with simulated PALs\n" ++
    "  config    Print the effective configuration as YAML\n" ++
    "  help      Print this message or the help of the given subcommand(s)\n\n" ++
    "Options:\n" ++
    "  -c, --config <CONFIG>  Configuration file; defaults to \x60config/nanohub.yaml\x60 " ++
    "plus \x60NANOHUB_*\x60 overrides\n" ++
    "  -h, --help             Print help\n" ++
    "  -V, --version          Print version\n"

def versionText : String := "nanohub-cli 0.1.0\n"

/-! ## Simulations -/

def summaryText (s : Summary) : String :=
  s!"virtual time:       {s.virtualTime} ns\n" ++
    s!"timer deadlines:    {s.deadlines}\n" ++
    s!"events dispatched:  {s.dispatched}\n" ++
    s!"events dropped:     {s.dropped}\n" ++
    s!"callbacks deferred: {s.deferred}\n" ++
    s!"trace entries:      {s.traceEntries}\n" ++
    s!"trace digest:       {s.digest}\n"

/-- The text of the metrics, if they are kept. -/
def metricsText {A R : Type} (h : Hub A R) : String := (h.metrics.map Metrics.text).getD ""

/-- What is printed about a simulation that came to its end. -/
def simulationText {A R : Type} (o : SimulateOptions) (h : Hub A R) : String :=
  summaryText h.summary ++ (if o.dump then h.dump ++ "\n" else "") ++
    (if o.metrics then metricsText h else "")

def simulate (config : Config) (o : SimulateOptions) : Ending :=
  let chaos : ChaosConfig := if o.chaos then .moderate else .disabled
  match Demo.run ampleFuel config o.seed chaos (Nanos.ofMillis o.durationMs) with
  | .error halt _ => .halted halt
  | .ok (.error e) _ => .failed e.message
  | .ok (.ok ()) h =>
    let output := simulationText o h
    match (o.expected.map h.verify).getD (.ok ()) with
    | .ok () => { output }
    | .error e => { Ending.failed e.message with output }

/-! ## Live runs -/

/-- A hub in use, and how many seconds it is to run. -/
structure LiveRun where
  hub : Demo.DemoHub
  seconds : Option Nat

namespace LiveRun

/-- Starts a hub without radios and with a ticker. -/
def start (config : Config) (o : RunOptions) : Except Ending LiveRun :=
  let begin_ : Demo.DemoM (Except LoadError InstanceId) := do
    Hub.initialise
    Hub.load DemoApp.tickerId {} (.newTicker (Nanos.ofMillis o.tickMs))
  match begin_ (.blank config 0 {} none) with
  | .error halt _ => .error (.halted halt)
  | .ok (.error e) _ => .error (.failed e.message)
  | .ok (.ok _) hub => .ok { hub, seconds := o.durationSecs }

/-- Moves the hub's clock to an instant and processes what is due. -/
def proceed (r : LiveRun) (now : Nat) : Except Ending LiveRun :=
  let step : Demo.DemoM Unit := do
    Hub.advanceClockTo now
    let _ ← Hub.fireIfDue
    let _ ← Hub.runUntilIdle ampleFuel
    return ()
  match step r.hub with
  | .error halt _ => .error (.halted halt)
  | .ok () hub => .ok { r with hub }

/-- Stops and shuts down the hub. -/
def finish (r : LiveRun) : Ending :=
  let stop : Demo.DemoM Unit := do
    Hub.stopLoop
    Hub.run ampleFuel
    Hub.shutdown
  match stop r.hub with
  | .error halt _ => .failed (Ending.haltText halt)
  | .ok () hub => { output := metricsText hub }

end LiveRun

/-! ## Responses -/

inductive Response where
  | done (ending : Ending)
  | live (run : LiveRun)

def respondTo (command : Command) (config : Config) : Response :=
  match command with
  | .config => .done { output := config.render }
  | .simulate o => .done (simulate config o)
  | .run o =>
    match LiveRun.start config o with
    | .error ending => .done ending
    | .ok run => if run.seconds = some 0 then .done run.finish else .live run

/-- The configuration that an invocation asks for. -/
def loadConfig (files : Files) (vars : List (String × String)) (file : Option String) :
    Except ConfigError Config :=
  match file with
  | some path => Config.loadFrom files vars path
  | none => Config.load files vars

/-- Answers some arguments, given the files and variables around. -/
def respond (files : Files) (vars : List (String × String)) (args : List String) :
    Response :=
  match parse args with
  | .error (.fault e) => .done (.usage e)
  | .error .help => .done { output := helpText }
  | .error .version => .done { output := versionText }
  | .ok i =>
    match loadConfig files vars i.configFile with
    | .error e => .done (.unloaded e)
    | .ok config => respondTo i.command config

end ContextHub.CommandLine
