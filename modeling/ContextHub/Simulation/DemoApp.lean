import ContextHub.Bytes
import ContextHub.Nanoapp.Program
import ContextHub.Radio.Basic
/-!
# Demo nanoapps

Three nanoapps that put what they observe into the trace: one counts the ticks of a recurring
timer, one scans for access points at an interval, one polls for cells.
-/

namespace ContextHub

inductive DemoApp where
  | ticker (period : Nat) (timer : TimerHandle) (ticks : Nat)
  | scanner (interval : Nat) (nextCookie : Nat)
  | cellPoller (interval : Nat)
  deriving DecidableEq, Repr

namespace DemoApp

def tickerId : AppId := ⟨0x4e48000000000001⟩
def scannerId : AppId := ⟨0x4e48000000000002⟩
def cellPollerId : AppId := ⟨0x4e48000000000003⟩

def newTicker (period : Nat) : DemoApp := ticker period .invalid 0
def newScanner (interval : Nat) : DemoApp := scanner interval 1
def newCellPoller (interval : Nat) : DemoApp := cellPoller interval

def record (tag : EventType) (detail : List UInt8) : Program Unit := do
  let _ ← Program.ask (.trace tag detail)
  return ()

def setTimer (period : Nat) (cookie : Cookie) : Program TimerHandle :=
  Program.ask (.setTimer period cookie false)

def start : DemoApp → Program (Bool × DemoApp)
  | ticker period _ ticks => do
    let timer ← setTimer period ⟨1⟩
    return (timer.isValid, ticker period timer ticks)
  | scanner interval nextCookie => do
    let capabilities : Nat ← Program.ask (.capabilities .wifi)
    if capabilities &&& WifiCapabilities.onDemandScan = 0 then
      let _ ← Program.ask
        (.log ⟨.warn, "On-demand scan unsupported; scanner not started", []⟩)
      return (false, scanner interval nextCookie)
    let timer ← setTimer interval .none
    return (timer.isValid, scanner interval nextCookie)
  | cellPoller interval => do
    let timer ← setTimer interval .none
    return (timer.isValid, cellPoller interval)

/-- Counts a tick. -/
def onTick (period : Nat) (timer : TimerHandle) (ticks : Nat) (expired : TimerHandle) :
    Program DemoApp := do
  let ticks := ticks + 1
  record EventType.timer (Bytes.encode 8 ticks)
  let _ ← Program.ask (.log ⟨.trace, "Periodic tick",
    [("handle", toString expired), ("ticks", toString ticks)]⟩)
  return ticker period timer ticks

/-- Asks for a scan and notes a refusal. -/
def onScanTick (interval nextCookie : Nat) : Program DemoApp := do
  let accepted : Bool ← Program.ask (.scan {} ⟨nextCookie⟩)
  if !accepted then record EventType.timer "refused".toUTF8.toList
  return scanner interval (nextCookie + 1)

/-- Asks for cells; refused while the last request is in flight. -/
def onPollTick (interval : Nat) : Program DemoApp := do
  let now : Nat ← Program.ask .now
  let _ ← Program.ask (.cellInfo ⟨now⟩)
  return cellPoller interval

def handle (d : Delivery) : DemoApp → Program DemoApp
  | ticker period timer ticks =>
    match d.payload with
    | .timer h _ =>
      if d.type = EventType.timer then onTick period timer ticks h
      else return ticker period timer ticks
    | _ => return ticker period timer ticks
  | scanner interval nextCookie => do
    if d.type = EventType.timer then return ← onScanTick interval nextCookie
    match d.payload with
    | .async r =>
      if d.type = EventType.wifiAsyncResult then
        record d.type (Bytes.encode 8 r.cookie.val ++ Bytes.encode 1 r.code.raw)
    | .scan s =>
      if d.type = EventType.wifiScanResult then record d.type (s.results.flatMap (·.bssid))
    | _ => pure ()
    return scanner interval nextCookie
  | cellPoller interval => do
    if d.type = EventType.timer then return ← onPollTick interval
    match d.payload with
    | .cells r =>
      if d.type = EventType.wwanCellInfoResult then
        record d.type (Bytes.encode 1 r.code ++ r.cells.flatMap fun c => Bytes.encode 8 c.cellId)
    | _ => pure ()
    return cellPoller interval

def stop : DemoApp → Program DemoApp
  | ticker period timer ticks => do
    let _ ← Program.ask (.cancelTimer timer)
    return ticker period timer ticks
  | other => return other

end DemoApp

instance : Behaviour DemoApp where
  start _ := DemoApp.start
  handle := DemoApp.handle
  stop _ := DemoApp.stop
  watched _ := false

end ContextHub
