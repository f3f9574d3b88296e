import ContextHub.Nanoapp.Program
/-!
# Scripted nanoapps

Nanoapps given as data: acts to do at the start and at the end, and rules for events. A rule matches
one type or all and can be used a given number of times. Every act leaves a line in the journal
with what came of it.
-/

namespace ContextHub

/-- A timer as an act names it. -/
inductive TimerRef where
  | handle (h : TimerHandle)
  /-- The last one that was asked for, even if it was refused. -/
  | last
  /-- The one whose expiry is being handled. -/
  | expired
  deriving DecidableEq, Repr

inductive BlockRef where
  | ptr (p : HeapPtr)
  /-- The last one that was granted. -/
  | last
  | nothing
  deriving DecidableEq, Repr

inductive TargetRef where
  | everyone
  | nanoapp (id : InstanceId)
  | self
  | sender
  deriving DecidableEq, Repr

inductive Act where
  | setTimer (duration : Nat) (cookie : Cookie) (oneShot : Bool)
  | cancelTimer (timer : TimerRef)
  | alloc (bytes : Nat)
  | free (block : BlockRef)
  | fill (block : BlockRef) (byte : UInt8)
  | sum (block : BlockRef)
  | send (type : EventType) (payload : Payload) (target : TargetRef) (notify : Bool)
  | sendTo (type : EventType) (n : Nat) (target : InstanceId)
  | subscribe (type : EventType)
  | unsubscribe (type : EventType)
  | find (app : AppId)
  | unload
  | stop
  | who
  | capabilities
  | monitor (enable : Bool) (cookie : Cookie)
  | scan (params : ScanParams) (cookie : Cookie)
  | ranging (targets : List Bssid) (cookie : Cookie)
  | cell (cookie : Cookie)
  | startLocation (interval fix : Nat) (cookie : Cookie)
  | stopLocation (cookie : Cookie)
  | startMeasurement (interval : Nat) (cookie : Cookie)
  | stopMeasurement (cookie : Cookie)
  /-- An act that no nanoapp can do. -/
  | unknown (name : String)
  deriving Repr

def Act.name : Act → String
  | setTimer _ _ _ => "set_timer"
  | cancelTimer _ => "cancel_timer"
  | alloc _ => "alloc"
  | free _ => "free"
  | fill _ _ => "fill"
  | sum _ => "sum"
  | send _ _ _ _ => "send"
  | sendTo _ _ _ => "send_to"
  | subscribe _ => "sub"
  | unsubscribe _ => "unsub"
  | find _ => "find"
  | unload => "unload"
  | stop => "stop"
  | who => "who"
  | capabilities => "caps"
  | monitor _ _ => "monitor"
  | scan _ _ => "scan"
  | ranging _ _ => "ranging"
  | cell _ => "cell"
  | startLocation _ _ _ => "loc_start"
  | stopLocation _ => "loc_stop"
  | startMeasurement _ _ => "meas_start"
  | stopMeasurement _ => "meas_stop"
  | unknown name => name

structure Rule where
  /-- The type that the rule is for; none is for all. -/
  type : Option EventType := none
  uses : Nat := 1
  acts : List Act := []
  deriving Repr

structure Script where
  start : List Act := []
  starts : Bool := true
  rules : List Rule := []
  stop : List Act := []
  lastTimer : TimerHandle := .invalid
  lastBlock : Option HeapPtr := none
  deriving Repr

namespace Script

/-- What an act can refer to while it is done. -/
structure Situation where
  self : InstanceId
  sender : InstanceId := .system
  expired : TimerHandle := .invalid

def timer (s : Script) (at_ : Situation) : TimerRef → TimerHandle
  | .handle h => h
  | .last => s.lastTimer
  | .expired => at_.expired

def target (at_ : Situation) : TargetRef → Target
  | .everyone => .broadcast
  | .nanoapp id => .nanoapp id
  | .self => .nanoapp at_.self
  | .sender => .nanoapp at_.sender

def yesNo (p : Program Bool) : Program Outcome := do return .flag (← p)

def ofNumber? : Option Nat → Outcome
  | none => .nothing
  | some n => .number n

/-- Does something with a block, if there is one and it was ever handed out. -/
def withBlock (s : Script) (block : BlockRef) (act : HeapPtr → Program Outcome) :
    Program Outcome := do
  match block with
  | .nothing => return .nothing
  | .last =>
    match s.lastBlock with
    | none => return .nothing
    | some p => act p
  | .ptr p =>
    let issued : Bool ← Program.ask (.wasIssued p)
    if issued then act p else return .unissued

def release (p : Option HeapPtr) : Program Outcome := do
  let _ ← Program.ask (.free p)
  return .nothing

/-- Frees a block; where none is there, it is nothing that is freed. -/
def freeBlock (s : Script) (block : BlockRef) : Program Outcome :=
  match block with
  | .nothing => release none
  | .last => release s.lastBlock
  | .ptr p => s.withBlock (.ptr p) fun p => release (some p)

def accessBlock (edit : BlockEdit) (p : HeapPtr) : Program Outcome := do
  return ofNumber? (← Program.ask (.access p edit))

/-- What comes of an act, and the script after it. -/
def perform (s : Script) (at_ : Situation) : Act → Program (Outcome × Script)
  | .setTimer duration cookie oneShot => do
    let h : TimerHandle ← Program.ask (.setTimer duration cookie oneShot)
    return (.number h.val, { s with lastTimer := h })
  | .cancelTimer ref => do return (← yesNo (Program.ask (.cancelTimer (s.timer at_ ref))), s)
  | .alloc bytes => do
    let p : Option HeapPtr ← Program.ask (.alloc bytes)
    match p with
    | none => return (.nothing, s)
    | some p => return (.number p.val, { s with lastBlock := some p })
  | .free block => do return (← s.freeBlock block, s)
  | .fill block byte => do return (← s.withBlock block (accessBlock (Heap.filling byte)), s)
  | .sum block => do return (← s.withBlock block (accessBlock Heap.summing), s)
  | .send type payload ref notify => do
    return (← yesNo (Program.ask (.send { type, payload, target := target at_ ref, notify })), s)
  | .sendTo type n id => do
    return (← yesNo (Program.ask (.send (.toOne type (.number n) id))), s)
  | .subscribe type => do return (← yesNo (Program.ask (.subscribe type)), s)
  | .unsubscribe type => do return (← yesNo (Program.ask (.unsubscribe type)), s)
  | .find app => do
    let id : Option InstanceId ← Program.ask (.find app)
    return (ofNumber? (id.map (·.val)), s)
  | .unload => do return (← yesNo (Program.ask .requestUnload), s)
  | .stop => do
    let _ ← Program.ask .stopLoop
    return (.nothing, s)
  | .who => do
    let app : AppId ← Program.ask .appId
    let now : Nat ← Program.ask .now
    return (.numbers [at_.self.val, app.val, now], s)
  | .capabilities => do
    let wifi : Nat ← Program.ask (.capabilities .wifi)
    let wwan : Nat ← Program.ask (.capabilities .wwan)
    let gnss : Nat ← Program.ask (.capabilities .gnss)
    return (.numbers [wifi, wwan, gnss], s)
  | .monitor enable cookie => do return (← yesNo (Program.ask (.scanMonitor enable cookie)), s)
  | .scan params cookie => do return (← yesNo (Program.ask (.scan params cookie)), s)
  | .ranging targets cookie => do return (← yesNo (Program.ask (.ranging targets cookie)), s)
  | .cell cookie => do return (← yesNo (Program.ask (.cellInfo cookie)), s)
  | .startLocation interval fix cookie => do
    return (← yesNo (Program.ask (.location interval fix cookie)), s)
  | .stopLocation cookie => do return (← yesNo (Program.ask (.stopLocation cookie)), s)
  | .startMeasurement interval cookie => do
    return (← yesNo (Program.ask (.measurement interval cookie)), s)
  | .stopMeasurement cookie => do return (← yesNo (Program.ask (.stopMeasurement cookie)), s)
  | .unknown _ => return (.unknown, s)

/-- Does acts in order and notes each. -/
def performAll (at_ : Situation) : List Act → Script → Program Script
  | [], s => return s
  | act :: rest, s => do
    let (outcome, s) ← s.perform at_ act
    let _ ← Program.ask (.note act.name outcome)
    performAll at_ rest s

def Rule.matches (type : EventType) (r : Rule) : Bool :=
  decide (0 < r.uses) && (r.type.isNone || r.type == some type)

/-- Spends one use of every rule that matches, and lists their acts in order. -/
def spend (type : EventType) (rules : List Rule) : List Act × List Rule :=
  ((rules.filter (Rule.matches type)).flatMap (·.acts),
    rules.map fun r => if Rule.matches type r then { r with uses := r.uses - 1 } else r)

/-- The timer that a payload tells of. -/
def expiredTimer : Payload → TimerHandle
  | .timer h _ => h
  | _ => .invalid

end Script

instance : Behaviour Script where
  start id s := do
    let s ← Script.performAll ⟨id, .system, .invalid⟩ s.start s
    return (s.starts, s)
  handle d s :=
    let (acts, rules) := Script.spend d.type s.rules
    Script.performAll ⟨d.id, d.sender, Script.expiredTimer d.payload⟩ acts { s with rules }
  stop id s := Script.performAll ⟨id, .system, .invalid⟩ s.stop s
  watched _ := true

end ContextHub
