import ContextHub.Event
import ContextHub.Timer.Alarm
/-!
# The timer pool

All timers of nanoapps and of the system, multiplexed onto one alarm. Requests are kept in the
order of their expiration, equal ones in the order in which they were inserted; `index` leads
from a handle to its request's place in that order. The alarm stands at the first expiration,
unless there is none or it lies at the end of time.

`collect` is the heart of a tick: as long as the first request is due it is taken out, and a
recurring one comes back one period after the time it was due, however late the tick is.

Admission keeps slots free: system timers leave the slots reserved for nanoapps alone, and a
nanoapp that holds as many timers as the floor promises may not take a slot that the floor of
another may need.
-/

namespace ContextHub

structure TimerLimits where
  requests : Nat := 64
  nanoapp : Nat := 32
  reserved : Nat := 32
  floor : Nat := 4
  deriving DecidableEq, Repr

/-- Slots that system timers may take. -/
def TimerLimits.system (l : TimerLimits) : Nat := l.requests - l.reserved

inductive TimerError where
  | zeroDurationRecurring
  | ownerCallbackMismatch
  | nanoappLimitReached (limit : Nat)
  | fairnessFloor (owner : InstanceId) (held : Nat)
  | poolFull (limit : Nat)
  | systemLimitReached (limit : Nat)
  | handlesExhausted
  deriving DecidableEq, Repr

def TimerError.message : TimerError → String
  | zeroDurationRecurring => "Recurring timers need a non-zero duration"
  | ownerCallbackMismatch =>
    "System timers need a callback and nanoapp timers must not have one"
  | nanoappLimitReached limit => s!"Nanoapp timer limit of {limit} reached"
  | fairnessFloor owner held =>
    s!"Nanoapp {owner} already holds {held} timers and the remaining slots are reserved"
  | poolFull limit => s!"Timer pool is full ({limit} requests)"
  | systemLimitReached limit => s!"System timer limit of {limit} reached"
  | handlesExhausted => "No free timer handle"

/-- What is asked of the pool, before it gets a handle and a place. -/
structure TimerSpec where
  owner : InstanceId
  duration : Nat
  cookie : Cookie := .none
  purpose : Option TimerPurpose := none
  oneShot : Bool := true
  deriving DecidableEq, Repr

structure TimerRequest extends TimerSpec where
  handle : TimerHandle
  expiration : Nat
  seq : Nat := 0
  deriving DecidableEq, Repr

namespace TimerRequest

/-- The request's place in the pool: its expiration, then its insertion number. -/
def key (r : TimerRequest) : Nat × Nat := (r.expiration, r.seq)

end TimerRequest

structure TimerPool where
  limits : TimerLimits
  requests : List TimerRequest := []
  index : List (TimerHandle × Nat × Nat) := []
  nextSeq : Nat := 0
  lastHandle : TimerHandle := .invalid
  /-- Set once the handles ran through; from then on a new one is checked against `index`. -/
  wrapped : Bool := false
  nanoappCount : Nat := 0
  /-- The hardware timer; there is only one thing it can do, a tick. -/
  hardware : Alarm Unit := .off
  /-- Expiries that the queue had no room for. -/
  lost : Nat := 0
  deriving DecidableEq, Repr

namespace TimerPool

def empty (limits : TimerLimits) : TimerPool := { limits }

/-! ## What the pool holds -/

def size (p : TimerPool) : Nat := p.requests.length

def systemCount (p : TimerPool) : Nat := p.size - p.nanoappCount

def ownedBy (p : TimerPool) (owner : InstanceId) : List TimerRequest :=
  p.requests.filter (·.owner == owner)

def heldBy (p : TimerPool) (owner : InstanceId) : Nat := (p.ownedBy owner).length

def front? (p : TimerPool) : Option TimerRequest := p.requests.head?

def frontHandle? (p : TimerPool) : Option TimerHandle := p.front?.map (·.handle)

def nextExpiration? (p : TimerPool) : Option Nat := p.front?.map (·.expiration)

def key? (p : TimerPool) (h : TimerHandle) : Option (Nat × Nat) := p.index.lookup h

/-- When the hardware will interrupt, if it will. -/
def alarm (p : TimerPool) : Option Nat := p.hardware.deadline?

def expirationOf? (p : TimerPool) (h : TimerHandle) : Option Nat := (p.key? h).map (·.1)

/-- The request that a handle leads to. -/
def find? (p : TimerPool) (h : TimerHandle) : Option TimerRequest :=
  (p.key? h).bind fun k => p.requests.find? (·.key == k)

/-! ## Admission -/

/-- Why a new timer of this owner would not be admitted, if so. -/
def refusal? (p : TimerPool) (owner : InstanceId) : Option TimerError :=
  if owner.isSystem then
    if p.limits.system ≤ p.systemCount then some (.systemLimitReached p.limits.system) else none
  else if p.limits.nanoapp ≤ p.nanoappCount then some (.nanoappLimitReached p.limits.nanoapp)
  else if p.limits.requests ≤ p.size then some (.poolFull p.limits.requests)
  else if p.limits.floor ≤ p.heldBy owner ∧
      p.limits.nanoapp - p.nanoappCount - 1 < p.limits.floor then
    some (.fairnessFloor owner (p.heldBy owner))
  else none

/-- The first valid handle after `h` that is not in use, among the next `n`. -/
def freeHandle? (p : TimerPool) (h : TimerHandle) : Nat → Option TimerHandle
  | 0 => none
  | n + 1 =>
    if h.succ.isValid && (p.key? h.succ).isNone then some h.succ else freeHandle? p h.succ n

/-- The next handle and whether the handles have run through. -/
def newHandle? (p : TimerPool) : Option (TimerHandle × Bool) :=
  if p.wrapped || !p.lastHandle.succ.isValid then
    (p.freeHandle? p.lastHandle 4294967295).map (·, true)
  else some (p.lastHandle.succ, false)

/-! ## Placing and removing -/

/-- Puts a request behind all that expire no later. -/
def place (r : TimerRequest) : List TimerRequest → List TimerRequest
  | [] => [r]
  | x :: rest => if r.expiration < x.expiration then r :: x :: rest else x :: place r rest

def insert (p : TimerPool) (r : TimerRequest) : TimerPool :=
  let r := { r with seq := p.nextSeq }
  { p with
    requests := place r p.requests
    index := (r.handle, r.key) :: p.index.filter (·.1 != r.handle)
    nextSeq := p.nextSeq + 1
    nanoappCount := if r.owner.isSystem then p.nanoappCount else p.nanoappCount + 1 }

/-- Takes out the request that a handle leads to. -/
def remove? (p : TimerPool) (h : TimerHandle) : Option (TimerRequest × TimerPool) :=
  (p.find? h).map fun r =>
    (r, { p with
      requests := p.requests.filter (·.key != r.key)
      index := p.index.filter (·.1 != h)
      nanoappCount := if r.owner.isSystem then p.nanoappCount else p.nanoappCount - 1 })

def remove (p : TimerPool) (h : TimerHandle) : TimerPool := ((p.remove? h).map (·.2)).getD p

/-- Sets the alarm for the first request, or turns it off. -/
def rearm (p : TimerPool) (now : Nat) : TimerPool :=
  { p with
    hardware := match p.front? with
      | none => .off
      | some r =>
        if r.expiration = Nanos.last then .off else .set now (r.expiration - now) () }

/-- Sets the alarm anew if another request came to the front than was there before. -/
def rearmIfMoved (p : TimerPool) (before : Option TimerHandle) (now : Nat) : TimerPool :=
  if p.frontHandle? = before then p else p.rearm now

/-! ## Setting and cancelling -/

def set (p : TimerPool) (now : Nat) (s : TimerSpec) :
    Except TimerError (TimerHandle × TimerPool) :=
  let s := { s with duration := Nanos.clamp s.duration }
  if s.owner.isSystem ≠ s.purpose.isSome then .error .ownerCallbackMismatch
  else if !s.oneShot && s.duration == 0 then .error .zeroDurationRecurring
  else
    match p.refusal? s.owner with
    | some e => .error e
    | none =>
      match p.newHandle? with
      | none => .error .handlesExhausted
      | some (handle, wrapped) =>
        let expiration := Nanos.after now s.duration
        let q := { p with lastHandle := handle, wrapped }
        .ok (handle,
          (q.insert { toTimerSpec := s, handle, expiration }).rearmIfMoved p.frontHandle? now)

/-- Cancels a timer for its owner; no answer if there is none or another's. -/
def cancel? (p : TimerPool) (now : Nat) (owner : InstanceId) (h : TimerHandle) :
    Option TimerPool :=
  if h.isValid then
    match p.find? h with
    | none => none
    | some r =>
      if r.owner = owner then
        some (if p.frontHandle? = some h then (p.remove h).rearm now else p.remove h)
      else none
  else none

/-- Cancels all timers of an owner and tells how many there were. -/
def cancelAllOwnedBy (p : TimerPool) (now : Nat) (owner : InstanceId) : Nat × TimerPool :=
  let owned := (p.ownedBy owner).map (·.handle)
  (owned.length, (owned.foldl remove p).rearmIfMoved p.frontHandle? now)

/-- Moves the handle counter, to try what happens when the handles run through. -/
def skipHandlesTo (p : TimerPool) (h : TimerHandle) : TimerPool := { p with lastHandle := h }

/-! ## The tick -/

/-- Takes out the request that the front's handle leads to, if the front is due. -/
def popDue? (p : TimerPool) (now : Nat) : Option (TimerRequest × TimerPool) :=
  match p.front? with
  | none => none
  | some r => if r.expiration ≤ now then p.remove? r.handle else none

/-- Brings a recurring request back, one period after it was due. -/
def renew (p : TimerPool) (r : TimerRequest) : TimerPool :=
  if r.oneShot then p
  else p.insert { r with expiration := Nanos.after r.expiration r.duration }

/-- Takes out what is due, in order, with recurring requests once for each period; `none` if
`fuel` requests are not all. -/
def collect (now : Nat) : Nat → TimerPool → Option (List TimerRequest × TimerPool)
  | 0, _ => none
  | fuel + 1, p =>
    match p.popDue? now with
    | none => some ([], p)
    | some (r, rest) => (collect now fuel (rest.renew r)).map fun c => (r :: c.1, c.2)

/-- How often a request falls due up to `now`. -/
def TimerRequest.timesDue (now : Nat) (r : TimerRequest) : Nat :=
  if now < r.expiration then 0
  else if r.oneShot then 1
  else (now - r.expiration) / r.duration + 1

/-- One more than the number of times that anything falls due up to `now`. -/
def tickFuel (p : TimerPool) (now : Nat) : Nat :=
  (p.requests.map (TimerRequest.timesDue now)).foldl (· + ·) 1

/-- Collects what is due and sets the alarm for what is left; no value if it would not end. -/
def tick? (p : TimerPool) (now : Nat) : Option (List TimerRequest × TimerPool) :=
  (collect now (p.tickFuel now) p).map fun c => (c.1, c.2.rearm now)

/-- Takes the alarm down if its time has come. -/
def takeAlarm? (p : TimerPool) (now : Nat) : Option TimerPool :=
  (p.hardware.fire? now).map fun f => { p with hardware := f.2 }

end TimerPool

end ContextHub
