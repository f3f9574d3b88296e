import ContextHub.Ids
import ContextHub.Time
/-!
# Request slots

Each radio resource has one slot, which holds at most one request that is in flight. Filling a
slot that is not empty is a mistake of the hub itself.
-/

namespace ContextHub

/-- A request in flight; `requester` is none for the hub's own requests and for those whose nanoapp
has been unloaded. -/
structure Pending (κ : Type) where
  requester : Option InstanceId
  cookie : Cookie
  requestedAt : Nat
  timeout : Nat
  timer : TimerHandle
  kind : κ
  deriving DecidableEq, Repr

/-- The last instant at which an answer is still awaited. -/
def Pending.deadline {κ : Type} (p : Pending κ) : Nat := Nanos.after p.requestedAt p.timeout

abbrev Slot (κ : Type) := Option (Pending κ)

namespace Slot

variable {κ : Type}

/-- What is said when a slot that is not empty would be filled. -/
def occupiedFault : String := "request slot already occupied"

def fill? (s : Slot κ) (p : Pending κ) : Option (Slot κ) :=
  match s with
  | none => some (some p)
  | some _ => none

def isOwnedBy (s : Slot κ) (id : InstanceId) : Bool :=
  match s with
  | none => false
  | some p => p.requester == some id

def isTimedBy (s : Slot κ) (h : TimerHandle) : Bool :=
  match s with
  | none => false
  | some p => p.timer == h

/-- Changes the kind of the request in the slot, if there is one. -/
def setKind (s : Slot κ) (kind : κ) : Slot κ := s.map fun p => { p with kind }

/-- One line about the request in flight, or nothing. -/
def line (label : String) (kindText : κ → String) : Slot κ → String
  | none => ""
  | some p =>
    let requester := match p.requester with
      | none => "system"
      | some id => toString id
    s!" {label} request pending: instance={requester} cookie={p.cookie.val} " ++
      s!"requested_at={p.requestedAt}ns {kindText p.kind}\n"

end Slot

/-- Why a request is not admitted. -/
inductive RequestError where
  | busy (what : String)
  | radioRejected (what : String)
  | invalidArgument (what why : String)
  | notSupported (what : String)
  deriving DecidableEq, Repr

def RequestError.message : RequestError → String
  | busy what => s!"A {what} request is already in flight"
  | radioRejected what => s!"PAL refused the {what} request"
  | invalidArgument what why => s!"Invalid {what} request: {why}"
  | notSupported what => s!"{what} is not supported by this platform"

end ContextHub
