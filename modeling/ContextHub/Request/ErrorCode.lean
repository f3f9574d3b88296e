/-!
# Completion codes

The closed set of codes with which a radio answers a request, and how often each was seen.
A radio sends a byte; a byte outside the set counts as nothing and reads as a general error.
Counters stop at the top of 32 bits. `Histogram.total?` adds them in 32 bits and has no value when
the sum does not fit.
-/

namespace ContextHub

inductive ErrorCode where
  | none
  | error
  | invalidArgument
  | busy
  | noMemory
  | notSupported
  | timeout
  | functionDisabled
  | rejectedRateLimit
  | functionRestrictedToOtherMaster
  | functionRestrictedToOtherClient
  | obsoleteRequest
  deriving DecidableEq, Repr, Inhabited

namespace ErrorCode

def all : List ErrorCode :=
  [none, error, invalidArgument, busy, noMemory, notSupported, timeout, functionDisabled,
   rejectedRateLimit, functionRestrictedToOtherMaster, functionRestrictedToOtherClient,
   obsoleteRequest]

def index : ErrorCode → Fin 12
  | none => 0
  | error => 1
  | invalidArgument => 2
  | busy => 3
  | noMemory => 4
  | notSupported => 5
  | timeout => 6
  | functionDisabled => 7
  | rejectedRateLimit => 8
  | functionRestrictedToOtherMaster => 9
  | functionRestrictedToOtherClient => 10
  | obsoleteRequest => 11

/-- The byte that stands for the code. -/
def raw (c : ErrorCode) : Nat := c.index.val

def ofRaw? (raw : Nat) : Option ErrorCode := all[raw]?

theorem ofRaw?_raw (c : ErrorCode) : ofRaw? c.raw = some c := by cases c <;> rfl

def name : ErrorCode → String
  | none => "None"
  | error => "Error"
  | invalidArgument => "InvalidArgument"
  | busy => "Busy"
  | noMemory => "NoMemory"
  | notSupported => "NotSupported"
  | timeout => "Timeout"
  | functionDisabled => "FunctionDisabled"
  | rejectedRateLimit => "RejectedRateLimit"
  | functionRestrictedToOtherMaster => "FunctionRestrictedToOtherMaster"
  | functionRestrictedToOtherClient => "FunctionRestrictedToOtherClient"
  | obsoleteRequest => "ObsoleteRequest"

def isSuccess (c : ErrorCode) : Bool := c == none

/-- Failures that are worth another attempt after a pause. -/
def isRecoverable : ErrorCode → Bool
  | busy => true
  | rejectedRateLimit => true
  | _ => false

end ErrorCode

/-- How often each code was seen. -/
structure Histogram where
  counts : Vector Nat 12 := Vector.replicate 12 0
  deriving DecidableEq, Repr

namespace Histogram

/-- The largest value of one counter. -/
def ceiling : Nat := 4294967295

def count (h : Histogram) (c : ErrorCode) : Nat := h.counts[c.index]

def bump (h : Histogram) (c : ErrorCode) : Histogram :=
  { counts := h.counts.set c.index (min (h.count c + 1) ceiling) c.index.isLt }

/-- Counts a byte of the closed set. -/
def record (h : Histogram) (raw : Nat) : Histogram :=
  match ErrorCode.ofRaw? raw with
  | some c => h.bump c
  | none => h

/-- What a byte reads as. -/
def reading (raw : Nat) : ErrorCode := (ErrorCode.ofRaw? raw).getD .error

def sum (h : Histogram) : Nat := h.counts.toList.foldl (· + ·) 0

/-- The sum of all counters, if 32 bits hold it. -/
def total? (h : Histogram) : Option Nat := if h.sum ≤ ceiling then some h.sum else none

/-- One line: a label and the codes that were seen, with their counts. -/
def line (h : Histogram) (label : String) : String :=
  let seen := ErrorCode.all.filter fun c => 0 < h.count c
  "   " ++ label ++ ":" ++ String.join (seen.map fun c => s!" {c.name}={h.count c}") ++ "\n"

end Histogram

end ContextHub
