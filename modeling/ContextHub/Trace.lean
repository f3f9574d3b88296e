import ContextHub.Blake3
import ContextHub.Ids
/-!
# Traces

A running record of everything a simulation made observable, kept as one stream of bytes whose
digest tells two runs apart. Each entry is framed by its length, so that the stream determines the
entries.
-/

namespace ContextHub

structure TraceEntry where
  now : Nat
  source : InstanceId
  tag : Nat
  detail : List UInt8
  deriving DecidableEq, Repr

/-- Time, source, tag and length as little-endian numbers, then the detail. -/
def TraceEntry.frame (e : TraceEntry) : List UInt8 :=
  Bytes.encode 8 e.now ++ Bytes.encode 2 e.source.val ++ Bytes.encode 2 e.tag ++
    Bytes.encode 8 e.detail.length ++ e.detail

structure Trace where
  stream : Array UInt8 := #[]
  entries : Nat := 0
  deriving DecidableEq, Repr

namespace Trace

def record (t : Trace) (e : TraceEntry) : Trace :=
  { stream := t.stream ++ e.frame, entries := t.entries + 1 }

def recordAll (t : Trace) (es : List TraceEntry) : Trace := es.foldl record t

def digest (t : Trace) : String := Blake3.hexHash t.stream

/-- Whether a text is the digest, in letters of either case. -/
def matchesDigest (t : Trace) (expected : String) : Bool :=
  t.digest.toList.map Char.toLower == expected.toList.map Char.toLower

end Trace

end ContextHub
