import ContextHub.Event
/-!
# The task queue

A bounded queue in two stages. Tasks arrive in the inbox; whenever queued events have to be
looked through, the whole inbox moves behind the tasks that are already pending. `tasks` is what
a reader should think of: the pending tasks, then the inbox. Admission does not look at either
stage but at `reserved`, the number of tasks accepted and not yet taken. A closed queue has lost
its tasks and accepts none.
-/

namespace ContextHub

inductive QueueError where
  | queueFull
  | loopStopped
  deriving DecidableEq, Repr

def QueueError.message : QueueError → String
  | queueFull => "Event queue capacity exceeded"
  | loopStopped => "Event loop is gone"

structure Queue where
  capacity : Nat
  pending : List Task := []
  inbox : List Task := []
  reserved : Nat := 0
  /-- The most tasks that were ever queued at once. -/
  deepest : Nat := 0
  closed : Bool := false
  deriving DecidableEq, Repr

namespace Queue

def empty (capacity : Nat) : Queue := { capacity }

/-- Everything queued, in the order in which it will be taken. -/
def tasks (q : Queue) : List Task := q.pending ++ q.inbox

/-- Accepts a task at the end of the inbox if a slot is free. -/
def offer (q : Queue) (t : Task) : Except QueueError Queue :=
  if q.reserved < q.capacity then
    if q.closed then .error .loopStopped
    else if q.inbox.length < q.capacity then
      .ok { q with
        inbox := q.inbox ++ [t]
        reserved := q.reserved + 1
        deepest := max q.deepest (q.reserved + 1) }
    else .error .queueFull
  else .error .queueFull

/-- Takes the first task: a pending one, or else the inbox's. -/
def next? (q : Queue) : Option (Task × Queue) :=
  match q.pending, q.inbox with
  | t :: rest, _ => some (t, { q with pending := rest, reserved := q.reserved - 1 })
  | [], t :: rest => some (t, { q with inbox := rest, reserved := q.reserved - 1 })
  | [], [] => none

/-- The events among some tasks that satisfy `p`. -/
def matching (p : Event → Bool) (ts : List Task) : List Event :=
  ts.filterMap fun
    | .event e => if p e then some e else none
    | .deferred _ => none

/-- The tasks that are not events satisfying `p`. -/
def others (p : Event → Bool) (ts : List Task) : List Task :=
  ts.filter fun
    | .event e => !p e
    | .deferred _ => true

/-- Takes out every queued event that satisfies `p`; all else keeps its order. -/
def discard (q : Queue) (p : Event → Bool) : List Event × Queue :=
  let out := matching p q.tasks
  (out, { q with
    pending := others p q.tasks
    inbox := []
    reserved := q.reserved - out.length })

/-- Drops the queue with everything in it. -/
def close (q : Queue) : Queue := { q with pending := [], inbox := [], closed := true }

end Queue

/-- What the loop counted so far. -/
structure LoopStats where
  posted : Nat := 0
  dispatched : Nat := 0
  dropped : Nat := 0
  deferred : Nat := 0
  deriving DecidableEq, Repr

end ContextHub
