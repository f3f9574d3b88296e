import ContextHub.Nanoapp.Program
/-!
# The registry of loaded nanoapps

Loaded nanoapps in ascending order of their instance ids. Ids come from a rolling counter over
`1 … 65534` that skips those in use. While an entry point of a nanoapp runs, its behaviour is
taken out of the registry.
-/

namespace ContextHub

inductive LoadError where
  | duplicateAppId (app : AppId)
  | instanceIdsExhausted
  | startFailed (app : AppId)
  | nanoappNotFound (id : InstanceId)
  deriving DecidableEq, Repr

def LoadError.message : LoadError → String
  | duplicateAppId app => s!"Nanoapp {Hex.word64 app.val} is already loaded"
  | instanceIdsExhausted => "No free nanoapp instance id"
  | startFailed app => s!"Nanoapp {Hex.word64 app.val} failed to start"
  | nanoappNotFound id => s!"No nanoapp with instance id {id}"

structure Nanoapp (A : Type) where
  id : InstanceId
  app : AppId
  permissions : Permissions
  /-- Broadcast types in ascending order. -/
  subscriptions : List EventType := []
  /-- Taken out while an entry point runs. -/
  behaviour : Option A

namespace Nanoapp

variable {A : Type}

def isSubscribed (n : Nanoapp A) (type : EventType) : Bool := n.subscriptions.contains type

/-- Inserts into an ascending list without repetition. -/
def insertType (type : EventType) : List EventType → List EventType
  | [] => [type]
  | t :: rest =>
    if type < t then type :: t :: rest else if type = t then t :: rest
    else t :: insertType type rest

def subscribe (n : Nanoapp A) (type : EventType) : Nanoapp A :=
  { n with subscriptions := insertType type n.subscriptions }

def unsubscribe (n : Nanoapp A) (type : EventType) : Nanoapp A :=
  { n with subscriptions := n.subscriptions.filter (· != type) }

def debugText (n : Nanoapp A) : String :=
  Structured.record "Nanoapp"
    [("app_id", Hex.word64 n.app.val), ("instance_id", n.id.debugText),
     ("permissions", n.permissions.debugText),
     ("broadcast_subscriptions", Structured.set (n.subscriptions.map toString))]

end Nanoapp

structure Registry (A : Type) where
  apps : List (Nanoapp A) := []
  nextId : Nat := 1

namespace Registry

variable {A : Type}

/-- The largest instance id; the counter then starts again at one. -/
def lastId : Nat := 65534

def find? (r : Registry A) (id : InstanceId) : Option (Nanoapp A) := r.apps.find? (·.id == id)

def findApp? (r : Registry A) (app : AppId) : Option (Nanoapp A) := r.apps.find? (·.app == app)

def contains (r : Registry A) (id : InstanceId) : Bool := (r.find? id).isSome

def ids (r : Registry A) : List InstanceId := r.apps.map (·.id)

/-- The id after `n` in the cycle of ids. -/
def rollover (n : Nat) : Nat := if lastId ≤ n then 1 else n + 1

/-- The first id from `n` on that is not in use, among the next `tries`, and the id after it. -/
def freeId? (r : Registry A) (n : Nat) : Nat → Option (InstanceId × Nat)
  | 0 => none
  | tries + 1 =>
    if r.contains ⟨n⟩ then freeId? r (rollover n) tries else some (⟨n⟩, rollover n)

/-- Puts a nanoapp at its place by id. -/
def place (n : Nanoapp A) : List (Nanoapp A) → List (Nanoapp A)
  | [] => [n]
  | x :: rest => if n.id.val < x.id.val then n :: x :: rest else x :: place n rest

def register (r : Registry A) (app : AppId) (permissions : Permissions) (behaviour : A) :
    Except LoadError (InstanceId × Registry A) :=
  match r.findApp? app with
  | some _ => .error (.duplicateAppId app)
  | none =>
    match r.freeId? r.nextId lastId with
    | none => .error .instanceIdsExhausted
    | some (id, nextId) =>
      .ok (id, { apps := place { id, app, permissions, behaviour := some behaviour } r.apps
                 nextId })

def remove (r : Registry A) (id : InstanceId) : Registry A :=
  { r with apps := r.apps.filter (·.id != id) }

/-- Changes the entry of one nanoapp. -/
def update (r : Registry A) (id : InstanceId) (f : Nanoapp A → Nanoapp A) : Registry A :=
  { r with apps := r.apps.map fun n => if n.id = id then f n else n }

/-- The behaviour of a nanoapp, unless it is taken out. -/
def behaviour? (r : Registry A) (id : InstanceId) : Option A := (r.find? id).bind (·.behaviour)

def takeOut (r : Registry A) (id : InstanceId) : Registry A :=
  r.update id fun n => { n with behaviour := none }

def putBack (r : Registry A) (id : InstanceId) (a : A) : Registry A :=
  r.update id fun n => { n with behaviour := some a }

/-- The nanoapps that an event is for, in ascending order. -/
def recipients (r : Registry A) (e : Event) : List InstanceId :=
  match e.target with
  | .nanoapp id => if r.contains id then [id] else []
  | .broadcast => (r.apps.filter (·.isSubscribed e.type)).map (·.id)

end Registry

end ContextHub
