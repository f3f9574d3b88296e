import ContextHub.Nanoapp.Program
import ContextHub.Radio.Basic
/-!
# The journal

What happened in a hub, in order: events handed in and done with, deliveries to nanoapps, what
nanoapps did, and every use of the radios. `Entry.isPublic` tells which entries an observer sees;
what radios were asked is public or not as a whole.
-/

namespace ContextHub

inductive Entry where
  /-- An event was handed to the queue. -/
  | handed (event : Event) (accepted : Bool)
  /-- An event is done with. -/
  | released (event : Event)
  | delivered (watched : Bool) (delivery : Delivery) (time : Nat)
  | stopping (watched : Bool) (id : InstanceId)
  | acted (id : InstanceId) (act : String) (outcome : Outcome)
  | poweredOn (device : Device) (time : Nat) (worked : Bool)
  | poweredOff (device : Device)
  | requested (request : RadioRequest) (accepted : Bool)
  deriving DecidableEq, Repr

/-- Whether an observer sees the entry, given whether the radios are watched. -/
def Entry.isPublic (radiosWatched : Bool) : Entry → Bool
  | handed _ _ => false
  | released e => e.notify
  | delivered watched _ _ => watched
  | stopping watched _ => watched
  | acted _ _ _ => true
  | poweredOn _ _ _ => radiosWatched
  | poweredOff _ => radiosWatched
  | requested _ _ => radiosWatched

end ContextHub
