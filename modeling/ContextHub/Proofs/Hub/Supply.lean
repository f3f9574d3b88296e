import ContextHub.Hub.Basic
/-!
# Which radios are in use

A hub takes a radio to be in use from when it was powered on with success until it is powered off.
`Supplied P h h'` says that a step leaves this alone, and what it may have entered in the journal:
mute entries tell of no radio at all, powerless ones of none that was powered on or off. Only
starting a hub and shutting it down do more.
-/

namespace ContextHub

namespace Entry

/-- What a radio was asked for. -/
def request? : Entry → Option RadioRequest
  | requested q _ => some q
  | _ => none

/-- The entry tells of no radio that was powered on or off. -/
def Powerless : Entry → Prop
  | poweredOn _ _ _ => False
  | poweredOff _ => False
  | _ => True

/-- The entry tells of no radio. -/
structure Mute (e : Entry) : Prop where
  powerless : e.Powerless
  unasked : e.request? = none

end Entry

namespace Hub

variable {A R : Type}

/-- Whether the hub takes a radio to be in use. -/
def inUse (h : Hub A R) : Device → Bool
  | .wifi => h.wifi.available
  | .wwan => h.wwan.available
  | .gnss => h.gnss.available

/-- The same radios are in use as before, and `P` holds of all that is new in the journal. -/
structure Supplied (P : Entry → Prop) (h h' : Hub A R) : Prop where
  inUse : h'.inUse = h.inUse
  grown : ∃ news, h'.journal = news ++ h.journal ∧ ∀ e ∈ news, P e

namespace Supplied

variable {P Q : Entry → Prop} {h h' h'' : Hub A R}

theorem of_same (hu : h'.inUse = h.inUse) (hj : h'.journal = h.journal) : Supplied P h h' :=
  ⟨hu, [], hj, fun _ he => by cases he⟩

theorem refl (h : Hub A R) : Supplied P h h := of_same rfl rfl

theorem trans (hs : Supplied P h h') (hs' : Supplied P h' h'') : Supplied P h h'' := by
  obtain ⟨news, hj, hp⟩ := hs.grown
  obtain ⟨news', hj', hp'⟩ := hs'.grown
  refine ⟨hs'.inUse.trans hs.inUse, news' ++ news, ?_, List.forall_mem_append.2 ⟨hp', hp⟩⟩
  rw [hj', hj, List.append_assoc]

theorem mono (hs : Supplied P h h') (hP : ∀ e, P e → Q e) : Supplied Q h h' :=
  have ⟨news, hj, hp⟩ := hs.grown
  ⟨hs.inUse, news, hj, fun e he => hP e (hp e he)⟩

/-- The journal tells of something more. -/
theorem of_entry {e : Entry} (he : P e) (hu : h'.inUse = h.inUse)
    (hj : h'.journal = e :: h.journal) : Supplied P h h' :=
  ⟨hu, [e], hj, fun _ hm => List.mem_singleton.1 hm ▸ he⟩

theorem of_wifi {wifi : WifiState} (hw : wifi.available = h.wifi.available) :
    Supplied P h { h with wifi } :=
  of_same (funext fun d => match d with | .wifi => hw | .wwan => rfl | .gnss => rfl) rfl

theorem of_wwan {wwan : WwanState} (hw : wwan.available = h.wwan.available) :
    Supplied P h { h with wwan } :=
  of_same (funext fun d => match d with | .wifi => rfl | .wwan => hw | .gnss => rfl) rfl

theorem of_gnss {gnss : GnssState} (hg : gnss.available = h.gnss.available) :
    Supplied P h { h with gnss } :=
  of_same (funext fun d => match d with | .wifi => rfl | .wwan => rfl | .gnss => hg) rfl

end Supplied

end Hub

end ContextHub
