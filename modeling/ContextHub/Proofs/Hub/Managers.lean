import ContextHub.Proofs.Hub.QuietCalls
/-!
# Laws beside the quiet steps

Apart from quiet steps, the managers set and cancel timers of the system, fill and empty the slots
of their requests, and answer scans. A law that allows quiet steps needs to look at these parts only
(`Law.Manages`, and `Law.Scans` where scans are concerned), or at what nanoapps ask for as a whole
(`Law.Requests`).
-/

namespace ContextHub.Hub

variable {A R : Type} [Radio R]

/-- A law for the parts of all managers but that of scans on demand. -/
structure Law.Manages (L : Law A R) : Prop where
  quietly : quiet.Within L
  set : ∀ duration purpose, Obeys L (setSystemTimer duration purpose)
  cancel : ∀ handle, Obeys L (cancelSystemTimer handle)
  wifi : ∀ f : WifiState → WifiState, (∀ w, (f w).scanSlot = w.scanSlot) → Obeys L (modifyWifi f)
  wwan : ∀ f, Obeys L (modifyWwan f)
  session : ∀ k f, Obeys L (modifySession k f)

/-- A law for the parts of all managers. -/
structure Law.Scans (L : Law A R) : Prop extends L.Manages where
  scan : ∀ f, Obeys L (modifyWifi f)
  answer : ∀ id code cookie, Obeys L (answerWifi id WifiKind.scan code cookie)

/-- A law for the requests of nanoapps. -/
structure Law.Requests (L : Law A R) : Prop where
  quietly : quiet.Within L
  scan : ∀ id params cookie, Obeys L (requestScan id params cookie)
  ranging : ∀ id targets cookie, Obeys L (requestRanging id targets cookie)
  cellInfo : ∀ id cookie, Obeys L (requestCellInfo id cookie)
  session : ∀ k id request cookie, Obeys L (controlSession k id request cookie)

variable {L : Law A R}

theorem Law.Manages.of {α : Type} (hL : L.Manages) {m : HubM A R α} (hm : Obeys Hub.quiet m) :
    Obeys L m :=
  hm.within hL.quietly

theorem Law.Manages.tends (hL : L.Manages) : L.Tends .all where
  toTells := quiet_tells.within hL.quietly
  setSystemTimer_obeys := hL.set
  cancelSystemTimer_obeys := hL.cancel
  requestRadio_obeys _ := hL.of (requestRadio_quiet _)
  ranging_obeys hf := hL.wifi _ hf.scanSlot
  cell_obeys _ := hL.wwan _
  session_obeys k _ _ := hL.session k _

theorem Law.Scans.serves (hL : L.Scans) : L.Serves .all :=
  Law.Seeks.serves ⟨hL.tends, fun _ => hL.scan _, hL.answer⟩ (quiet_watches.within hL.quietly)

theorem Law.Scans.requests (hL : L.Scans) : L.Requests where
  quietly := hL.quietly
  scan _ := hL.serves.requestScan_obeys trivial
  ranging _ := hL.serves.requestRanging_obeys trivial
  cellInfo _ := hL.serves.requestCellInfo_obeys trivial
  session k _ _ := hL.serves.controlSession_obeys k trivial

theorem Law.Requests.hears (hL : L.Requests) : L.Hears .all where
  toTells := quiet_tells.within hL.quietly
  configureMonitor_obeys hid enable cookie :=
    (quiet_watches.configureMonitor_obeys hid enable cookie).within hL.quietly
  requestScan_obeys _ := hL.scan _
  requestRanging_obeys _ := hL.ranging _
  requestCellInfo_obeys _ := hL.cellInfo _
  controlSession_obeys k _ _ _ := hL.session k _ _

/-- All calls but those about the nanoapp's own timers. -/
theorem Law.Requests.perform_obeys (hL : L.Requests) (id : InstanceId) (c : Call)
    (hc : c.isTimerCall = false) : Obeys L (perform id c) := by
  refine hL.hears.perform_obeys (quiet_grants.within hL.quietly) trivial c ?_ ?_
  · intro htimer
    rw [hc] at htimer
    cases htimer
  · rintro act outcome rfl
    exact (note_quiet rfl).within hL.quietly

end ContextHub.Hub
