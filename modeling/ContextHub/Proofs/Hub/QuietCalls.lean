import ContextHub.Proofs.Hub.CallParts
/-!
# Quiet parts of the managers

What the request managers, the heap and the calls of nanoapps do without setting a system timer or
answering a scan is quiet: `quiet` is a law for the parts of `Parts` and `CallParts`, so their walks
hold of it.
-/

namespace ContextHub.Hub

variable {A R : Type} [Radio R]

/-! ## WiFi -/

theorem modifyWifi_quiet {f : WifiState → WifiState} (hscan : ∀ w, (f w).scanSlot = w.scanSlot)
    (hranging : ∀ w, (f w).rangingSlot = w.rangingSlot) :
    Obeys quiet (modifyWifi f : HubM A R Unit) := by
  refine .modify fun h => ?_
  simp only [quiet, core, hscan, hranging]

theorem wifiCapabilities_quiet : Obeys quiet (wifiCapabilities : HubM A R Nat) :=
  .get_bind fun _ => .pure _

omit [Radio R] in
theorem occupied_none {κ : Type} {p : Pending κ} {h : Hub A R} {Q : Slot κ → Hub A R → Prop}
    {E : Halt → Hub A R → Prop} : Ends (occupied none p) h Q E ↔ Q (some p) h := Iff.rfl

/-! ## Mobile and satellite -/

theorem modifyWwan_quiet {f : WwanState → WwanState} (hcell : ∀ w, (f w).cellSlot = w.cellSlot) :
    Obeys quiet (modifyWwan f : HubM A R Unit) := by
  refine .modify fun h => ?_
  simp only [quiet, core, hcell]

theorem wwanCapabilities_quiet : Obeys quiet (wwanCapabilities : HubM A R Nat) :=
  .get_bind fun _ => .pure _

theorem modifySession_quiet (k : SessionKind) {f : Session → Session}
    (hslot : ∀ s, (f s).slot = s.slot) : Obeys quiet (modifySession k f : HubM A R Unit) := by
  refine .modify fun h => ?_
  cases k <;> simp only [quiet, core, GnssState.modifySession, hslot]

theorem gnssCapabilities_quiet : Obeys quiet (gnssCapabilities : HubM A R Nat) :=
  .get_bind fun _ => .pure _

/-! ## All managers -/

theorem quiet_tells : (quiet : Law A R).Tells .all where
  reading hf := .get_bind fun h => hf h h.admits_all
  halts_occupied _ := ⟨rfl, .occupied⟩
  emit_obeys := emit_quiet
  countRadioError_obeys := countRadioError_quiet
  countCells_obeys _ := modifyWwan_quiet fun _ => rfl
  post_obeys := post_quiet
  postOrDie_obeys := postOrDie_quiet
  subscribe_obeys := subscribe_quiet
  unsubscribe_obeys := unsubscribe_quiet
  join_obeys k _ _ _ := modifySession_quiet k fun _ => rfl

/-- Scan monitoring is quiet as a whole. -/
theorem quiet_watches : (quiet : Law A R).Watches .all where
  toTells := quiet_tells
  target_obeys _ := requestRadio_quiet _
  monitor_obeys hf := modifyWifi_quiet hf.scanSlot hf.rangingSlot

/-! ## Calls -/

theorem updateHeapGauge_quiet : Obeys quiet (updateHeapGauge : HubM A R Unit) :=
  .get_bind fun _ => countMetric_quiet _

/-- A nanoapp cannot forge what the hub itself tells. -/
theorem quiet_grants : (quiet : Law A R).Grants .all where
  emit_obeys := emit_quiet
  user_obeys he := post_quiet (Event.plain_of_user he)
  heap _ := rfl
  updateHeapGauge_obeys := updateHeapGauge_quiet
  refuse _ _ _ := rfl
  requestUnload_obeys := requestUnload_quiet
  stopLoop_obeys := stopLoop_quiet
  trace _ _ := rfl

/-! ## Loading and unloading -/

theorem logLifecycle_quiet (app : AppId) (id : InstanceId) :
    Obeys quiet (logLifecycle app id : HubM A R Unit) := emit_quiet _ _ _

theorem quiet_powers : (quiet : Law A R).Powers where
  emit_obeys := emit_quiet
  powerOn_obeys := powerOn_quiet
  powerOff_obeys := powerOff_quiet
  wifi _ := modifyWifi_quiet (fun _ => rfl) fun _ => rfl
  wwan _ := modifyWwan_quiet fun _ => rfl
  gnss _ := .modify fun _ => rfl

end ContextHub.Hub
