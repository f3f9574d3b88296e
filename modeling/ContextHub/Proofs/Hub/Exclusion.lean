import ContextHub.Proofs.Hub.Footprint
/-!
# Managers and calls exclude those who hold nothing

Whatever the request managers do for radios and timers, they enter nobody into a list or a slot who
was in none of them before: they act for the requester of a slot. A nanoapp that calls enters itself
alone. So the managers obey `excluding out` for everyone, and a call for all but its caller.
-/

namespace ContextHub

/-- What the journal tells of the call itself. -/
def Call.entry? (id : InstanceId) : Call → Option Entry
  | .note act outcome => some (.acted id act outcome)
  | _ => none

variable {out : InstanceId → Bool}

/-- Those whom `out` names are entered nowhere, and into a session only with a request of one's
own. -/
def Admission.but (out : InstanceId → Bool) : Admission where
  holds id := out id = false
  joins requester request :=
    (∀ id ∈ requester, out id = false) ∧ ∀ r ∈ request, requester = some r.id
  joins_none := by simp
  joins_own hid hown := ⟨by simpa using hid, fun r hr => congrArg some (hown r hr).symm⟩

/-! ## Lists, slots and the heap -/

namespace WifiState

variable {f : WifiState → WifiState} {w : WifiState}

theorem MonitorEdit.freeOf (hf : MonitorEdit (.but out) f) (hw : w.FreeOf out) :
    (f w).FreeOf out := by
  cases hf with
  | @enter id hid =>
    refine ⟨fun x hx => ?_, hw.monitor, hw.scan, hw.ranging⟩
    dsimp only at hx
    split at hx
    · exact hw.monitors x hx
    · rcases List.mem_append.1 hx with hx | hx
      · exact hw.monitors x hx
      · rw [List.mem_singleton.1 hx]
        exact hid
  | leave =>
    exact ⟨fun x hx => hw.monitors x (List.mem_filter.1 hx).1, hw.monitor, hw.scan, hw.ranging⟩
  | fill hp => exact ⟨hw.monitors, Slot.freeOf_some hp, hw.scan, hw.ranging⟩
  | vacate => exact ⟨hw.monitors, Slot.freeOf_none, hw.scan, hw.ranging⟩
  | confirm => exact ⟨hw.monitors, hw.monitor, hw.scan, hw.ranging⟩
  | forget =>
    refine ⟨fun x hx => hw.monitors x (List.mem_filter.1 hx).1, hw.monitor.map fun p x hx => ?_,
      hw.scan, hw.ranging⟩
    split at hx
    · cases hx
    · exact hx

theorem ScanEdit.freeOf (hf : ScanEdit (.but out) f) (hw : w.FreeOf out) : (f w).FreeOf out := by
  cases hf with
  | fill hp => exact ⟨hw.monitors, hw.monitor, Slot.freeOf_some hp, hw.ranging⟩
  | vacate => exact ⟨hw.monitors, hw.monitor, Slot.freeOf_none, hw.ranging⟩
  | setJob => exact ⟨hw.monitors, hw.monitor, hw.scan.map fun _ _ hid => hid, hw.ranging⟩
  | count => exact ⟨hw.monitors, hw.monitor, hw.scan, hw.ranging⟩

theorem RangingEdit.freeOf (hf : RangingEdit (.but out) f) (hw : w.FreeOf out) :
    (f w).FreeOf out := by
  cases hf with
  | fill hp => exact ⟨hw.monitors, hw.monitor, hw.scan, Slot.freeOf_some hp⟩
  | vacate => exact ⟨hw.monitors, hw.monitor, hw.scan, Slot.freeOf_none⟩
  | count => exact ⟨hw.monitors, hw.monitor, hw.scan, hw.ranging⟩

end WifiState

theorem WwanState.Edit.freeOf {f : WwanState → WwanState} (hf : Edit (.but out) f)
    (w : WwanState) : (f w).cellSlot.FreeOf out := by
  cases hf with
  | fill hp => exact Slot.freeOf_some hp
  | vacate => exact Slot.freeOf_none

namespace Session

variable {s : Session}

theorem FreeOf.join (hs : s.FreeOf out) {id : InstanceId} {request : Option SessionRequest}
    (hjoin : (Admission.but out).joins (some id) request) :
    FreeOf out { s with requests := s.others id ++ request.toList } := by
  refine ⟨fun r hr => ?_, hs.slot, hs.fits⟩
  rcases List.mem_append.1 hr with hr | hr
  · exact hs.requests r (List.mem_filter.1 hr).1
  · exact hjoin.1 r.id (hjoin.2 r (Option.mem_toList.1 hr))

theorem Edit.freeOf {f : Session → Session} (hf : Edit (.but out) f) (hs : s.FreeOf out) :
    (f s).FreeOf out := by
  cases hf with
  | fill hp =>
    refine ⟨hs.requests, Slot.freeOf_some hp.1, ?_⟩
    rintro p ⟨⟩
    exact hp.2
  | vacate =>
    refine ⟨hs.requests, Slot.freeOf_none, ?_⟩
    rintro p ⟨⟩
  | count => exact ⟨hs.requests, hs.slot, hs.fits⟩
  | confirm => exact ⟨hs.requests, hs.slot, hs.fits⟩
  | forget =>
    refine ⟨fun r hr => hs.requests r (List.mem_filter.1 hr).1, hs.slot.map fun p x hx => ?_, ?_⟩
    · split at hx
      · cases hx
      · exact hx
    · intro p hp r hr
      obtain ⟨q, hq, rfl⟩ := Option.map_eq_some_iff.1 hp
      split at hr
      · cases hr
      · rename_i hne
        rw [if_neg hne]
        exact hs.fits q hq r hr

end Session

theorem Heap.Edit.freeOf {h heap : Heap} (he : h.Edit (.but out) heap) (hh : h.FreeOf out) :
    heap.FreeOf out := by
  cases he with
  | alloc ho hr =>
    unfold Heap.alloc at hr
    split at hr
    · cases hr
    · rename_i hnone
      cases hr
      exact hh.insert ho hnone
  | free hr =>
    obtain ⟨b, hb, -, -, rfl⟩ := hh.exact.free_eq_ok.1 hr
    exact hh.release hb
  | access hr =>
    obtain ⟨-, put, hput, rfl⟩ := hh.exact.access_eq_some hr
    exact hh.edit hput

namespace Hub

variable {A R : Type}

/-- Whoever is in a slot was let in. -/
theorem FreeOf.admits {h : Hub A R} (hf : h.FreeOf out) : h.Admits (.but out) :=
  ⟨hf.wifi.monitor, fun k p hp => ⟨(hf.session k).slot p hp, (hf.session k).fits p hp⟩⟩

/-! ## Managers -/

theorem excluding_tells : (excluding out : Law A R).Tells (.but out) where
  reading hf := .reading fun s hs => hf s hs.admits
  halts_occupied := (excluding out).refl
  emit_obeys := emit_excluding
  countRadioError_obeys := countRadioError_excluding
  countCells_obeys _ := modifyWwan_excluding fun _ hw => hw
  post_obeys _ := post_excluding _
  postOrDie_obeys _ := postOrDie_excluding _
  subscribe_obeys := subscribe_excluding
  unsubscribe_obeys := unsubscribe_excluding
  join_obeys k _ _ hjoin := modifySession_excluding k fun _ hs => hs.join hjoin

theorem excluding_grants : (excluding out : Law A R).Grants (.but out) where
  emit_obeys := emit_excluding
  user_obeys _ := post_excluding _
  heap he := setHeap_excluding he.freeOf
  updateHeapGauge_obeys := .get_bind fun _ => countMetric_excluding _
  refuse _ _ _ := excluding_of_same rfl rfl rfl rfl rfl ⟨rfl, rfl, rfl⟩
  requestUnload_obeys _ := defer_excluding _
  stopLoop_obeys := .modify fun _ => excluding_of_same rfl rfl rfl rfl rfl ⟨rfl, rfl, rfl⟩
  trace _ _ := excluding_of_same rfl rfl rfl rfl rfl ⟨rfl, rfl, rfl⟩

section

variable [Radio R]

theorem excluding_serves : (excluding out : Law A R).Serves (.but out) := by
  have hseeks : (excluding out : Law A R).Seeks (.but out) := {
    toTells := excluding_tells
    setSystemTimer_obeys := setSystemTimer_excluding
    cancelSystemTimer_obeys := cancelSystemTimer_excluding
    requestRadio_obeys := fun _ => requestRadio_excluding _
    ranging_obeys := fun hf => modifyWifi_excluding fun _ hw => hf.freeOf hw
    cell_obeys := fun hf => modifyWwan_excluding fun w _ => hf.freeOf w
    session_obeys := fun k _ hf => modifySession_excluding k fun _ hs => hf.freeOf hs
    scan_obeys := fun hf => modifyWifi_excluding fun _ hw => hf.freeOf hw
    answerScan_obeys := fun _ _ _ => postOrDie_excluding _ }
  exact hseeks.serves ⟨excluding_tells, fun _ => requestRadio_excluding _,
    fun hf => modifyWifi_excluding fun _ hw => hf.freeOf hw⟩

/-! ## Unloading and powering -/

/-- But for the nanoapp that goes, a release leaves the crew as it is. -/
theorem releaseResources_excluding (id : InstanceId) (h : Hub A R) :
    Ends (releaseResources id) h
      (fun _ h' => ∃ h₁, (excluding out).rel h h₁ ∧
        (excluding out).rel { h₁ with registry := h₁.registry.remove id } h')
      ((excluding out).halts h) := by
  have hE (e : Halt) (h₁ : Hub A R) (he : (excluding out).halts h e h₁) :
      (excluding out).halts h e h₁ := he
  refine (cancelTimersOf_excluding id).andThen ((excluding out).refl h) hE fun timers h₁ hr => ?_
  have hpurge {h₂ : Hub A R} (hr : (excluding out).rel h h₂) : Ends (purge id timers) h₂
      (fun _ h' => ∃ h₁, (excluding out).rel h h₁ ∧
        (excluding out).rel { h₁ with registry := h₁.registry.remove id } h')
      ((excluding out).halts h) := by
    refine (discard_excluding _).andThen hr hE fun _ h₃ hr => ?_
    refine (countMetric_excluding _).andThen hr hE fun _ h₄ hr => ?_
    refine ends_bind.2 (ends_modify.2 (ends_modify.2 ⟨h₄, hr, ?_⟩))
    exact excluding_of_same rfl rfl rfl rfl rfl ⟨rfl, rfl, rfl⟩
  have hrest {h₂ : Hub A R} (hr : (excluding out).rel h h₂) : Ends (do
      updateHeapGauge
      forgetWifi id
      forgetWwan id
      forgetGnss id
      purge id timers) h₂
      (fun _ h' => ∃ h₁, (excluding out).rel h h₁ ∧
        (excluding out).rel { h₁ with registry := h₁.registry.remove id } h')
      ((excluding out).halts h) := by
    refine excluding_grants.updateHeapGauge_obeys.andThen hr hE fun _ _ hr => ?_
    refine (excluding_serves.forgetWifi_obeys id).andThen hr hE fun _ _ hr => ?_
    refine (excluding_serves.forgetWwan_obeys id).andThen hr hE fun _ _ hr => ?_
    exact (excluding_serves.forgetGnss_obeys id).andThen hr hE fun _ _ hr => hpurge hr
  rw [ends_bind, ends_get]
  refine ends_bind.2 (ends_set.2 ?_)
  have hswept : (excluding out).rel h { h₁ with heap := (h₁.heap.freeAllOwnedBy id).2 } :=
    (excluding out).trans hr (setHeap_excluding fun hh => hh.sweep id)
  split
  · exact (emit_excluding _ _ _).andThen hswept hE fun _ _ hr => hrest hr
  · exact hrest hswept

theorem excluding_powers : (excluding out : Law A R).Powers where
  emit_obeys := emit_excluding
  powerOn_obeys := powerOn_excluding
  powerOff_obeys := powerOff_excluding
  wifi _ := modifyWifi_excluding fun _ hw => ⟨hw.monitors, hw.monitor, hw.scan, hw.ranging⟩
  wwan _ := modifyWwan_excluding fun _ hw => hw
  gnss _ := by
    refine .modify fun h hf => ⟨⟨hf.timers, hf.heap, hf.wifi, hf.cell, fun k => ?_⟩, rfl, rfl, rfl⟩
    cases k with
    | location => exact hf.session .location
    | measurement => exact hf.session .measurement

/-! ## Calls -/

/-- A call excludes all but its caller. -/
theorem perform_excluding {id : InstanceId} (hid : out id = false) {c : Call}
    (hc : c.entry? id = none) : Obeys (excluding out) (perform id c : HubM A R c.Reply) := by
  refine excluding_serves.hears.perform_obeys excluding_grants hid c (fun htimer => ?_) ?_
  · cases c with
    | setTimer => exact setNanoappTimer_excluding hid _ _ _
    | cancelTimer =>
      exact .bind (cancelTimer_excluding _ _) fun _ => .bind (discard_excluding _) fun _ => .pure _
    | _ => cases htimer
  · rintro act outcome rfl
    cases hc

end

end Hub

end ContextHub
