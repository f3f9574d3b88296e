import ContextHub.Proofs.Hub.Parts
/-!
# The parts of calls, and of powering up and down

A call of a nanoapp asks a manager, sets or cancels the nanoapp's own timers, or uses the heap, the
queue and the log. A law for what managers are asked (`Law.Hears`) and for the latter
(`Law.Grants`) is obeyed by every call but for those about timers and those that note down what a
nanoapp did, which laws tell apart. Powering radios up and down is taken apart likewise
(`Law.Powers`).
-/

namespace ContextHub

/-- Whether a call is about a nanoapp's own timers. -/
def Call.isTimerCall : Call → Bool
  | .setTimer _ _ _ => true
  | .cancelTimer _ => true
  | _ => false

/-- What calls do to the heap. -/
inductive Heap.Edit (W : Admission) (h : Heap) : Heap → Prop
  | alloc {owner : InstanceId} {bytes : Nat} {ptr : HeapPtr} {heap : Heap} (ho : W.holds owner)
      (hr : h.alloc owner bytes = .ok (ptr, heap)) : Edit W h heap
  | free {requester : InstanceId} {ptr : HeapPtr} {heap : Heap}
      (hr : h.free requester ptr = .ok heap) : Edit W h heap
  | access {requester : InstanceId} {ptr : HeapPtr} {edit : BlockEdit} {n : Nat} {heap : Heap}
      (hr : h.access requester ptr edit = some (n, heap)) : Edit W h heap

/-- What a nanoapp sends is neither an expiry nor an answer. -/
theorem Event.plain_of_user {e : Event} (he : ¬ e.type < EventType.firstUser) : e.Plain :=
  Event.plain_of_type (fun ht => he (ht ▸ by decide)) fun ht => he (ht ▸ by decide)

namespace Hub

variable {A R : Type} {W : Admission}

/-- A law for what calls do with the heap, the queue and the log. -/
structure Law.Grants (L : Law A R) (W : Admission) : Prop where
  emit_obeys : ∀ level message fields, Obeys L (emit level message fields)
  user_obeys : ∀ {e}, ¬ e.type < EventType.firstUser → Obeys L (post e)
  heap : ∀ {h : Hub A R} {heap}, h.heap.Edit W heap → L.rel h { h with heap }
  updateHeapGauge_obeys : Obeys L updateHeapGauge
  /-- An event of a reserved type is handed in, and done with at once. -/
  refuse : ∀ (e : Event) (h : Hub A R), e.type < EventType.firstUser →
    L.rel h { h with journal := .released e :: .handed e false :: h.journal }
  requestUnload_obeys : ∀ id, Obeys L (requestUnload id)
  stopLoop_obeys : Obeys L stopLoop
  trace : ∀ (h : Hub A R) trace, L.rel h { h with trace }

/-- A law for powering radios up and down. -/
structure Law.Powers [Radio R] (L : Law A R) : Prop where
  emit_obeys : ∀ level message fields, Obeys L (emit level message fields)
  powerOn_obeys : ∀ d, Obeys L (powerOn d)
  powerOff_obeys : ∀ d, Obeys L (powerOff d)
  wifi : ∀ available, Obeys L (modifyWifi fun w => { w with available })
  wwan : ∀ available, Obeys L (modifyWwan fun w => { w with available })
  gnss : ∀ available, Obeys L (modify fun h => { h with gnss := { h.gnss with available } })

variable {L : Law A R}

theorem Law.Grants.within {L' : Law A R} (hL : L.Grants .all) (hw : L.Within L') :
    L'.Grants .all where
  emit_obeys _ _ _ := (hL.emit_obeys _ _ _).within hw
  user_obeys he := (hL.user_obeys he).within hw
  heap he := hw.rel (hL.heap he)
  updateHeapGauge_obeys := hL.updateHeapGauge_obeys.within hw
  refuse e h he := hw.rel (hL.refuse e h he)
  requestUnload_obeys id := (hL.requestUnload_obeys id).within hw
  stopLoop_obeys := hL.stopLoop_obeys.within hw
  trace h trace := hw.rel (hL.trace h trace)

/-! ## The heap and the queue -/

section

variable (hL : L.Grants W)

include hL

theorem Law.Grants.heapAlloc_obeys {owner : InstanceId} (ho : W.holds owner) (bytes : Nat) :
    Obeys L (heapAlloc owner bytes) := by
  intro h
  unfold heapAlloc
  rw [ends_bind, ends_get]
  split
  · rename_i ptr heap hr
    exact hL.heap (.alloc ho hr)
  · exact Obeys.bind (hL.emit_obeys _ _ _) (fun _ => .pure _) h

theorem Law.Grants.heapFree_obeys (requester : InstanceId) (ptr : Option HeapPtr) :
    Obeys L (heapFree requester ptr) := by
  intro h
  unfold heapFree
  split
  · exact L.refl h
  · rw [ends_bind, ends_get]
    split
    · rename_i heap hr
      exact hL.heap (.free hr)
    · exact hL.emit_obeys _ _ _ h
    · exact hL.emit_obeys _ _ _ h

theorem Law.Grants.heapAccess_obeys (requester : InstanceId) (ptr : HeapPtr) (edit : BlockEdit) :
    Obeys L (heapAccess requester ptr edit) := by
  intro h
  unfold heapAccess
  rw [ends_bind, ends_get]
  split
  · exact L.refl h
  · rename_i n heap hr
    exact hL.heap (.access hr)

/-- A nanoapp cannot send what is reserved for the hub. -/
theorem Law.Grants.send_obeys (id : InstanceId) (e : Event) : Obeys L (send id e) := by
  refine .ite (fun hreserved => ?_) fun huser => hL.user_obeys huser
  exact .bind (hL.emit_obeys _ _ _) fun _ h => hL.refuse e h hreserved

/-! ## Permissions -/

theorem Law.Grants.permitted_obeys (id : InstanceId) (permission : Permission) :
    Obeys L (permitted id permission) := by
  unfold permitted
  refine .get_bind fun h => ?_
  split
  · exact .pure _
  · exact .ite (fun _ => .pure _) fun _ => .bind (hL.emit_obeys _ _ _) fun _ => .pure _

theorem Law.Grants.askFor_obeys (id : InstanceId) (permission : Permission) (request : String)
    {ask : HubM A R (Except RequestError Unit)} (ha : Obeys L ask) :
    Obeys L (askFor id permission request ask) := by
  refine .bind (hL.permitted_obeys _ _) fun _ => .ite (fun _ => ?_) fun _ => .pure _
  refine .bind ha fun result => ?_
  unfold admitted
  split
  · exact .pure _
  · exact .bind (hL.emit_obeys _ _ _) fun _ => .pure _

theorem Law.Grants.capabilitiesFor_obeys [Radio R] (id : InstanceId) (p : Permission) :
    Obeys L (capabilitiesFor id p) := by
  refine .bind (hL.permitted_obeys _ _) fun _ => .ite (fun _ => ?_) fun _ => .pure _
  cases p <;> exact .get_bind fun _ => .pure _

end

/-! ## Calls -/

/-- Every call obeys, if those about timers and those that note down a doing do. -/
theorem Law.Hears.perform_obeys [Radio R] (hL : L.Hears W) (hG : L.Grants W) {id : InstanceId}
    (hid : W.holds id) (c : Call) (htimer : c.isTimerCall = true → Obeys L (perform id c))
    (hnote : ∀ act outcome, c = .note act outcome → Obeys L (perform id c)) :
    Obeys L (perform id c) := by
  have hsession (k : SessionKind) {request : Option SessionRequest}
      (hr : ∀ r ∈ request, r.id = id) (cookie : Cookie) :
      Obeys L (askForSession id k request cookie) :=
    hG.askFor_obeys _ _ _ (hL.controlSession_obeys k (W.joins_own hid hr) cookie)
  cases c with
  | now => exact .get_bind fun _ => .pure _
  | appId => exact .get_bind fun _ => .pure _
  | setTimer => exact htimer rfl
  | cancelTimer => exact htimer rfl
  | alloc =>
    exact .bind (hG.heapAlloc_obeys hid _) fun _ => .bind hG.updateHeapGauge_obeys fun _ => .pure _
  | free => exact .bind (hG.heapFree_obeys _ _) fun _ => hG.updateHeapGauge_obeys
  | access => exact hG.heapAccess_obeys _ _ _
  | wasIssued => exact .get_bind fun _ => .pure _
  | send => exact hG.send_obeys _ _
  | subscribe => exact hL.subscribe_obeys _ _
  | unsubscribe => exact hL.unsubscribe_obeys _ _
  | find => exact .get_bind fun _ => .pure _
  | requestUnload => exact hG.requestUnload_obeys _
  | stopLoop => exact hG.stopLoop_obeys
  | capabilities => exact hG.capabilitiesFor_obeys _ _
  | scanMonitor => exact hG.askFor_obeys _ _ _ (hL.configureMonitor_obeys hid _ _)
  | scan => exact hG.askFor_obeys _ _ _ (hL.requestScan_obeys hid _ _)
  | ranging => exact hG.askFor_obeys _ _ _ (hL.requestRanging_obeys hid _ _)
  | cellInfo => exact hG.askFor_obeys _ _ _ (hL.requestCellInfo_obeys hid _)
  | location => exact hsession _ (by simp) _
  | stopLocation => exact hsession _ (by simp) _
  | measurement => exact hsession _ (by simp) _
  | stopMeasurement => exact hsession _ (by simp) _
  | trace => exact .modify fun h => hG.trace h _
  | log => exact hL.emit_obeys _ _ _
  | note act outcome => exact hnote act outcome rfl

/-! ## Powering -/

section

variable [Radio R] (hL : L.Powers)

include hL

theorem Law.Powers.openRadios_obeys : Obeys L openRadios := by
  refine .bind (hL.powerOn_obeys _) fun _ => .bind (hL.wifi _) fun _ => ?_
  refine .bind (hL.powerOn_obeys _) fun _ => .bind (hL.wwan _) fun _ => ?_
  exact .bind (hL.powerOn_obeys _) fun _ => hL.gnss _

theorem Law.Powers.initialise_obeys : Obeys L initialise :=
  .bind hL.openRadios_obeys fun _ => .get_bind fun _ => hL.emit_obeys _ _ _

theorem Law.Powers.closeRadios_obeys : Obeys L closeRadios := by
  have hgnss : Obeys L (do
      if (← get).gnss.available then
        powerOff .gnss
        modify fun h => { h with gnss := { h.gnss with available := false } }) :=
    .get_bind fun _ => .ite (fun _ => .bind (hL.powerOff_obeys _) fun _ => hL.gnss _) fun _ =>
      .pure _
  have hwwan : Obeys L (do
      if (← get).wwan.available then
        powerOff .wwan
        modifyWwan fun w => { w with available := false }
      if (← get).gnss.available then
        powerOff .gnss
        modify fun h => { h with gnss := { h.gnss with available := false } }) :=
    .get_bind fun _ => .ite (fun _ => .bind (hL.powerOff_obeys _) fun _ =>
      .bind (hL.wwan _) fun _ => hgnss) fun _ => hgnss
  exact .get_bind fun _ => .ite (fun _ => .bind (hL.powerOff_obeys _) fun _ =>
    .bind (hL.wifi _) fun _ => hwwan) fun _ => hwwan

end

end Hub

end ContextHub
