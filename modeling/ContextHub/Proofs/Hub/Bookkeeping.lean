import ContextHub.Proofs.Hub.Driving
import ContextHub.Proofs.Hub.Managers
/-!
# Laws about counts

Between a nanoapp's call, a report or a timeout and what it leads to stand the managers. They post
events, and events may be discarded with a cancelled timer or with an unloaded nanoapp; nothing else
that they do is counted, and they power no radio on or off. A law about the counts and about which
radios are in use that holds of these three (`Law.Oversees`) therefore holds of all managers, and so
of what hosts do short of starting and shutting down (`Law.Oversees.steers`). If it is about the
counts only (`Law.Books`), it holds of whatever hosts do (`Law.Books.drives`).
-/

namespace ContextHub.Hub

variable {A R α : Type}

/-- A law about the counts of a hub and about which radios are in use. -/
structure Law.Oversees (L : Law A R) : Prop where
  halt : ∀ h e h', L.halts h e h'
  level : ∀ {h h' : Hub A R}, h'.tallies = h.tallies → Supplied Entry.Powerless h h' → L.rel h h'
  tryPost_obeys : ∀ e, Obeys L (tryPost e)
  cancelled : ∀ x id, Obeys L (discard (·.isExpiryOf x id))
  purged : ∀ {h h' : Hub A R} {id out}, discard (·.target.isAt id) h = .ok out h' →
    L.rel h { h' with metrics := h'.metrics.map (·.addDropped out.length) }
  dispatched : ∀ h, L.rel h h.countedDispatched
  deferred : ∀ h, L.rel h h.countedDeferred
  undelivered : ∀ h, L.rel h h.countedUndelivered

/-- A law about the counts of a hub. -/
structure Law.Books (L : Law A R) : Prop extends L.Oversees where
  beside : ∀ {h h' : Hub A R}, h'.tallies = h.tallies → L.rel h h'
  level ht _ := beside ht

variable {L : Law A R} (hL : L.Oversees)

include hL

theorem Law.Oversees.surveys : L.Surveys where
  halt := hL.halt
  level ha hs := hL.level (congrArg Account.tallies ha) (hs.mono fun _ he => he.powerless)
  tryPost_obeys := hL.tryPost_obeys

theorem Law.Oversees.modify_obeys {f : Hub A R → Hub A R} (hf : ∀ h, (f h).tallies = h.tallies)
    (hs : ∀ h : Hub A R, Supplied Entry.Powerless h (f h)) :
    Obeys L (modify f : HubM A R PUnit) := .modify fun h => hL.level (hf h) (hs h)

theorem Law.Oversees.emit_obeys (level : Level) (message : String)
    (fields : List (String × String)) : Obeys L (emit level message fields) :=
  hL.surveys.emit_obeys _ _ _

/-! ## Timers -/

theorem Law.Oversees.trySetTimer_obeys (s : TimerSpec) : Obeys L (trySetTimer s) := by
  unfold trySetTimer
  refine .get_bind fun _ => ?_
  split
  · exact .pure _
  · exact .bind (hL.modify_obeys (fun _ => rfl) fun _ => .of_same rfl rfl) fun _ =>
      .bind (hL.emit_obeys _ _ _) fun _ => .pure _

theorem Law.Oversees.setNanoappTimer_obeys (owner : InstanceId) (duration : Nat) (cookie : Cookie)
    (oneShot : Bool) : Obeys L (setNanoappTimer owner duration cookie oneShot) := by
  refine .bind (hL.trySetTimer_obeys _) fun r => ?_
  split
  · exact .pure _
  · exact .bind (hL.emit_obeys _ _ _) fun _ => .pure _

theorem Law.Oversees.setSystemTimer_obeys (duration : Nat) (purpose : TimerPurpose) :
    Obeys L (setSystemTimer duration purpose) := by
  refine .bind (hL.trySetTimer_obeys _) fun r => ?_
  split
  · exact .pure _
  · exact hL.surveys.fatal_obeys _

theorem Law.Oversees.cancelTimer_obeys (owner : InstanceId) (x : TimerHandle) :
    Obeys L (cancelTimer owner x) := by
  unfold cancelTimer
  refine .get_bind fun _ => ?_
  split
  · exact .pure _
  · exact .bind (hL.modify_obeys (fun _ => rfl) fun _ => .of_same rfl rfl) fun _ => .pure _

theorem Law.Oversees.cancelWithExpiries_obeys (id : InstanceId) (x : TimerHandle) :
    Obeys L (cancelWithExpiries id x) :=
  .bind (hL.cancelTimer_obeys _ _) fun _ => .bind (hL.cancelled _ _) fun _ => .pure _

theorem Law.Oversees.cancelTimersOf_obeys (owner : InstanceId) : Obeys L (cancelTimersOf owner) :=
  .get_bind fun _ => .bind (hL.modify_obeys (fun _ => rfl) fun _ => .of_same rfl rfl) fun _ =>
    .pure _

/-! ## Managers and calls -/

theorem Law.Oversees.modifyWifi_obeys {f : WifiState → WifiState}
    (hf : ∀ w, (f w).available = w.available) : Obeys L (modifyWifi f) :=
  hL.modify_obeys (fun _ => rfl) fun h => .of_wifi (hf h.wifi)

theorem Law.Oversees.modifyWwan_obeys {f : WwanState → WwanState}
    (hf : ∀ w, (f w).available = w.available) : Obeys L (modifyWwan f) :=
  hL.modify_obeys (fun _ => rfl) fun h => .of_wwan (hf h.wwan)

theorem Law.Oversees.modifySession_obeys (k : SessionKind) (f : Session → Session) :
    Obeys L (modifySession k f) := by
  refine hL.modify_obeys (fun _ => rfl) fun h => .of_gnss ?_
  cases k <;> rfl

theorem Law.Oversees.tells : L.Tells .all where
  reading hf := .get_bind fun h => hf h h.admits_all
  halts_occupied h := hL.halt h _ h
  emit_obeys := hL.emit_obeys
  countRadioError_obeys _ := hL.surveys.countMetric_obeys fun _ => rfl
  countCells_obeys _ := hL.modifyWwan_obeys fun _ => rfl
  post_obeys _ := hL.surveys.post_obeys _
  postOrDie_obeys _ := hL.surveys.postOrDie_obeys _
  subscribe_obeys id type h := by
    unfold subscribe
    rw [ends_bind, ends_get, ends_ite]
    split <;> exact hL.level rfl (.of_same rfl rfl)
  unsubscribe_obeys id type h := by
    unfold unsubscribe
    rw [ends_bind, ends_get, ends_ite]
    split <;> exact hL.level rfl (.of_same rfl rfl)
  join_obeys k _ _ _ := hL.modifySession_obeys k _

theorem Law.Oversees.grants : L.Grants .all where
  emit_obeys := hL.emit_obeys
  user_obeys _ := hL.surveys.post_obeys _
  heap _ := hL.level rfl (.of_same rfl rfl)
  updateHeapGauge_obeys := .get_bind fun _ => hL.surveys.countMetric_obeys fun _ => rfl
  refuse e h _ := by
    have hhanded : (Entry.handed e false).Mute := ⟨trivial, rfl⟩
    have hreleased : (Entry.released e).Mute := ⟨trivial, rfl⟩
    exact L.trans (hL.surveys.note_obeys hhanded h) (hL.surveys.note_obeys hreleased _)
  requestUnload_obeys _ := hL.surveys.defer_obeys _
  stopLoop_obeys := hL.modify_obeys (fun _ => rfl) fun _ => .of_same rfl rfl
  trace _ _ := hL.level rfl (.of_same rfl rfl)

variable [Radio R]

/-- What radios are asked and report is not counted. -/
theorem Law.Oversees.requestRadio_obeys (request : RadioRequest) :
    Obeys L (requestRadio request) := by
  intro h
  unfold requestRadio
  rw [ends_bind, ends_get]
  split
  · exact hL.halt h _ h
  · have hasked (q : Bool) : (Entry.requested request q).Powerless := trivial
    refine ends_bind.2 (ends_set.2 (Obeys.after ?_ (hL.level rfl (.of_entry (hasked _) rfl rfl))))
    exact .bind (.forM fun r _ => hL.surveys.deferOrDie_obeys _) fun _ => .pure _

theorem Law.Oversees.serves : L.Serves .all := by
  have hseeks : L.Seeks .all := {
    toTells := hL.tells
    setSystemTimer_obeys := hL.setSystemTimer_obeys
    cancelSystemTimer_obeys := hL.cancelTimer_obeys _
    requestRadio_obeys := fun _ => hL.requestRadio_obeys _
    ranging_obeys := fun hf => hL.modifyWifi_obeys hf.available
    cell_obeys := fun hf => hL.modifyWwan_obeys hf.available
    session_obeys := fun k _ _ => hL.modifySession_obeys k _
    scan_obeys := fun hf => hL.modifyWifi_obeys hf.available
    answerScan_obeys := fun _ _ _ => hL.surveys.postOrDie_obeys _ }
  exact hseeks.serves ⟨hL.tells, fun _ => hL.requestRadio_obeys _,
    fun hf => hL.modifyWifi_obeys hf.available⟩

theorem Law.Oversees.perform_obeys (id : InstanceId) (c : Call) : Obeys L (perform id c) := by
  refine hL.serves.hears.perform_obeys hL.grants trivial c (fun htimer => ?_) ?_
  · cases c with
    | setTimer => exact hL.setNanoappTimer_obeys _ _ _ _
    | cancelTimer => exact hL.cancelWithExpiries_obeys _ _
    | _ => cases htimer
  · rintro act outcome rfl
    exact hL.surveys.note_obeys ⟨trivial, rfl⟩

/-! ## Unloading -/

omit [Radio R] in
/-- What was queued for a nanoapp is discarded and counted. -/
theorem Law.Oversees.purge_obeys (id : InstanceId) (timers : Nat) : Obeys L (purge id timers) := by
  intro h
  have hout : Ends (discard (·.target.isAt id)) h
      (fun out h' => discard (·.target.isAt id) h = .ok out h') (L.halts h) := by
    unfold Ends
    split
    · assumption
    · exact hL.halt h _ _
  refine hout.bind fun out h' hr => ends_bind.2 (ends_modify.2 ?_)
  have hrest : Obeys L (do
      modify fun h => { h with registry := h.registry.remove id }
      emit .debug "Nanoapp resources released"
        [("instance_id", toString id), ("timers", toString timers),
         ("purged", toString out.length)] : HubM A R Unit) :=
    .bind (hL.modify_obeys (fun _ => rfl) fun _ => .of_same rfl rfl) fun _ => hL.emit_obeys _ _ _
  exact hrest.after (hL.purged hr)

theorem Law.Oversees.releaseResources_obeys (id : InstanceId) : Obeys L (releaseResources id) := by
  have hrest (timers : Nat) : Obeys L (do
      updateHeapGauge
      forgetWifi id
      forgetWwan id
      forgetGnss id
      purge id timers) := by
    refine .bind hL.grants.updateHeapGauge_obeys fun _ => ?_
    refine .bind (hL.serves.forgetWifi_obeys id) fun _ => ?_
    refine .bind (hL.serves.forgetWwan_obeys id) fun _ => ?_
    exact .bind (hL.serves.forgetGnss_obeys id) fun _ => hL.purge_obeys id timers
  refine .bind (hL.cancelTimersOf_obeys id) fun timers h => ?_
  rw [ends_bind, ends_get]
  refine ends_bind.2 (ends_set.2 (Obeys.after ?_ (hL.level rfl (.of_same rfl rfl))))
  exact .ite (fun _ => .bind (hL.emit_obeys _ _ _) fun _ => hrest timers) fun _ => hrest timers

/-- What is said of posting, of discarding and of the loop's own counts is said of all. -/
theorem Law.Oversees.steers : L.Steers fun _ => True where
  toSurveys := hL.surveys
  perform_obeys id c _ := hL.perform_obeys id c
  releaseResources_obeys := hL.releaseResources_obeys
  handleReport_obeys := hL.serves.handleReport_obeys
  handleSystemTimer_obeys := hL.serves.handleSystemTimer_obeys
  register _ := hL.level rfl (.of_same rfl rfl)
  dispatched := hL.dispatched
  deferred := hL.deferred
  undelivered := hL.undelivered

omit hL in
theorem Law.Books.drives (hL : L.Books) : L.Drives fun _ => True where
  toSteers := hL.steers
  aside ha := hL.beside (congrArg Account.tallies ha)

end ContextHub.Hub
