import ContextHub.Proofs.Hub.SafeCalls
/-!
# Refusals

A nanoapp asks for a timer, for memory or for a radio's service, and is told at once whether it gets
it. Each of these calls can be refused at several places, before and after a radio was asked. What
all these places have in common is `refused_changes_nothing`: a refusal leaves the hub as it was but
for the log. Only a refusal that is the radio's own comes after a question to the radio, and then
the question stands in the journal (`Declined`).
-/

namespace ContextHub

/-- The kind of request to a radio that a call comes to. -/
def Call.requestName? : Call → Option RequestName
  | .scanMonitor _ _ => some .monitor
  | .scan _ _ => some .scan
  | .ranging _ _ => some .ranging
  | .cellInfo _ => some .cell
  | .location _ _ _ => some .location
  | .stopLocation _ => some .location
  | .measurement _ _ => some .measurement
  | .stopMeasurement _ => some .measurement
  | _ => none

/-- Whether a call asks for a timer, for memory or for a radio's service. -/
def Call.isRequest : Call → Bool
  | .setTimer _ _ _ => true
  | .alloc _ => true
  | c => c.requestName?.isSome

/-- What a radio refuses has no outcome: no report comes with a refusal. -/
def Radio.Reticent (R : Type) [Radio R] : Prop :=
  ∀ (now : Nat) (q : RadioRequest) (r : R) (reaction : Reaction R),
    Radio.request now q r = .ok reaction → reaction.accepted = false → reaction.reports = []

theorem Station.reports_of_refused {now : Nat} {q : RadioRequest} {s : Station}
    {reaction : Reaction Station} (hr : s.request now q = .ok reaction)
    (hno : reaction.accepted = false) : reaction.reports = [] := by
  cases s with
  | absent =>
    cases hr
    rfl
  | recording =>
    cases hr
    rfl
  | simulated s =>
    simp only [request, Simulated.request] at hr
    split at hr
    · cases hr
      rfl
    · -- a simulated station that does not refuse everything accepts everything
      split at hr
      · rename_i chaos _ _
        cases hm : chaos.nextMishap with
        | error =>
          rw [hm] at hr
          cases hr
        | ok mishap =>
          rw [hm] at hr
          cases hr
          cases hno
      · cases hr
        cases hno

theorem Stations.reticent : Radio.Reticent Stations := by
  intro now q s reaction hr hno
  change (((s.get q.device).request now q).map fun r =>
    ({ accepted := r.accepted, reports := r.reports, next := s.set q.device r.next } :
      Reaction Stations)) = .ok reaction at hr
  cases hs : (s.get q.device).request now q with
  | error =>
    rw [hs] at hr
    cases hr
  | ok answer =>
    rw [hs] at hr
    cases hr
    exact Station.reports_of_refused hs hno

namespace TimerPool

/-- A timer that is granted has a valid handle. -/
theorem isValid_of_set {p q : TimerPool} {now : Nat} {s : TimerSpec} {x : TimerHandle}
    (hs : p.set now s = .ok (x, q)) : x.isValid = true := by
  unfold set at hs
  simp only at hs
  split at hs
  · cases hs
  split at hs
  · cases hs
  split at hs
  · cases hs
  split at hs
  · cases hs
  rename_i y wrapped hn
  obtain ⟨rfl, -⟩ := Prod.mk.inj (Except.ok.inj hs)
  unfold newHandle? at hn
  split at hn
  · obtain ⟨z, hf, he⟩ := Option.map_eq_some_iff.1 hn
    obtain ⟨rfl, -⟩ := Prod.mk.inj he
    exact (freeHandle?_eq_some hf).1
  · rename_i hw
    simp only [Bool.or_eq_true, Bool.not_eq_true', not_or, Bool.not_eq_false] at hw
    obtain ⟨rfl, -⟩ := Prod.mk.inj (Option.some.inj hn)
    exact hw.2

end TimerPool

namespace Hub

variable {A R α β : Type}

/-! ## What a refusal leaves -/

/-- More was logged, and nothing else has changed. -/
def Unmoved (h h' : Hub A R) : Prop := ∃ lines, h' = { h with log := lines ++ h.log }

theorem Unmoved.refl (h : Hub A R) : Unmoved h h := ⟨[], rfl⟩

theorem Unmoved.trans {h h₁ h' : Hub A R} (hu : Unmoved h h₁) (hu' : Unmoved h₁ h') :
    Unmoved h h' := by
  obtain ⟨lines, rfl⟩ := hu
  obtain ⟨lines', rfl⟩ := hu'
  exact ⟨lines' ++ lines, by rw [List.append_assoc]⟩

/-- Whenever memory was asked for, the gauge shows the heap as it is. -/
def regauged (c : Call) (h : Hub A R) : Hub A R :=
  match c with
  | .alloc _ => { h with
      metrics := h.metrics.map (·.setHeapBytes (min h.heap.totalBytes Metrics.gaugeMax)) }
  | _ => h

/-- What an error means for the step: nothing is claimed of a halt. -/
def anyHalt : Halt → Hub A R → Prop := fun _ _ => True

theorem ends_any (m : HubM A R α) (h : Hub A R) : Ends m h (fun _ _ => True) anyHalt := by
  unfold Ends
  split <;> trivial

/-- Whatever the first step leads to, the second one ends as it should. -/
theorem Ends.thereafter {m : HubM A R α} {f : α → HubM A R β} {h : Hub A R}
    {Q : β → Hub A R → Prop} (hf : ∀ a h', Ends (f a) h' Q anyHalt) :
    Ends (m >>= f) h Q anyHalt :=
  ends_bind.2 ((ends_any m h).mono (fun a h' _ => hf a h') fun _ _ he => he)

variable [Radio R]

/-- The radio was asked once and refused. What is new is the radio's own state, the entry in the
journal, the log, and in the queue what the radio reported together with its refusal. -/
def Declined (h : Hub A R) (q : RadioRequest) (h' : Hub A R) : Prop :=
  ∃ reaction queue lines, Radio.request h.now q h.radios = .ok reaction ∧
    reaction.accepted = false ∧
    (reaction.reports.map fun r => Task.deferred (.report r)).foldlM Queue.offer h.queue =
      .ok queue ∧
    h' = { h with
      radios := reaction.next
      journal := .requested q false :: h.journal
      queue
      log := lines ++ h.log }

theorem Declined.unmoved {h h₁ h' : Hub A R} {q : RadioRequest} (hd : Declined h q h₁)
    (hu : Unmoved h₁ h') : Declined h q h' := by
  obtain ⟨reaction, queue, lines, hr, hno, hq, rfl⟩ := hd
  obtain ⟨lines', rfl⟩ := hu
  exact ⟨reaction, queue, lines' ++ lines, hr, hno, hq, by rw [List.append_assoc]⟩

/-- How the refusals of an admission leave the hub, by the error they come with. -/
inductive Rebuffs (h : Hub A R) (name : RequestName) : RequestError → Hub A R → Prop
  | unasked {e : RequestError} {h' : Hub A R} (he : ∀ what, e ≠ .radioRejected what)
      (hu : Unmoved h h') : Rebuffs h name e h'
  | declined {what : String} {q : RadioRequest} {h' : Hub A R} (hq : q.name = name)
      (hd : Declined h q h') : Rebuffs h name (.radioRejected what) h'

/-- From `h`, an admission refuses only as `Rebuffs` says. -/
def RefusesWell (h : Hub A R) (name : RequestName) (m : HubM A R (Except RequestError Unit))
    (h₁ : Hub A R) : Prop :=
  Ends m h₁ (fun r h' => ∀ e, r = .error e → Rebuffs h name e h') anyHalt

section

variable {h h₁ : Hub A R} {name : RequestName}

theorem refusesWell_granted : RefusesWell h name (pure (.ok ())) h₁ := nofun

theorem refusesWell_unasked {e : RequestError} (he : ∀ what, e ≠ .radioRejected what)
    (hu : Unmoved h h₁) : RefusesWell h name (pure (.error e)) h₁ := by
  intro e' hr
  cases hr
  exact .unasked he hu

end

/-! ## Asking a radio -/

omit [Radio R] in
theorem deferReports_ends (reports : List Report) (h : Hub A R) :
    Ends (reports.forM fun r => deferOrDie (.report r)) h (fun _ h' => ∃ queue,
      (reports.map fun r => Task.deferred (.report r)).foldlM Queue.offer h.queue = .ok queue ∧
        h' = { h with queue }) anyHalt := by
  induction reports generalizing h with
  | nil => exact ⟨h.queue, rfl, rfl⟩
  | cons r reports ih =>
    refine ends_bind.2 ?_
    unfold deferOrDie defer
    rw [ends_bind, ends_bind, ends_get]
    split
    · rename_i queue hq
      refine (ih { h with queue }).mono (fun _ h' hP => ?_) fun _ _ he => he
      obtain ⟨queue', hrest, rfl⟩ := hP
      refine ⟨queue', ?_, rfl⟩
      rw [List.map_cons, List.foldlM_cons, hq]
      exact hrest
    · exact trivial

theorem requestRadio_refusing (q : RadioRequest) (h : Hub A R) :
    Ends (requestRadio q) h (fun b h' => b = false → Declined h q h') anyHalt := by
  unfold requestRadio
  rw [ends_bind, ends_get]
  split
  · exact trivial
  · rename_i reaction hr
    rw [ends_bind, ends_set, ends_bind]
    refine (deferReports_ends _ _).mono (fun _ h' hP hno => ?_) fun _ _ he => he
    obtain ⟨queue, hq, rfl⟩ := hP
    refine ⟨reaction, queue, [], hr, hno, hq, ?_⟩
    rw [hno]
    rfl

/-- The radio is asked last: what it does not refuse is granted. -/
theorem requestRadio_refusesWell {h : Hub A R} {name : RequestName} {q : RadioRequest}
    (hq : q.name = name) {what : String} {rest : HubM A R (Except RequestError Unit)}
    (hrest : ∀ h₁, RefusesWell h name rest h₁) :
    RefusesWell h name (do
      if !(← requestRadio q) then return .error (.radioRejected what)
      rest) h := by
  refine ends_bind.2 ((requestRadio_refusing q h).mono (fun b h₁ hb => ?_) fun _ _ he => he)
  cases b with
  | true => exact hrest h₁
  | false =>
    intro e hr
    cases hr
    exact .declined hq (hb rfl)

/-! ## The managers -/

theorem configureMonitor_refusesWell (id : InstanceId) (enable : Bool) (cookie : Cookie)
    (h : Hub A R) : RefusesWell h .monitor (configureMonitor id enable cookie) h := by
  unfold configureMonitor RefusesWell
  rw [ends_bind, wifiCapabilities_ends, ends_ite]
  split
  · exact refusesWell_unasked nofun (.refl h)
  rw [ends_bind, ends_get, ends_ite]
  split
  · exact refusesWell_unasked nofun (.refl h)
  rw [ends_ite]
  split
  · exact .thereafter fun _ _ => .thereafter fun _ _ => refusesWell_granted
  · exact requestRadio_refusesWell rfl fun _ => .thereafter fun _ _ => refusesWell_granted

theorem requestScan_refusesWell (id : InstanceId) (params : ScanParams) (cookie : Cookie)
    (h : Hub A R) : RefusesWell h .scan (requestScan id params cookie) h := by
  unfold requestScan RefusesWell
  rw [ends_bind, wifiCapabilities_ends, ends_ite]
  split
  · exact refusesWell_unasked nofun (.refl h)
  rw [ends_bind, ends_get, ends_ite]
  split
  · exact refusesWell_unasked nofun ⟨[_], rfl⟩
  rw [ends_ite]
  split
  · exact refusesWell_unasked nofun (.refl h)
  · refine requestRadio_refusesWell rfl fun _ => .thereafter fun _ _ => .thereafter fun _ _ => ?_
    exact .thereafter fun _ _ => .thereafter fun _ _ => .thereafter fun _ _ => refusesWell_granted

theorem requestRanging_refusesWell (id : InstanceId) (targets : List Bssid) (cookie : Cookie)
    (h : Hub A R) : RefusesWell h .ranging (requestRanging id targets cookie) h := by
  unfold requestRanging RefusesWell
  rw [ends_bind, wifiCapabilities_ends, ends_ite]
  split
  · exact refusesWell_unasked nofun (.refl h)
  rw [ends_bind, ends_get, ends_ite]
  split
  · exact refusesWell_unasked nofun (.refl h)
  rw [ends_ite]
  split
  · exact refusesWell_unasked nofun (.refl h)
  · refine requestRadio_refusesWell rfl fun _ => .thereafter fun _ _ => .thereafter fun _ _ => ?_
    exact .thereafter fun _ _ => .thereafter fun _ _ => .thereafter fun _ _ => refusesWell_granted

theorem requestCellInfo_refusesWell (id : InstanceId) (cookie : Cookie) (h : Hub A R) :
    RefusesWell h .cell (requestCellInfo id cookie) h := by
  unfold requestCellInfo RefusesWell
  rw [ends_bind, wwanCapabilities_ends, ends_ite]
  split
  · exact refusesWell_unasked nofun (.refl h)
  rw [ends_bind, ends_get, ends_ite]
  split
  · exact refusesWell_unasked nofun ⟨[_], rfl⟩
  · refine requestRadio_refusesWell rfl fun _ => .thereafter fun _ _ => .thereafter fun _ _ => ?_
    exact .thereafter fun _ _ => .thereafter fun _ _ => .thereafter fun _ _ => refusesWell_granted

/-- The kind of request that sets a session. -/
def sessionRequest (k : SessionKind) : RequestName :=
  match k with
  | .location => .location
  | .measurement => .measurement

theorem controlSession_refusesWell (k : SessionKind) (id : InstanceId)
    (request : Option SessionRequest) (cookie : Cookie) (h : Hub A R) :
    RefusesWell h (sessionRequest k) (controlSession k id request cookie) h := by
  unfold controlSession RefusesWell
  rw [ends_bind, gnssCapabilities_ends, ends_ite]
  split
  · exact refusesWell_unasked nofun (.refl h)
  rw [ends_bind, getSession_ends, ends_ite]
  split
  · exact refusesWell_unasked nofun ⟨[_], rfl⟩
  rw [ends_ite]
  split
  · exact .thereafter fun _ _ => .thereafter fun _ _ => refusesWell_granted
  · refine requestRadio_refusesWell (by cases k <;> rfl) fun _ => ?_
    exact .thereafter fun _ _ => refusesWell_granted

/-! ## Calls -/

/-- What `refused_changes_nothing` says of a call that comes to a request of the radios. -/
def LeavesBe (h : Hub A R) (name : RequestName) (granted : Bool) (h' : Hub A R) : Prop :=
  granted = false → Unmoved h h' ∨ ∃ q, q.name = name ∧ Declined h q h'

theorem askFor_leavesBe {h : Hub A R} {name : RequestName}
    {ask : HubM A R (Except RequestError Unit)} (hask : RefusesWell h name ask h)
    (id : InstanceId) (p : Permission) (request : String) :
    Ends (askFor id p request ask) h (LeavesBe h name) anyHalt := by
  unfold askFor permitted
  rw [ends_bind, ends_bind, ends_get]
  split
  · exact fun _ => .inl (.refl h)
  rw [ends_ite]
  split
  · refine ends_bind.2 (Ends.mono hask (fun r h₁ hr => ?_) fun _ _ he => he)
    cases r with
    | ok => exact nofun
    | error e =>
      intro _
      cases hr e rfl with
      | unasked _ hu => exact .inl (hu.trans ⟨[_], rfl⟩)
      | declined hq hd => exact .inr ⟨_, hq, hd.unmoved ⟨[_], rfl⟩⟩
  · exact fun _ => .inl ⟨[_], rfl⟩

omit [Radio R] in
theorem setNanoappTimer_spares (owner : InstanceId) (duration : Nat) (cookie : Cookie)
    (oneShot : Bool) (h : Hub A R) : Ends (setNanoappTimer owner duration cookie oneShot) h
      (fun x h' => x = .invalid → Unmoved h h') anyHalt := by
  unfold setNanoappTimer trySetTimer
  rw [ends_bind, ends_bind, ends_get]
  split
  · exact fun _ => ⟨[_], rfl⟩
  · rename_i x pool hs
    intro hx
    have hvalid := TimerPool.isValid_of_set hs
    rw [show x = .invalid from hx] at hvalid
    cases hvalid

omit [Radio R] in
theorem alloc_spares (id : InstanceId) (bytes : Nat) (h : Hub A R) :
    Ends (do
      let ptr ← heapAlloc id bytes
      updateHeapGauge
      return ptr) h (fun ptr h' => ptr = none → Unmoved (regauged (.alloc bytes) h) h')
      anyHalt := by
  unfold heapAlloc
  rw [ends_bind, ends_bind, ends_get]
  split
  · exact nofun
  · exact fun _ => ⟨[_], rfl⟩

/-- A refusal changes nothing of the hub. Either no radio was asked, and all that is new is in the
log, or the radio was asked once and it was the radio that refused; and unless the radio reports
something with its refusal the queue is the same too. -/
theorem refused_changes_nothing {id : InstanceId} {c : Call} {h h' : Hub A R} {reply : c.Reply}
    (hc : c.isRequest = true) (hrun : perform id c h = .ok reply h') (hno : c.Refused reply) :
    (Unmoved (regauged c h) h' ∨ ∃ q, c.requestName? = some q.name ∧ Declined h q h') ∧
      (Radio.Reticent R → h'.queue = h.queue) := by
  have hradio {name : RequestName} {p : Permission} {request : String}
      {ask : HubM A R (Except RequestError Unit)} {granted : Bool}
      (hask : RefusesWell h name ask h) (hr : askFor id p request ask h = .ok granted h')
      (hno : some granted = some false) : Unmoved h h' ∨ ∃ q, some name = some q.name ∧
        Declined h q h' := by
    refine ((askFor_leavesBe hask id p request).ok hr (Option.some.inj hno)).imp_right ?_
    rintro ⟨q, hq, hd⟩
    exact ⟨q, congrArg some hq.symm, hd⟩
  have hmain : Unmoved (regauged c h) h' ∨
      ∃ q, c.requestName? = some q.name ∧ Declined h q h' := by
    cases c with
    | setTimer => exact .inl ((setNanoappTimer_spares _ _ _ _ h).ok hrun hno)
    | alloc bytes => exact .inl ((alloc_spares id bytes h).ok hrun hno)
    | scanMonitor => exact hradio (configureMonitor_refusesWell _ _ _ h) hrun hno
    | scan => exact hradio (requestScan_refusesWell _ _ _ h) hrun hno
    | ranging => exact hradio (requestRanging_refusesWell _ _ _ h) hrun hno
    | cellInfo => exact hradio (requestCellInfo_refusesWell _ _ h) hrun hno
    | location => exact hradio (controlSession_refusesWell .location _ _ _ h) hrun hno
    | stopLocation => exact hradio (controlSession_refusesWell .location _ _ _ h) hrun hno
    | measurement => exact hradio (controlSession_refusesWell .measurement _ _ _ h) hrun hno
    | stopMeasurement => exact hradio (controlSession_refusesWell .measurement _ _ _ h) hrun hno
    | _ => cases hc
  refine ⟨hmain, fun hR => ?_⟩
  rcases hmain with ⟨lines, rfl⟩ | ⟨q, -, reaction, queue, lines, hr, hno', hq, rfl⟩
  · cases c <;> rfl
  · rw [hR _ _ _ _ hr hno'] at hq
    exact (Except.ok.inj hq).symm

/-- Stations whose scans are refused. -/
def unwilling : Stations := { Stations.scripted with wifi := .recording true 15 [.scan] true }

/-- A radio that is asked for a scan and refuses leaves the queue as it was. -/
theorem refused_scan_leaves_queue : ∃ h h' : Hub Script Stations, Reached {} h ∧
    perform ⟨1⟩ (.scan {} ⟨7⟩) h = .ok false h' ∧ h'.journal ≠ h.journal ∧
      (∃ q, q.name = .scan ∧ Declined h q h') ∧ h'.queue = h.queue := by
  obtain ⟨h, hh, hscan⟩ := reached_of_ends (A := Script) {} 0 unwilling none
    [.load ⟨1⟩ { wifi := true } {}]
    (P := fun h => Ends (execute ⟨1⟩ (.call (.scan {} ⟨7⟩) fun granted : Bool => .done granted)) h
      (fun granted h' => granted = false ∧ h'.journal.length = h.journal.length + 1)
      (fun _ _ => False)) (by decide +kernel)
  obtain ⟨_, h', hrun, rfl, hlen⟩ := (ends_bind.1 hscan).exists_ok
  obtain ⟨hmain, hqueue⟩ := refused_changes_nothing (c := .scan {} ⟨7⟩) rfl hrun rfl
  have hasked : h'.journal ≠ h.journal := by
    intro he
    rw [he] at hlen
    omega
  refine ⟨h, h', hh, hrun, hasked, ?_, hqueue Stations.reticent⟩
  rcases hmain with ⟨lines, rfl⟩ | ⟨q, hq, hd⟩
  · exact absurd rfl hasked
  · exact ⟨q, (Option.some.inj hq).symm, hd⟩

end Hub

end ContextHub
