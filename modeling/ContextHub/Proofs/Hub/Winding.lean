import ContextHub.Proofs.Hub.Desks
/-!
# Desks where nobody wants anything of a radio

When all nanoapps have left, nobody wants anything of a radio (`Desks.Shut`), but a change that it
works on may still be in flight, and it may still be on. From there on, and as long as calls do not
bring up new wishes, the desks ask the radio for nothing but to switch off, and a radio that is `at
Rest` for nothing at all (`Winds`).
-/

namespace ContextHub

/-- Whether the radio is asked to switch something off. -/
def RadioRequest.isSwitchOff : RadioRequest → Bool
  | scanMonitor enable => !enable
  | location enable _ _ => !enable
  | measurement enable _ => !enable
  | _ => false

def Effect.request? : Effect → Option RadioRequest
  | asked q _ => some q
  | _ => none

/-- What radios are asked for. -/
def asks (fx : List Effect) : List RadioRequest := fx.filterMap Effect.request?

@[simp] theorem asks_nil : asks [] = [] := rfl

@[simp] theorem asks_cons (x : Effect) (fx : List Effect) :
    asks (x :: fx) = x.request?.toList ++ asks fx := by
  cases h : x.request? <;> simp [asks, h]

@[simp] theorem asks_append (fx fx' : List Effect) : asks (fx ++ fx') = asks fx ++ asks fx' :=
  List.filterMap_append

@[simp] theorem Effect.request?_posted (e : Event) : (posted e).request? = none := rfl

@[simp] theorem Effect.request?_asked (q : RadioRequest) (accepted : Bool) :
    (asked q accepted).request? = some q := rfl

@[simp] theorem Effect.request?_subscription (on : Bool) (id : InstanceId) (type : EventType) :
    (subscription on id type).request? = none := by cases on <;> rfl

/-- Which radio a call asks for something. -/
def Call.device? : Call → Option Device
  | .scanMonitor _ _ => some .wifi
  | .scan _ _ => some .wifi
  | .ranging _ _ => some .wifi
  | .cellInfo _ => some .wwan
  | .location _ _ _ => some .gnss
  | .stopLocation _ => some .gnss
  | .measurement _ _ => some .gnss
  | .stopMeasurement _ => some .gnss
  | _ => none

theorem Call.device?_of_session? {id : InstanceId} {c : Call} {k : SessionKind}
    {request : Option SessionRequest} {cookie : Cookie}
    (hc : c.session? id = some (k, request, cookie)) : c.device? = some .gnss := by
  cases c <;> first | rfl | cases hc

theorem SessionKind.request_device (k : SessionKind) (s : SessionSetting) :
    (k.request s).device = .gnss := by cases k <;> rfl

theorem SessionKind.isSwitchOff_request (k : SessionKind) : (k.request {}).isSwitchOff = true := by
  cases k <;> rfl

namespace Desks

/-- Nobody wants anything of the radio; a change may be in flight on the hub's own account. -/
def Shut (d : Desks) : Device → Prop
  | .wifi => d.monitors = [] ∧ (∀ p ∈ d.monitor, p.requester = none) ∧ d.scan = none ∧
      d.ranging = none
  | .wwan => d.cell = none
  | .gnss => ∀ k, (d.session k).requests = [] ∧ ∀ p ∈ (d.session k).slot, p.requester = none

/-- The radio is known to be off, and it works on no change. -/
def Rest (d : Desks) : Device → Prop
  | .wifi => d.monitor = none ∧ d.monitorEnabled = false
  | .wwan => True
  | .gnss => ∀ k, (d.session k).slot = none ∧ (d.session k).confirmed = {}

/-- What is in flight for one answer is in flight for a nanoapp. -/
structure Owned (d : Desks) : Prop where
  scan : ∀ p ∈ d.scan, p.requester.isSome = true
  ranging : ∀ p ∈ d.ranging, p.requester.isSome = true
  cell : ∀ p ∈ d.cell, p.requester.isSome = true

/-- The desks have the same to do with the radio. -/
def SameAt (d d' : Desks) : Device → Prop
  | .wifi => d'.monitors = d.monitors ∧ d'.monitor = d.monitor ∧
      d'.monitorEnabled = d.monitorEnabled ∧ d'.scan = d.scan ∧ d'.ranging = d.ranging
  | .wwan => d'.cell = d.cell
  | .gnss => d'.session = d.session

/-- Nothing is wanted of the radio afterwards. At most it was asked to switch off, and if it was at
rest it was left alone. -/
structure Winds (dev : Device) (d : Desks) (qs : List RadioRequest) (d' : Desks) : Prop where
  shut : d'.Shut dev
  off : ∀ q ∈ qs, q.device = dev → q.isSwitchOff = true
  rest : d.Rest dev → d'.Rest dev ∧ ∀ q ∈ qs, q.device ≠ dev

variable {d d' d₁ : Desks} {fx fx' : List Effect} {dev : Device} {qs qs' : List RadioRequest}

theorem SameAt.shut (hs : d.SameAt d' dev) (hd : d.Shut dev) : d'.Shut dev := by
  cases dev with
  | wifi =>
    obtain ⟨hmonitors, hmonitor, -, hscan, hranging⟩ := hs
    rwa [Shut, hmonitors, hmonitor, hscan, hranging]
  | wwan => exact Eq.trans hs hd
  | gnss =>
    have hs : d'.session = d.session := hs
    rwa [Shut, hs]

theorem SameAt.trans (hs : d.SameAt d₁ dev) (hs' : d₁.SameAt d' dev) : d.SameAt d' dev := by
  cases dev with
  | wifi =>
    obtain ⟨h₁, h₂, h₃, h₄, h₅⟩ := hs
    obtain ⟨h₁', h₂', h₃', h₄', h₅'⟩ := hs'
    exact ⟨h₁'.trans h₁, h₂'.trans h₂, h₃'.trans h₃, h₄'.trans h₄, h₅'.trans h₅⟩
  | wwan => exact Eq.trans hs' hs
  | gnss => exact Eq.trans hs' hs

theorem SameAt.rest (hs : d.SameAt d' dev) (hd : d.Rest dev) : d'.Rest dev := by
  cases dev with
  | wifi =>
    obtain ⟨-, hmonitor, henabled, -, -⟩ := hs
    rwa [Rest, hmonitor, henabled]
  | wwan => trivial
  | gnss =>
    have hs : d'.session = d.session := hs
    rwa [Rest, hs]

namespace Winds

theorem of_same (hs : d.SameAt d' dev) (hq : ∀ q ∈ qs, q.device ≠ dev) (hd : d.Shut dev) :
    Winds dev d qs d' :=
  ⟨hs.shut hd, fun q hm he => absurd he (hq q hm), fun hr => ⟨hs.rest hr, hq⟩⟩

theorem refl (hd : d.Shut dev) (hq : ∀ q ∈ qs, q.device ≠ dev) : Winds dev d qs d := by
  refine of_same ?_ hq hd
  cases dev with
  | wifi => exact ⟨rfl, rfl, rfl, rfl, rfl⟩
  | wwan => rfl
  | gnss => rfl

theorem trans (hw : Winds dev d qs d₁) (hw' : Winds dev d₁ qs' d') :
    Winds dev d (qs ++ qs') d' where
  shut := hw'.shut
  off := List.forall_mem_append.2 ⟨hw.off, hw'.off⟩
  rest hd :=
    have ⟨hd₁, hq⟩ := hw.rest hd
    have ⟨hd', hq'⟩ := hw'.rest hd₁
    ⟨hd', List.forall_mem_append.2 ⟨hq, hq'⟩⟩

/-- What is asked matters, but not in which order. -/
theorem congr (hw : Winds dev d qs d') (hq : ∀ q, q ∈ qs' → q ∈ qs) : Winds dev d qs' d' where
  shut := hw.shut
  off q hm := hw.off q (hq q hm)
  rest hd := have ⟨hd', hqs⟩ := hw.rest hd; ⟨hd', fun q hm => hqs q (hq q hm)⟩

end Winds

/-! ## Realigning -/

/-- The radio that is asked again is asked to switch off. -/
theorem MonitorRealigned.winds (hr : MonitorRealigned d fx d') (hd : d.Shut .wifi) :
    Winds .wifi d (asks fx) d' := by
  have hshut := hd
  obtain ⟨hmonitors, -, hscan, hranging⟩ := hd
  cases hr with
  | kept => exact .refl hshut (by simp)
  | refused _ htarget hne =>
    rw [hmonitors] at htarget
    subst htarget
    exact ⟨hshut, by simp [RadioRequest.isSwitchOff], fun hrest => absurd hrest.2.symm hne⟩
  | awaited _ htarget hne hp =>
    rw [hmonitors] at htarget
    rw [htarget] at hne
    refine ⟨⟨hmonitors, by simpa using hp, hscan, hranging⟩, ?_, fun hrest => ?_⟩
    · simp [htarget, RadioRequest.isSwitchOff]
    · exact absurd hrest.2.symm hne

theorem shut_setSession {k : SessionKind} {s : Session} (hd : d.Shut .gnss) (hs : s.requests = [])
    (hslot : ∀ p ∈ s.slot, p.requester = none) : (d.setSession k s).Shut .gnss := by
  intro k'
  by_cases hk : k' = k
  · subst hk
    rw [session_setSession]
    exact ⟨hs, hslot⟩
  · rw [session_setSession_of_ne hk]
    exact hd k'

theorem SessionRealigned.winds {k : SessionKind} (hr : SessionRealigned k d fx d')
    (hd : d.Shut .gnss) : Winds .gnss d (asks fx) d' := by
  have hnone : SessionSetting.aggregate (d.session k).requests = {} := by rw [(hd k).1]; rfl
  cases hr with
  | kept => exact .refl hd (by simp)
  | refused _ htarget hne =>
    rw [hnone] at htarget
    subst htarget
    exact ⟨hd, by simp [k.isSwitchOff_request], fun hrest => absurd (hrest k).2.symm hne⟩
  | awaited _ htarget hne hp =>
    rw [hnone] at htarget
    rw [htarget] at hne
    refine ⟨shut_setSession hd (hd k).1 (by simpa using hp), ?_, fun hrest => ?_⟩
    · simp [htarget, k.isSwitchOff_request]
    · exact absurd (hrest k).2.symm hne

/-! ## The rules -/

theorem asks_answered {κ : Type} {p : Pending κ} {answer : InstanceId → List Effect}
    (ha : ∀ id, asks (answer id) = []) : asks (p.answered answer) = [] := by
  unfold Pending.answered
  cases p.requester with
  | none => rfl
  | some id => exact ha id

theorem asks_monitorOutcome (p : Pending MonitorChange) (result : ErrorCode) :
    asks (monitorOutcome p result) = [] :=
  asks_answered fun id => by split <;> simp

theorem asks_sessionOutcome (k : SessionKind) (p : Pending SessionChange) (result : ErrorCode) :
    asks (sessionOutcome k p result) = [] :=
  asks_answered fun id => by split <;> simp

variable {m : Move}

/-- A change that nobody made is settled. -/
theorem MonitorRule.winds (hr : MonitorRule m d fx d') (hd : d.Shut .wifi)
    (hm : ∀ id c, m = .called id c → c.device? ≠ some .wifi) : Winds .wifi d (asks fx) d' := by
  cases hr with
  | entered | refused | awaited => exact absurd rfl (hm _ _ rfl)
  | @settled d d' p enabled raw code fx hs hcode hr =>
    obtain ⟨hmonitors, hmonitor, hscan, hranging⟩ := hd
    have hp : p.requester = none := hmonitor p hs
    have hsettled : (d.settleMonitor p enabled code).Shut .wifi := by
      rw [settleMonitor, grantMonitor, hp]
      exact ⟨hmonitors, by simp, hscan, hranging⟩
    have hw := hr.winds hsettled
    rw [asks_append, asks_monitorOutcome, List.nil_append]
    refine ⟨hw.shut, hw.off, fun hrest => ?_⟩
    rw [hrest.1] at hs
    cases hs

/-- Nothing is in flight for an answer. -/
theorem ScanRule.winds (hr : ScanRule m d fx d') (hd : d.Shut .wifi)
    (hm : ∀ id c, m = .called id c → c.device? ≠ some .wifi) : Winds .wifi d (asks fx) d' := by
  cases hr with
  | refused | awaited => exact absurd rfl (hm _ _ rfl)
  | served _ hs =>
    rw [hd.2.2.1] at hs
    cases hs
  | shared _ hposted =>
    refine .refl hd fun q hq => ?_
    obtain ⟨x, hx, hq⟩ := List.mem_filterMap.1 hq
    obtain ⟨e, rfl⟩ := hposted x hx
    cases hq

theorem RangingRule.winds (hr : RangingRule m d fx d') (hd : d.Shut .wifi)
    (hm : ∀ id c, m = .called id c → c.device? ≠ some .wifi) : Winds .wifi d (asks fx) d' := by
  cases hr with
  | refused | awaited => exact absurd rfl (hm _ _ rfl)
  | answered hs | timedOut hs =>
    rw [hd.2.2.2] at hs
    cases hs

theorem CellRule.winds (hr : CellRule m d fx d') (hd : d.Shut .wwan)
    (hm : ∀ id c, m = .called id c → c.device? ≠ some .wwan) : Winds .wwan d (asks fx) d' := by
  cases hr with
  | refused | awaited => exact absurd rfl (hm _ _ rfl)
  | answered hs | timedOut hs =>
    rw [show d.cell = none from hd] at hs
    cases hs

theorem SessionRule.winds {k : SessionKind} (hr : SessionRule k m d fx d') (hd : d.Shut .gnss)
    (hm : ∀ id c, m = .called id c → c.device? ≠ some .gnss) : Winds .gnss d (asks fx) d' := by
  cases hr with
  | entered hc | refused hc | awaited hc => exact absurd (Call.device?_of_session? hc) (hm _ _ rfl)
  | @settled d d' p enabled raw code fx hs hcode hr =>
    have hp : p.requester = none := (hd k).2 p hs
    have hsettled : (d.setSession k ((d.session k).settle p code)).Shut .gnss := by
      rw [Session.settle, Session.grant, hp]
      exact shut_setSession hd (hd k).1 (by simp)
    have hw := hr.winds hsettled
    rw [asks_append, asks_sessionOutcome, List.nil_append]
    refine ⟨hw.shut, hw.off, fun hrest => ?_⟩
    rw [(hrest k).1] at hs
    cases hs
  | @timedOut d p hs =>
    rw [asks_answered fun id => by simp]
    refine ⟨shut_setSession hd (hd k).1 (by simp), by simp, fun hrest => ?_⟩
    rw [(hrest k).1] at hs
    cases hs
  | shared => exact .refl hd (by simp)

/-! ### Other radios -/

/-- What is done at desks of one radio is not done at those of another. -/
structure About (own : Device) (d : Desks) (fx : List Effect) (d' : Desks) : Prop where
  same : ∀ dev ≠ own, d.SameAt d' dev
  radio : ∀ q ∈ asks fx, q.device = own

namespace About

variable {own : Device}

/-- Other radios are left alone, so it is enough to look at this one. -/
theorem winds (ha : About own d fx d') (hd : d.Shut dev)
    (hown : dev = own → Winds dev d (asks fx) d') : Winds dev d (asks fx) d' := by
  by_cases hdev : dev = own
  · exact hown hdev
  · exact .of_same (ha.same dev hdev) (fun q hq he => hdev (he.symm.trans (ha.radio q hq))) hd

theorem trans (ha : About own d fx d₁) (ha' : About own d₁ fx' d') :
    About own d (fx ++ fx') d' where
  same dev hdev := (ha.same dev hdev).trans (ha'.same dev hdev)
  radio := by
    rw [asks_append]
    exact List.forall_mem_append.2 ⟨ha.radio, ha'.radio⟩

theorem of_wifi (hcell : d'.cell = d.cell) (hsession : d'.session = d.session)
    (ha : ∀ q ∈ asks fx, q.device = .wifi) : About .wifi d fx d' where
  same dev hdev := by
    cases dev with
    | wifi => exact absurd rfl hdev
    | wwan => exact hcell
    | gnss => exact hsession
  radio := ha

theorem of_wwan {cell : Slot Unit} (ha : ∀ q ∈ asks fx, q.device = .wwan) :
    About .wwan d fx { d with cell } where
  same dev hdev := by
    cases dev with
    | wifi => exact ⟨rfl, rfl, rfl, rfl, rfl⟩
    | wwan => exact absurd rfl hdev
    | gnss => rfl
  radio := ha

theorem of_gnss {session : SessionKind → Session} (ha : ∀ q ∈ asks fx, q.device = .gnss) :
    About .gnss d fx { d with session } where
  same dev hdev := by
    cases dev with
    | wifi => exact ⟨rfl, rfl, rfl, rfl, rfl⟩
    | wwan => rfl
    | gnss => exact absurd rfl hdev
  radio := ha

end About

theorem MonitorRealigned.about (hr : MonitorRealigned d fx d') : About .wifi d fx d' := by
  cases hr <;> exact .of_wifi rfl rfl (by simp [RadioRequest.device])

theorem SessionRealigned.about {k : SessionKind} (hr : SessionRealigned k d fx d') :
    About .gnss d fx d' := by
  cases hr <;> exact .of_gnss (by simp [SessionKind.request_device])

theorem settleMonitor_about (d : Desks) (p : Pending MonitorChange) (enabled : Bool)
    (code : ErrorCode) (result : ErrorCode) :
    About .wifi d (monitorOutcome p result) (d.settleMonitor p enabled code) := by
  have ha : ∀ q ∈ asks (monitorOutcome p result), q.device = .wifi := by
    simp [asks_monitorOutcome]
  unfold settleMonitor grantMonitor
  split
  · exact .of_wifi rfl rfl ha
  · split <;> exact .of_wifi rfl rfl ha

theorem MonitorRule.about (hr : MonitorRule m d fx d') : About .wifi d fx d' := by
  cases hr with
  | entered => exact .of_wifi rfl rfl (by simp)
  | refused | awaited => exact .of_wifi rfl rfl (by simp [RadioRequest.device])
  | settled _ _ hr => exact (d.settleMonitor_about _ _ _ _).trans hr.about

theorem ScanRule.about (hr : ScanRule m d fx d') : About .wifi d fx d' := by
  have hasked {requester : Option InstanceId} (hfx : ∀ x ∈ fx, ScanEffect requester x) :
      ∀ q ∈ asks fx, q.device = .wifi := by
    intro q hq
    obtain ⟨x, hx, hq⟩ := List.mem_filterMap.1 hq
    cases hfx x hx <;> cases hq
    rfl
  cases hr with
  | refused | awaited => exact .of_wifi rfl rfl (by simp [RadioRequest.device])
  | served _ _ _ hfx => exact .of_wifi rfl rfl (hasked hfx)
  | shared hfx => exact .of_wifi rfl rfl (hasked hfx)

theorem RangingRule.about (hr : RangingRule m d fx d') : About .wifi d fx d' := by
  cases hr with
  | refused | awaited => exact .of_wifi rfl rfl (by simp [RadioRequest.device])
  | answered => exact .of_wifi rfl rfl (by rw [asks_answered fun id => by split <;> simp]; simp)
  | timedOut => exact .of_wifi rfl rfl (by rw [asks_answered fun id => by simp]; simp)

theorem CellRule.about (hr : CellRule m d fx d') : About .wwan d fx d' := by
  cases hr with
  | refused | awaited => exact .of_wwan (by simp [RadioRequest.device])
  | answered | timedOut => exact .of_wwan (by rw [asks_answered fun id => by simp]; simp)

theorem SessionRule.about {k : SessionKind} (hr : SessionRule k m d fx d') :
    About .gnss d fx d' := by
  cases hr with
  | entered | shared => exact .of_gnss (by simp)
  | refused | awaited => exact .of_gnss (by simp [SessionKind.request_device])
  | settled _ _ hr =>
    refine About.trans (.of_gnss ?_) hr.about
    simp [asks_sessionOutcome]
  | timedOut => exact .of_gnss (by rw [asks_answered fun id => by simp]; simp)

/-- At desks where nobody wants anything of the radio, moves wind up what is left, as long as no
call asks it for something. -/
theorem DeskRule.winds (hr : DeskRule m d fx d') (hd : d.Shut dev)
    (hm : ∀ id c, m = .called id c → c.device? ≠ some dev) : Winds dev d (asks fx) d' := by
  cases hr with
  | idle => exact .refl hd (by simp)
  | subscribed | unsubscribed => exact .refl hd (by simp [Effect.request?])
  | monitor hr => exact hr.about.winds hd fun he => by subst he; exact hr.winds hd hm
  | scan hr => exact hr.about.winds hd fun he => by subst he; exact hr.winds hd hm
  | ranging hr => exact hr.about.winds hd fun he => by subst he; exact hr.winds hd hm
  | cell hr => exact hr.about.winds hd fun he => by subst he; exact hr.winds hd hm
  | session k hr => exact hr.about.winds hd fun he => by subst he; exact hr.winds hd hm

/-! ### Leaving -/

theorem map_of_unrequested {κ : Type} {s : Slot κ} {f : Pending κ → Pending κ}
    (hs : ∀ p ∈ s, p.requester = none) (hf : ∀ p, p.requester = none → f p = p) :
    s.map f = s := by
  cases s with
  | none => rfl
  | some p => exact congrArg some (hf p (hs p rfl))

theorem forgetWifi_winds (hd : d.Shut dev) (id : InstanceId) :
    Winds dev d [] (d.forgetWifi id) := by
  have hself : About .wifi d [] (d.forgetWifi id) := .of_wifi rfl rfl (by simp)
  refine hself.winds hd fun he => ?_
  subst he
  obtain ⟨hmonitors, hmonitor, hscan, hranging⟩ := hd
  have hkept : (d.forgetMonitor id).monitor = d.monitor :=
    map_of_unrequested hmonitor fun p hp => if_neg (by simp [hp])
  refine .of_same ⟨?_, hkept, rfl, ?_, ?_⟩ (by simp) ⟨hmonitors, hmonitor, hscan, hranging⟩
  · exact (congrArg (List.filter (· != id)) hmonitors).trans hmonitors.symm
  · exact (congrArg (Slot.without · id) hscan).trans hscan.symm
  · exact (congrArg (Slot.without · id) hranging).trans hranging.symm

theorem forgetCell_winds (hd : d.Shut dev) (id : InstanceId) :
    Winds dev d [] (d.forgetCell id) := by
  have hself : About .wwan d [] (d.forgetCell id) := .of_wwan (by simp)
  refine hself.winds hd fun he => ?_
  subst he
  refine .of_same ?_ (by simp) hd
  have hcell : d.cell = none := hd
  exact (congrArg (Slot.without · id) hcell).trans hcell.symm

theorem forgetSession_winds (hd : d.Shut dev) (k : SessionKind) (id : InstanceId) :
    Winds dev d [] (d.forgetSession k id) := by
  have hself : About .gnss d [] (d.forgetSession k id) := .of_gnss (by simp)
  refine hself.winds hd fun he => ?_
  subst he
  obtain ⟨hrequests, hslot⟩ := hd k
  have hkept : (d.session k).forget id = d.session k := by
    rw [Session.forget, map_of_unrequested hslot fun p hp => if_neg (by simp [hp]), Session.others,
      hrequests]
    exact congrArg (fun l => { d.session k with requests := l }) hrequests.symm
  rw [forgetSession, hkept, setSession_eq_self]
  exact .refl hd (by simp)

/-- So does a nanoapp that leaves. -/
theorem Leaves.winds {id : InstanceId} (hl : d.Leaves id fx d') (hd : d.Shut dev) :
    Winds dev d (asks fx) d' := by
  obtain ⟨hw, hl, hm⟩ := hl
  have h₁ := forgetWifi_winds hd id
  have h₂ := h₁.trans (hw.about.winds h₁.shut fun he => by subst he; exact hw.winds h₁.shut)
  have h₃ := h₂.trans (forgetCell_winds h₂.shut id)
  have h₄ := h₃.trans (forgetSession_winds h₃.shut .location id)
  have h₅ := h₄.trans (hl.about.winds h₄.shut fun he => by subst he; exact hl.winds h₄.shut)
  have h₆ := h₅.trans (forgetSession_winds h₅.shut .measurement id)
  have h₇ := h₆.trans (hm.about.winds h₆.shut fun he => by subst he; exact hm.winds h₆.shut)
  exact h₇.congr (by simp)

/-! ## Who awaits answers -/

theorem isSome_of_without {κ : Type} {s : Slot κ} {id : InstanceId}
    (hs : ∀ p ∈ s, p.requester.isSome = true) : ∀ p ∈ s.without id, p.requester.isSome = true :=
  fun p hp => hs p (Option.filter_eq_some_iff.1 hp).1

theorem MonitorRule.kept (hr : MonitorRule m d fx d') :
    d'.scan = d.scan ∧ d'.ranging = d.ranging := by
  cases hr with
  | entered | refused | awaited => exact ⟨rfl, rfl⟩
  | settled _ _ hr =>
    obtain ⟨⟨s, rfl, -⟩, -⟩ := hr.frame
    unfold settleMonitor grantMonitor
    split
    · exact ⟨rfl, rfl⟩
    · split <;> exact ⟨rfl, rfl⟩

theorem DeskRule.owned (hr : DeskRule m d fx d') (hd : d.Owned) : d'.Owned := by
  have hsome {κ : Type} {p : Pending κ} {id : InstanceId} (hp : p.requester = some id) :
      ∀ q ∈ some p, q.requester.isSome = true := by
    simp [hp]
  cases hr with
  | idle | subscribed | unsubscribed => exact hd
  | monitor hr =>
    obtain ⟨hscan, hranging⟩ := hr.kept
    have hcell : d'.cell = d.cell := hr.about.same .wwan (by decide)
    exact ⟨hscan ▸ hd.scan, hranging ▸ hd.ranging, hcell ▸ hd.cell⟩
  | scan hr =>
    cases hr with
    | refused | shared => exact hd
    | awaited _ hp => exact ⟨hsome hp, hd.ranging, hd.cell⟩
    | served _ hs hkept =>
      refine ⟨fun q hq => ?_, hd.ranging, hd.cell⟩
      obtain ⟨job, rfl⟩ := hkept q hq
      exact (hd.scan _ hs :)
  | ranging hr =>
    cases hr with
    | refused => exact hd
    | awaited _ hp => exact ⟨hd.scan, hsome hp, hd.cell⟩
    | answered | timedOut => exact ⟨hd.scan, by simp, hd.cell⟩
  | cell hr =>
    cases hr with
    | refused => exact hd
    | awaited _ hp => exact ⟨hd.scan, hd.ranging, hsome hp⟩
    | answered | timedOut => exact ⟨hd.scan, hd.ranging, by simp⟩
  | session k hr =>
    obtain ⟨-, -, -, hscan, hranging⟩ := hr.about.same .wifi (by decide)
    have hcell : d'.cell = d.cell := hr.about.same .wwan (by decide)
    exact ⟨hscan ▸ hd.scan, hranging ▸ hd.ranging, hcell ▸ hd.cell⟩

theorem Leaves.owned {id : InstanceId} (hl : d.Leaves id fx d') (hd : d.Owned) : d'.Owned := by
  have hf := hl.forgotten.1
  exact ⟨hf.scan ▸ isSome_of_without hd.scan, hf.ranging ▸ isSome_of_without hd.ranging,
    hf.cell ▸ isSome_of_without hd.cell⟩

end Desks

end ContextHub
