import ContextHub.Proofs.Hub.DeskWork
import ContextHub.Proofs.Hub.Workings
import ContextHub.Nanoapp.Script
import ContextHub.Radio.Station
/-!
# Scan monitoring

Who wants scans, what change the radio works on and what it last confirmed are changed by different
events: nanoapps ask, the radio reports, and nanoapps are unloaded at any time. From what passes
between the hub and the radio (`Dealing`) alone it follows whether a change is pending and what was
confirmed (`Standing`). In every `Monitored` hub this is what the hub itself believes; the radio was
asked only when nothing was pending, and for something else than what it had confirmed; and unless a
change is pending or the radio turned the last attempt down, it monitors if and only if somebody
wants it to. Every hub is monitored.
-/

namespace ContextHub

/-! ## Dealings with the radio -/

/-- What passes between a hub and its radio about scan monitoring. -/
inductive Dealing where
  /-- The radio is asked for a change, for a nanoapp or to reconcile it with the monitors. -/
  | asked (reconciles : Bool) (target accepted : Bool)
  | reported (enabled : Bool) (raw : Nat)
  deriving DecidableEq, Repr

namespace Dealing

def ask? : Dealing → Option (Bool × Bool)
  | asked _ target accepted => some (target, accepted)
  | reported _ _ => none

/-- Whether the radio accepted an attempt to reconcile it. -/
def attempt? : Dealing → Option Bool
  | asked true _ accepted => some accepted
  | _ => none

end Dealing

/-- Whether the radio works on a change, and what it confirmed last. -/
structure Standing where
  pending : Bool := false
  enabled : Bool := false
  deriving DecidableEq, Repr

namespace Standing

/-- A report says something only if a change is pending, and then it ends it. -/
def after (s : Standing) : Dealing → Standing
  | .asked _ _ accepted => { s with pending := s.pending || accepted }
  | .reported enabled raw =>
    if s.pending then ⟨false, if (Histogram.reading raw).isSuccess then enabled else s.enabled⟩
    else s

/-- The dealings are given latest first. -/
def through (s : Standing) (past : List Dealing) : Standing := past.foldr (fun d s => s.after d) s

/-- The radio may be asked if nothing is pending, for something else than what it confirmed. -/
def Admits (s : Standing) : Dealing → Prop
  | .asked _ target _ => s.pending = false ∧ target ≠ s.enabled
  | .reported _ _ => True

def AdmitsAll (s : Standing) : List Dealing → Prop
  | [] => True
  | d :: past => s.AdmitsAll past ∧ (s.through past).Admits d

theorem through_append (s : Standing) (l past : List Dealing) :
    s.through (l ++ past) = (s.through past).through l := List.foldr_append

theorem admitsAll_append {s : Standing} {l past : List Dealing} :
    s.AdmitsAll (l ++ past) ↔ s.AdmitsAll past ∧ (s.through past).AdmitsAll l := by
  induction l with
  | nil => exact (iff_of_eq (and_true _)).symm
  | cons d l ih =>
    rw [List.cons_append, AdmitsAll, AdmitsAll, ih, through_append, and_assoc]

end Standing

/-- What is done about scan monitoring. -/
inductive MonitorOp where
  | configure (id : InstanceId) (enable : Bool) (cookie : Cookie)
  | status (enabled : Bool) (raw : Nat)
  | unload (id : InstanceId)

namespace MonitorOp

def reconciles : MonitorOp → Bool
  | configure _ _ _ => false
  | _ => true

/-- What the radio tells. -/
def news : MonitorOp → List Dealing
  | status enabled raw => [.reported enabled raw]
  | _ => []

/-- What passes if the radio is asked for `asks`. -/
def dealings (op : MonitorOp) (asks : List (Bool × Bool)) : List Dealing :=
  asks.map (fun a => .asked op.reconciles a.1 a.2) ++ op.news

theorem filterMap_ask?_dealings (op : MonitorOp) (asks : List (Bool × Bool)) :
    (op.dealings asks).filterMap Dealing.ask? = asks := by
  have hnews : op.news.filterMap Dealing.ask? = [] := by cases op <;> rfl
  rw [dealings, List.filterMap_append, hnews, List.append_nil, List.filterMap_map]
  exact List.filterMap_some

def run {A R : Type} [Radio R] : MonitorOp → HubM A R Unit
  | configure id enable cookie => do let _ ← Hub.configureMonitor id enable cookie
  | status enabled raw => Hub.handleMonitorStatus enabled raw
  | unload id => Hub.forgetWifi id

end MonitorOp

/-! ## Desks -/

def Effect.monitorAsk? (x : Effect) : Option (Bool × Bool) := x.entry?.bind Entry.monitorAsk?

/-- The changes of scan monitoring that the radio is asked for, latest first. -/
def Effect.monitorAsks (fx : List Effect) : List (Bool × Bool) :=
  (fx.filterMap Effect.monitorAsk?).reverse

theorem Effect.monitorAsks_monitorOutcome (p : Pending MonitorChange) (result : ErrorCode)
    (fx : List Effect) :
    Effect.monitorAsks (Desks.monitorOutcome p result ++ fx) = Effect.monitorAsks fx := by
  have houtcome : (Desks.monitorOutcome p result).filterMap Effect.monitorAsk? = [] := by
    unfold Desks.monitorOutcome Pending.answered
    cases p.requester with
    | none => rfl
    | some id =>
      cases result.isSuccess <;> cases p.kind.enable <;> rfl
  rw [Effect.monitorAsks, List.filterMap_append, houtcome, List.nil_append, Effect.monitorAsks]

namespace Desks

variable {d d' : Desks} {past : List Dealing} {fx : List Effect} {id : InstanceId}

def standing (d : Desks) : Standing := ⟨d.monitor.isSome, d.monitorEnabled⟩

/-- The desks stand with the radio as they should after what has passed. -/
structure Accounts (d : Desks) (past : List Dealing) : Prop where
  nodup : d.monitors.Nodup
  admitted : Standing.AdmitsAll {} past
  stands : Standing.through {} past = d.standing

/-- If nothing hinders it, the radio does what is wished. -/
structure Monitors (d : Desks) (past : List Dealing) : Prop extends d.Accounts past where
  aligned : d.monitor.isSome = true ∨ d.monitorEnabled = (!d.monitors.isEmpty) ∨
    past.findSome? Dealing.attempt? = some false

/-- The radio is asked and refuses, or accepts and has a change to work on. -/
theorem Accounts.asked (ha : d.Accounts past) (hfree : d.monitor = none) {target : Bool}
    (hne : target ≠ d.monitorEnabled) {own accepted : Bool} {s : Slot MonitorChange}
    (hs : s.isSome = accepted) :
    { d with monitor := s }.Accounts (.asked own target accepted :: past) := by
  have hp : (Standing.through {} past).pending = false := by rw [ha.stands, standing, hfree]; rfl
  refine ⟨ha.nodup, ⟨ha.admitted, hp, ?_⟩, ?_⟩
  · rw [ha.stands]
    exact hne
  · refine (congrArg (fun s => s.after (.asked own target accepted)) ha.stands).trans ?_
    rw [Standing.after, standing, standing, hfree, hs]
    rfl

theorem Accounts.realigned (ha : d.Accounts past) (hr : d.MonitorRealigned fx d') :
    d'.Monitors ((Effect.monitorAsks fx).map (fun a => .asked true a.1 a.2) ++ past) := by
  cases hr with
  | kept h => exact ⟨ha, h.imp_right fun h => .inl h.symm⟩
  | refused hfree htarget hne =>
    refine ⟨ha.asked (s := d.monitor) hfree hne ?_, .inr (.inr rfl)⟩
    rw [hfree]
    rfl
  | awaited hfree htarget hne => exact ⟨ha.asked hfree hne rfl, .inl rfl⟩

theorem Monitors.congr (hm : d.Monitors past) (hmonitors : d'.monitors = d.monitors)
    (hslot : d'.monitor = d.monitor) (henabled : d'.monitorEnabled = d.monitorEnabled) :
    d'.Monitors past := by
  refine ⟨⟨hmonitors ▸ hm.nodup, hm.admitted, hm.stands.trans ?_⟩, ?_⟩
  · rw [standing, standing, hslot, henabled]
  · rw [hmonitors, hslot, henabled]
    exact hm.aligned

/-- A report that nobody waits for. -/
theorem Monitors.unsolicited (hm : d.Monitors past) (hs : d.monitor = none) (enabled : Bool)
    (raw : Nat) : d.Monitors (.reported enabled raw :: past) := by
  have hpending : ¬ d.standing.pending = true := by rw [standing, hs]; exact Bool.false_ne_true
  refine ⟨⟨hm.nodup, ⟨hm.admitted, trivial⟩, ?_⟩, hm.aligned⟩
  refine (congrArg (fun s => s.after (.reported enabled raw)) hm.stands).trans ?_
  rw [Standing.after, if_neg hpending]

theorem Accounts.reported (ha : d.Accounts past) {p : Pending MonitorChange}
    (hs : d.monitor = some p) (enabled : Bool) (raw : Nat) :
    (d.settleMonitor p enabled (Histogram.reading raw)).Accounts
      (.reported enabled raw :: past) := by
  have hgrant (d : Desks) (hd : d.Accounts (.reported enabled raw :: past)) (result : ErrorCode) :
      (d.grantMonitor p result).Accounts (.reported enabled raw :: past) := by
    unfold grantMonitor
    split
    · exact hd
    · split
      · exact ⟨enter_nodup hd.nodup _ _, hd.admitted, hd.stands⟩
      · exact hd
  unfold settleMonitor
  refine hgrant _ ?_ _
  refine ⟨ha.nodup, ⟨ha.admitted, trivial⟩, ?_⟩
  refine (congrArg (fun s => s.after (.reported enabled raw)) ha.stands).trans ?_
  rw [Standing.after, standing, standing, hs]
  rfl

/-- A change stays in flight without its requester. -/
theorem standing_forgetMonitor (d : Desks) (id : InstanceId) :
    (d.forgetMonitor id).standing = d.standing := by
  have hpending : (d.forgetMonitor id).monitor.isSome = d.monitor.isSome := Option.isSome_map
  rw [standing, standing, hpending]
  rfl

theorem Accounts.forgotten (ha : d.Accounts past) (id : InstanceId) :
    (d.forgetWifi id).Accounts past :=
  ⟨ha.nodup.filter _, ha.admitted, ha.stands.trans (standing_forgetMonitor d id).symm⟩

theorem DeskRule.configures {enable : Bool} {cookie : Cookie}
    (hr : DeskRule (.called id (.scanMonitor enable cookie)) d fx d') :
    d' = d ∧ fx = [] ∨ MonitorRule (.called id (.scanMonitor enable cookie)) d fx d' := by
  cases hr with
  | idle => exact .inl ⟨rfl, rfl⟩
  | monitor hr => exact .inr hr
  | scan hr => cases hr with | served hm => cases hm
  | ranging hr => cases hr
  | cell hr => cases hr
  | session k hr => cases hr with
    | entered hc => cases hc
    | refused hc => cases hc
    | awaited hc => cases hc

theorem Monitors.configured (hm : d.Monitors past) {enable : Bool} {cookie : Cookie}
    (hr : DeskRule (.called id (.scanMonitor enable cookie)) d fx d') :
    d'.Monitors ((Effect.monitorAsks fx).map (fun a => .asked false a.1 a.2) ++ past) := by
  rcases hr.configures with ⟨rfl, rfl⟩ | hr
  · exact hm
  · cases hr with
    | entered hfree htarget =>
      have hasks : Effect.monitorAsks [.subscription enable id EventType.wifiScanResult,
          .posted (wifiAnswer id Hub.WifiKind.scanMonitor .none cookie)] = [] := by
        cases enable <;> rfl
      rw [hasks]
      refine ⟨⟨enter_nodup hm.nodup id enable, hm.admitted, hm.stands⟩, .inr (.inl ?_)⟩
      exact htarget.symm.trans (enter_isEmpty d id enable).symm
    | refused hfree hne =>
      refine ⟨hm.asked (s := d.monitor) hfree hne ?_, hm.aligned⟩
      rw [hfree]
      rfl
    | awaited hfree _ hne => exact ⟨hm.asked hfree hne rfl, .inl rfl⟩

end Desks

namespace Hub

open Desks

variable {A R α β : Type}

/-! ## Away from scan monitoring -/

/-- Nothing is asked of the radio, and nothing changes. -/
def unmonitored : Law A R where
  rel h h' := h'.wifi.monitoring = h.wifi.monitoring ∧ h'.monitorAsks = h.monitorAsks
  halts h _ h' := h'.monitorAsks = h.monitorAsks
  refl _ := ⟨rfl, rfl⟩
  trans hr hr' := ⟨hr'.1.trans hr.1, hr'.2.trans hr.2⟩
  halts_of_rel hr he := he.trans hr.2

theorem tryPost_unmonitored (e : Event) : Obeys unmonitored (tryPost e : HubM A R _) := by
  intro h
  unfold tryPost
  rw [ends_bind, ends_get]
  split <;> exact ⟨rfl, rfl⟩

theorem unmonitored_times : (unmonitored : Law A R).Times := by
  have hposts : (unmonitored : Law A R).Posts := by
    refine ⟨fun ha => ⟨ha.monitoring, ha.monitorAsks⟩, fun _ _ => rfl,
      fun e _ => tryPost_unmonitored e, fun c h => ?_⟩
    unfold defer
    rw [ends_bind, ends_get]
    split <;> exact ⟨rfl, rfl⟩
  exact hposts.times (fun _ _ => ⟨rfl, rfl⟩) (fun _ _ _ => ⟨rfl, rfl⟩)
    (hposts.discard_obeys (fun _ _ => ⟨rfl, rfl⟩) fun _ _ => ⟨rfl, rfl⟩)

/-! ## Asking the radio -/

/-- The radio was asked as it may be. -/
def Asks (reconciles : Bool) (h h' : Hub A R) : Prop :=
  ∃ asks, h'.monitorAsks = asks ++ h.monitorAsks ∧
    h.desks.standing.AdmitsAll (asks.map fun a => .asked reconciles a.1 a.2)

/-- Nothing is asked of the radio unless the hub halts, and then as it may be. -/
def asking (reconciles : Bool) : Law A R where
  rel h h' := h'.desks.standing = h.desks.standing ∧ h'.monitorAsks = h.monitorAsks
  halts h _ h' := Asks reconciles h h'
  refl _ := ⟨rfl, rfl⟩
  trans hr hr' := ⟨hr'.1.trans hr.1, hr'.2.trans hr.2⟩
  halts_of_rel hr he := by
    obtain ⟨asks, hasks, hadmitted⟩ := he
    exact ⟨asks, hr.2 ▸ hasks, hr.1 ▸ hadmitted⟩

theorem asking_times (reconciles : Bool) : (asking reconciles : Law A R).Times := by
  refine unmonitored_times.within ⟨fun hr => ⟨?_, hr.2⟩, fun he => ⟨[], he, trivial⟩⟩
  exact congrArg (fun m => (⟨m.2.1.isSome, m.2.2⟩ : Standing)) hr.1

variable [Radio R]

omit [Radio R] in
theorem asks_one {h h' : Hub A R} {target accepted : Bool} (hfree : h.wifi.monitorSlot = none)
    (hne : target ≠ h.wifi.monitorEnabled)
    (ha : h'.monitorAsks = (target, accepted) :: h.monitorAsks) (reconciles : Bool) :
    Asks reconciles h h' :=
  ⟨[(target, accepted)], ha, trivial, congrArg Option.isSome hfree, hne⟩

theorem requestMonitor_asks {h : Hub A R} {target : Bool} (hfree : h.wifi.monitorSlot = none)
    (hne : target ≠ h.wifi.monitorEnabled) (reconciles : Bool) :
    Ends (requestRadio (.scanMonitor target)) h
      (fun accepted h' => h'.monitorAsks = (target, accepted) :: h.monitorAsks)
      ((asking reconciles).halts h) := by
  unfold requestRadio
  rw [ends_bind, ends_get]
  split
  · exact ⟨[], rfl, trivial⟩
  · rename_i reaction _
    refine ends_bind.2 (ends_set.2 (ends_bind.2 ?_))
    have hreports : Obeys (unmonitored : Law A R)
        (reaction.reports.forM fun r => deferOrDie (.report r)) :=
      .forM fun r _ => unmonitored_times.deferOrDie_obeys _
    exact (hreports _).mono (fun _ h' hr => hr.2)
      fun _ h' he => asks_one hfree hne he reconciles

omit [Radio R] in
theorem awaitMonitor_asks (requester : Option InstanceId) (cookie : Cookie)
    (change : MonitorChange) (h : Hub A R) :
    Ends (awaitMonitor requester cookie change) h (fun _ h' => h'.monitorAsks = h.monitorAsks)
      fun _ h' => h'.monitorAsks = h.monitorAsks := by
  unfold awaitMonitor occupied
  rw [ends_bind, ends_get]
  cases h.wifi.monitorSlot <;> exact rfl

/-- If the step halts, then it did so asking. -/
def HaltsAsking (reconciles : Bool) (m : HubM A R α) : Prop :=
  ∀ h, Ends m h (fun _ _ => True) ((asking reconciles).halts h)

namespace HaltsAsking

omit [Radio R]

variable {reconciles : Bool}

theorem of_obeys {m : HubM A R α} (hm : Obeys (asking reconciles) m) : HaltsAsking reconciles m :=
  fun h => (hm h).mono (fun _ _ _ => trivial) fun _ _ he => he

theorem bind {m : HubM A R α} {f : α → HubM A R β} (hm : Obeys (asking reconciles) m)
    (hf : ∀ a, HaltsAsking reconciles (f a)) : HaltsAsking reconciles (m >>= f) := fun h =>
  hm.andThen ((asking _).refl h) (fun _ _ he => he) fun a h₁ hr =>
    (hf a h₁).mono (fun _ _ _ => trivial) fun _ _ he => (asking _).halts_of_rel hr he

theorem get_bind {f : Hub A R → HubM A R β} (hf : ∀ s, HaltsAsking reconciles (f s)) :
    HaltsAsking reconciles (get >>= f) := fun h => hf h h

theorem ite {c : Prop} [Decidable c] {m m' : HubM A R α} (hm : c → HaltsAsking reconciles m)
    (hm' : ¬ c → HaltsAsking reconciles m') :
    HaltsAsking reconciles (if c then m else m') := by
  split
  · exact hm ‹_›
  · exact hm' ‹_›

end HaltsAsking

theorem reconcileMonitor_asks : HaltsAsking true (reconcileMonitor : HubM A R Unit) := by
  intro h
  unfold reconcileMonitor
  rw [ends_bind, ends_get, ends_ite]
  split
  · trivial
  · rename_i hbusy
    have hfree : h.wifi.monitorSlot = none := Option.not_isSome_iff_eq_none.1 hbusy
    rw [ends_ite]
    split
    · trivial
    · rename_i hne
      refine (requestMonitor_asks hfree hne true).bind fun accepted h₁ ha => ?_
      rw [ends_ite]
      split
      · refine (awaitMonitor_asks _ _ _ h₁).mono (fun _ _ _ => trivial) fun _ h₂ he => ?_
        exact asks_one hfree hne (he.trans ha) true
      · trivial

omit [Radio R] in
theorem applyMonitor_asking (reconciles : Bool) (id : InstanceId) (enable : Bool) :
    Obeys (asking reconciles) (applyMonitor id enable : HubM A R Unit) := by
  have hL : (asking reconciles : Law A R).Times := asking_times reconciles
  refine .ite (fun _ => ?_) fun _ => ?_
  · refine .bind (.modify fun _ => ⟨rfl, rfl⟩) fun _ => ?_
    exact .bind (hL.subscribe_obeys _ _) fun _ => .pure _
  · refine .bind (.modify fun _ => ⟨rfl, rfl⟩) fun _ => ?_
    exact .bind (hL.unsubscribe_obeys _ _) fun _ => .pure _

theorem configureMonitor_asks (id : InstanceId) (enable : Bool) (cookie : Cookie) :
    HaltsAsking false
      (configureMonitor id enable cookie : HubM A R (Except RequestError Unit)) := by
  have hL : (asking false : Law A R).Times := asking_times false
  refine .bind (.get_bind fun _ => .pure _) fun _ => .ite (fun _ => fun _ => trivial) fun _ h => ?_
  rw [ends_bind, ends_get]
  dsimp only
  rw [ends_ite]
  split
  · trivial
  · rename_i hbusy
    have hfree : h.wifi.monitorSlot = none := Option.not_isSome_iff_eq_none.1 hbusy
    rw [ends_ite]
    split
    · refine HaltsAsking.of_obeys ?_ h
      refine .bind (applyMonitor_asking _ _ _) fun _ => ?_
      exact .bind (hL.tells.answerWifi_obeys _ (by decide) _ _) fun _ => .pure _
    · rename_i hne
      refine (requestMonitor_asks hfree hne false).bind fun accepted h₁ ha => ?_
      rw [ends_ite]
      split
      · trivial
      · refine ends_bind.2 ((awaitMonitor_asks _ _ _ h₁).mono (fun _ _ _ => trivial) ?_)
        exact fun _ h₂ he => asks_one hfree hne (he.trans ha) false

theorem forgetWifi_asks (id : InstanceId) : HaltsAsking true (forgetWifi id : HubM A R Unit) := by
  have hL : (asking true : Law A R).Times := asking_times true
  have hforget : Obeys (asking true) (modifyWifi fun w => { w with
      monitors := w.monitors.filter (· != id)
      monitorSlot := w.monitorSlot.map fun p =>
        if p.requester = some id then { p with requester := none } else p } : HubM A R Unit) :=
    .modify fun h => ⟨standing_forgetMonitor h.desks id, rfl⟩
  have hranging : HaltsAsking true (forgetRanging id : HubM A R Unit) := by
    refine .get_bind fun _ => .ite (fun _ => .get_bind fun _ => ?_) fun _ => reconcileMonitor_asks
    split
    · exact reconcileMonitor_asks
    · exact .bind (hL.modifyWifi_obeys fun _ => rfl) fun _ =>
        .bind (hL.cancelSystemTimer_obeys _) fun _ => reconcileMonitor_asks
  refine .bind hforget fun _ => .get_bind fun _ => .ite (fun _ => ?_) fun _ => hranging
  exact .bind hL.seeks.vacateScan_obeys fun _ => .bind (hL.emit_obeys _ _ _) fun _ => hranging

end Hub

namespace MonitorOp

open Hub

variable {A R : Type}

/-- What passed is as it may be. -/
def Deals (op : MonitorOp) (h h' : Hub A R) : Prop :=
  ∃ asks, h'.monitorAsks = asks ++ h.monitorAsks ∧
    h.desks.standing.AdmitsAll (op.dealings asks)

theorem deals_of_asks {op : MonitorOp} {h h₁ h' : Hub A R}
    (hnews : h.desks.standing.AdmitsAll op.news)
    (hs : h₁.desks.standing = h.desks.standing.through op.news)
    (hasks : h₁.monitorAsks = h.monitorAsks) (ha : Asks op.reconciles h₁ h') : op.Deals h h' := by
  obtain ⟨asks, hmore, hadmitted⟩ := ha
  refine ⟨asks, hasks ▸ hmore, Standing.admitsAll_append.2 ⟨hnews, ?_⟩⟩
  rwa [← hs]

variable [Radio R]

theorem concludeMonitor_asks (p : Pending MonitorChange) (result : ErrorCode) :
    HaltsAsking true (concludeMonitor p result : HubM A R Unit) := by
  have hanswer (id : InstanceId) : HaltsAsking true (do
      answerWifi id WifiKind.scanMonitor result p.cookie
      reconcileMonitor : HubM A R Unit) :=
    .bind ((asking_times true).tells.answerWifi_obeys _ (by decide) _ _) fun _ =>
      reconcileMonitor_asks
  unfold concludeMonitor
  split
  · exact reconcileMonitor_asks
  · refine .ite (fun _ => ?_) fun _ => hanswer _
    exact .bind (applyMonitor_asking _ _ _) fun _ => hanswer _

theorem status_deals (enabled : Bool) (raw : Nat) (h : Hub A R) :
    Ends (handleMonitorStatus enabled raw) h (fun _ _ => True)
      fun _ => (status enabled raw).Deals h := by
  have hquiet {h' : Hub A R} (ha : h'.monitorAsks = h.monitorAsks) :
      (status enabled raw).Deals h h' := ⟨[], ha, trivial, trivial⟩
  have hsettled {p : Pending MonitorChange} (hs : h.wifi.monitorSlot = some p) {h' : Hub A R}
      (hfree : h'.wifi.monitorSlot = none) (hasks : h'.monitorAsks = h.monitorAsks)
      (he : h'.wifi.monitorEnabled =
        if (Histogram.reading raw).isSuccess then enabled else h.wifi.monitorEnabled) :
      Ends (concludeMonitor p (monitorResult (Histogram.reading raw) enabled p.kind.target)) h'
        (fun _ _ => True) fun _ => (status enabled raw).Deals h := by
    refine (concludeMonitor_asks p _ h').mono (fun _ _ _ => trivial) fun _ _ ha => ?_
    refine deals_of_asks ⟨trivial, trivial⟩ ?_ hasks ha
    have hpending : h.desks.standing.pending = true := congrArg Option.isSome hs
    change Standing.mk h'.wifi.monitorSlot.isSome h'.wifi.monitorEnabled =
      h.desks.standing.after (.reported enabled raw)
    rw [hfree, he, Standing.after, if_pos hpending]
    rfl
  unfold handleMonitorStatus
  rw [ends_bind, ends_get]
  split
  · trivial
  · rename_i p hs
    refine (unmonitored_times.checkCode_obeys raw).andThen (unmonitored.refl h)
      (fun _ _ => hquiet) fun _ h₁ hr => ?_
    refine ends_bind.2 (ends_modify.2 ?_)
    dsimp only
    rw [ends_ite]
    split
    · rename_i hok
      exact ends_bind.2 (ends_modify.2 (hsettled hs rfl hr.2 (if_pos hok).symm))
    · rename_i hno
      refine (unmonitored_times.countRadioError_obeys .wifi).andThen (unmonitored.refl _)
        (fun _ _ he => hquiet (he.trans hr.2)) fun _ h₂ hr' => ?_
      have hkept : h₂.wifi.monitorEnabled = h.wifi.monitorEnabled :=
        (congrArg (·.2.2) hr'.1).trans (congrArg (·.2.2) hr.1)
      refine hsettled hs (congrArg (·.2.1) hr'.1) (hr'.2.trans hr.2) ?_
      rw [if_neg hno, hkept]

theorem halt_deals (op : MonitorOp) (h : Hub A R) :
    Ends op.run h (fun _ _ => True) fun _ => op.Deals h := by
  cases op with
  | configure id enable cookie =>
    refine ends_bind.2 ((configureMonitor_asks id enable cookie h).mono (fun _ _ _ => trivial) ?_)
    exact fun _ _ ha => deals_of_asks trivial rfl rfl ha
  | status enabled raw => exact status_deals enabled raw h
  | unload id =>
    exact (forgetWifi_asks id h).mono (fun _ _ _ => trivial)
      fun _ _ ha => deals_of_asks trivial rfl rfl ha

theorem run_yields (op : MonitorOp) {h : Hub A R} {past : List Dealing}
    (hm : h.desks.Monitors past) :
    Yields op.run h fun _ d fx => d.Monitors (op.dealings (Effect.monitorAsks fx) ++ past) := by
  have happend (asks : List (Bool × Bool)) : op.dealings asks ++ past =
      asks.map (fun a => .asked op.reconciles a.1 a.2) ++ (op.news ++ past) :=
    List.append_assoc _ _ _
  simp only [happend]
  cases op with
  | configure id enable cookie =>
    refine .bind (configureMonitor_yields id enable cookie h) fun r d fx h₁ hr hd => .pure ?_
    rw [hd, List.append_nil]
    exact hm.configured hr.1
  | status enabled raw =>
    cases hs : h.desks.monitor with
    | none =>
      refine (handleMonitorStatus_idles hs enabled raw).mono ?_
      rintro _ d fx ⟨rfl, rfl⟩
      exact hm.unsolicited hs enabled raw
    | some p =>
      refine (handleMonitorStatus_settles hs enabled raw).mono ?_
      rintro _ d fx ⟨fx', rfl, hr⟩
      rw [Effect.monitorAsks_monitorOutcome]
      exact (hm.reported hs enabled raw).realigned hr
  | unload id => exact (forgetWifi_yields id h).mono fun _ d fx hr => (hm.forgotten id).realigned hr

end MonitorOp

namespace Hub

variable {A R : Type}

theorem monitorAsks_eq (h : Hub A R) :
    h.monitorAsks = h.front.notes.filterMap Entry.monitorAsk? := by
  rw [monitorAsks, front, List.filterMap_filter]
  congr 1
  funext e
  cases e <;> simp [Entry.monitorAsk?, Entry.isNoted]

theorem Changed.monitorAsks {h h' : Hub A R} {d : Desks} {fx : List Effect}
    (hc : h.Changed d fx h') : h'.monitorAsks = Effect.monitorAsks fx ++ h.monitorAsks := by
  rw [monitorAsks_eq, hc, monitorAsks_eq, Front.after, List.filterMap_append,
    List.filterMap_reverse, List.filterMap_filterMap]
  rfl

/-! ## Runs -/

variable [Radio R]

/-- A hub after any number of operations on scan monitoring, with anything else in between. The
dealings are given latest first. -/
inductive Monitored : List Dealing → Hub A R → Prop
  | start {h : Hub A R} (hmonitors : h.wifi.monitors = []) (hslot : h.wifi.monitorSlot = none)
      (henabled : h.wifi.monitorEnabled = false) (hasks : h.monitorAsks = []) : Monitored [] h
  | operate {past : List Dealing} {h h' : Hub A R} {asks : List (Bool × Bool)}
      (hh : Monitored past h) (op : MonitorOp) (hr : op.run h = .ok () h')
      (hasks : h'.monitorAsks = asks ++ h.monitorAsks) : Monitored (op.dealings asks ++ past) h'
  | aside {past : List Dealing} {h h' : Hub A R} (hh : Monitored past h)
      (hkept : h'.wifi.monitoring = h.wifi.monitoring) (hasks : h'.monitorAsks = h.monitorAsks) :
      Monitored past h'

/-- A hub that halts in an operation on scan monitoring, or in anything else. -/
inductive CutShort : List Dealing → Hub A R → Prop
  | operate {past : List Dealing} {h h' : Hub A R} {e : Halt} {asks : List (Bool × Bool)}
      (hh : Monitored past h) (op : MonitorOp) (hr : op.run h = .error e h')
      (hasks : h'.monitorAsks = asks ++ h.monitorAsks) : CutShort (op.dealings asks ++ past) h'
  | aside {past : List Dealing} {h h' : Hub A R} (hh : Monitored past h)
      (hasks : h'.monitorAsks = h.monitorAsks) : CutShort past h'

omit [Radio R] in
theorem asks_operate {h h' : Hub A R} {past : List Dealing} {asks : List (Bool × Bool)}
    (op : MonitorOp) (hasks : h'.monitorAsks = asks ++ h.monitorAsks)
    (hpast : past.filterMap Dealing.ask? = h.monitorAsks) :
    (op.dealings asks ++ past).filterMap Dealing.ask? = h'.monitorAsks := by
  rw [List.filterMap_append, op.filterMap_ask?_dealings, hpast, hasks]

theorem Monitored.monitors {past : List Dealing} {h : Hub A R} (hh : Monitored past h) :
    h.desks.Monitors past ∧ past.filterMap Dealing.ask? = h.monitorAsks := by
  induction hh with
  | @start h hmonitors hslot henabled hasks =>
    have hstanding : h.desks.standing = {} := by
      rw [Desks.standing, show h.desks.monitor = none from hslot,
        show h.desks.monitorEnabled = false from henabled]
      rfl
    refine ⟨⟨⟨?_, trivial, hstanding.symm⟩, .inr (.inl ?_)⟩, hasks.symm⟩
    · exact (show h.desks.monitors = [] from hmonitors) ▸ List.nodup_nil
    · rw [show h.desks.monitors = [] from hmonitors]
      exact henabled
  | operate _ op hr hasks ih =>
    obtain ⟨d, fx, hm, hc⟩ := (op.run_yields ih.1).ok hr
    refine ⟨?_, asks_operate op hasks ih.2⟩
    rw [hc.desks, List.append_cancel_right (hasks.symm.trans hc.monitorAsks)]
    exact hm
  | aside _ hkept hasks ih =>
    refine ⟨ih.1.congr ?_ ?_ ?_, ih.2.trans hasks.symm⟩
    · exact congrArg (·.1) hkept
    · exact congrArg (·.2.1) hkept
    · exact congrArg (·.2.2) hkept

theorem CutShort.admitted {past : List Dealing} {h : Hub A R} (hh : CutShort past h) :
    Standing.AdmitsAll {} past ∧ past.filterMap Dealing.ask? = h.monitorAsks := by
  cases hh with
  | operate hh op hr hasks =>
    obtain ⟨hm, hpast⟩ := hh.monitors
    obtain ⟨asks', hasks', hadmitted⟩ := (op.halt_deals _).error hr
    refine ⟨?_, asks_operate op hasks hpast⟩
    rw [List.append_cancel_right (hasks.symm.trans hasks')]
    exact Standing.admitsAll_append.2 ⟨hm.admitted, hm.stands ▸ hadmitted⟩
  | aside hh hasks => exact ⟨hh.monitors.1.admitted, hh.monitors.2.trans hasks.symm⟩

/-- The hub goes on being monitored. -/
def monitored : Law A R where
  rel h h' := ∀ past, Monitored past h → ∃ past', Monitored past' h'
  halts h _ h' := ∀ past, Monitored past h → ∃ past', CutShort past' h'
  refl _ past hh := ⟨past, hh⟩
  trans hr hr' past hh := by
    obtain ⟨past', hh'⟩ := hr past hh
    exact hr' past' hh'
  halts_of_rel hr he past hh := by
    obtain ⟨past', hh'⟩ := hr past hh
    exact he past' hh'

theorem unmonitored_within : (unmonitored : Law A R).Within monitored :=
  ⟨fun hr past hh => ⟨past, hh.aside hr.1 hr.2⟩, fun he past hh => ⟨past, .aside hh he⟩⟩

/-- Every operation is put on record, also if the hub halts in it. -/
theorem operate_ends {past : List Dealing} {h : Hub A R} (hh : Monitored past h) (op : MonitorOp) :
    Ends op.run h (fun _ h' => ∃ asks, Monitored (op.dealings asks ++ past) h')
      fun _ h' => ∃ asks, CutShort (op.dealings asks ++ past) h' := by
  unfold Ends
  split
  · rename_i hr
    obtain ⟨d, fx, -, hc⟩ := (op.run_yields hh.monitors.1).ok hr
    exact ⟨_, hh.operate op hr hc.monitorAsks⟩
  · rename_i hr
    obtain ⟨asks, hasks, -⟩ := (op.halt_deals h).error hr
    exact ⟨asks, .operate hh op hr hasks⟩

theorem operate_monitored (op : MonitorOp) : Obeys monitored (op.run : HubM A R Unit) := by
  intro h
  unfold Ends
  split
  · rename_i hr
    intro past hh
    obtain ⟨asks, hh'⟩ := (operate_ends hh op).ok hr
    exact ⟨_, hh'⟩
  · rename_i hr
    intro past hh
    obtain ⟨asks, hh'⟩ := (operate_ends hh op).error hr
    exact ⟨_, hh'⟩

theorem monitored_dispatches : (monitored : Law A R).Dispatches where
  toTimes := unmonitored_times.within unmonitored_within
  configureMonitor_obeys id enable cookie h :=
    ends_bind.1 (operate_monitored (.configure id enable cookie) h)
  handleMonitorStatus_obeys enabled raw := operate_monitored (.status enabled raw)
  forgetWifi_obeys id := operate_monitored (.unload id)
  enlist _ past hh := ⟨past, hh.aside rfl rfl⟩
  note _ _ he _ past hh := ⟨past, hh.aside rfl (List.filterMap_cons_none he)⟩

variable [Behaviour A]

theorem turn_monitored (t : Turn A R) : Obeys monitored t.run := by
  have hL : (monitored : Law A R).Dispatches := monitored_dispatches
  have htick : Obeys monitored (tick : HubM A R Nat) :=
    (unmonitored_times.tick_obeys (fun _ _ => ⟨rfl, rfl⟩) tryPost_unmonitored).within
      unmonitored_within
  cases hclock : t.movesClock with
  | false =>
    by_cases ht : t = .runOnce
    · subst ht
      refine .bind (hL.runOnce_obeys htick fun h _ _ _ past hh => ?_) fun _ => .pure _
      exact ⟨past, hh.aside rfl rfl⟩
    · exact hL.turn_obeys t hclock ht
  | true =>
    cases t with
    | advanceClock d => exact .modify fun _ past hh => ⟨past, hh.aside rfl rfl⟩
    | advanceClockTo t => exact .modify fun _ past hh => ⟨past, hh.aside rfl rfl⟩
    | _ => cases hclock

theorem Reached.monitored {config : Config} {h : Hub A R} (hh : Reached config h) :
    ∃ past, Monitored past h := by
  induction hh with
  | start hr =>
    exact (monitored_dispatches.powers.initialise_obeys _).ok hr [] (.start rfl rfl rfl rfl)
  | turn t _ hr ih =>
    obtain ⟨past, hh⟩ := ih
    exact (turn_monitored t _).ok hr past hh

/-- Between operations on scan monitoring a change is pending, or the radio monitors if and only if
somebody wants it to, or it has turned down the last attempt to reconcile it; nobody is listed
twice; and what was asked of the radio, it was asked while nothing was pending and for something
else than what it had confirmed, even if the hub halts in an operation. Every operation is put on
record, and so is everything that happens to a hub. -/
theorem scan_monitoring_stays_consistent :
    (∀ past (h : Hub A R), Monitored past h →
      (h.wifi.monitorSlot.isSome = true ∨ h.wifi.monitorEnabled = (!h.wifi.monitors.isEmpty) ∨
        past.findSome? Dealing.attempt? = some false) ∧
      h.wifi.monitors.Nodup ∧
      Standing.AdmitsAll {} past ∧ past.filterMap Dealing.ask? = h.monitorAsks ∧
      Standing.through {} past = ⟨h.wifi.monitorSlot.isSome, h.wifi.monitorEnabled⟩) ∧
    (∀ past (h : Hub A R), CutShort past h →
      Standing.AdmitsAll {} past ∧ past.filterMap Dealing.ask? = h.monitorAsks) ∧
    (∀ past (h : Hub A R) (op : MonitorOp), Monitored past h →
      Ends op.run h (fun _ h' => ∃ asks, Monitored (op.dealings asks ++ past) h')
        fun _ h' => ∃ asks, CutShort (op.dealings asks ++ past) h') ∧
    (∀ config (h : Hub A R), Reached config h → ∃ past, Monitored past h) ∧
    ∀ config (h : Hub A R) (t : Turn A R) e h', Reached config h → t.run h = .error e h' →
      ∃ past, CutShort past h' := by
  refine ⟨fun past h hh => ?_, fun past h hh => hh.admitted, fun past h op hh => ?_, ?_, ?_⟩
  · obtain ⟨hm, hasks⟩ := hh.monitors
    exact ⟨hm.aligned, hm.nodup, hm.admitted, hasks, hm.stands⟩
  · exact operate_ends hh op
  · exact fun config h hh => hh.monitored
  · intro config h t e h' hh hr
    obtain ⟨past, hh⟩ := hh.monitored
    exact (turn_monitored t h).error hr past hh

/-- The last monitor is unloaded, and the radio refuses to stop. -/
theorem refused_reconciliation_is_on_record :
    ∃ (h : Hub Script Stations) (past : List Dealing), Reached {} h ∧ Monitored past h ∧
      h.wifi.monitors = [] ∧ h.wifi.monitorEnabled = true ∧
      past.filterMap Dealing.ask? = [(false, false), (true, true)] ∧
      past.findSome? Dealing.attempt? = some false := by
  obtain ⟨h, hh, hmonitors, henabled, hslot, hasks⟩ := reached_of_ends (A := Script) {} 0
    Stations.scripted none
    [.load ⟨1⟩ { wifi := true } { start := [.monitor true ⟨9⟩] },
      .report (.wifi (.monitorStatus true 0)), .runOnce, .runOnce, .runOnce,
      .radios fun s => { s with wifi := s.wifi.setRefusal .monitor true }, .unload ⟨1⟩]
    (P := fun h => h.wifi.monitors = [] ∧ h.wifi.monitorEnabled = true ∧
      h.wifi.monitorSlot = none ∧ h.monitorAsks = [(false, false), (true, true)])
    (by decide +kernel)
  obtain ⟨hmain, -, -, hreached, -⟩ :=
    scan_monitoring_stays_consistent (A := Script) (R := Stations)
  obtain ⟨past, hm⟩ := hreached {} h hh
  obtain ⟨haligned, -, -, hpast, -⟩ := hmain past h hm
  refine ⟨h, past, hh, hm, hmonitors, henabled, hpast.trans hasks, ?_⟩
  rw [hslot, hmonitors, henabled] at haligned
  exact (haligned.resolve_left Bool.false_ne_true).resolve_left Bool.false_ne_true.symm

end Hub

end ContextHub
