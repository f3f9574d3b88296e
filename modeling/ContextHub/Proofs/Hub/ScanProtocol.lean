import ContextHub.Proofs.Hub.Course
import ContextHub.Proofs.Hub.ScanSteps
/-!
# The protocol of a scan on demand

The request in flight, how the radio was called, and what was answered are on the `ScanFile`. There
are a few moves that a scan in flight waits for (`Pending.awaits`). `Furthers` says what each of
them makes of it, and no other move changes the file, but for a nanoapp's call for a scan while none
is in flight (`Requests`). `Moves.servesScans` says so of every move of a hub.
-/

namespace ContextHub

/-! ## Responses of the radio -/

/-- A call is acknowledged if a scan is pending and nothing went wrong. -/
def acknowledges (pending : Bool) (raw : Nat) : Bool :=
  pending && ErrorCode.ofRaw? raw == some .none

/-- What went wrong if a call is not acknowledged. A byte that is no code tells of a general error,
and so does a success without a scan that is pending. -/
def nackCode (raw : Nat) : ErrorCode :=
  match ErrorCode.ofRaw? raw with
  | none => .error
  | some .none => .error
  | some code => code

theorem nackCode_ne_none (raw : Nat) : nackCode raw ≠ .none := by
  unfold nackCode
  split
  · exact nofun
  · exact nofun
  · rename_i hne _
    exact hne

theorem acknowledges_eq (pending : Bool) (raw : Nat) :
    acknowledges pending raw = (pending && (Histogram.reading raw).isSuccess) := by
  unfold acknowledges Histogram.reading ErrorCode.isSuccess
  cases ErrorCode.ofRaw? raw <;> simp [Option.getD]

theorem scanRefusal_reading (raw : Nat) :
    Hub.scanRefusal (Histogram.reading raw) = nackCode raw := by
  unfold Hub.scanRefusal Histogram.reading nackCode ErrorCode.isSuccess
  cases ErrorCode.ofRaw? raw with
  | none => rfl
  | some code => cases code <;> rfl

theorem recoverable_iff (code : ErrorCode) :
    code.isRecoverable = true ↔ code = .busy ∨ code = .rejectedRateLimit := by
  cases code <;> simp [ErrorCode.isRecoverable]

/-- A recoverable refusal is no acknowledgement, whatever it says of a scan that is pending. -/
theorem acknowledges_eq_false {raw : Nat} (hcode : (nackCode raw).isRecoverable = true)
    (pending : Bool) : acknowledges pending raw = false := by
  unfold nackCode at hcode
  unfold acknowledges
  split at hcode
  · cases hcode
  · cases hcode
  · rename_i code hne hraw
    rw [hraw, Bool.and_eq_false_iff]
    refine .inr (beq_eq_false_iff_ne.2 fun h => ?_)
    cases h
    exact hne rfl

/-! ## The file of scans -/

/-- The call of the radio for a scan that an entry tells of, and whether the radio accepted. -/
def Entry.scanCall? : Entry → Option (ScanParams × Bool)
  | .requested (.scan params) accepted => some (params, accepted)
  | _ => none

/-- What is known of scans on demand. -/
structure ScanFile where
  slot : Slot ScanJob
  /-- How the radio was called, and whether it accepted. -/
  calls : List (ScanParams × Bool)
  answers : List Event

namespace Effect

def scanCall? (x : Effect) : Option (ScanParams × Bool) := x.entry?.bind Entry.scanCall?

def scanAnswer? (x : Effect) : Option Event := x.entry?.bind Entry.scanAnswer?

/-- The effect has to do with scans on demand. -/
def ofScans : Effect → Bool
  | posted e => e.isScanAnswer
  | asked (.scan _) _ => true
  | _ => false

end Effect

/-- The file after a step with effects. -/
def ScanFile.after (f : ScanFile) (s : Slot ScanJob) (fx : List Effect) : ScanFile :=
  ⟨s, f.calls ++ fx.filterMap Effect.scanCall?, f.answers ++ fx.filterMap Effect.scanAnswer?⟩

theorem Effect.scanCalls_eq_nil {fx : List Effect} (hfx : ∀ x ∈ fx, x.ofScans = false) :
    fx.filterMap scanCall? = [] := by
  refine List.filterMap_eq_nil_iff.2 fun x hx => ?_
  have := hfx x hx
  rcases x with _ | ⟨q, _⟩ | _ | _
  · rfl
  · cases q <;> first | rfl | cases this
  · rfl
  · rfl

theorem Effect.scanAnswers_eq_nil {fx : List Effect} (hfx : ∀ x ∈ fx, x.ofScans = false) :
    fx.filterMap scanAnswer? = [] := by
  refine List.filterMap_eq_nil_iff.2 fun x hx => ?_
  have := hfx x hx
  rcases x with e | _ | _ | _
  · have he : e.isScanAnswer = false := this
    simp [scanAnswer?, entry?, Entry.scanAnswer?, he]
  · rfl
  · rfl
  · rfl

theorem ScanFile.after_of_unscanned {fx : List Effect} (hfx : ∀ x ∈ fx, x.ofScans = false)
    (f : ScanFile) (s : Slot ScanJob) : f.after s fx = ⟨s, f.calls, f.answers⟩ := by
  rw [after, Effect.scanCalls_eq_nil hfx, Effect.scanAnswers_eq_nil hfx, List.append_nil,
    List.append_nil]

def Front.scanFile (F : Front) : ScanFile :=
  ⟨F.desks.scan, (F.notes.filterMap Entry.scanCall?).reverse,
    (F.notes.filterMap Entry.scanAnswer?).reverse⟩

theorem Front.scanFile_after (F : Front) (d : Desks) (fx : List Effect) :
    (({ F with desks := d } : Front).after fx).scanFile = F.scanFile.after d.scan fx := by
  simp only [Front.scanFile, Front.after, ScanFile.after, List.filterMap_append,
    List.filterMap_reverse, List.reverse_append, List.reverse_reverse, List.filterMap_filterMap]
  rfl

namespace Hub

variable {A R : Type}

/-- How the radio was called for scans, in order, and whether it accepted. -/
def scanCalls (h : Hub A R) : List (ScanParams × Bool) :=
  (h.journal.filterMap Entry.scanCall?).reverse

def scanFile (h : Hub A R) : ScanFile := ⟨h.wifi.scanSlot, h.scanCalls, h.scanAnswers⟩

theorem scanFile_eq (h : Hub A R) : h.scanFile = h.front.scanFile := by
  have hcalls : h.journal.filterMap Entry.scanCall? =
      h.front.notes.filterMap Entry.scanCall? := by
    rw [front, List.filterMap_filter]
    refine List.filterMap_congr fun e _ => ?_
    cases e <;> simp [Entry.scanCall?, Entry.isNoted]
  have hanswers : h.journal.filterMap Entry.scanAnswer? =
      h.front.notes.filterMap Entry.scanAnswer? := by
    rw [front, List.filterMap_filter]
    refine List.filterMap_congr fun e _ => ?_
    cases e with
    | handed e accepted =>
      by_cases he : e.type = EventType.wifiAsyncResult
      · cases accepted <;> simp [Entry.scanAnswer?, Entry.isNoted, he, EventType.isResult]
      · simp [Entry.scanAnswer?, Event.isScanAnswer, he]
    | _ => simp [Entry.scanAnswer?]
  rw [scanFile, scanCalls, scanAnswers, hcalls, hanswers, Front.scanFile]
  rfl

theorem Changed.scanFile {h h' : Hub A R} {d : Desks} {fx : List Effect}
    (hc : h.Changed d fx h') : h'.scanFile = h.scanFile.after d.scan fx := by
  rw [scanFile_eq, hc, Front.scanFile_after, ← scanFile_eq]

end Hub

/-- The calls and the answers of a step are on the file. -/
theorem Hub.scanCalls_after {A R : Type} {h h' : Hub A R} {s : Slot ScanJob} {fx : List Effect}
    (hfile : h'.scanFile = h.scanFile.after s fx) :
    h'.scanCalls = h.scanCalls ++ fx.filterMap Effect.scanCall? :=
  congrArg ScanFile.calls hfile

theorem Hub.scanAnswers_after {A R : Type} {h h' : Hub A R} {s : Slot ScanJob} {fx : List Effect}
    (hfile : h'.scanFile = h.scanFile.after s fx) :
    h'.scanAnswers = h.scanAnswers ++ fx.filterMap Effect.scanAnswer? :=
  congrArg ScanFile.answers hfile

/-! ## The protocol -/

/-- Whether a scan in flight waits for the move. -/
def Pending.awaits (p : Pending ScanJob) : Move → Bool
  | .reported (.wifi (.scanResponse _ _)) => p.kind.phase == .awaitingResponse
  | .reported (.wifi (.scan _)) => p.kind.phase == .awaitingResults
  | .expired x .wifiScanRetry => p.kind.phase == .retryScheduled && p.kind.retryTimer == x
  | .expired x .wifiScanTimeout => p.timer == x
  | .left id => p.requester == some id
  | _ => false

/-- The move is a nanoapp's call for a scan. -/
def Move.asksForScan : Move → Bool
  | .called _ (.scan _ _) => true
  | _ => false

/-- The requester of a scan is told, if there still is one. -/
def Pending.told (p : Pending ScanJob) (code : ErrorCode) : List Effect :=
  p.answered fun id => [.posted (Hub.scanAnswer id code p.cookie)]

/-- How a move takes a scan further that waits for it, with so many retries allowed: the effects,
and what is in the slot then. -/
inductive Furthers (most : Nat) (p : Pending ScanJob) : Move → List Effect → Slot ScanJob → Prop
  | acknowledged {pending : Bool} {raw : Nat} (hphase : p.kind.phase = .awaitingResponse)
      (hack : acknowledges pending raw = true) :
      Furthers most p (.reported (.wifi (.scanResponse pending raw))) (p.told .none)
        (some { p with kind := { p.kind with phase := .awaitingResults } })
  | postponed {pending : Bool} {raw : Nat} (hphase : p.kind.phase = .awaitingResponse)
      (hnack : acknowledges pending raw = false) (hcode : (nackCode raw).isRecoverable = true)
      (hleft : p.kind.retriesUsed < most) (x : TimerHandle) :
      Furthers most p (.reported (.wifi (.scanResponse pending raw))) []
        (some { p with kind := { p.kind with
          phase := .retryScheduled, retriesUsed := p.kind.retriesUsed + 1, retryTimer := x } })
  | refused {pending : Bool} {raw : Nat} (hphase : p.kind.phase = .awaitingResponse)
      (hnack : acknowledges pending raw = false)
      (hend : (nackCode raw).isRecoverable = true → most ≤ p.kind.retriesUsed) :
      Furthers most p (.reported (.wifi (.scanResponse pending raw))) (p.told (nackCode raw)) none
  | resumed (hphase : p.kind.phase = .retryScheduled) :
      Furthers most p (.expired p.kind.retryTimer .wifiScanRetry)
        [.asked (.scan p.kind.params) true]
        (some { p with kind := { p.kind with phase := .awaitingResponse, retryTimer := .invalid } })
  | rejected (hphase : p.kind.phase = .retryScheduled) :
      Furthers most p (.expired p.kind.retryTimer .wifiScanRetry)
        (.asked (.scan p.kind.params) false :: p.told .error) none
  | completed {scan : Scan} {fx : List Effect} (hphase : p.kind.phase = .awaitingResults)
      (hfx : ∀ x ∈ fx, x.ofScans = false) :
      Furthers most p (.reported (.wifi (.scan scan))) fx none
  | timedOut : Furthers most p (.expired p.timer .wifiScanTimeout) (p.told .timeout) none
  | left {id : InstanceId} {fx : List Effect} (hid : p.requester = some id)
      (hfx : ∀ x ∈ fx, x.ofScans = false) : Furthers most p (.left id) fx none

theorem Furthers.awaits {most : Nat} {p : Pending ScanJob} {m : Move} {fx : List Effect}
    {s : Slot ScanJob} (hf : Furthers most p m fx s) : p.awaits m = true := by
  cases hf <;> simp_all [Pending.awaits]

/-- What comes of a nanoapp's call for a scan, and whether it is accepted. -/
inductive Requests (id : InstanceId) (params : ScanParams) (cookie : Cookie) :
    Bool → Slot ScanJob → List Effect → Slot ScanJob → Prop
  | declined {s : Slot ScanJob} : Requests id params cookie false s [] s
  | refused : Requests id params cookie false none [.asked (.scan params) false] none
  | accepted {p : Pending ScanJob} (hid : p.requester = some id) (hcookie : p.cookie = cookie)
      (hkind : p.kind = { params }) :
      Requests id params cookie true none [.asked (.scan params) true] (some p)

/-- What a move does to the slot for scans. -/
inductive ScanServes (most : Nat) : Slot ScanJob → Move → List Effect → Slot ScanJob → Prop
  | idle {s : Slot ScanJob} {m : Move} {fx : List Effect} (hm : ∀ p ∈ s, p.awaits m = false)
      (hfx : ∀ x ∈ fx, x.ofScans = false) : ScanServes most s m fx s
  | called {id : InstanceId} {params : ScanParams} {cookie : Cookie} {b : Bool}
      {s s' : Slot ScanJob} {fx : List Effect} (hr : Requests id params cookie b s fx s') :
      ScanServes most s (.called id (.scan params cookie)) fx s'
  | furthered {p : Pending ScanJob} {m : Move} {fx : List Effect} {s : Slot ScanJob}
      (hf : Furthers most p m fx s) : ScanServes most (some p) m fx s

/-- While a scan is in flight a move takes it further or passes it by. -/
theorem ScanServes.of_some {most : Nat} {p : Pending ScanJob} {m : Move} {fx : List Effect}
    {s : Slot ScanJob} (hs : ScanServes most (some p) m fx s) :
    (p.awaits m = false ∧ s = some p ∧ ∀ x ∈ fx, x.ofScans = false) ∨ Furthers most p m fx s := by
  cases hs with
  | idle hm hfx => exact .inl ⟨hm p rfl, rfl, hfx⟩
  | called hr =>
    cases hr
    exact .inl ⟨rfl, rfl, by simp⟩
  | furthered hf => exact .inr hf

namespace Desks

variable {d d' : Desks} {fx : List Effect} {m : Move}

/-! ## Work at other desks -/

theorem ofScans_subscription (on : Bool) (id : InstanceId) (type : EventType) :
    (Effect.subscription on id type).ofScans = false := by cases on <;> rfl

theorem ofScans_request (k : SessionKind) (s : SessionSetting) (accepted : Bool) :
    (Effect.asked (k.request s) accepted).ofScans = false := by cases k <;> rfl

theorem ofScans_answered {κ : Type} {p : Pending κ} {answer : InstanceId → List Effect}
    (ha : ∀ id, ∀ x ∈ answer id, x.ofScans = false) :
    ∀ x ∈ p.answered answer, x.ofScans = false := by
  unfold Pending.answered
  cases p.requester with
  | none => simp
  | some id => exact ha id

/-- The settings and the slot for scans stay as they are, and nothing is said of scans. -/
structure Unscanned (d : Desks) (fx : List Effect) (d' : Desks) : Prop where
  settings : d'.settings = d.settings
  scan : d'.scan = d.scan
  effects : ∀ x ∈ fx, x.ofScans = false

theorem Unscanned.of_nil (hsettings : d'.settings = d.settings) (hscan : d'.scan = d.scan) :
    Unscanned d [] d' :=
  ⟨hsettings, hscan, by simp⟩

theorem Unscanned.append {d₁ : Desks} {fx₁ : List Effect} (hu : Unscanned d fx d₁)
    (hu' : Unscanned d₁ fx₁ d') : Unscanned d (fx ++ fx₁) d' :=
  ⟨hu'.settings.trans hu.settings, hu'.scan.trans hu.scan,
    List.forall_mem_append.2 ⟨hu.effects, hu'.effects⟩⟩

theorem MonitorRealigned.unscanned (hr : MonitorRealigned d fx d') : Unscanned d fx d' := by
  cases hr with
  | kept => exact .of_nil rfl rfl
  | refused => exact ⟨rfl, rfl, by simp [Effect.ofScans]⟩
  | awaited => exact ⟨rfl, rfl, by simp [Effect.ofScans]⟩

theorem SessionRealigned.unscanned {k : SessionKind} (hr : SessionRealigned k d fx d') :
    Unscanned d fx d' := by
  cases hr with
  | kept => exact .of_nil rfl rfl
  | refused => exact ⟨rfl, rfl, by simp [ofScans_request]⟩
  | awaited => exact ⟨rfl, rfl, by simp [ofScans_request]⟩

theorem MonitorRule.unscanned (hr : MonitorRule m d fx d') : Unscanned d fx d' := by
  have hanswer (id : InstanceId) (code : ErrorCode) (cookie : Cookie) :
      (Effect.posted (wifiAnswer id Hub.WifiKind.scanMonitor code cookie)).ofScans = false := rfl
  cases hr with
  | entered => exact ⟨rfl, rfl, by simp [ofScans_subscription, hanswer]⟩
  | refused => exact ⟨rfl, rfl, by simp [Effect.ofScans]⟩
  | awaited => exact ⟨rfl, rfl, by simp [Effect.ofScans]⟩
  | @settled _ _ p enabled _ code _ _ _ hr =>
    refine Unscanned.append ⟨?_, ?_, ofScans_answered fun id => ?_⟩ hr.unscanned
    · unfold settleMonitor grantMonitor
      split
      · rfl
      · split <;> rfl
    · unfold settleMonitor grantMonitor
      split
      · rfl
      · split <;> rfl
    · refine List.forall_mem_append.2 ⟨?_, by simp [hanswer]⟩
      split
      · simp [ofScans_subscription]
      · simp

theorem RangingRule.unscanned (hr : RangingRule m d fx d') : Unscanned d fx d' := by
  cases hr with
  | refused => exact ⟨rfl, rfl, by simp [Effect.ofScans]⟩
  | awaited => exact ⟨rfl, rfl, by simp [Effect.ofScans]⟩
  | answered =>
    refine ⟨rfl, rfl, ofScans_answered fun id => List.forall_mem_cons.2 ⟨rfl, ?_⟩⟩
    split
    · exact List.forall_mem_singleton.2 rfl
    · simp
  | timedOut => exact ⟨rfl, rfl, ofScans_answered fun id => List.forall_mem_singleton.2 rfl⟩

theorem CellRule.unscanned (hr : CellRule m d fx d') : Unscanned d fx d' := by
  cases hr with
  | refused => exact ⟨rfl, rfl, by simp [Effect.ofScans]⟩
  | awaited => exact ⟨rfl, rfl, by simp [Effect.ofScans]⟩
  | answered => exact ⟨rfl, rfl, ofScans_answered fun id => List.forall_mem_singleton.2 rfl⟩
  | timedOut => exact ⟨rfl, rfl, ofScans_answered fun id => List.forall_mem_singleton.2 rfl⟩

theorem SessionRule.unscanned {k : SessionKind} (hr : SessionRule k m d fx d') :
    Unscanned d fx d' := by
  have hanswer (id : InstanceId) (start : Bool) (code : ErrorCode) (cookie : Cookie) :
      (Effect.posted (sessionAnswer k id start code cookie)).ofScans = false := rfl
  cases hr with
  | entered => exact ⟨rfl, rfl, by simp [ofScans_subscription, hanswer]⟩
  | refused => exact ⟨rfl, rfl, by simp [ofScans_request]⟩
  | awaited => exact ⟨rfl, rfl, by simp [ofScans_request]⟩
  | @settled _ _ p _ _ code _ _ _ hr =>
    have hsettled : Unscanned d (sessionOutcome k p code)
        (d.setSession k ((d.session k).settle p code)) := by
      refine ⟨rfl, rfl, ofScans_answered fun id => ?_⟩
      refine List.forall_mem_append.2 ⟨?_, by simp [hanswer]⟩
      split
      · simp [ofScans_subscription]
      · simp
    exact hsettled.append hr.unscanned
  | timedOut => exact ⟨rfl, rfl, ofScans_answered fun id => by simp [hanswer]⟩
  | shared => exact ⟨rfl, rfl, by cases k <;> exact List.forall_mem_singleton.2 rfl⟩

/-- Either a rule of scans is applied, or scans are left alone. -/
theorem DeskRule.scan_or_unscanned (hr : DeskRule m d fx d') :
    ScanRule m d fx d' ∨ Unscanned d fx d' := by
  cases hr with
  | idle => exact .inr (.of_nil rfl rfl)
  | subscribed => exact .inr ⟨rfl, rfl, List.forall_mem_singleton.2 rfl⟩
  | unsubscribed => exact .inr ⟨rfl, rfl, List.forall_mem_singleton.2 rfl⟩
  | monitor h => exact .inr h.unscanned
  | scan h => exact .inl h
  | ranging h => exact .inr h.unscanned
  | cell h => exact .inr h.unscanned
  | session k h => exact .inr h.unscanned

theorem awaits_elsewhere (p : Pending ScanJob) (hserves : m.servesScan = false)
    (hleft : ∀ id, m ≠ .left id) : p.awaits m = false := by
  unfold Pending.awaits
  split
  · cases hserves
  · cases hserves
  · cases hserves
  · cases hserves
  · exact absurd rfl (hleft _)
  · rfl

/-- What is done neither for the scan in flight nor to get one. -/
theorem DeskRule.servesScans {most : Nat} (hr : DeskRule m d fx d') (hserves : m.servesScan = false)
    (hasks : m.asksForScan = false) (hleft : ∀ id, m ≠ .left id) :
    ScanServes most d.scan m fx d'.scan := by
  rcases hr.scan_or_unscanned with hs | hu
  · cases hs with
    | refused => cases hasks
    | awaited => cases hasks
    | served hm => cases hm.symm.trans hserves
    | shared => cases hserves
  · rw [hu.scan]
    exact .idle (fun p _ => awaits_elsewhere p hserves hleft) hu.effects

theorem DeskRule.settings (hr : DeskRule m d fx d') : d'.settings = d.settings := by
  rcases hr.scan_or_unscanned with hs | hu
  · cases hs <;> rfl
  · exact hu.settings

theorem Leaves.unscanned {id : InstanceId} (hl : Leaves id d fx d') :
    Unscanned { d with scan := d.scan.without id } fx d' := by
  obtain ⟨hw, hloc, hmeas⟩ := hl
  have hcell {d₁ d₂ : Desks} {fx : List Effect} (hu : Unscanned d₁ fx d₂) :
      Unscanned d₁ fx ((d₂.forgetCell id).forgetSession .location id) :=
    ⟨hu.settings, hu.scan, hu.effects⟩
  have hlocation {d₁ d₂ : Desks} {fx : List Effect} (hu : Unscanned d₁ fx d₂) :
      Unscanned d₁ fx (d₂.forgetSession .measurement id) :=
    ⟨hu.settings, hu.scan, hu.effects⟩
  have hwifi : Unscanned { d with scan := d.scan.without id } [] (d.forgetWifi id) :=
    .of_nil rfl rfl
  have hgnss := (hlocation hloc.unscanned).append hmeas.unscanned
  exact hwifi.append ((hcell hw.unscanned).append hgnss)

end Desks

/-- No move changes the settings for WiFi requests. -/
theorem Front.Step.settings {F F' : Front} {o o' : Option Dispatch} {m : Move}
    (hs : F.Step o m F' o') : F'.desks.settings = F.desks.settings := by
  cases hs with
  | worked _ hr => exact hr.settings
  | left hl => exact hl.unscanned.settings
  | _ => rfl

namespace Hub

open Desks

variable {A R : Type} [Radio R]

/-! ## Work on scans -/

/-- Something still that the scan in flight does not wait for. -/
theorem Yields.unmoved {α : Type} {m : HubM A R α} {h : Hub A R} {move : Move} (hm : Obeys still m)
    (hidle : ∀ p ∈ h.desks.scan, p.awaits move = false) : Yields m h fun _ d fx =>
      ScanServes h.desks.settings.maxRetries h.desks.scan move fx d.scan := by
  refine (Yields.of_still hm).mono ?_
  rintro _ d fx ⟨rfl, rfl⟩
  exact .idle hidle (by simp)

theorem requestScan_serves (id : InstanceId) (params : ScanParams) (cookie : Cookie)
    (h : Hub A R) :
    Yields (requestScan id params cookie) h fun r d fx =>
      Requests id params cookie r.toBool h.desks.scan fx d.scan := by
  unfold requestScan
  refine .still_bind wifiCapabilities_still fun caps h₁ hd₁ => ?_
  rw [← hd₁]
  refine .ite (fun _ => .pure .declined) fun _ => .get_bind ?_
  refine .ite (fun _ => ?_) fun hbusy => ?_
  · exact .still_bind (emit_still _ _ _) fun _ h₂ hd₂ => .pure (hd₂ ▸ .declined)
  have hfree : h₁.desks.scan = none := Option.not_isSome_iff_eq_none.1 hbusy
  refine .ite (fun _ => .pure .declined) fun _ => ?_
  refine .effect_bind (requestRadio_yields _ h₁) fun accepted h₂ hd₂ => ?_
  rw [hfree]
  cases accepted with
  | false =>
    refine .pure ?_
    rw [hd₂, hfree]
    exact .refused
  | true =>
    refine .get_bind (.still_bind (setSystemTimer_still _ _) fun x h₃ hd₃ => .get_bind ?_)
    rw [show h₃.wifi.scanSlot = none from (congrArg Desks.scan (hd₃.trans hd₂)).trans hfree]
    refine .occupied_bind (.modify_bind rfl rfl rfl fun h₄ hd₄ => .pure ?_)
    obtain ⟨p, hp, hcookie, hkind, hd₄⟩ : ∃ p : Pending ScanJob, p.requester = some id ∧
        p.cookie = cookie ∧ p.kind = { params } ∧ h₄.desks.scan = some p :=
      ⟨_, rfl, rfl, rfl, congrArg Desks.scan hd₄⟩
    rw [hd₄]
    exact .accepted hp hcookie hkind

theorem handleScanResponse_serves (pending : Bool) (raw : Nat) (h : Hub A R) :
    Yields (handleScanResponse pending raw) h fun _ d fx =>
      ScanServes h.desks.settings.maxRetries h.desks.scan
        (.reported (.wifi (.scanResponse pending raw))) fx d.scan := by
  unfold handleScanResponse
  refine .get_bind ?_
  dsimp only
  split
  · rename_i hno
    refine .unmoved (emit_still _ _ _) fun p hp => ?_
    exact Bool.eq_false_iff.2 (Option.filter_eq_none_iff.1 hno p hp)
  · rename_i p hp
    obtain ⟨hs, hphase⟩ := Option.filter_eq_some_iff.1 hp
    have hs : h.desks.scan = some p := hs
    have hphase : p.kind.phase = .awaitingResponse := by simpa using hphase
    rw [scanRefusal_reading, ← acknowledges_eq]
    refine .still_bind (checkCode_still raw) fun _ h₁ hd₁ => ?_
    refine .modify_bind rfl rfl rfl fun h₂ hd₂ => ?_
    have hd₂ : h₂.desks = h.desks := Eq.trans hd₂ hd₁
    have hs₂ : h₂.desks.scan = some p := hd₂ ▸ hs
    rw [hs]
    refine .ite (fun hack => ?_) fun hnack => .ite (fun hleft => ?_) fun hend => ?_
    · refine .bind (setScanJob_yields hs₂ _) fun _ d fx h₃ hP hd₃ => ?_
      obtain ⟨rfl, rfl⟩ := hP
      refine (answerRequester_yields p _ _ h₃).mono ?_
      rintro _ d fx ⟨rfl, rfl⟩
      rw [hd₃]
      exact .furthered (.acknowledged hphase hack)
    · obtain ⟨hcode, hleft⟩ := Bool.and_eq_true_iff.1 hleft
      refine .bind (setScanJob_yields hs₂ _) fun _ d fx h₃ hP hd₃ => ?_
      obtain ⟨rfl, rfl⟩ := hP
      refine .still_bind (setSystemTimer_still _ _) fun x h₄ hd₄ => ?_
      have hs₄ := congrArg Desks.scan (hd₄.trans hd₃)
      refine .bind (setScanJob_yields hs₄ _) fun _ d fx h₅ hP hd₅ => ?_
      obtain ⟨rfl, rfl⟩ := hP
      refine (Yields.of_still (emit_still _ _ _)).mono ?_
      rintro _ d fx ⟨rfl, rfl⟩
      rw [hd₅]
      exact .furthered (.postponed hphase (Bool.eq_false_iff.2 hnack) hcode
        (of_decide_eq_true hleft) x)
    · refine (failScan_yields hs₂ _).mono ?_
      rintro _ d fx ⟨rfl, rfl⟩
      refine .furthered (.refused hphase (Bool.eq_false_iff.2 hnack) fun hcode => ?_)
      rw [hcode, Bool.true_and] at hend
      exact Nat.le_of_not_lt fun hlt => hend (decide_eq_true hlt)

theorem handleScanRetry_serves (x : TimerHandle) (h : Hub A R) :
    Yields (handleScanRetry x) h fun _ d fx =>
      ScanServes h.desks.settings.maxRetries h.desks.scan (.expired x .wifiScanRetry) fx
        d.scan := by
  unfold handleScanRetry
  refine .get_bind ?_
  dsimp only
  split
  · rename_i hno
    refine .unmoved (emit_still _ _ _) fun p hp => ?_
    exact Bool.eq_false_iff.2 (Option.filter_eq_none_iff.1 hno p hp)
  · rename_i p hp
    obtain ⟨hs, hcurrent⟩ := Option.filter_eq_some_iff.1 hp
    have hs : h.desks.scan = some p := hs
    obtain ⟨hphase, rfl⟩ : p.kind.phase = .retryScheduled ∧ p.kind.retryTimer = x := by
      simpa using hcurrent
    rw [hs]
    refine .bind (setScanJob_yields hs _) fun _ d fx h₁ hP hd₁ => ?_
    obtain ⟨rfl, rfl⟩ := hP
    refine .effect_bind (requestRadio_yields _ h₁) fun accepted h₂ hd₂ => ?_
    have hs₂ := congrArg Desks.scan (hd₂.trans hd₁)
    cases accepted with
    | true =>
      refine (setScanJob_yields hs₂ _).mono ?_
      rintro _ d fx ⟨rfl, rfl⟩
      exact .furthered (.resumed hphase)
    | false =>
      refine (failScan_yields hs₂ _).mono ?_
      rintro _ d fx ⟨rfl, rfl⟩
      exact .furthered (.rejected hphase)

theorem handleScanTimeout_serves (x : TimerHandle) (h : Hub A R) :
    Yields (handleScanTimeout x) h fun _ d fx =>
      ScanServes h.desks.settings.maxRetries h.desks.scan (.expired x .wifiScanTimeout) fx
        d.scan := by
  unfold handleScanTimeout
  refine .get_bind ?_
  cases hs : h.wifi.scanSlot with
  | none =>
    refine .unmoved (emit_still _ _ _) fun p hp => ?_
    cases hp.symm.trans hs
  | some p =>
    have hs : h.desks.scan = some p := hs
    refine .ite (fun htimed => ?_) fun hother => .unmoved (emit_still _ _ _) fun q hq => ?_
    · obtain rfl : p.timer = x := beq_iff_eq.1 htimed
      rw [hs]
      refine .still_bind (emit_still _ _ _) fun _ h₁ hd₁ => ?_
      refine .modify_bind rfl rfl rfl fun h₂ hd₂ => ?_
      have hd₂ : h₂.desks = h.desks := Eq.trans hd₂ hd₁
      refine (failScan_yields (hd₂ ▸ hs) _).mono ?_
      rintro _ d fx ⟨rfl, rfl⟩
      exact .furthered .timedOut
    · cases hq.symm.trans hs
      exact Bool.eq_false_iff.2 hother

/-- Results that are passed on are no answers. -/
theorem shareScan_unscanned (scan : Scan) (requester : Option InstanceId) (h : Hub A R) :
    Yields (shareScan scan requester) h fun _ d fx =>
      d = h.desks ∧ ∀ x ∈ fx, x.ofScans = false := by
  have hpost {e : Event} (he : e.type.isResult = true) (hplain : e.isScanAnswer = false)
      (h₁ : Hub A R) : Yields (postScan e) h₁ fun _ d fx =>
        d = h₁.desks ∧ ∀ x ∈ fx, x.ofScans = false :=
    (postScan_yields he h₁).mono fun _ _ _ hP => ⟨hP.1, fun x hx => hP.2 x hx ▸ hplain⟩
  have hall (h₁ : Hub A R) (hd₁ : h₁.desks = h.desks) (monitors : List InstanceId)
      (lone : Bool) : Yields (do
      if !monitors.isEmpty then postScan (.toAll EventType.wifiScanResult (.scan scan))
      else if lone then emit .debug "Scan event has no recipients") h₁ fun _ d fx =>
        d = h.desks ∧ ∀ x ∈ fx, x.ofScans = false := by
    rw [← hd₁]
    refine .ite (fun _ => hpost rfl rfl h₁) fun _ => .ite (fun _ => ?_) fun _ => ?_
    · refine (Yields.of_still (emit_still _ _ _)).mono ?_
      rintro _ d fx ⟨rfl, rfl⟩
      exact ⟨rfl, by simp⟩
    · exact .pure ⟨rfl, by simp⟩
  unfold shareScan
  refine .get_bind ?_
  dsimp only
  split
  · exact hall h rfl _ _
  · refine .bind (hpost rfl rfl h) fun _ d fx h₁ hP hd₁ => ?_
    obtain ⟨rfl, hfx⟩ := hP
    refine (hall h₁ hd₁ _ _).mono ?_
    rintro _ d fx' ⟨rfl, hfx'⟩
    exact ⟨rfl, List.forall_mem_append.2 ⟨hfx, hfx'⟩⟩

theorem handleScan_serves (scan : Scan) (h : Hub A R) :
    Yields (handleScan scan) h fun _ d fx =>
      ScanServes h.desks.settings.maxRetries h.desks.scan (.reported (.wifi (.scan scan))) fx
        d.scan := by
  have hidle (h₁ : Hub A R) (hno : awaitsResults h₁.desks.scan = false) :
      ∀ p ∈ h₁.desks.scan, p.awaits (.reported (.wifi (.scan scan))) = false := by
    intro p hp
    rwa [hp] at hno
  unfold handleScan
  refine .get_bind (.ite (fun hawaits => ?_) fun hno => .ite (fun _ => ?_) fun _ => ?_)
  · obtain ⟨p, hs, hphase⟩ : ∃ p, h.desks.scan = some p ∧ p.kind.phase = .awaitingResults := by
      unfold awaitsResults at hawaits
      split at hawaits
      · cases hawaits
      · exact ⟨_, ‹_›, by simpa using hawaits⟩
    refine .bind (vacateScan_yields h) fun o d fx h₁ hP hd₁ => ?_
    obtain ⟨rfl, rfl, rfl⟩ := hP
    refine (shareScan_unscanned scan _ h₁).mono ?_
    rintro _ d fx ⟨rfl, hfx⟩
    rw [hd₁, hs]
    exact .furthered (.completed hphase hfx)
  · refine (shareScan_unscanned scan none h).mono ?_
    rintro _ d fx ⟨rfl, hfx⟩
    exact .idle (hidle h (Bool.eq_false_iff.2 hno)) hfx
  · exact .unmoved (emit_still _ _ _) (hidle h (Bool.eq_false_iff.2 hno))

theorem callScan_serves (id : InstanceId) (params : ScanParams) (cookie : Cookie) (h : Hub A R) :
    Yields (perform id (.scan params cookie)) h fun b d fx =>
      Requests id params cookie b h.desks.scan fx d.scan := by
  show Yields (askFor id .wifi "wifi scan" (requestScan id params cookie)) h _
  refine .still_bind (still_grants.permitted_obeys id .wifi) fun ok h₁ hd₁ => ?_
  rw [← hd₁]
  refine .ite (fun _ => ?_) fun _ => .pure .declined
  refine .bind (requestScan_serves id params cookie h₁) fun r d fx h₂ hP hd₂ => ?_
  have hend {h₃ : Hub A R} (hd₃ : h₃.desks = d) :
      Yields (pure r.toBool) h₃ fun b d' fx' =>
        Requests id params cookie b h₁.desks.scan (fx ++ fx') d'.scan := by
    refine .pure ?_
    rw [List.append_nil, hd₃]
    exact hP
  unfold admitted
  cases r with
  | ok => exact hend hd₂
  | error e => exact .still_bind (emit_still _ _ _) fun _ h₃ hd₃ => hend (hd₃.trans hd₂)

/-! ## Moves -/

/-- Work that is not about scans. -/
theorem Yields.serves {α : Type} {m : HubM A R α} {h : Hub A R} {move : Move}
    (hm : Yields m h fun _ d fx => DeskRule move h.desks fx d) (hserves : move.servesScan = false)
    (hasks : move.asksForScan = false) (hleft : ∀ id, move ≠ .left id) : Yields m h fun _ d fx =>
      ScanServes h.desks.settings.maxRetries h.desks.scan move fx d.scan :=
  hm.mono fun _ _ _ hr => hr.servesScans hserves hasks hleft

theorem perform_serves (id : InstanceId) (c : Call) (h : Hub A R) :
    Yields (perform id c) h fun _ d fx =>
      ScanServes h.desks.settings.maxRetries h.desks.scan (.called id c) fx d.scan := by
  by_cases hasks : (Move.called id c).asksForScan = true
  · cases c with
    | scan params cookie =>
      exact (callScan_serves id params cookie h).mono fun _ _ _ hr => .called hr
    | _ => cases hasks
  · exact Yields.serves ((perform_yields id c h).mono fun _ _ _ hr => hr.1) rfl
      (Bool.eq_false_iff.2 hasks) nofun

theorem handleReport_serves (r : Report) (h : Hub A R) :
    Yields (handleReport r) h fun _ d fx =>
      ScanServes h.desks.settings.maxRetries h.desks.scan (.reported r) fx d.scan := by
  have hrule := handleReport_yields r h
  cases r with
  | wifi r =>
    cases r with
    | scanResponse pending raw => exact handleScanResponse_serves pending raw h
    | scan scan => exact handleScan_serves scan h
    | _ => exact hrule.serves rfl rfl nofun
  | _ => exact hrule.serves rfl rfl nofun

theorem handleSystemTimer_serves (x : TimerHandle) (u : TimerPurpose) (h : Hub A R) :
    Yields (handleSystemTimer x u) h fun _ d fx =>
      ScanServes h.desks.settings.maxRetries h.desks.scan (.expired x u) fx d.scan := by
  have hrule := handleSystemTimer_yields x u h
  cases u with
  | wifiScanRetry => exact handleScanRetry_serves x h
  | wifiScanTimeout => exact handleScanTimeout_serves x h
  | _ => exact hrule.serves rfl rfl nofun

omit [Radio R] in
theorem Changed.serves {h h' : Hub A R} {most : Nat} {m : Move} {d : Desks} {fx : List Effect}
    (hs : ScanServes most h.desks.scan m fx d.scan) (hc : h.Changed d fx h') :
    ∃ fx, ScanServes most h.wifi.scanSlot m fx h'.wifi.scanSlot ∧
      h'.scanFile = h.scanFile.after h'.wifi.scanSlot fx := by
  have hslot : h'.wifi.scanSlot = d.scan := congrArg Desks.scan hc.desks
  rw [hslot]
  exact ⟨fx, hs, hc.scanFile⟩

/-- A nanoapp takes its scan along when it leaves, and nobody else's. -/
theorem releaseResources_serves {h h' : Hub A R} {id : InstanceId} (most : Nat)
    (hr : releaseResources id h = .ok () h') :
    ∃ fx, ScanServes most h.wifi.scanSlot (.left id) fx h'.wifi.scanSlot ∧
      h'.scanFile = h.scanFile.after h'.wifi.scanSlot fx := by
  obtain ⟨d, fx, hl, hf⟩ := (releaseResources_front id h).ok hr
  obtain ⟨-, hscan, hfx⟩ := hl.unscanned
  have hfile : h'.scanFile = h.scanFile.after d.scan fx := by
    rw [scanFile_eq, hf, scanFile_eq, ← Front.scanFile_after]
    rfl
  have hslot : h'.wifi.scanSlot = h.wifi.scanSlot.without id :=
    (congrArg ScanFile.slot hfile).trans hscan
  have hd : d.scan = h'.wifi.scanSlot := hscan.trans hslot.symm
  refine ⟨fx, ?_, hd ▸ hfile⟩
  rw [hslot]
  by_cases howned : Slot.isOwnedBy h.wifi.scanSlot id = true
  · rw [without_eq_none howned]
    cases hs : h.wifi.scanSlot with
    | none =>
      rw [hs] at howned
      cases howned
    | some p =>
      rw [hs] at howned
      exact .furthered (.left (eq_of_beq howned) hfx)
  · rw [without_eq_self howned]
    refine .idle (fun p hp => ?_) hfx
    rw [Option.mem_def.1 hp] at howned
    exact Bool.eq_false_iff.2 howned

/-- Every move serves scans by the protocol. -/
theorem Moves.servesScans {h h' : Hub A R} {o o' : Option Dispatch} {m : Move}
    (hm : Moves h o m h' o') :
    ∃ fx, ScanServes h.wifi.settings.maxRetries h.wifi.scanSlot m fx h'.wifi.scanSlot ∧
      h'.scanFile = h.scanFile.after h'.wifi.scanSlot fx := by
  have hidle (hawaits : ∀ p : Pending ScanJob, p.awaits m = false)
      (hfile : h'.scanFile = h.scanFile) :
      ∃ fx, ScanServes h.wifi.settings.maxRetries h.wifi.scanSlot m fx h'.wifi.scanSlot ∧
        h'.scanFile = h.scanFile.after h'.wifi.scanSlot fx := by
    have hslot : h'.wifi.scanSlot = h.wifi.scanSlot := congrArg ScanFile.slot hfile
    rw [hslot]
    refine ⟨[], .idle (fun p _ => hawaits p) (by simp), ?_⟩
    rw [hfile, ScanFile.after_of_unscanned (by simp)]
    rfl
  cases hm with
  | call hr =>
    obtain ⟨d, fx, hs, hc⟩ := (perform_serves _ _ h).ok hr
    exact hc.serves hs
  | report hr =>
    obtain ⟨d, fx, hs, hc⟩ := (handleReport_serves _ h).ok hr
    exact hc.serves hs
  | expiry hr =>
    obtain ⟨d, fx, hs, hc⟩ := (handleSystemTimer_serves _ _ h).ok hr
    exact hc.serves hs
  | leave hr => exact releaseResources_serves _ hr
  | join => exact hidle (fun _ => rfl) rfl
  | take => exact hidle (fun _ => rfl) rfl
  | deliver => exact hidle (fun _ => rfl) rfl
  | other hf =>
    refine hidle (fun _ => rfl) ?_
    rw [scanFile_eq, hf, ← scanFile_eq]

theorem Moves.settings {h h' : Hub A R} {o o' : Option Dispatch} {m : Move}
    (hm : Moves h o m h' o') : h'.wifi.settings = h.wifi.settings :=
  hm.front.settings

end Hub

end ContextHub
