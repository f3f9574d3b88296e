import ContextHub.Proofs.Hub.ScanExchanges
import ContextHub.Proofs.Hub.SystemTimers
/-!
# How scans are retried

A `Pursuit` follows a scan from its acceptance, move by move, until its slot is vacated, and keeps
what is exchanged for it. How often the radio is called and what the requester is answered first
goes by this list, whatever the order in which responses come and timers expire (`Pursued`): a
refusal is passed over while retries are left, and the radio is called again when the timer for the
retry expires, and at no other time.
-/

namespace ContextHub

open Exchange

namespace Hub

variable {A R : Type}

/-- What is exchanged in a move for the scan in flight. -/
def exchanges (h : Hub A R) (m : Move) (h' : Hub A R) : List Exchange :=
  Slot.heard h.wifi.scanSlot m ++
    (h'.scanCalls.drop h.scanCalls.length).map fun c => .called c.2

theorem exchanges_eq {h h' : Hub A R} {m : Move} {s : Slot ScanJob} {fx : List Effect}
    (hfile : h'.scanFile = h.scanFile.after s fx) :
    h.exchanges m h' = Slot.exchanges h.wifi.scanSlot m fx := by
  rw [exchanges, scanCalls_after hfile, List.drop_left, Slot.exchanges]

variable [Radio R]

/-! ## Pursuits -/

/-- A scan that is accepted in `h` is followed, move by move, as long as it is in flight. -/
inductive Pursuit (id : InstanceId) (params : ScanParams) (cookie : Cookie) (h : Hub A R)
    (o : Option Dispatch) : List Exchange → Hub A R → Option Dispatch → Prop
  | accepted {h₁ : Hub A R} (hr : perform id (.scan params cookie) h = .ok true h₁) :
      Pursuit id params cookie h o (h.exchanges (.called id (.scan params cookie)) h₁) h₁ o
  | onward {es : List Exchange} {m : Move} {h₁ h₂ : Hub A R} {o₁ o₂ : Option Dispatch}
      (hp : Pursuit id params cookie h o es h₁ o₁) (hs : h₁.wifi.scanSlot.isSome = true)
      (hm : Moves h₁ o₁ m h₂ o₂) :
      Pursuit id params cookie h o (es ++ h₁.exchanges m h₂) h₂ o₂

/-- What holds all along a pursuit. -/
structure Tracks (id : InstanceId) (params : ScanParams) (cookie : Cookie) (h : Hub A R)
    (es : List Exchange) (h' : Hub A R) : Prop where
  settings : h'.wifi.settings = h.wifi.settings
  calls : h'.scanCalls = h.scanCalls ++ (Exchange.calls es).map (params, ·)
  budget : (Exchange.calls es).length ≤ 1 + h.wifi.settings.maxRetries
  answers : ∃ codes, h'.scanAnswers = h.scanAnswers ++ codes.map (scanAnswer id · cookie) ∧
    Answered h.wifi.settings.maxRetries h'.wifi.scanSlot es codes ∧
    ∀ p ∈ h'.wifi.scanSlot,
      p.Stands id params cookie h.wifi.settings.maxRetries es ∧ p.codes = codes

section

variable {id : InstanceId} {params : ScanParams} {cookie : Cookie} {h h' h₁ h₂ : Hub A R}
  {es : List Exchange} {o o' o₁ o₂ : Option Dispatch} {m : Move}

theorem tracks_accepted (hr : perform id (.scan params cookie) h = .ok true h₁) :
    Tracks id params cookie h (h.exchanges (.called id (.scan params cookie)) h₁) h₁ := by
  have hm : Moves h none (.called id (.scan params cookie)) h₁ none := .call hr
  obtain ⟨d, fx, hreq, hc⟩ := (callScan_serves id params cookie h).ok hr
  have hfile := hc.scanFile
  have hslot : h₁.wifi.scanSlot = d.scan := congrArg ScanFile.slot hfile
  have hcalls := scanCalls_after hfile
  have hanswers := scanAnswers_after hfile
  rw [exchanges_eq hfile]
  generalize h.desks.scan = s at hreq
  generalize d.scan = s' at hreq hslot
  cases hreq with
  | @accepted p hid hcookie hkind =>
    have hp : p.Stands id params cookie h.wifi.settings.maxRetries [.called true] := by
      refine ⟨hid, hcookie, ?_, ?_, ?_, ?_⟩ <;> rw [hkind]
      · exact Nat.zero_le _
      · rfl
      · exact .awaiting
    have hcodes : p.codes = [] := Pending.codes_of_ne (by rw [hkind]; exact nofun)
    refine ⟨hm.settings, hcalls, hp.calls_le, [], hanswers, ?_, ?_⟩
    · rw [hslot, ← hcodes]
      exact hp.answered
    · rw [hslot]
      rintro _ ⟨⟩
      exact ⟨hp, hcodes⟩

theorem Tracks.onward (ht : Tracks id params cookie h es h₁)
    (hs : h₁.wifi.scanSlot.isSome = true) (hm : Moves h₁ o₁ m h₂ o₂) :
    Tracks id params cookie h (es ++ h₁.exchanges m h₂) h₂ := by
  obtain ⟨p, hp⟩ := Option.isSome_iff_exists.1 hs
  obtain ⟨codes, hanswers, -, hall⟩ := ht.answers
  obtain ⟨hstands, rfl⟩ := hall p hp
  obtain ⟨fx, hserves, hfile⟩ := hm.servesScans
  rw [exchanges_eq hfile, hp]
  have hproceeds : ∃ codes, p.Proceeds id params cookie h.wifi.settings.maxRetries
      (es ++ Slot.exchanges (some p) m fx) fx h₂.wifi.scanSlot codes := by
    rw [hp, ht.settings] at hserves
    rcases hserves.of_some with ⟨hidle, hslot, hfx⟩ | hf
    · rw [hslot]
      exact ⟨_, hstands.idle hidle hfx⟩
    · exact hstands.further hf
  obtain ⟨codes, hproceeds⟩ := hproceeds
  refine ⟨hm.settings.trans ht.settings, ?_, hproceeds.budget, p.codes ++ codes, ?_,
    hproceeds.answered, hproceeds.stands⟩
  · -- the list keeps of a call only whether it was accepted; what for is the same all along
    have hparams : fx.filterMap Effect.scanCall? =
        (fx.filterMap Effect.scanCall?).map fun c => (params, c.2) := by
      refine (List.map_id _).symm.trans (List.map_congr_left fun c hc => ?_)
      rw [← hproceeds.calls c hc]
      rfl
    rw [scanCalls_after hfile, ht.calls, calls_append, Slot.calls_exchanges, List.map_append,
      List.map_map, List.append_assoc]
    exact congrArg _ (congrArg _ hparams)
  · rw [scanAnswers_after hfile, hanswers, hproceeds.answers, List.map_append, List.append_assoc]

/-- Unless its requester leaves, a scan is answered by the time that it is over. -/
theorem Tracks.vacated (ht : Tracks id params cookie h es h₁)
    (hs : h₁.wifi.scanSlot.isSome = true) (hm : Moves h₁ o₁ m h₂ o₂)
    (hnone : h₂.wifi.scanSlot = none) (hleft : m ≠ .left id) : h₂.scanAnswers ≠ h.scanAnswers := by
  obtain ⟨p, hp⟩ := Option.isSome_iff_exists.1 hs
  obtain ⟨codes, hanswers, -, hall⟩ := ht.answers
  obtain ⟨hstands, rfl⟩ := hall p hp
  obtain ⟨fx, hserves, hfile⟩ := hm.servesScans
  rw [hp, ht.settings, hnone] at hserves
  rcases hserves.of_some with ⟨-, hslot, -⟩ | hf
  · cases hslot
  · rw [scanAnswers_after hfile, hanswers, List.append_assoc]
    intro hsame
    obtain ⟨hcodes, hfx⟩ := List.append_eq_nil_iff.1 (List.append_right_eq_self.1 hsame)
    rcases hstands.answers_of_vacated hf hleft with hne | hne
    · exact hne (List.map_eq_nil_iff.1 hcodes)
    · exact hne hfx

theorem Pursuit.tracks (hp : Pursuit id params cookie h o es h' o') :
    Tracks id params cookie h es h' := by
  induction hp with
  | accepted hr => exact tracks_accepted hr
  | onward _ hs hm ih => exact ih.onward hs hm

end

/-! ## Refusals -/

/-- What is tried to set a timer for a retry. -/
def trySetBackoff (h : Hub A R) : Except TimerError (TimerHandle × TimerPool) :=
  h.timers.set h.now {
    owner := .system
    duration := h.wifi.settings.retryBackoff
    purpose := some .wifiScanRetry }

/-- A scan is put off: nothing is posted and no radio asked, and one timer is set. -/
structure PutsOff (h h' : Hub A R) : Prop where
  queue : h'.queue = h.queue
  journal : h'.journal = h.journal
  scheduled : ∃ p, h'.wifi.scanSlot = some p ∧ p.kind.phase = .retryScheduled ∧
    h.trySetBackoff = .ok (p.kind.retryTimer, h'.timers)

omit [Radio R] in
theorem setSystemTimer_sets (duration : Nat) (purpose : TimerPurpose) (h : Hub A R) :
    Ends (setSystemTimer duration purpose) h
      (fun x h' => ∃ timers log, h' = { h with timers, log } ∧
        h.timers.set h.now { owner := .system, duration, purpose := some purpose } =
          .ok (x, timers))
      (fun e _ => ∃ err, e = .fatal (timerFault purpose err) ∧
        h.timers.set h.now { owner := .system, duration, purpose := some purpose } =
          .error err) := by
  unfold setSystemTimer trySetTimer
  rw [ends_bind, ends_bind, ends_get]
  split
  · rename_i err hs
    exact ⟨err, rfl, hs⟩
  · rename_i x timers hs
    exact ⟨timers, _, rfl, hs⟩

omit [Radio R] in
/-- A recoverable refusal while retries are left. -/
theorem handleScanResponse_putsOff {h : Hub A R} {p : Pending ScanJob} {raw : Nat}
    (hs : h.wifi.scanSlot = some p) (hphase : p.kind.phase = .awaitingResponse)
    (hleft : p.kind.retriesUsed < h.wifi.settings.maxRetries)
    (hcode : (nackCode raw).isRecoverable = true) (pending : Bool) :
    Ends (handleScanResponse pending raw) h (fun _ => h.PutsOff)
      (fun e _ => ∃ err, e = .fatal (timerFault .wifiScanRetry err) ∧
        h.trySetBackoff = .error err) := by
  have hawaits : h.wifi.scanSlot.filter (fun p => p.kind.phase == .awaitingResponse) = some p :=
    Option.filter_eq_some_iff.2 ⟨hs, by simp [hphase]⟩
  have hcheck : Ends (checkCode raw) h (fun _ h₁ => ∃ log, h₁ = { h with log })
      (fun e _ => ∃ err, e = .fatal (timerFault .wifiScanRetry err) ∧
        h.trySetBackoff = .error err) := by
    unfold checkCode
    rw [ends_ite]
    split <;> exact ⟨_, rfl⟩
  unfold handleScanResponse
  rw [ends_bind, ends_get]
  dsimp only
  rw [hawaits]
  refine hcheck.bind ?_
  rintro _ _ ⟨log, rfl⟩
  refine ends_bind.2 (ends_modify.2 ?_)
  -- of the three branches this refusal takes the second
  rw [scanRefusal_reading, ← acknowledges_eq, acknowledges_eq_false hcode, ends_ite,
    if_neg Bool.false_ne_true, ends_ite, if_pos (by simp [hcode, hleft])]
  refine ends_bind.2 (ends_modify.2 (ends_bind.2 ((setSystemTimer_sets _ _ _).mono ?_ ?_)))
  · rintro x _ ⟨timers, log, rfl, hset⟩
    refine ⟨rfl, rfl, { p with kind := { p.kind with
      phase := .retryScheduled, retriesUsed := p.kind.retriesUsed + 1, retryTimer := x } },
      ?_, rfl, hset⟩
    show Slot.setKind (Slot.setKind h.wifi.scanSlot _) _ = _
    rw [hs]
    rfl
  · rintro e _ ⟨err, rfl, hset⟩
    exact ⟨err, rfl, hset⟩

/-! ## Retries -/

/-- The radio is not called for a scan, whether the step ends or halts. -/
def uncalled : Law A R where
  rel h h' := h'.scanCalls = h.scanCalls
  halts h _ h' := h'.scanCalls = h.scanCalls
  refl _ := rfl
  trans h h' := h'.trans h
  halts_of_rel h h' := h'.trans h

section

omit [Radio R]

theorem emit_uncalled (level : Level) (message : String) (fields : List (String × String)) :
    Obeys uncalled (emit level message fields : HubM A R Unit) :=
  .modify fun _ => rfl

theorem fatal_uncalled (message : String) : Obeys uncalled (fatal message : HubM A R Unit) :=
  .bind (emit_uncalled _ _ _) fun _ => .throw fun _ => rfl

theorem deferOrDie_uncalled (c : Callback) : Obeys uncalled (deferOrDie c : HubM A R Unit) := by
  have hdefer : Obeys uncalled (defer c : HubM A R Bool) := by
    intro h
    unfold defer
    rw [ends_bind, ends_get]
    split
    · exact rfl
    · exact rfl
  exact .bind hdefer fun _ => .ite (fun _ => .pure _) fun _ => fatal_uncalled _

theorem postOrDie_uncalled (e : Event) : Obeys uncalled (postOrDie e : HubM A R Unit) := by
  have hpost : Obeys uncalled (tryPost e : HubM A R (Except QueueError Unit)) := by
    intro h
    unfold tryPost
    rw [ends_bind, ends_get]
    split
    · exact rfl
    · exact rfl
  refine .bind hpost fun r => ?_
  split
  · exact .pure _
  · exact fatal_uncalled _

theorem cancelTimer_uncalled (owner : InstanceId) (x : TimerHandle) :
    Obeys uncalled (cancelTimer owner x : HubM A R Bool) := by
  unfold cancelTimer
  refine .get_bind fun h => ?_
  split
  · exact .pure _
  · exact .bind (.modify fun _ => rfl) fun _ => .pure _

theorem failScan_uncalled (code : ErrorCode) : Obeys uncalled (failScan code : HubM A R Unit) := by
  have hvacate : Obeys uncalled (vacateScan : HubM A R (Option (Pending ScanJob))) := by
    unfold vacateScan
    refine .get_bind fun _ => ?_
    split
    · exact .pure _
    · refine .bind (.modify fun _ => rfl) fun _ => .bind (cancelTimer_uncalled _ _) fun _ => ?_
      refine .ite (fun _ => ?_) fun _ => .pure _
      exact .bind (cancelTimer_uncalled _ _) fun _ => .pure _
  refine .bind hvacate fun o => ?_
  split
  · exact .pure _
  · refine .bind (.modify fun _ => rfl) fun _ => ?_
    unfold answerRequester
    split
    · exact .pure _
    · exact postOrDie_uncalled _

end

/-- The radio is called for the scan and no other time. -/
def CallsOnce (h : Hub A R) (params : ScanParams) (h' : Hub A R) : Prop :=
  ∃ accepted, h'.scanCalls = h.scanCalls ++ [(params, accepted)]

theorem requestRadio_callsOnce (params : ScanParams) (h : Hub A R) :
    Ends (requestRadio (.scan params)) h (fun _ => h.CallsOnce params)
      (fun e h' => h.CallsOnce params h' ∨
        ∃ message, e = .fatal message ∧
          Radio.request h.now (.scan params) h.radios = .error message) := by
  unfold requestRadio
  rw [ends_bind, ends_get]
  split
  · rename_i message hr
    exact .inr ⟨message, rfl, hr⟩
  · rename_i reaction hr
    refine ends_bind.2 (ends_set.2 (ends_bind.2 ?_))
    have hcalled : CallsOnce h params { h with
        radios := reaction.next
        journal := .requested (.scan params) reaction.accepted :: h.journal } :=
      ⟨reaction.accepted, List.reverse_cons⟩
    refine (Obeys.forM (L := uncalled) (fun r _ => deferOrDie_uncalled (.report r)) _).mono ?_ ?_
    · exact fun _ h₁ hc => hcalled.imp fun _ => hc.trans
    · exact fun _ h₁ hc => .inl (hcalled.imp fun _ => hc.trans)

/-- A retry whose time has come calls the radio, unless the radio breaks down on the spot. -/
theorem handleScanRetry_callsOnce {h : Hub A R} {p : Pending ScanJob}
    (hs : h.wifi.scanSlot = some p) (hphase : p.kind.phase = .retryScheduled) :
    Ends (handleScanRetry p.kind.retryTimer) h (fun _ => h.CallsOnce p.kind.params)
      (fun e h' => h.CallsOnce p.kind.params h' ∨ ∃ message, e = .fatal message ∧
        Radio.request h.now (.scan p.kind.params) h.radios = .error message) := by
  unfold handleScanRetry
  rw [ends_bind, ends_get]
  dsimp only
  rw [Option.filter_eq_some_iff.2 ⟨hs, by simp [hphase]⟩]
  refine ends_bind.2 (ends_modify.2 (ends_bind.2 ((requestRadio_callsOnce _ _).mono ?_ ?_)))
  · intro accepted h₁ hc
    have hrest : Obeys uncalled (if accepted then
        setScanJob { p.kind with retryTimer := .invalid, phase := .awaitingResponse }
      else failScan .error : HubM A R Unit) :=
      .ite (fun _ => .modify fun _ => rfl) fun _ => failScan_uncalled _
    refine (hrest h₁).mono ?_ ?_
    · exact fun _ _ hc' => hc.imp fun _ => hc'.trans
    · exact fun _ _ hc' => .inl (hc.imp fun _ => hc'.trans)
  · exact fun _ _ he => he

section

variable {h h' : Hub A R} {o o' : Option Dispatch} {m : Move}

/-- What the scan in flight does not wait for passes it by. -/
theorem Moves.scanFile_of_idle {p : Pending ScanJob} (hm : Moves h o m h' o')
    (hs : h.wifi.scanSlot = some p) (hidle : p.awaits m = false) :
    h'.scanFile = h.scanFile := by
  obtain ⟨fx, hserves, hfile⟩ := hm.servesScans
  rw [hs] at hserves
  rcases hserves.of_some with ⟨-, hslot, hfx⟩ | hf
  · rw [hfile, ScanFile.after_of_unscanned hfx, hslot, ← hs]
    rfl
  · cases hidle.symm.trans hf.awaits

/-- While a scan is in flight the radio is called for no other reason. -/
theorem Moves.retries_of_called (hm : Moves h o m h' o') (hs : h.wifi.scanSlot.isSome = true)
    (hcalled : h'.scanCalls ≠ h.scanCalls) : ∃ p, h.wifi.scanSlot = some p ∧
      p.kind.phase = .retryScheduled ∧ m = .expired p.kind.retryTimer .wifiScanRetry := by
  obtain ⟨p, hp⟩ := Option.isSome_iff_exists.1 hs
  obtain ⟨fx, hserves, hfile⟩ := hm.servesScans
  have hsome : fx.filterMap Effect.scanCall? ≠ [] := by
    intro hnil
    refine hcalled ((scanCalls_after hfile).trans ?_)
    rw [hnil, List.append_nil]
  refine ⟨p, hp, ?_⟩
  rw [hp] at hserves
  rcases hserves.of_some with ⟨-, -, hfx⟩ | hf
  · exact absurd (Effect.scanCalls_eq_nil hfx) hsome
  · generalize h'.wifi.scanSlot = s at hf
    cases hf with
    | acknowledged => exact absurd (p.told_calls _) hsome
    | postponed => exact absurd rfl hsome
    | refused => exact absurd (p.told_calls _) hsome
    | resumed hphase => exact ⟨hphase, rfl⟩
    | rejected hphase => exact ⟨hphase, rfl⟩
    | completed _ hfx => exact absurd (Effect.scanCalls_eq_nil hfx) hsome
    | timedOut => exact absurd (p.told_calls _) hsome
    | left _ hfx => exact absurd (Effect.scanCalls_eq_nil hfx) hsome

/-- With no scan in flight there is nothing to call the radio for, and nobody to answer. -/
theorem Moves.scanFile_of_none (hm : Moves h o m h' o') (hs : h.wifi.scanSlot = none)
    (hasks : m.asksForScan = false) : h'.scanFile = h.scanFile := by
  obtain ⟨fx, hserves, hfile⟩ := hm.servesScans
  rw [hs] at hserves
  generalize hs' : h'.wifi.scanSlot = s' at hserves hfile
  cases hserves with
  | idle _ hfx =>
    rw [hfile, ScanFile.after_of_unscanned hfx, scanFile, hs]
  | called => cases hasks

end

/-- While a scan is in flight every other one is refused. -/
theorem requestScan_busy {h : Hub A R} (hs : h.wifi.scanSlot.isSome = true) (id : InstanceId)
    (params : ScanParams) (cookie : Cookie) :
    Ends (requestScan id params cookie) h
      (fun reply h' => (reply = .error (.notSupported "on-demand scan") ∨
        reply = .error (.busy "scan")) ∧ h'.scanFile = h.scanFile) fun _ _ => False := by
  unfold requestScan wifiCapabilities
  rw [ends_bind, ends_bind, ends_get, ends_pure]
  generalize (if h.wifi.available = true then _ else 0) = capabilities
  rw [ends_ite]
  split
  · exact ⟨.inl rfl, rfl⟩
  · rw [ends_bind, ends_get, ends_ite, if_pos hs]
    exact ⟨.inr rfl, rfl⟩

/-- Where the system may have as many timers as it has purposes, it can have one for a retry. -/
theorem Reached.trySetBackoff_ok [Behaviour A] {config : Config} {h : Hub A R} {p : Pending ScanJob}
    (hh : Reached config h) (hl : h.timers.HandlesLeft) (hn : 6 ≤ config.timers.system)
    (hs : h.wifi.scanSlot = some p) (hphase : p.kind.phase = .awaitingResponse) :
    ∃ x timers, h.trySetBackoff = .ok (x, timers) := by
  obtain ⟨now, radios, metrics, hrel⟩ := hh.within settling_hosts
  obtain ⟨ht, hlimits, -⟩ := hrel (blank_tidy config now radios metrics)
  have hsettled := ht.settled hl
  have hnone : h.core.awaited .wifiScanRetry = none := by
    have hscan : h.core.scan = some p := hs
    simp [Core.awaited, hscan, hphase]
  have hlt := hsettled.systemCount_lt ht.coherent hnone
  cases hset : h.trySetBackoff with
  | ok r => exact ⟨r.1, r.2, rfl⟩
  | error err =>
    rcases TimerPool.set_system_eq_error hset with hfull | hno
    · rw [show h.timers.limits = config.timers from hlimits] at hfull
      exact absurd (Nat.lt_of_le_of_lt (Nat.le_trans hn hfull) hlt) (Nat.lt_irrefl 6)
    · exact absurd hl hno

/-! ## The protocol -/

/-- How a scan was served that `h` accepted, up to `h'`, and what is to happen next. -/
structure Pursued (id : InstanceId) (params : ScanParams) (cookie : Cookie) (h : Hub A R)
    (es : List Exchange) (h' : Hub A R) : Prop where
  settings : h'.wifi.settings = h.wifi.settings
  calls : h'.scanCalls = h.scanCalls ++ (Exchange.calls es).map (params, ·)
  budget : (Exchange.calls es).length ≤ 1 + h.wifi.settings.maxRetries
  answers : ∃ codes, h'.scanAnswers = h.scanAnswers ++ codes.map (scanAnswer id · cookie) ∧
    Answered h.wifi.settings.maxRetries h'.wifi.scanSlot es codes
  /-- A recoverable refusal of the last call while not all retries are used. -/
  putsOff : h'.wifi.scanSlot.isSome = true → response es = none →
    (Exchange.calls es).length ≤ h.wifi.settings.maxRetries → ∀ pending raw,
      nackCode raw = .busy ∨ nackCode raw = .rejectedRateLimit →
        Ends (handleReport (.wifi (.scanResponse pending raw))) h' (fun _ => h'.PutsOff)
          (fun e _ => ∃ err, e = .fatal (timerFault .wifiScanRetry err) ∧
            h'.trySetBackoff = .error err)
  /-- The expiry of the very timer that was set for a retry. -/
  retries : ∀ p ∈ h'.wifi.scanSlot, p.kind.phase = .retryScheduled →
    Ends (handleSystemTimer p.kind.retryTimer .wifiScanRetry) h' (fun _ => h'.CallsOnce params)
      (fun e h'' => h'.CallsOnce params h'' ∨ ∃ message, e = .fatal message ∧
        Radio.request h'.now (.scan params) h'.radios = .error message)
  /-- Moves by which the scan is over. -/
  vacated : h'.wifi.scanSlot.isSome = true → ∀ o' m h'' o'', Moves h' o' m h'' o'' →
    h''.wifi.scanSlot = none → m ≠ .left id → h''.scanAnswers ≠ h.scanAnswers
  /-- Moves that the scan does not wait for. -/
  passes : ∀ p, h'.wifi.scanSlot = some p → ∀ o' m h'' o'', Moves h' o' m h'' o'' →
    p.awaits m = false → h''.scanFile = h'.scanFile
  /-- All moves but the expiry of that timer. -/
  others : h'.wifi.scanSlot.isSome = true → ∀ o' m h'' o'', Moves h' o' m h'' o'' →
    h''.scanCalls ≠ h'.scanCalls → ∃ p, h'.wifi.scanSlot = some p ∧
      p.kind.phase = .retryScheduled ∧ m = .expired p.kind.retryTimer .wifiScanRetry

theorem Tracks.pursued {id : InstanceId} {params : ScanParams} {cookie : Cookie} {h h' : Hub A R}
    {es : List Exchange} (ht : Tracks id params cookie h es h') :
    Pursued id params cookie h es h' where
  settings := ht.settings
  calls := ht.calls
  budget := ht.budget
  answers :=
    have ⟨codes, hanswers, hanswered, _⟩ := ht.answers
    ⟨codes, hanswers, hanswered⟩
  putsOff hs hopen hleft pending raw hcode := by
    obtain ⟨p, hp⟩ := Option.isSome_iff_exists.1 hs
    obtain ⟨_, _, _, hall⟩ := ht.answers
    have hstands := (hall p hp).1
    have hphase : p.kind.phase = .awaitingResponse := by
      by_contra hne
      obtain ⟨r, hr⟩ := hstands.response_of_ne hne
      cases hopen.symm.trans hr
    have hcount := hstands.count
    rw [if_neg (by simp [hphase])] at hcount
    have hretries : p.kind.retriesUsed < h'.wifi.settings.maxRetries := by
      rw [ht.settings]
      omega
    exact handleScanResponse_putsOff hp hphase hretries ((recoverable_iff _).2 hcode) pending
  retries p hp hphase := by
    obtain ⟨_, _, _, hall⟩ := ht.answers
    have hparams := (hall p hp).1.params
    rw [← hparams]
    exact handleScanRetry_callsOnce hp hphase
  vacated hs _ _ _ _ hm := ht.vacated hs hm
  passes _ hs _ _ _ _ hm := hm.scanFile_of_idle hs
  others hs _ _ _ _ hm := hm.retries_of_called hs

theorem Course.settings {P : Hub A R → Move → Hub A R → Prop} {h h' : Hub A R}
    {o o' : Option Dispatch} {ms : List Move} (hc : Course P h o ms h' o') :
    h'.wifi.settings = h.wifi.settings := by
  induction hc with
  | stay => rfl
  | snoc _ hm _ ih => exact hm.settings.trans ih

/-- From its acceptance on a scan is served as `Pursued` says, whatever comes in whatever order: the
radio is called at most once and once more for each retry that is allowed; the first answer is a
success exactly if the radio acknowledged the last call, and otherwise it tells how that call was
refused, or an error if the radio did not accept another call, or the timeout; a recoverable refusal
is not answered while retries are left but sets one timer, and only the expiry of this timer makes
the radio be called, once. By the time that the scan is over it is answered, unless its requester
left. Another request meanwhile is refused without a call. With no scan in flight there are neither
calls nor answers, until the next request. The settings are those of the configuration, and where
the system may have a timer for each of its purposes, the one for a retry can be set. -/
theorem scans_are_retried_within_their_budget [Behaviour A] :
    (∀ (h h' : Hub A R) o o' id params cookie es,
      Pursuit id params cookie h o es h' o' → Pursued id params cookie h es h') ∧
    (∀ (h : Hub A R) id params cookie, h.wifi.scanSlot.isSome = true →
      Ends (requestScan id params cookie) h
        (fun reply h' => (reply = .error (.notSupported "on-demand scan") ∨
          reply = .error (.busy "scan")) ∧ h'.scanFile = h.scanFile) fun _ _ => False) ∧
    (∀ (h h' : Hub A R) o o' m, Moves h o m h' o' → h.wifi.scanSlot = none →
      m.asksForScan = false → h'.scanFile = h.scanFile) ∧
    ∀ config (h : Hub A R), Hosted config h → h.wifi.settings = config.wifi ∧
      (∃ now radios metrics ms o, Course Free (blank config now radios metrics) none ms h o) ∧
      (h.timers.HandlesLeft → 6 ≤ config.timers.system → ∀ p, h.wifi.scanSlot = some p →
        p.kind.phase = .awaitingResponse → ∃ x timers, h.trySetBackoff = .ok (x, timers)) := by
  refine ⟨fun h h' o o' id params cookie es hp => hp.tracks.pursued, ?_, ?_, ?_⟩
  · exact fun h id params cookie hs => requestScan_busy hs id params cookie
  · exact fun h h' o o' m hm hs hasks => hm.scanFile_of_none hs hasks
  · intro config h hh
    obtain ⟨now, radios, metrics, ms, o, hc⟩ := hh.course
    refine ⟨?_, ⟨now, radios, metrics, ms, o, hc⟩, fun hl hn p hs hphase => ?_⟩
    · rw [hc.settings]
      rfl
    · exact hh.reached.trySetBackoff_ok hl hn hs hphase

/-- The radio is busy at first, and acknowledges the scan when it is called again. -/
theorem busy_radio_is_called_again : ∃ h h' : Hub Script Stations, Hosted {} h ∧
    Pursuit ⟨1⟩ {} ⟨7⟩ h none
      [.called true, .responded false 3, .called true, .responded true 0] h' none ∧
    h'.scanCalls = h.scanCalls ++ [(({} : ScanParams), true), (({} : ScanParams), true)] ∧
    ∃ codes : List ErrorCode, h'.scanAnswers = h.scanAnswers ++ codes.map (scanAnswer ⟨1⟩ · ⟨7⟩) ∧
      codes.head? = some .none := by
  obtain ⟨h, hh, hrun⟩ := hosted_of_ends (A := Script) {} 0 Stations.scripted none
    [.load ⟨1⟩ { wifi := true } {}] (by simp [Turn.Honest])
    (P := fun h => Ends (do
        let accepted ← perform ⟨1⟩ (.scan {} ⟨7⟩)
        let h₁ ← get
        handleReport (.wifi (.scanResponse false 3))
        let h₂ ← get
        handleSystemTimer ⟨1⟩ .wifiScanRetry
        let h₃ ← get
        handleReport (.wifi (.scanResponse true 0))
        return (accepted, h₁, h₂, h₃)) h (fun (accepted, h₁, h₂, h₃) h₄ =>
          ((show Bool from accepted) = true ∧ h₁.wifi.scanSlot.isSome = true ∧
            h₂.wifi.scanSlot.isSome = true ∧ h₃.wifi.scanSlot.isSome = true) ∧
          h.exchanges (.called ⟨1⟩ (.scan {} ⟨7⟩)) h₁ = [.called true] ∧
          h₁.exchanges (.reported (.wifi (.scanResponse false 3))) h₂ = [.responded false 3] ∧
          h₂.exchanges (.expired ⟨1⟩ .wifiScanRetry) h₃ = [.called true] ∧
          h₃.exchanges (.reported (.wifi (.scanResponse true 0))) h₄ = [.responded true 0])
        fun _ _ => False) (by decide +kernel)
  simp only [ends_bind, ends_get, ends_pure] at hrun
  obtain ⟨accepted, h₁, hr₁, hrun⟩ := hrun.exists_ok
  obtain ⟨_, h₂, hr₂, hrun⟩ := hrun.exists_ok
  obtain ⟨_, h₃, hr₃, hrun⟩ := hrun.exists_ok
  obtain ⟨_, h₄, hr₄, ⟨haccepted, hs₁, hs₂, hs₃⟩, hx₁, hx₂, hx₃, hx₄⟩ := hrun.exists_ok
  cases haccepted
  have hp : Pursuit ⟨1⟩ {} ⟨7⟩ h none _ h₄ none :=
    .onward (.onward (.onward (.accepted hr₁) hs₁ (.report hr₂)) hs₂ (.expiry hr₃)) hs₃
      (.report hr₄)
  rw [hx₁, hx₂, hx₃, hx₄] at hp
  obtain ⟨-, hcalls, -, ⟨codes, hanswers, hanswered⟩, -⟩ :=
    (@scans_are_retried_within_their_budget Script Stations _ _).1 _ _ _ _ _ _ _ _ hp
  exact ⟨h, h₄, hh, hp, hcalls, codes, hanswers, hanswered.success.2 rfl⟩

end Hub

end ContextHub
