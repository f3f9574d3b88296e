import ContextHub.Proofs.Hub.ScanProtocol
/-!
# What is exchanged for a scan

What the radio and the clock have to do with a scan on demand is a list of `Exchange`s, in order:
the radio is called and accepts or does not, the radio responds, the time is over. Responses do not
name the call they belong to, so the first one after a call is the response to it. Where a scan in
flight stands can be read off the list (`Pending.Stands`), and so can its first answer (`Answered`):
every move of the protocol keeps it so (`Pending.Proceeds`).
-/

namespace ContextHub

/-! ## Exchanges -/

inductive Exchange where
  /-- The radio is called for the scan, and accepts or does not. -/
  | called (accepted : Bool)
  | responded (pending : Bool) (raw : Nat)
  /-- The time for the scan is over. -/
  | timedOut
  deriving DecidableEq

namespace Exchange

def accepted? : Exchange → Option Bool
  | called accepted => some accepted
  | _ => none

/-- The calls of the radio, and whether it accepted. -/
def calls (es : List Exchange) : List Bool := es.filterMap accepted?

/-- The response to the last call is the first one after it. -/
def next (last : Option (Bool × Nat)) : Exchange → Option (Bool × Nat)
  | called _ => none
  | responded pending raw => last <|> some (pending, raw)
  | timedOut => last

/-- The response to the last call, if it has come. -/
def response (es : List Exchange) : Option (Bool × Nat) := es.foldl next none

/-- Whether the radio acknowledged the last call. -/
def acknowledged (es : List Exchange) : Bool := (response es).any fun r => acknowledges r.1 r.2

theorem calls_append (es es' : List Exchange) : calls (es ++ es') = calls es ++ calls es' :=
  List.filterMap_append

theorem calls_called (es : List Exchange) (accepted : Bool) :
    calls (es ++ [.called accepted]) = calls es ++ [accepted] := calls_append es _

theorem calls_responded (es : List Exchange) (pending : Bool) (raw : Nat) :
    calls (es ++ [.responded pending raw]) = calls es :=
  (calls_append es _).trans (List.append_nil _)

theorem calls_timedOut (es : List Exchange) : calls (es ++ [.timedOut]) = calls es :=
  (calls_append es _).trans (List.append_nil _)

theorem response_append (es es' : List Exchange) :
    response (es ++ es') = es'.foldl next (response es) :=
  List.foldl_append

theorem acknowledged_of_response {es es' : List Exchange} (h : response es' = response es) :
    acknowledged es' = acknowledged es := by
  rw [acknowledged, h, acknowledged]

end Exchange

open Exchange

/-- What a move tells a scan in flight. -/
def Slot.heard (s : Slot ScanJob) : Move → List Exchange
  | .reported (.wifi (.scanResponse pending raw)) => [.responded pending raw]
  | .expired x .wifiScanTimeout => if s.isTimedBy x then [.timedOut] else []
  | _ => []

/-- Why a scan is answered with a failure, with so many retries allowed. -/
inductive Failure (most : Nat) : List Exchange → ErrorCode → Prop
  /-- The radio refused the last call, for good or with no retry left. -/
  | refused {es : List Exchange} {pending : Bool} {raw : Nat} (hopen : response es = none)
      (hnack : acknowledges pending raw = false)
      (hspent : nackCode raw = .busy ∨ nackCode raw = .rejectedRateLimit →
        (calls es).length = 1 + most) :
      Failure most (es ++ [.responded pending raw]) (nackCode raw)
  /-- The radio did not accept another call. -/
  | rejected {es : List Exchange} : Failure most (es ++ [.called false]) .error
  | timedOut {es : List Exchange} (hopen : acknowledged es = false) :
      Failure most (es ++ [.timedOut]) .timeout

/-! ## Where a scan stands -/

/-- What the phase of a scan says about the response to the last call. -/
inductive ScanPhase.Follows : ScanPhase → Option (Bool × Nat) → Prop
  | awaiting : Follows .awaitingResponse none
  | refused {pending : Bool} {raw : Nat} (hnack : acknowledges pending raw = false) :
      Follows .retryScheduled (some (pending, raw))
  | acknowledged {pending : Bool} {raw : Nat} (hack : acknowledges pending raw = true) :
      Follows .awaitingResults (some (pending, raw))

/-- A scan in flight stands where its exchanges have brought it. -/
structure Pending.Stands (p : Pending ScanJob) (id : InstanceId) (params : ScanParams)
    (cookie : Cookie) (most : Nat) (es : List Exchange) : Prop where
  requester : p.requester = some id
  cookie : p.cookie = cookie
  params : p.kind.params = params
  within : p.kind.retriesUsed ≤ most
  count : (calls es).length + (if p.kind.phase = .retryScheduled then 1 else 0) =
    p.kind.retriesUsed + 1
  follows : p.kind.phase.Follows (response es)

/-- What the requester of a scan in flight has been answered. -/
def Pending.codes (p : Pending ScanJob) : List ErrorCode :=
  if p.kind.phase = .awaitingResults then [.none] else []

/-- The first answer to a scan is a success exactly if the radio acknowledged the last call, and a
failure is the end of the scan. -/
structure Answered (most : Nat) (s : Slot ScanJob) (es : List Exchange) (codes : List ErrorCode) :
    Prop where
  success : codes.head? = some .none ↔ acknowledged es = true
  failure : ∀ code ∈ codes.head?, code ≠ .none → s = none ∧ Failure most es code

/-- What is exchanged in a move with effects. -/
def Slot.exchanges (s : Slot ScanJob) (m : Move) (fx : List Effect) : List Exchange :=
  s.heard m ++ (fx.filterMap Effect.scanCall?).map fun c => .called c.2

theorem Slot.calls_heard (s : Slot ScanJob) (m : Move) : calls (Slot.heard s m) = [] := by
  unfold heard
  split
  · rfl
  · split <;> rfl
  · rfl

theorem Slot.calls_exchanges (s : Slot ScanJob) (m : Move) (fx : List Effect) :
    calls (Slot.exchanges s m fx) = (fx.filterMap Effect.scanCall?).map (·.2) := by
  rw [exchanges, calls_append, calls_heard, List.nil_append, calls, List.filterMap_map]
  exact congrFun (List.filterMap_eq_map (f := fun c : ScanParams × Bool => c.2)) _

/-- What a move makes of a scan in flight, what was exchanged for it included. -/
structure Pending.Proceeds (p : Pending ScanJob) (id : InstanceId) (params : ScanParams)
    (cookie : Cookie) (most : Nat) (es : List Exchange) (fx : List Effect) (s : Slot ScanJob)
    (codes : List ErrorCode) : Prop where
  calls : ∀ c ∈ fx.filterMap Effect.scanCall?, c.1 = params
  answers : fx.filterMap Effect.scanAnswer? = codes.map (Hub.scanAnswer id · cookie)
  budget : (Exchange.calls es).length ≤ 1 + most
  answered : Answered most s es (p.codes ++ codes)
  stands : ∀ q ∈ s, q.Stands id params cookie most es ∧ q.codes = p.codes ++ codes

namespace Pending

variable {p q : Pending ScanJob} {id : InstanceId} {params : ScanParams} {cookie : Cookie}
  {most : Nat} {es es' : List Exchange} {m : Move} {fx : List Effect} {s : Slot ScanJob}

theorem told_calls (p : Pending ScanJob) (code : ErrorCode) :
    (p.told code).filterMap Effect.scanCall? = [] := by
  unfold told answered
  cases p.requester <;> rfl

theorem codes_of_ne (h : p.kind.phase ≠ .awaitingResults) : p.codes = [] := if_neg h

theorem codes_of_eq (h : p.kind.phase = .awaitingResults) : p.codes = [.none] := if_pos h

namespace Stands

theorem calls_le (hp : p.Stands id params cookie most es) : (calls es).length ≤ 1 + most := by
  have hcount := hp.count
  have hwithin := hp.within
  omega

theorem acknowledged_iff (hp : p.Stands id params cookie most es) :
    acknowledged es = true ↔ p.kind.phase = .awaitingResults := by
  have hf := hp.follows
  unfold acknowledged
  generalize response es = r at hf
  generalize p.kind.phase = phase at hf
  cases hf with
  | awaiting => simp
  | refused hnack => simp [hnack]
  | acknowledged hack => simp [hack]

theorem answered (hp : p.Stands id params cookie most es) :
    Answered most (some p) es p.codes := by
  by_cases hphase : p.kind.phase = .awaitingResults
  · rw [codes_of_eq hphase]
    refine ⟨by simpa using hp.acknowledged_iff.2 hphase, fun code hcode hne => ?_⟩
    exact absurd (Option.some.inj hcode).symm hne
  · rw [codes_of_ne hphase]
    refine ⟨⟨nofun, fun hack => absurd (hp.acknowledged_iff.1 hack) hphase⟩, nofun⟩

/-- Whoever asked is told. -/
theorem told (hp : p.Stands id params cookie most es) (code : ErrorCode) :
    p.told code = [.posted (Hub.scanAnswer id code cookie)] := by
  rw [Pending.told, Pending.answered, hp.requester, hp.cookie]
  rfl

theorem told_answers (hp : p.Stands id params cookie most es) (code : ErrorCode) :
    (p.told code).filterMap Effect.scanAnswer? = [code].map (Hub.scanAnswer id · cookie) := by
  rw [hp.told]
  rfl

/-- Calls and the response to the last one are all that matters. -/
theorem same (hp : p.Stands id params cookie most es) (hcalls : calls es' = calls es)
    (hresponse : response es' = response es) : p.Stands id params cookie most es' :=
  ⟨hp.requester, hp.cookie, hp.params, hp.within, hcalls ▸ hp.count, hresponse ▸ hp.follows⟩

end Stands

/-- A scan that stays in flight. -/
theorem Stands.proceeds (hq : q.Stands id params cookie most es) {codes : List ErrorCode}
    (hcodes : q.codes = p.codes ++ codes)
    (hcalls : ∀ c ∈ fx.filterMap Effect.scanCall?, c.1 = params)
    (hanswers : fx.filterMap Effect.scanAnswer? = codes.map (Hub.scanAnswer id · cookie)) :
    p.Proceeds id params cookie most es fx (some q) codes where
  calls := hcalls
  answers := hanswers
  budget := hq.calls_le
  answered := hcodes ▸ hq.answered
  stands := by
    rintro _ ⟨⟩
    exact ⟨hq, hcodes⟩

namespace Stands

theorem response_of_awaiting (hp : p.Stands id params cookie most es)
    (hphase : p.kind.phase = .awaitingResponse) : response es = none := by
  have hf := hp.follows
  rw [hphase] at hf
  generalize response es = r at hf ⊢
  cases hf
  rfl

theorem response_of_ne (hp : p.Stands id params cookie most es)
    (hphase : p.kind.phase ≠ .awaitingResponse) : ∃ r, response es = some r := by
  have hf := hp.follows
  generalize response es = r at hf ⊢
  generalize p.kind.phase = phase at hf hphase
  cases hf with
  | awaiting => exact absurd rfl hphase
  | refused => exact ⟨_, rfl⟩
  | acknowledged => exact ⟨_, rfl⟩

/-- A move the scan does not wait for: at most, a second response to one call. -/
theorem idle (hp : p.Stands id params cookie most es) (hm : p.awaits m = false)
    (hfx : ∀ x ∈ fx, x.ofScans = false) :
    p.Proceeds id params cookie most (es ++ Slot.exchanges (some p) m fx) fx (some p) [] := by
  have hcalls := Effect.scanCalls_eq_nil hfx
  have hsame : Exchange.calls (es ++ Slot.heard (some p) m) = Exchange.calls es ∧
      response (es ++ Slot.heard (some p) m) = response es := by
    rw [calls_append, response_append]
    unfold Slot.heard
    split
    · obtain ⟨r, hr⟩ := hp.response_of_ne (by simpa [awaits] using hm)
      rw [hr]
      exact ⟨List.append_nil _, rfl⟩
    · rw [if_neg (c := Slot.isTimedBy (some p) _ = true) (Bool.eq_false_iff.1 hm)]
      exact ⟨List.append_nil _, rfl⟩
    · exact ⟨List.append_nil _, rfl⟩
  rw [Slot.exchanges, hcalls, List.map_nil, List.append_nil]
  refine (hp.same hsame.1 hsame.2).proceeds (List.append_nil _).symm ?_ ?_
  · rw [hcalls]
    exact List.forall_mem_nil _
  · exact Effect.scanAnswers_eq_nil hfx

/-- A scan whose last call is refused. -/
theorem refuse (hp : p.Stands id params cookie most es) {pending : Bool} {raw : Nat}
    (hphase : p.kind.phase = .awaitingResponse) (hnack : acknowledges pending raw = false)
    (hspent : (nackCode raw).isRecoverable = true → most ≤ p.kind.retriesUsed) :
    p.Proceeds id params cookie most (es ++ [.responded pending raw]) (p.told (nackCode raw)) none
      [nackCode raw] := by
  have hopen := hp.response_of_awaiting hphase
  refine ⟨?_, hp.told_answers _, (calls_responded es pending raw).symm ▸ hp.calls_le, ?_, nofun⟩
  · rw [told_calls]
    exact List.forall_mem_nil _
  rw [codes_of_ne (by simp [hphase]), List.nil_append]
  refine ⟨⟨fun h => absurd (Option.some.inj h) (nackCode_ne_none raw), fun hack => ?_⟩, ?_⟩
  · unfold acknowledged at hack
    rw [response_append, hopen] at hack
    cases hnack.symm.trans hack
  · rintro _ ⟨⟩ -
    refine ⟨rfl, .refused hopen hnack fun hcode => ?_⟩
    -- one call for each retry, and the first one
    have hspent := hspent (by rcases hcode with hcode | hcode <;> rw [hcode] <;> rfl)
    have hcount := hp.count
    have hwithin := hp.within
    rw [if_neg (by simp [hphase])] at hcount
    omega

/-- A scan for which the radio does not accept another call. -/
theorem reject (hp : p.Stands id params cookie most es) (hphase : p.kind.phase = .retryScheduled) :
    p.Proceeds id params cookie most (es ++ [.called false])
      (.asked (.scan p.kind.params) false :: p.told .error) none [.error] := by
  refine ⟨?_, ?_, ?_, ?_, nofun⟩
  · refine List.forall_mem_cons.2 ⟨hp.params, ?_⟩
    rw [told_calls]
    exact List.forall_mem_nil _
  · rw [List.filterMap_cons_none rfl]
    exact hp.told_answers _
  · have hcount := hp.count
    have hwithin := hp.within
    rw [if_pos hphase] at hcount
    rw [calls_called, List.length_append, List.length_singleton]
    omega
  · rw [codes_of_ne (by simp [hphase]), List.nil_append]
    refine ⟨⟨nofun, fun hack => ?_⟩, ?_⟩
    · unfold acknowledged at hack
      rw [response_append] at hack
      cases hack
    · rintro _ ⟨⟩ -
      exact ⟨rfl, .rejected⟩

/-- A scan that times out, acknowledged or not. -/
theorem timeOut (hp : p.Stands id params cookie most es) :
    p.Proceeds id params cookie most (es ++ [.timedOut]) (p.told .timeout) none [.timeout] := by
  have hack : acknowledged (es ++ [.timedOut]) = acknowledged es :=
    acknowledged_of_response (response_append _ _)
  refine ⟨?_, hp.told_answers _, (calls_timedOut es).symm ▸ hp.calls_le, ?_, nofun⟩
  · rw [told_calls]
    exact List.forall_mem_nil _
  obtain ⟨hsuccess, hfailure⟩ := hp.answered
  by_cases hphase : p.kind.phase = .awaitingResults
  · rw [codes_of_eq hphase] at hsuccess ⊢
    refine ⟨hack.symm ▸ hsuccess, ?_⟩
    rintro _ ⟨⟩ hne
    exact absurd rfl hne
  · rw [codes_of_ne hphase, List.nil_append]
    have hno : acknowledged es = false :=
      Bool.eq_false_iff.2 fun h => hphase (hp.acknowledged_iff.1 h)
    refine ⟨⟨nofun, fun h => ?_⟩, ?_⟩
    · cases (hack.trans hno).symm.trans h
    · rintro _ ⟨⟩ -
      exact ⟨rfl, .timedOut hno⟩

/-- A scan that is over without another word. -/
theorem finish (hp : p.Stands id params cookie most es) (hfx : ∀ x ∈ fx, x.ofScans = false) :
    p.Proceeds id params cookie most es fx none [] := by
  have hcalls := Effect.scanCalls_eq_nil hfx
  refine ⟨?_, Effect.scanAnswers_eq_nil hfx, hp.calls_le, ?_, nofun⟩
  · rw [hcalls]
    exact List.forall_mem_nil _
  obtain ⟨hsuccess, hfailure⟩ := hp.answered
  rw [List.append_nil]
  exact ⟨hsuccess, fun code hcode hne => ⟨rfl, (hfailure code hcode hne).2⟩⟩

/-- A scan whose last call is acknowledged. -/
theorem acknowledge (hp : p.Stands id params cookie most es) {pending : Bool} {raw : Nat}
    (hphase : p.kind.phase = .awaitingResponse)
    (hack : acknowledges pending raw = true) :
    p.Proceeds id params cookie most (es ++ [.responded pending raw]) (p.told .none)
      (some { p with kind := { p.kind with phase := .awaitingResults } }) [.none] := by
  have hcount := hp.count
  rw [if_neg (by simp [hphase])] at hcount
  have hq : ({ p with kind := { p.kind with phase := .awaitingResults } } :
      Pending ScanJob).Stands id params cookie most (es ++ [.responded pending raw]) := by
    refine ⟨hp.requester, hp.cookie, hp.params, hp.within, ?_, ?_⟩
    · rw [calls_responded]
      exact hcount
    · rw [response_append, hp.response_of_awaiting hphase]
      exact .acknowledged hack
  refine hq.proceeds ?_ ?_ (hp.told_answers .none)
  · rw [codes_of_ne (p := p) (by simp [hphase])]
    rfl
  · rw [told_calls]
    exact List.forall_mem_nil _

/-- A scan whose last call is refused, but not for good. -/
theorem postpone (hp : p.Stands id params cookie most es) {pending : Bool} {raw : Nat}
    (hphase : p.kind.phase = .awaitingResponse)
    (hnack : acknowledges pending raw = false) (hleft : p.kind.retriesUsed < most)
    (x : TimerHandle) :
    p.Proceeds id params cookie most (es ++ [.responded pending raw]) []
      (some { p with kind := { p.kind with
        phase := .retryScheduled, retriesUsed := p.kind.retriesUsed + 1, retryTimer := x } })
      [] := by
  have hcount := hp.count
  rw [if_neg (by simp [hphase])] at hcount
  have hq : ({ p with kind := { p.kind with
      phase := .retryScheduled, retriesUsed := p.kind.retriesUsed + 1, retryTimer := x } } :
      Pending ScanJob).Stands id params cookie most (es ++ [.responded pending raw]) := by
    refine ⟨hp.requester, hp.cookie, hp.params, hleft, ?_, ?_⟩
    · rw [calls_responded, if_pos rfl]
      exact congrArg (· + 1) hcount
    · rw [response_append, hp.response_of_awaiting hphase]
      exact .refused hnack
  refine hq.proceeds ?_ (fun c hc => ?_) rfl
  · rw [codes_of_ne (p := p) (by simp [hphase])]
    rfl
  · cases hc

/-- A scan for which the radio accepts another call. -/
theorem resume (hp : p.Stands id params cookie most es) (hphase : p.kind.phase = .retryScheduled) :
    p.Proceeds id params cookie most (es ++ [.called true]) [.asked (.scan p.kind.params) true]
      (some { p with kind := { p.kind with phase := .awaitingResponse, retryTimer := .invalid } })
      [] := by
  have hcount := hp.count
  rw [if_pos hphase] at hcount
  have hq : ({ p with kind := { p.kind with
      phase := .awaitingResponse, retryTimer := .invalid } } :
      Pending ScanJob).Stands id params cookie most (es ++ [.called true]) := by
    refine ⟨hp.requester, hp.cookie, hp.params, hp.within, ?_, ?_⟩
    · rw [calls_called, List.length_append]
      exact hcount
    · rw [response_append]
      exact .awaiting
  refine hq.proceeds ?_ (List.forall_mem_singleton.2 hp.params) rfl
  rw [codes_of_ne (p := p) (by simp [hphase])]
  rfl

/-- Every move that the scan waits for. -/
theorem further (hp : p.Stands id params cookie most es) (hf : Furthers most p m fx s) :
    ∃ codes, p.Proceeds id params cookie most (es ++ Slot.exchanges (some p) m fx) fx s codes := by
  have hquiet (x : List Exchange) (hcalls : fx.filterMap Effect.scanCall? = [])
      (hx : Slot.heard (some p) m = x) : es ++ Slot.exchanges (some p) m fx = es ++ x := by
    rw [Slot.exchanges, hcalls, hx, List.map_nil, List.append_nil]
  cases hf with
  | acknowledged hphase hack =>
    rw [hquiet [.responded _ _] (p.told_calls _) rfl]
    exact ⟨_, hp.acknowledge hphase hack⟩
  | postponed hphase hnack _ hleft x =>
    rw [hquiet [.responded _ _] rfl rfl]
    exact ⟨_, hp.postpone hphase hnack hleft x⟩
  | refused hphase hnack hend =>
    rw [hquiet [.responded _ _] (p.told_calls _) rfl]
    exact ⟨_, hp.refuse hphase hnack hend⟩
  | resumed hphase => exact ⟨_, hp.resume hphase⟩
  | rejected hphase =>
    have hx : Slot.exchanges (some p) (.expired p.kind.retryTimer .wifiScanRetry)
        (.asked (.scan p.kind.params) false :: p.told .error) = [.called false] := by
      rw [hp.told]
      rfl
    rw [hx]
    exact ⟨_, hp.reject hphase⟩
  | completed _ hfx =>
    rw [hquiet [] (Effect.scanCalls_eq_nil hfx) rfl, List.append_nil]
    exact ⟨_, hp.finish hfx⟩
  | timedOut =>
    rw [hquiet [.timedOut] (p.told_calls _) (if_pos (beq_self_eq_true p.timer))]
    exact ⟨_, hp.timeOut⟩
  | left _ hfx =>
    rw [hquiet [] (Effect.scanCalls_eq_nil hfx) rfl, List.append_nil]
    exact ⟨_, hp.finish hfx⟩

/-- Unless its requester leaves, a scan is over only once something was answered. -/
theorem answers_of_vacated (hp : p.Stands id params cookie most es) (hf : Furthers most p m fx none)
    (hleft : m ≠ .left id) : p.codes ≠ [] ∨ fx.filterMap Effect.scanAnswer? ≠ [] := by
  have htold (code : ErrorCode) : (p.told code).filterMap Effect.scanAnswer? ≠ [] := by
    rw [hp.told_answers]
    exact List.cons_ne_nil _ _
  cases hf with
  | refused => exact .inr (htold _)
  | rejected => exact .inr (htold .error)
  | completed hphase =>
    rw [codes_of_eq hphase]
    exact .inl (List.cons_ne_nil _ _)
  | timedOut => exact .inr (htold _)
  | left hid =>
    cases hp.requester.symm.trans hid
    exact absurd rfl hleft

end Stands

end Pending

end ContextHub
