import ContextHub.Proofs.Hub.Answers
/-!
# Whose answer a cell request gets

A radio answers the requests for cells that it accepted in their order, each at most once and
however late, and nothing in an answer tells which of them it is for. A `CellLedger` keeps that in
mind: the calls that the radio accepted, which of them it answered with what, and which call each
result that was posted is for. `CellCourse` is a course with its ledger.

The request in flight was made with the last call that was accepted. So an answer is taken for that
call's, and it is, unless an earlier call was given up and the radio answers it after all.
-/

namespace ContextHub

/-- A request for cells that the radio accepted, numbered from 0. -/
structure CellCall where
  number : Nat
  id : InstanceId
  cookie : Cookie

/-- A result for whoever made the call: what the radio answered, and to which call, or that it did
not answer in time. -/
structure CellResult where
  call : CellCall
  answer : Option (Nat × CellReport)

def CellResult.event (x : CellResult) : Event :=
  cellAnswer x.call.id <|
    match x.answer with
    | some (_, r) => { r with cookie := x.call.cookie }
    | none => { code := ErrorCode.timeout.raw, cookie := x.call.cookie }

structure CellLedger where
  calls : List CellCall := []
  /-- The call whose request is in flight. -/
  awaited : Option CellCall := none
  answers : List (Nat × CellReport) := []
  results : List CellResult := []

namespace CellLedger

/-- The radio has accepted one more call. -/
def ask (L : CellLedger) (id : InstanceId) (cookie : Cookie) : CellLedger :=
  let c := ⟨L.calls.length, id, cookie⟩
  { L with calls := L.calls ++ [c], awaited := some c }

/-- The request in flight, if there is one, gets its result. -/
def conclude (L : CellLedger) (answer : Option (Nat × CellReport)) : CellLedger :=
  { L with
    awaited := none
    results := L.results ++ (L.awaited.map fun c => ⟨c, answer⟩).toList }

/-- The radio has answered the call `k`. -/
def answer (L : CellLedger) (k : Nat) (r : CellReport) : CellLedger :=
  { L with answers := L.answers ++ [(k, r)] }.conclude (some (k, r))

/-- A nanoapp has left. -/
def leave (L : CellLedger) (id : InstanceId) : CellLedger :=
  { L with awaited := L.awaited.filter (·.id != id) }

/-- The radio may answer the call `k`: it answered neither that call nor a later one. -/
def Owes (L : CellLedger) (k : Nat) : Prop := k < L.calls.length ∧ ∀ a ∈ L.answers, a.1 < k

/-- No call came after `k`, or none is in flight. -/
def Timely (L : CellLedger) (k : Nat) : Prop := L.awaited = none ∨ k + 1 = L.calls.length

end CellLedger

/-- The radio accepted a request for cells. -/
def Effect.isCellCall : Effect → Bool
  | .asked .cellInfo accepted => accepted
  | _ => false

def Entry.isCellCall : Entry → Bool
  | .requested .cellInfo accepted => accepted
  | _ => false

/-- What a cell request is answered with. -/
def Pending.cellResult (p : Pending Unit) (r : CellReport) : List Event :=
  p.requester.toList.map fun id => cellAnswer id { r with cookie := p.cookie }

namespace Desks

/-- What a move does to the desk for cells: what becomes of the request in flight, how many calls
the radio accepts, and what is answered. -/
inductive CellStep : Slot Unit → Move → Nat → List Event → Slot Unit → Prop
  | idle {s : Slot Unit} {m : Move}
      (hm : ∀ p : Pending Unit, s = some p → Desk.cell.closes (p.ticket true) m = false)
      (hl : ∀ id, m ≠ .left id) : CellStep s m 0 [] s
  | asked {id : InstanceId} {cookie : Cookie} {p : Pending Unit} (hp : p.requester = some id)
      (hcookie : p.cookie = cookie) : CellStep none (.called id (.cellInfo cookie)) 1 [] (some p)
  | answered {p : Pending Unit} {r : CellReport} :
      CellStep (some p) (.reported (.wwan r)) 0 (p.cellResult r) none
  | timedOut {p : Pending Unit} : CellStep (some p) (.expired p.timer .wwanCellInfoTimeout) 0
      (p.cellResult { code := ErrorCode.timeout.raw, cookie := p.cookie }) none
  | left {s : Slot Unit} {id : InstanceId} : CellStep s (.left id) 0 [] (s.without id)

/-- The effect has to do with requests for cells. -/
def ofCells : Effect → Bool
  | .posted e => Desk.cell.issues e
  | x => x.isCellCall

variable {d d' : Desks} {fx : List Effect} {m : Move}

theorem cellCalls_eq_zero (hfx : ∀ x ∈ fx, ofCells x = false) :
    fx.countP Effect.isCellCall = 0 := by
  refine List.countP_eq_zero.2 fun x hx => ?_
  have := hfx x hx
  cases x <;> simp_all [ofCells, Effect.isCellCall]

theorem cellReplies_eq_nil (hfx : ∀ x ∈ fx, ofCells x = false) : Desk.cell.replies fx = [] := by
  refine replies_eq_nil fun x hx e he => ?_
  have := hfx x hx
  cases x <;> cases he
  exact this

/-- Another desk is worked at. -/
theorem cellStep_elsewhere (hcell : d'.cell = d.cell) (hfx : ∀ x ∈ fx, ofCells x = false)
    (hm : ∀ x, Desk.cell.closes x m = false) (hl : ∀ id, m ≠ .left id) :
    CellStep d.cell m (fx.countP Effect.isCellCall) (Desk.cell.replies fx) d'.cell := by
  rw [hcell, cellCalls_eq_zero hfx, cellReplies_eq_nil hfx]
  exact .idle (fun p _ => hm _) hl

theorem ofCells_subscription (on : Bool) (id : InstanceId) (type : EventType) :
    ofCells (.subscription on id type) = false := by cases on <;> rfl

theorem ofCells_answered {κ : Type} {p : Pending κ} {answer : InstanceId → List Effect}
    (ha : ∀ id, ∀ x ∈ answer id, ofCells x = false) :
    ∀ x ∈ p.answered answer, ofCells x = false := by
  unfold Pending.answered
  cases p.requester with
  | none => simp
  | some id => exact ha id

theorem MonitorRealigned.ofCells (hr : MonitorRealigned d fx d') :
    d'.cell = d.cell ∧ ∀ x ∈ fx, Desks.ofCells x = false := by
  cases hr with
  | kept => exact ⟨rfl, by simp⟩
  | refused => exact ⟨rfl, by simp [Desks.ofCells, Effect.isCellCall]⟩
  | awaited => exact ⟨rfl, by simp [Desks.ofCells, Effect.isCellCall]⟩

theorem SessionRealigned.ofCells {k : SessionKind} (hr : SessionRealigned k d fx d') :
    d'.cell = d.cell ∧ ∀ x ∈ fx, Desks.ofCells x = false := by
  have hask (s : SessionSetting) (accepted : Bool) :
      Desks.ofCells (.asked (k.request s) accepted) = false := by cases k <;> rfl
  cases hr with
  | kept => exact ⟨rfl, by simp⟩
  | refused => exact ⟨rfl, by simp [hask]⟩
  | awaited => exact ⟨rfl, by simp [hask]⟩

theorem MonitorRule.cellStep (hr : MonitorRule m d fx d') :
    CellStep d.cell m (fx.countP Effect.isCellCall) (Desk.cell.replies fx) d'.cell := by
  have hanswer (id : InstanceId) (code : ErrorCode) (cookie : Cookie) :
      ofCells (.posted (wifiAnswer id Hub.WifiKind.scanMonitor code cookie)) = false := rfl
  cases hr with
  | entered =>
    exact cellStep_elsewhere rfl (by simp [ofCells_subscription, hanswer]) (fun _ => rfl) nofun
  | refused =>
    exact cellStep_elsewhere rfl (by simp [ofCells, Effect.isCellCall]) (fun _ => rfl) nofun
  | awaited =>
    exact cellStep_elsewhere rfl (by simp [ofCells, Effect.isCellCall]) (fun _ => rfl) nofun
  | @settled _ _ p enabled _ code _ _ _ hr =>
    obtain ⟨hcell, hfx⟩ := hr.ofCells
    have hsettle : (d.settleMonitor p enabled code).cell = d.cell := by
      unfold settleMonitor grantMonitor
      split
      · rfl
      · split <;> rfl
    refine cellStep_elsewhere (hcell.trans hsettle) ?_ (fun _ => rfl) nofun
    refine List.forall_mem_append.2 ⟨ofCells_answered fun id => ?_, hfx⟩
    refine List.forall_mem_append.2 ⟨?_, by simp [hanswer]⟩
    split
    · simp [ofCells_subscription]
    · simp

theorem ScanRule.cellStep (hr : ScanRule m d fx d') :
    CellStep d.cell m (fx.countP Effect.isCellCall) (Desk.cell.replies fx) d'.cell := by
  have heffect {requester : Option InstanceId} (hfx : ∀ x ∈ fx, ScanEffect requester x) :
      ∀ x ∈ fx, ofCells x = false := by
    intro x hx
    cases hfx x hx <;> rfl
  cases hr with
  | refused =>
    exact cellStep_elsewhere rfl (by simp [ofCells, Effect.isCellCall]) (fun _ => rfl) nofun
  | awaited =>
    exact cellStep_elsewhere rfl (by simp [ofCells, Effect.isCellCall]) (fun _ => rfl) nofun
  | served hm _ _ hfx =>
    refine cellStep_elsewhere rfl (heffect hfx) (fun x => ?_) fun id h => ?_
    · unfold Move.servesScan at hm
      split at hm <;> first | rfl | cases hm
    · rw [h] at hm
      cases hm
  | shared hfx => exact cellStep_elsewhere rfl (heffect hfx) (fun _ => rfl) nofun

theorem RangingRule.cellStep (hr : RangingRule m d fx d') :
    CellStep d.cell m (fx.countP Effect.isCellCall) (Desk.cell.replies fx) d'.cell := by
  cases hr with
  | refused =>
    exact cellStep_elsewhere rfl (by simp [ofCells, Effect.isCellCall]) (fun _ => rfl) nofun
  | awaited =>
    exact cellStep_elsewhere rfl (by simp [ofCells, Effect.isCellCall]) (fun _ => rfl) nofun
  | answered =>
    refine cellStep_elsewhere rfl (ofCells_answered fun id => ?_) (fun _ => rfl) nofun
    refine List.forall_mem_cons.2 ⟨rfl, ?_⟩
    split
    · exact List.forall_mem_singleton.2 rfl
    · simp
  | timedOut =>
    exact cellStep_elsewhere rfl (ofCells_answered fun id => List.forall_mem_singleton.2 rfl)
      (fun _ => rfl) nofun

theorem cellReplies_answered (p : Pending Unit) (r : CellReport) :
    (p.answered fun id => [.posted (cellAnswer id { r with cookie := p.cookie })]).countP
        Effect.isCellCall = 0 ∧
      Desk.cell.replies (p.answered fun id =>
        [.posted (cellAnswer id { r with cookie := p.cookie })]) = p.cellResult r := by
  unfold Pending.answered Pending.cellResult
  cases p.requester <;> exact ⟨rfl, rfl⟩

theorem CellRule.cellStep (hr : CellRule m d fx d') :
    CellStep d.cell m (fx.countP Effect.isCellCall) (Desk.cell.replies fx) d'.cell := by
  cases hr with
  | refused => exact .idle (fun _ _ => rfl) nofun
  | awaited hfree hp hcookie =>
    rw [hfree]
    exact .asked hp hcookie
  | @answered _ p r hs =>
    obtain ⟨hcalls, hreplies⟩ := cellReplies_answered p r
    rw [hs, hcalls, hreplies]
    exact .answered
  | @timedOut _ p hs =>
    obtain ⟨hcalls, hreplies⟩ :=
      cellReplies_answered p { code := ErrorCode.timeout.raw, cookie := p.cookie }
    rw [hs, hcalls, hreplies]
    exact .timedOut

theorem SessionRule.cellStep {k : SessionKind} (hr : SessionRule k m d fx d') :
    CellStep d.cell m (fx.countP Effect.isCellCall) (Desk.cell.replies fx) d'.cell := by
  have hask (s : SessionSetting) (accepted : Bool) :
      ofCells (.asked (k.request s) accepted) = false := by cases k <;> rfl
  have hanswer (id : InstanceId) (start : Bool) (code : ErrorCode) (cookie : Cookie) :
      ofCells (.posted (sessionAnswer k id start code cookie)) = false := rfl
  cases hr with
  | entered =>
    exact cellStep_elsewhere rfl (by simp [ofCells_subscription, hanswer]) (fun _ => rfl) nofun
  | refused => exact cellStep_elsewhere rfl (by simp [hask]) (fun _ => rfl) nofun
  | awaited => exact cellStep_elsewhere rfl (by simp [hask]) (fun _ => rfl) nofun
  | settled _ _ hr =>
    obtain ⟨hcell, hfx⟩ := hr.ofCells
    refine cellStep_elsewhere hcell ?_ (fun _ => by cases k <;> rfl) nofun
    refine List.forall_mem_append.2 ⟨ofCells_answered fun id => ?_, hfx⟩
    refine List.forall_mem_append.2 ⟨?_, by simp [hanswer]⟩
    split
    · simp [ofCells_subscription]
    · simp
  | timedOut =>
    refine cellStep_elsewhere rfl (ofCells_answered fun id => by simp [hanswer]) (fun _ => ?_) nofun
    cases k <;> rfl
  | shared hr =>
    refine cellStep_elsewhere rfl ?_ (fun _ => hr .cell) nofun
    cases k <;> exact List.forall_mem_singleton.2 rfl

theorem DeskRule.cellStep (hr : DeskRule m d fx d') (hl : ∀ id, m ≠ .left id) :
    CellStep d.cell m (fx.countP Effect.isCellCall) (Desk.cell.replies fx) d'.cell := by
  cases hr with
  | idle hm =>
    refine .idle (fun p hp => hm .cell _ ?_) hl
    rw [ticket, hp, Option.map_some]
  | subscribed => exact cellStep_elsewhere rfl (List.forall_mem_singleton.2 rfl) (fun _ => rfl) hl
  | unsubscribed => exact cellStep_elsewhere rfl (List.forall_mem_singleton.2 rfl) (fun _ => rfl) hl
  | monitor h => exact h.cellStep
  | scan h => exact h.cellStep
  | ranging h => exact h.cellStep
  | cell h => exact h.cellStep
  | session k h => exact h.cellStep

theorem Leaves.ofCells {id : InstanceId} (hl : Leaves id d fx d') :
    ∀ x ∈ fx, Desks.ofCells x = false := by
  obtain ⟨hw, hloc, hmeas⟩ := hl
  exact List.forall_mem_append.2 ⟨hw.ofCells.2,
    List.forall_mem_append.2 ⟨hloc.ofCells.2, hmeas.ofCells.2⟩⟩

end Desks

namespace Front

/-- How many requests for cells the radio accepted so far. -/
def cellCalls (F : Front) : Nat := F.notes.countP Entry.isCellCall

theorem cellCalls_after (F : Front) (fx : List Effect) :
    (F.after fx).cellCalls = F.cellCalls + fx.countP Effect.isCellCall := by
  have hfx : (fx.filterMap Effect.entry?).countP Entry.isCellCall =
      fx.countP Effect.isCellCall := by
    rw [List.countP_filterMap]
    refine List.countP_congr fun x _ => ?_
    rcases x with _ | ⟨q, accepted⟩ | _ | _
    · rfl
    · cases q <;> rfl
    · rfl
    · rfl
  rw [cellCalls, after, List.countP_append, List.countP_reverse, hfx, Nat.add_comm]
  rfl

/-- What a move does at the desk for cells. -/
theorem Step.cellStep {F F' : Front} {o o' : Option Dispatch} {m : Move} (hs : F.Step o m F' o') :
    ∃ n l, Desks.CellStep F.desks.cell m n l F'.desks.cell ∧
      F'.cellCalls = F.cellCalls + n ∧ F'.replies .cell = F.replies .cell ++ l := by
  have hidle {m : Move} (hc : ∀ x, Desk.cell.closes x m = false) (hl : ∀ id, m ≠ .left id) :
      ∃ n l, Desks.CellStep F.desks.cell m n l F.desks.cell ∧
        F.cellCalls = F.cellCalls + n ∧ F.replies .cell = F.replies .cell ++ l :=
    ⟨0, [], .idle (fun p _ => hc _) hl, rfl, (List.append_nil _).symm⟩
  cases hs with
  | worked hm hr =>
    refine ⟨_, _, hr.cellStep fun id h => ?_, cellCalls_after _ _, replies_after _ _ _⟩
    rw [h] at hm
    cases hm
  | @left _ id d fx hl =>
    refine ⟨0, [], ?_, ?_, ?_⟩
    · have hcell : d.cell = F.desks.cell.without id := hl.forgotten.1.cell
      change Desks.CellStep F.desks.cell (.left id) 0 [] d.cell
      rw [hcell]
      exact .left
    · refine (cellCalls_after _ _).trans ?_
      rw [Desks.cellCalls_eq_zero hl.ofCells]
      rfl
    · refine (replies_after _ _ _).trans ?_
      rw [Desks.cellReplies_eq_nil hl.ofCells]
      rfl
  | joined => exact hidle (fun _ => rfl) nofun
  | taken => exact hidle (fun _ => rfl) nofun
  | delivered => exact hidle (fun _ => rfl) nofun
  | other => exact hidle (fun _ => rfl) nofun

end Front

namespace Hub

variable {A R : Type}

/-- How many requests for cells the radio accepted so far. -/
def cellCalls (h : Hub A R) : Nat := h.journal.countP Entry.isCellCall

theorem cellCalls_eq (h : Hub A R) : h.cellCalls = h.front.cellCalls := by
  rw [cellCalls, Front.cellCalls, front, List.countP_filter]
  refine List.countP_congr fun e _ => ?_
  cases e <;> simp [Entry.isCellCall, Entry.isNoted]

variable [Radio R]

theorem Moves.cellStep {h h' : Hub A R} {o o' : Option Dispatch} {m : Move}
    (hm : Moves h o m h' o') : ∃ n l, Desks.CellStep h.wwan.cellSlot m n l h'.wwan.cellSlot ∧
      h'.cellCalls = h.cellCalls + n ∧ h'.replies .cell = h.replies .cell ++ l := by
  rw [cellCalls_eq, cellCalls_eq, replies_eq, replies_eq]
  exact hm.front.cellStep

/-- A course from `h₀` on which the radio answers the calls for cells that it accepts in their
order, each at most once, and `P` holds whenever it answers one; with the ledger of these calls. -/
inductive CellCourse (P : CellLedger → Nat → Prop) (h₀ : Hub A R) (o₀ : Option Dispatch) :
    CellLedger → Hub A R → Option Dispatch → Prop
  | start : CellCourse P h₀ o₀ {} h₀ o₀
  | asked {L : CellLedger} {h h' : Hub A R} {o o' : Option Dispatch} {id : InstanceId}
      {cookie : Cookie} (hc : CellCourse P h₀ o₀ L h o)
      (hm : Moves h o (.called id (.cellInfo cookie)) h' o')
      (hcalls : h'.cellCalls = h.cellCalls + 1) : CellCourse P h₀ o₀ (L.ask id cookie) h' o'
  | answered {L : CellLedger} {h h' : Hub A R} {o o' : Option Dispatch} {k : Nat} {r : CellReport}
      (hc : CellCourse P h₀ o₀ L h o) (howes : L.Owes k) (hP : P L k)
      (hm : Moves h o (.reported (.wwan r)) h' o') : CellCourse P h₀ o₀ (L.answer k r) h' o'
  | timedOut {L : CellLedger} {h h' : Hub A R} {o o' : Option Dispatch} {p : Pending Unit}
      (hc : CellCourse P h₀ o₀ L h o) (hp : h.wwan.cellSlot = some p)
      (hm : Moves h o (.expired p.timer .wwanCellInfoTimeout) h' o') :
      CellCourse P h₀ o₀ (L.conclude none) h' o'
  | left {L : CellLedger} {h h' : Hub A R} {o o' : Option Dispatch} {id : InstanceId}
      (hc : CellCourse P h₀ o₀ L h o) (hm : Moves h o (.left id) h' o') :
      CellCourse P h₀ o₀ (L.leave id) h' o'
  | other {L : CellLedger} {h h' : Hub A R} {o o' : Option Dispatch} {m : Move}
      (hc : CellCourse P h₀ o₀ L h o) (hm : Moves h o m h' o')
      (hreport : ∀ r, m ≠ .reported (.wwan r))
      (htimer : ∀ p, h.wwan.cellSlot = some p → m ≠ .expired p.timer .wwanCellInfoTimeout)
      (hleft : ∀ id, m ≠ .left id) (hcalls : h'.cellCalls = h.cellCalls) :
      CellCourse P h₀ o₀ L h' o'

/-- A hub has done what its ledger says, and each answer that was taken for a call's stands to it as
`Q` says. -/
structure Tallies (Q : Nat → Nat → Prop) (h₀ : Hub A R) (L : CellLedger) (h : Hub A R) : Prop where
  calls : h.cellCalls = h₀.cellCalls + L.calls.length
  vacant : L.awaited = none → h.wwan.cellSlot = none
  occupied : ∀ c, L.awaited = some c → ∃ p, h.wwan.cellSlot = some p ∧
    p.requester = some c.id ∧ p.cookie = c.cookie
  latest : ∀ c, L.awaited = some c → c ∈ L.calls ∧ c.number + 1 = L.calls.length
  replies : h.replies .cell = h₀.replies .cell ++ L.results.map CellResult.event
  results : ∀ x ∈ L.results, x.call ∈ L.calls ∧
    ∀ a, x.answer = some a → a ∈ L.answers ∧ Q a.1 x.call.number

section

variable {Q : Nat → Nat → Prop} {h₀ h h' : Hub A R} {L : CellLedger} {o o' : Option Dispatch}

omit [Radio R] in
theorem tallies_start (hfree : h₀.wwan.cellSlot = none) : Tallies Q h₀ {} h₀ where
  calls := rfl
  vacant _ := hfree
  occupied := nofun
  latest := nofun
  replies := (List.append_nil _).symm
  results := nofun

theorem Tallies.asked (ht : Tallies Q h₀ L h) {id : InstanceId} {cookie : Cookie}
    (hm : Moves h o (.called id (.cellInfo cookie)) h' o')
    (hcalls : h'.cellCalls = h.cellCalls + 1) : Tallies Q h₀ (L.ask id cookie) h' := by
  obtain ⟨n, l, hs, hn, hl⟩ := hm.cellStep
  obtain rfl : n = 1 := by omega
  generalize h.wwan.cellSlot = s at hs
  generalize hslot : h'.wwan.cellSlot = s' at hs
  cases hs with
  | @asked _ _ p hp hcookie =>
    refine ⟨?_, nofun, ?_, ?_, ?_, ?_⟩
    · rw [hn, ht.calls, CellLedger.ask, List.length_append, Nat.add_assoc]
      rfl
    · rintro c ⟨⟩
      exact ⟨p, hslot, hp, hcookie⟩
    · rintro c ⟨⟩
      simp [CellLedger.ask]
    · rw [hl, List.append_nil]
      exact ht.replies
    · intro x hx
      obtain ⟨hcall, ha⟩ := ht.results x hx
      exact ⟨List.mem_append_left _ hcall, ha⟩

omit [Radio R] in
theorem Tallies.record (ht : Tallies Q h₀ L h) (a : Nat × CellReport) :
    Tallies Q h₀ { L with answers := L.answers ++ [a] } h :=
  ⟨ht.calls, ht.vacant, ht.occupied, ht.latest, ht.replies, fun x hx =>
    have ⟨hcall, ha⟩ := ht.results x hx
    ⟨hcall, fun a hxa => ⟨List.mem_append_left _ (ha a hxa).1, (ha a hxa).2⟩⟩⟩

omit [Radio R] in
/-- What is in flight gets its result, and the desk is free. -/
theorem Tallies.conclude (ht : Tallies Q h₀ L h) {answer : Option (Nat × CellReport)}
    (hcalls : h'.cellCalls = h.cellCalls) (hslot : h'.wwan.cellSlot = none)
    (hreplies : h'.replies .cell = h.replies .cell ++
      ((L.awaited.map fun c => (⟨c, answer⟩ : CellResult)).toList.map CellResult.event))
    (hQ : ∀ c a, L.awaited = some c → answer = some a → a ∈ L.answers ∧ Q a.1 c.number) :
    Tallies Q h₀ (L.conclude answer) h' := by
  refine ⟨hcalls.trans ht.calls, fun _ => hslot, nofun, nofun, ?_, ?_⟩
  · rw [hreplies, ht.replies, List.append_assoc, ← List.map_append]
    rfl
  · intro x hx
    rcases List.mem_append.1 hx with hx | hx
    · exact ht.results x hx
    · obtain ⟨c, hc, rfl⟩ := Option.map_eq_some_iff.1 (Option.mem_toList.1 hx)
      exact ⟨(ht.latest c hc).1, fun a ha => hQ c a hc ha⟩

theorem Tallies.answered (ht : Tallies Q h₀ L h) {k : Nat} {r : CellReport}
    (hm : Moves h o (.reported (.wwan r)) h' o') :
    h'.cellCalls = h.cellCalls ∧ h'.wwan.cellSlot = none ∧
      h'.replies .cell = h.replies .cell ++
        ((L.awaited.map fun c => (⟨c, some (k, r)⟩ : CellResult)).toList.map CellResult.event) := by
  obtain ⟨n, l, hs, hn, hl⟩ := hm.cellStep
  cases ha : L.awaited with
  | none =>
    rw [ht.vacant ha] at hs
    generalize hslot : h'.wwan.cellSlot = s' at hs
    cases hs
    exact ⟨hn, rfl, hl⟩
  | some c =>
    obtain ⟨p, hp, hid, hcookie⟩ := ht.occupied c ha
    rw [hp] at hs
    generalize hslot : h'.wwan.cellSlot = s' at hs
    cases hs with
    | idle hclose => cases hclose p rfl
    | answered =>
      refine ⟨hn, rfl, hl.trans ?_⟩
      rw [Pending.cellResult, hid, hcookie]
      rfl

theorem Tallies.timedOut (ht : Tallies Q h₀ L h) {p : Pending Unit} (hp : h.wwan.cellSlot = some p)
    (hm : Moves h o (.expired p.timer .wwanCellInfoTimeout) h' o') :
    h'.cellCalls = h.cellCalls ∧ h'.wwan.cellSlot = none ∧
      h'.replies .cell = h.replies .cell ++
        ((L.awaited.map fun c => (⟨c, none⟩ : CellResult)).toList.map CellResult.event) := by
  obtain ⟨n, l, hs, hn, hl⟩ := hm.cellStep
  cases ha : L.awaited with
  | none => cases hp.symm.trans (ht.vacant ha)
  | some c =>
    obtain ⟨p', hp', hid, hcookie⟩ := ht.occupied c ha
    cases hp.symm.trans hp'
    rw [hp] at hs
    generalize hslot : h'.wwan.cellSlot = s' at hs
    generalize htimer : p.timer = x at hs
    cases hs with
    | idle hclose =>
      have hno := hclose p rfl
      rw [← htimer] at hno
      cases (Desk.closes_timer .cell (p.ticket true)).symm.trans hno
    | timedOut =>
      refine ⟨hn, rfl, hl.trans ?_⟩
      rw [Pending.cellResult, hid, hcookie]
      rfl

theorem Tallies.left (ht : Tallies Q h₀ L h) {id : InstanceId} (hm : Moves h o (.left id) h' o') :
    Tallies Q h₀ (L.leave id) h' := by
  obtain ⟨n, l, hs, hn, hl⟩ := hm.cellStep
  generalize hbefore : h.wwan.cellSlot = s at hs
  generalize hslot : h'.wwan.cellSlot = s' at hs
  cases hs with
  | idle _ hleft => exact absurd rfl (hleft id)
  | left =>
    rw [← hbefore] at hslot
    have hstays (c : CellCall) (hc : (L.leave id).awaited = some c) :
        L.awaited = some c ∧ c.id ≠ id := by
      obtain ⟨hc, hne⟩ := Option.filter_eq_some_iff.1 hc
      exact ⟨hc, bne_iff_ne.1 hne⟩
    refine ⟨hn.trans ht.calls, ?_, ?_, ?_, ?_, ht.results⟩
    · intro hnone
      cases ha : L.awaited with
      | none =>
        rw [hslot, ht.vacant ha]
        rfl
      | some c =>
        obtain ⟨p, hp, hid, -⟩ := ht.occupied c ha
        have hgone : c.id = id := by
          by_contra hne
          rw [CellLedger.leave, ha] at hnone
          simp [hne] at hnone
        rw [hslot, hp]
        simp [Slot.without, hid, hgone]
    · intro c hc
      obtain ⟨hc, hne⟩ := hstays c hc
      obtain ⟨p, hp, hid, hcookie⟩ := ht.occupied c hc
      refine ⟨p, ?_, hid, hcookie⟩
      rw [hslot, hp]
      simp [Slot.without, hid, hne]
    · exact fun c hc => ht.latest c (hstays c hc).1
    · rw [hl, List.append_nil]
      exact ht.replies

theorem Tallies.other (ht : Tallies Q h₀ L h) {m : Move} (hm : Moves h o m h' o')
    (hreport : ∀ r, m ≠ .reported (.wwan r))
    (htimer : ∀ p, h.wwan.cellSlot = some p → m ≠ .expired p.timer .wwanCellInfoTimeout)
    (hleft : ∀ id, m ≠ .left id) (hcalls : h'.cellCalls = h.cellCalls) : Tallies Q h₀ L h' := by
  obtain ⟨n, l, hs, hn, hl⟩ := hm.cellStep
  obtain rfl : n = 0 := by omega
  generalize hslot : h.wwan.cellSlot = s at hs
  generalize hslot' : h'.wwan.cellSlot = s' at hs
  cases hs with
  | idle =>
    refine ⟨hcalls.trans ht.calls, ?_, ?_, ht.latest, ?_, ht.results⟩
    · rw [hslot', ← hslot]
      exact ht.vacant
    · rw [hslot', ← hslot]
      exact ht.occupied
    · rw [hl, List.append_nil]
      exact ht.replies
  | answered => exact absurd rfl (hreport _)
  | timedOut => exact absurd rfl (htimer _ hslot)
  | left => exact absurd rfl (hleft _)

end

section

variable {P : CellLedger → Nat → Prop} {Q : Nat → Nat → Prop} {h₀ h : Hub A R} {L : CellLedger}
  {o₀ o : Option Dispatch}

theorem CellCourse.tallies (hfree : h₀.wwan.cellSlot = none)
    (hQ : ∀ L k c, P L k → k < L.calls.length → L.awaited = some c →
      c.number + 1 = L.calls.length → Q k c.number)
    (hc : CellCourse P h₀ o₀ L h o) : Tallies Q h₀ L h := by
  induction hc with
  | start => exact tallies_start hfree
  | asked _ hm hcalls ih => exact ih.asked hm hcalls
  | @answered L _ _ _ _ k r _ howes hP hm ih =>
    obtain ⟨hcalls, hslot, hreplies⟩ := ih.answered (k := k) hm
    refine (ih.record (k, r)).conclude hcalls hslot hreplies ?_
    rintro c a hc ⟨⟩
    exact ⟨List.mem_append_right _ (List.mem_singleton_self _),
      hQ L k c hP howes.1 hc (ih.latest c hc).2⟩
  | timedOut _ hp hm ih =>
    obtain ⟨hcalls, hslot, hreplies⟩ := ih.timedOut hp hm
    exact ih.conclude hcalls hslot hreplies nofun
  | left _ hm ih => exact ih.left hm
  | other _ hm hreport htimer hleft hcalls ih => exact ih.other hm hreport htimer hleft hcalls

/-- Whatever a hub does, the ledger goes on, as long as reports on cells are answers. -/
theorem CellCourse.goesOn (hc : CellCourse P h₀ o₀ L h o) {m : Move} {h' : Hub A R}
    {o' : Option Dispatch} (hm : Moves h o m h' o')
    (hreport : ∀ r, m = .reported (.wwan r) → ∃ k, L.Owes k ∧ P L k) :
    ∃ L', CellCourse P h₀ o₀ L' h' o' := by
  obtain ⟨n, l, hs, hn, -⟩ := hm.cellStep
  generalize hslot : h.wwan.cellSlot = s at hs
  generalize h'.wwan.cellSlot = s' at hs
  cases hs with
  | idle hclose hleft =>
    by_cases hr : ∃ r, m = .reported (.wwan r)
    · obtain ⟨r, rfl⟩ := hr
      obtain ⟨k, howes, hP⟩ := hreport r rfl
      exact ⟨_, hc.answered howes hP hm⟩
    · refine ⟨L, hc.other hm (fun r he => hr ⟨r, he⟩) ?_ hleft hn⟩
      rintro p hp rfl
      have hno := hclose p (hslot.symm.trans hp)
      cases (Desk.closes_timer .cell (p.ticket true)).symm.trans hno
  | asked => exact ⟨_, hc.asked hm hn⟩
  | answered =>
    obtain ⟨k, howes, hP⟩ := hreport _ rfl
    exact ⟨_, hc.answered howes hP hm⟩
  | timedOut => exact ⟨_, hc.timedOut hslot hm⟩
  | left => exact ⟨_, hc.left hm⟩

end

/-- All results are on the ledger, each for a call that the radio accepted, with what the radio
answered to that call or to an earlier one, or without an answer. It is that call's own answer if
and only if no later call has superseded the one that the radio answers; the answer to a call that
was given up completes the request that is in flight when it comes. With nothing in flight an answer
is dropped. Whatever hosts do to a hub is made of such moves. -/
theorem cell_results_are_attributed [Behaviour A] :
    (∀ (h₀ : Hub A R) o₀, h₀.wwan.cellSlot = none → ∀ P L h o, CellCourse P h₀ o₀ L h o →
      h.cellCalls = h₀.cellCalls + L.calls.length ∧
      h.replies .cell = h₀.replies .cell ++ L.results.map CellResult.event ∧
      (∀ x ∈ L.results, x.call ∈ L.calls ∧
        ∀ a, x.answer = some a → a ∈ L.answers ∧ a.1 ≤ x.call.number) ∧
      (∀ m h' o', Moves h o m h' o' →
        (∀ r, m = .reported (.wwan r) → ∃ k, L.Owes k ∧ P L k) →
          ∃ L', CellCourse P h₀ o₀ L' h' o') ∧
      ∀ k r h' o', L.Owes k → Moves h o (.reported (.wwan r)) h' o' →
        (L.awaited = none → h'.replies .cell = h.replies .cell) ∧
        ∀ c, L.awaited = some c → (k = c.number ↔ L.Timely k) ∧
          h'.replies .cell = h.replies .cell ++ [cellAnswer c.id { r with cookie := c.cookie }]) ∧
    (∀ (h₀ : Hub A R) o₀, h₀.wwan.cellSlot = none → ∀ L h o,
      CellCourse CellLedger.Timely h₀ o₀ L h o →
        ∀ x ∈ L.results, ∀ a, x.answer = some a → a.1 = x.call.number) ∧
    ∀ config (h : Hub A R), Hosted config h → ∃ now radios metrics ms o,
      Course Free (blank config now radios metrics) none ms h o := by
  refine ⟨?_, ?_, fun config h hh => hh.course⟩
  · intro h₀ o₀ hfree P L h o hc
    have ht : Tallies (· ≤ ·) h₀ L h := hc.tallies hfree fun L k c _ hk _ hn => by omega
    refine ⟨ht.calls, ht.replies, ht.results, fun m h' o' => hc.goesOn, ?_⟩
    intro k r h' o' _ hm
    obtain ⟨-, -, hreplies⟩ := ht.answered (k := k) hm
    constructor
    · intro ha
      rw [hreplies, ha]
      exact List.append_nil _
    · intro c ha
      rw [hreplies, ha]
      have hlast := (ht.latest c ha).2
      refine ⟨⟨fun hk => .inr (hk ▸ hlast), fun htimely => ?_⟩, rfl⟩
      rcases htimely with hno | hk
      · cases hno.symm.trans ha
      · omega
  · intro h₀ o₀ hfree L h o hc x hx a ha
    have ht : Tallies (· = ·) h₀ L h := by
      refine hc.tallies hfree fun L k c hP _ hc hn => ?_
      rcases hP with hno | hk
      · cases hno.symm.trans hc
      · omega
    exact ((ht.results x hx).2 a ha).2

/-- The radio answers the only call, and its nanoapp gets the answer. -/
theorem only_call_gets_its_answer : ∃ (h₀ h : Hub Script Stations) (L : CellLedger),
    Hosted {} h₀ ∧ h₀.wwan.cellSlot = none ∧ CellCourse CellLedger.Timely h₀ none L h none ∧
      h.replies .cell = [cellAnswer ⟨1⟩ { cookie := ⟨7⟩, cells := [⟨.lte, true, 3, -80⟩] }] ∧
      ∀ x ∈ L.results, ∀ a, x.answer = some a → a.1 = x.call.number := by
  obtain ⟨h₀, hh, hfree, hnone, hrun⟩ := hosted_of_ends (A := Script) {} 0 Stations.scripted none
    [.load ⟨1⟩ { wwan := true } {}] (by simp [Turn.Honest])
    (P := fun h => h.wwan.cellSlot.isNone = true ∧ h.replies .cell = [] ∧
      Ends (perform ⟨1⟩ (.cellInfo ⟨7⟩)) h (fun _ h₁ => h₁.cellCalls = h.cellCalls + 1 ∧
        Ends (handleReport (.wwan { cells := [⟨.lte, true, 3, -80⟩] })) h₁
          (fun _ _ => True) fun _ _ => False) fun _ _ => False) (by decide +kernel)
  obtain ⟨_, h₁, hr₁, hcalls, hrun⟩ := hrun.exists_ok
  obtain ⟨_, h₂, hr₂, -⟩ := hrun.exists_ok
  have hfree := Option.isNone_iff_eq_none.1 hfree
  have hc : CellCourse CellLedger.Timely h₀ none _ h₂ none :=
    .answered (k := 0) (.asked .start (.call hr₁) hcalls) ⟨Nat.one_pos, by simp [CellLedger.ask]⟩
      (.inr rfl) (.report hr₂)
  obtain ⟨hall, hown, -⟩ := @cell_results_are_attributed Script Stations _ _
  obtain ⟨-, hreplies, -⟩ := hall h₀ none hfree _ _ _ _ hc
  refine ⟨h₀, h₂, _, hh, hfree, hc, ?_, hown h₀ none hfree _ _ _ hc⟩
  rw [hreplies, hnone]
  rfl

/-- A call was not answered in time, and its answer comes when the next one is in flight. -/
theorem late_answer_goes_to_the_next : ¬ ∀ (h₀ : Hub Script Stations) o₀, Hosted {} h₀ →
    h₀.wwan.cellSlot = none → ∀ L h o, CellCourse (fun _ _ => True) h₀ o₀ L h o →
      ∀ x ∈ L.results, ∀ a, x.answer = some a → a.1 = x.call.number := by
  intro hclaim
  obtain ⟨h₀, hh, hrun⟩ := hosted_of_ends (A := Script) {} 0 Stations.scripted none
    [.load ⟨1⟩ { wwan := true } {}, .load ⟨2⟩ { wwan := true } {}] (by simp [Turn.Honest])
    (P := fun h₀ => Ends (do
        let _ ← perform ⟨1⟩ (.cellInfo ⟨7⟩)
        let h₁ ← get
        handleSystemTimer ⟨0⟩ .wwanCellInfoTimeout
        let h₂ ← get
        let _ ← perform ⟨2⟩ (.cellInfo ⟨9⟩)
        let h₃ ← get
        handleReport (.wwan { cells := [⟨.lte, true, 3, -80⟩] })
        return (h₁, h₂, h₃)) h₀ (fun (h₁, h₂, h₃) _ => h₀.wwan.cellSlot.isNone = true ∧
          h₁.wwan.cellSlot.map (·.timer) = some ⟨0⟩ ∧ h₁.cellCalls = h₀.cellCalls + 1 ∧
          h₃.cellCalls = h₂.cellCalls + 1) fun _ _ => False) (by decide +kernel)
  simp only [ends_bind, ends_get, ends_pure] at hrun
  obtain ⟨_, h₁, hr₁, hrun⟩ := hrun.exists_ok
  obtain ⟨_, h₂, hr₂, hrun⟩ := hrun.exists_ok
  obtain ⟨_, h₃, hr₃, hrun⟩ := hrun.exists_ok
  obtain ⟨_, h₄, hr₄, hfree, htimer, hcalls₁, hcalls₃⟩ := hrun.exists_ok
  obtain ⟨p, hp, htimer⟩ := Option.map_eq_some_iff.1 htimer
  have hm : Moves h₁ none (.expired p.timer .wwanCellInfoTimeout) h₂ none := .expiry (htimer ▸ hr₂)
  have hc : CellCourse (fun _ _ => True) h₀ none _ h₄ none :=
    .answered (k := 0) (.asked (.timedOut (.asked .start (.call hr₁) hcalls₁) hp hm) (.call hr₃)
      hcalls₃) ⟨by decide, by simp [CellLedger.ask, CellLedger.conclude]⟩ trivial (.report hr₄)
  have hown := hclaim h₀ none hh (Option.isNone_iff_eq_none.1 hfree) _ _ _ hc
    ⟨⟨1, ⟨2⟩, ⟨9⟩⟩, some (0, { cells := [⟨.lte, true, 3, -80⟩] })⟩
    (List.mem_cons_of_mem _ (List.mem_singleton_self _)) _ rfl
  exact absurd hown (by decide)

end Hub

end ContextHub
