import ContextHub.Proofs.Hub.Course
import ContextHub.Simulation.World
/-!
# Answers to ranging, cell and session requests

A desk where one request at a time is in flight answers it when it closes it, on a report or when
its timer expires, and nothing else is answered there but session requests that leave the common
setting as it is, which are answered at once. `Desk.Serves` lists what a move may do to a desk.
Hence an accepted request is answered once, or not at all if its nanoapp leaves first.
-/

namespace ContextHub

/-- What a request is answered with: one event, and after a success of ranging the distances. -/
inductive Desk.Reply (id : InstanceId) (start : Bool) (cookie : Cookie) :
    Desk → List Event → Prop
  | measured (results : Option (List RangingResult)) : Reply id start cookie .ranging
      [wifiAnswer id Hub.WifiKind.ranging .none cookie, rangingResults id results]
  | unmeasured {code : ErrorCode} (hcode : code.isSuccess = false) :
      Reply id start cookie .ranging [wifiAnswer id Hub.WifiKind.ranging code cookie]
  | cells {r : CellReport} (hr : r.cookie = cookie) :
      Reply id start cookie .cell [cellAnswer id r]
  | session (k : SessionKind) (code : ErrorCode) :
      Reply id start cookie (.session k) [sessionAnswer k id start code cookie]

/-- At which desk a call makes a request, whether it starts something, and the cookie. -/
def Call.request? : Call → Option (Desk × Bool × Cookie)
  | .ranging _ cookie => some (.ranging, true, cookie)
  | .cellInfo cookie => some (.cell, true, cookie)
  | .location _ _ cookie => some (.session .location, true, cookie)
  | .stopLocation cookie => some (.session .location, false, cookie)
  | .measurement _ cookie => some (.session .measurement, true, cookie)
  | .stopMeasurement cookie => some (.session .measurement, false, cookie)
  | _ => none

theorem Call.request?_of_session? {id : InstanceId} {c : Call} {k : SessionKind}
    {request : Option SessionRequest} {cookie : Cookie}
    (hc : c.session? id = some (k, request, cookie)) :
    c.request? = some (.session k, request.isSome, cookie) := by
  cases c <;> cases hc <;> rfl

/-- The kind of request that an event answers. -/
def Event.kind? (e : Event) : Option Nat :=
  match e.payload with
  | .async r => some r.requestType
  | _ => none

namespace Desk

/-- Whether an event is an answer from the desk, or the distances that come with one. -/
def issues (desk : Desk) (e : Event) : Bool :=
  match desk with
  | ranging => e.type == EventType.wifiRangingResult ||
      e.type == EventType.wifiAsyncResult && e.kind? == some Hub.WifiKind.ranging
  | cell => e.type == EventType.wwanCellInfoResult
  | session k => e.type == EventType.gnssAsyncResult &&
      (e.kind? == some (k.requestKind true) || e.kind? == some (k.requestKind false))

/-- The answers among the effects. -/
def replies (desk : Desk) (fx : List Effect) : List Event :=
  (fx.filterMap Effect.event?).filter desk.issues

/-- What becomes of the request in flight at a desk, and what is answered. -/
inductive Serves (desk : Desk) : Option Ticket → Move → List Event → Option Ticket → Prop
  | idle {t : Option Ticket} {m : Move} (hm : ∀ x, t = some x → desk.closes x m = false)
      (hl : ∀ id, m ≠ .left id) : Serves desk t m [] t
  | atOnce {id : InstanceId} {c : Call} {k : SessionKind} {start : Bool} {cookie : Cookie}
      (hc : c.request? = some (desk, start, cookie)) (hk : desk = .session k) :
      Serves desk none (.called id c) [sessionAnswer k id start .none cookie] none
  | accepted {id : InstanceId} {c : Call} {x : Ticket} (hx : x.requester = some id)
      (hc : c.request? = some (desk, x.start, x.cookie)) :
      Serves desk none (.called id c) [] (some x)
  | closed {x : Ticket} {m : Move} {l : List Event} {t : Option Ticket}
      (hm : desk.closes x m = true) (hnone : x.requester = none → l = [])
      (hsome : ∀ id, x.requester = some id → desk.Reply id x.start x.cookie l)
      (ht : ∀ y, t = some y → y.requester = none) : Serves desk (some x) m l t
  | left {id : InstanceId} {t t' : Option Ticket}
      (hother : ∀ x, t = some x → x.requester ≠ some id → t' = some x)
      (hown : (∀ x, t = some x → x.requester = some id) → ∀ y, t' = some y → y.requester = none) :
      Serves desk t (.left id) [] t'

end Desk

namespace Desks

variable {desk : Desk} {d d' : Desks} {fx : List Effect} {m : Move}

theorem ticket_setSession_self (d : Desks) (k : SessionKind) (s : Session) :
    (d.setSession k s).ticket (.session k) =
      s.slot.map fun p => p.ticket p.kind.request.isSome := by
  rw [ticket, session_setSession]

theorem ticket_setSession_of_ne {k : SessionKind} (hk : desk ≠ .session k) (d : Desks)
    (s : Session) : (d.setSession k s).ticket desk = d.ticket desk := by
  cases desk with
  | session k' =>
    rw [ticket, ticket, session_setSession_of_ne fun he => hk (congrArg Desk.session he)]
  | _ => rfl

theorem replies_eq_nil (hfx : ∀ x ∈ fx, ∀ e, x.event? = some e → desk.issues e = false) :
    desk.replies fx = [] := by
  refine List.filter_eq_nil_iff.2 fun e he => ?_
  obtain ⟨x, hx, hxe⟩ := List.mem_filterMap.1 he
  simp [hfx x hx e hxe]

theorem replies_append (fx fx' : List Effect) :
    desk.replies (fx ++ fx') = desk.replies fx ++ desk.replies fx' := by
  simp [Desk.replies]

theorem replies_cons (x : Effect) (fx : List Effect) :
    desk.replies (x :: fx) = desk.replies [x] ++ desk.replies fx := replies_append [x] fx

theorem replies_of_asked (hfx : ∀ x ∈ fx, ∃ q accepted, x = .asked q accepted) :
    desk.replies fx = [] := by
  refine replies_eq_nil fun x hx e he => ?_
  obtain ⟨q, accepted, rfl⟩ := hfx x hx
  cases he

/-- Another desk is worked at. -/
theorem serves_elsewhere (ht : d'.ticket desk = d.ticket desk) (hfx : desk.replies fx = [])
    (hm : ∀ x, desk.closes x m = false) (hl : ∀ id, m ≠ .left id) :
    desk.Serves (d.ticket desk) m (desk.replies fx) (d'.ticket desk) := by
  rw [ht, hfx]
  exact .idle (fun x _ => hm x) hl

theorem replies_subscription (on : Bool) (id : InstanceId) (type : EventType) :
    desk.replies [.subscription on id type] = [] := by cases on <;> rfl

theorem replies_answered {κ : Type} (p : Pending κ) (answer : InstanceId → List Effect) :
    desk.replies (p.answered answer) = p.requester.elim [] fun id => desk.replies (answer id) := by
  unfold Pending.answered
  cases p.requester <;> rfl

/-- Whoever is answered, it is not for a request at this desk. -/
theorem replies_answered_nil {κ : Type} {p : Pending κ} {answer : InstanceId → List Effect}
    (ha : ∀ id, desk.replies (answer id) = []) : desk.replies (p.answered answer) = [] := by
  rw [replies_answered]
  cases p.requester with
  | none => rfl
  | some id => exact ha id

/-- The request in flight is closed, and its nanoapp is answered. -/
theorem serves_closed {κ : Type} {p : Pending κ} {start : Bool} {answer : InstanceId → List Effect}
    {fx' : List Effect} (hs : d.ticket desk = some (p.ticket start))
    (hm : desk.closes (p.ticket start) m = true)
    (ha : ∀ id, desk.Reply id start p.cookie (desk.replies (answer id)))
    (hfx : desk.replies fx' = []) (ht : ∀ y, d'.ticket desk = some y → y.requester = none) :
    desk.Serves (d.ticket desk) m (desk.replies (p.answered answer ++ fx')) (d'.ticket desk) := by
  rw [hs, replies_append, hfx, List.append_nil, replies_answered]
  refine .closed hm (fun hnone => ?_) (fun id hid => ?_) ht
  · rw [show p.requester = none from hnone]
    rfl
  · rw [show p.requester = some id from hid]
    exact ha id

theorem MonitorRule.serves (hr : MonitorRule m d fx d') :
    desk.Serves (d.ticket desk) m (desk.replies fx) (d'.ticket desk) := by
  have hanswer (id : InstanceId) (code : ErrorCode) (cookie : Cookie) :
      desk.replies [.posted (wifiAnswer id Hub.WifiKind.scanMonitor code cookie)] = [] := by
    rcases desk with _ | _ | _ <;> rfl
  cases hr with
  | entered =>
    refine serves_elsewhere (by cases desk <;> rfl) ?_ (fun _ => rfl) fun _ h => by cases h
    rw [replies_cons, replies_subscription, hanswer, List.append_nil]
  | refused =>
    exact serves_elsewhere rfl rfl (fun _ => rfl) fun _ h => by cases h
  | awaited =>
    exact serves_elsewhere (by cases desk <;> rfl) rfl (fun _ => rfl) fun _ h => by cases h
  | @settled _ _ p enabled _ code _ _ _ hr =>
    obtain ⟨⟨s, rfl, -⟩, hasked⟩ := hr.frame
    have hticket : ({ d.settleMonitor p enabled code with monitor := s } : Desks).ticket desk =
        d.ticket desk := by
      unfold settleMonitor grantMonitor
      split
      · cases desk <;> rfl
      · split <;> cases desk <;> rfl
    refine serves_elsewhere hticket ?_ (fun _ => by rcases desk with _ | _ | _ | _ <;> rfl)
      fun _ h => by cases h
    rw [replies_append, replies_of_asked hasked, List.append_nil, monitorOutcome]
    refine replies_answered_nil fun id => ?_
    rw [replies_append, hanswer, List.append_nil]
    split
    · exact replies_subscription _ _ _
    · rfl

theorem ScanRule.serves (hr : ScanRule m d fx d') :
    desk.Serves (d.ticket desk) m (desk.replies fx) (d'.ticket desk) := by
  have heffect {requester : Option InstanceId} (hfx : ∀ x ∈ fx, ScanEffect requester x) :
      desk.replies fx = [] := by
    refine replies_eq_nil fun x hx e he => ?_
    cases hfx x hx with
    | asked => cases he
    | _ => cases he; rcases desk with _ | _ | _ <;> rfl
  cases hr with
  | refused => exact serves_elsewhere rfl rfl (fun _ => rfl) fun _ h => by cases h
  | awaited =>
    exact serves_elsewhere (by cases desk <;> rfl) rfl (fun _ => rfl) fun _ h => by cases h
  | served hm _ _ hfx =>
    refine serves_elsewhere (by cases desk <;> rfl) (heffect hfx) (fun x => ?_) fun id h => ?_
    · unfold Move.servesScan at hm
      split at hm
      iterate 4 rcases desk with _ | _ | _ | _ <;> rfl
      cases hm
    · rw [h] at hm
      cases hm
  | shared hfx =>
    exact serves_elsewhere rfl (heffect hfx)
      (fun _ => by rcases desk with _ | _ | _ | _ <;> rfl) fun _ h => by cases h

theorem closes_timer_of_ne {desk' : Desk} (hne : desk ≠ desk') (x : Ticket) (y : TimerHandle) :
    desk.closes x (.expired y desk'.purpose) = false := by
  rw [Desk.closes, beq_eq_false_iff_ne.2 fun he => hne (Desk.purpose_inj he).symm, Bool.false_and]

theorem closes_report_of_ne {desk' : Desk} {r : Report} (hr : desk'.isReported r = true)
    (hne : desk ≠ desk') (x : Ticket) : desk.closes x (.reported r) = false :=
  Bool.eq_false_iff.2 fun hc => hne (Desk.eq_of_isReported hc hr)

theorem RangingRule.serves (hr : RangingRule m d fx d') :
    desk.Serves (d.ticket desk) m (desk.replies fx) (d'.ticket desk) := by
  have hother (hne : desk ≠ .ranging) (s : Slot Unit) :
      ({ d with ranging := s } : Desks).ticket desk = d.ticket desk := by
    cases desk <;> first | rfl | exact absurd rfl hne
  have hreply (hne : desk ≠ .ranging) (id : InstanceId) (code : ErrorCode) (cookie : Cookie) :
      desk.replies [.posted (wifiAnswer id Hub.WifiKind.ranging code cookie)] = [] := by
    cases desk <;> first | rfl | exact absurd rfl hne
  have hresults (hne : desk ≠ .ranging) (id : InstanceId) (results : Option (List RangingResult)) :
      desk.replies [.posted (rangingResults id results)] = [] := by
    cases desk <;> first | rfl | exact absurd rfl hne
  have hticket {p : Pending Unit} (hs : d.ranging = some p) :
      d.ticket .ranging = some (p.ticket true) := by rw [ticket, hs, Option.map_some]
  cases hr with
  | refused => exact serves_elsewhere rfl rfl (fun _ => rfl) nofun
  | awaited hfree hp hcookie =>
    by_cases hdesk : desk = .ranging
    · rw [hdesk, show d.ticket .ranging = none by rw [ticket, hfree, Option.map_none]]
      exact .accepted hp (by rw [← hcookie]; rfl)
    · exact serves_elsewhere (hother hdesk _) rfl (fun _ => rfl) nofun
  | @answered _ p raw results code hs hcode =>
    by_cases hdesk : desk = .ranging
    · rw [hdesk, ← List.append_nil (p.answered _)]
      refine serves_closed (hticket hs) rfl (fun id => ?_) rfl nofun
      cases hok : code.isSuccess with
      | true =>
        obtain rfl : code = .none := beq_iff_eq.1 hok
        exact .measured results
      | false => exact .unmeasured hok
    · refine serves_elsewhere (hother hdesk _) (replies_answered_nil fun id => ?_)
        (closes_report_of_ne rfl hdesk) nofun
      rw [replies_cons, hreply hdesk, List.nil_append]
      split
      · exact hresults hdesk id results
      · rfl
  | @timedOut _ p hs =>
    by_cases hdesk : desk = .ranging
    · rw [hdesk, ← List.append_nil (p.answered _)]
      exact serves_closed (hticket hs) (Desk.closes_timer .ranging (p.ticket true))
        (fun id => .unmeasured rfl) rfl nofun
    · exact serves_elsewhere (hother hdesk _) (replies_answered_nil fun id => hreply hdesk id _ _)
        (fun x => closes_timer_of_ne hdesk x p.timer) nofun

theorem CellRule.serves (hr : CellRule m d fx d') :
    desk.Serves (d.ticket desk) m (desk.replies fx) (d'.ticket desk) := by
  have hother (hne : desk ≠ .cell) (s : Slot Unit) :
      ({ d with cell := s } : Desks).ticket desk = d.ticket desk := by
    cases desk <;> first | rfl | exact absurd rfl hne
  have hreply (hne : desk ≠ .cell) (id : InstanceId) (r : CellReport) :
      desk.replies [.posted (cellAnswer id r)] = [] := by
    cases desk <;> first | rfl | exact absurd rfl hne
  have hticket {p : Pending Unit} (hs : d.cell = some p) :
      d.ticket .cell = some (p.ticket true) := by rw [ticket, hs, Option.map_some]
  cases hr with
  | refused => exact serves_elsewhere rfl rfl (fun _ => rfl) nofun
  | awaited hfree hp hcookie =>
    by_cases hdesk : desk = .cell
    · rw [hdesk, show d.ticket .cell = none by rw [ticket, hfree, Option.map_none]]
      exact .accepted hp (by rw [← hcookie]; rfl)
    · exact serves_elsewhere (hother hdesk _) rfl (fun _ => rfl) nofun
  | @answered _ p r hs =>
    by_cases hdesk : desk = .cell
    · rw [hdesk, ← List.append_nil (p.answered _)]
      exact serves_closed (hticket hs) rfl (fun id => .cells rfl) rfl nofun
    · exact serves_elsewhere (hother hdesk _) (replies_answered_nil fun id => hreply hdesk id _)
        (closes_report_of_ne rfl hdesk) nofun
  | @timedOut _ p hs =>
    by_cases hdesk : desk = .cell
    · rw [hdesk, ← List.append_nil (p.answered _)]
      exact serves_closed (hticket hs) (Desk.closes_timer .cell (p.ticket true))
        (fun id => .cells rfl) rfl nofun
    · exact serves_elsewhere (hother hdesk _) (replies_answered_nil fun id => hreply hdesk id _)
        (fun x => closes_timer_of_ne hdesk x p.timer) nofun

/-- What a session answers is no answer from another desk. -/
theorem replies_session_of_ne {k : SessionKind} (hne : desk ≠ .session k) (id : InstanceId)
    (start : Bool) (code : ErrorCode) (cookie : Cookie) :
    desk.replies [.posted (sessionAnswer k id start code cookie)] = [] := by
  rcases desk with _ | _ | _ | _ <;> cases k <;> cases start <;>
    first | rfl | exact absurd rfl hne

theorem replies_session (k : SessionKind) (id : InstanceId) (start : Bool) (code : ErrorCode)
    (cookie : Cookie) :
    Desk.replies (.session k) [.posted (sessionAnswer k id start code cookie)] =
      [sessionAnswer k id start code cookie] := by
  cases k <;> cases start <;> rfl

/-- A session's outcome is answered at its desk, with what comes besides the answer left out. -/
theorem replies_sessionOutcome (k : SessionKind) (p : Pending SessionChange) (code : ErrorCode) :
    desk.replies (sessionOutcome k p code) = desk.replies (p.answered fun id =>
      [.posted (sessionAnswer k id p.kind.request.isSome code p.cookie)]) := by
  rw [sessionOutcome, replies_answered, replies_answered]
  cases p.requester with
  | none => rfl
  | some id =>
    refine (replies_append _ _).trans ?_
    split
    · rw [replies_subscription]
      rfl
    · rfl

theorem SessionRule.serves {k : SessionKind} (hr : SessionRule k m d fx d') :
    desk.Serves (d.ticket desk) m (desk.replies fx) (d'.ticket desk) := by
  have hticket {p : Pending SessionChange} (hs : (d.session k).slot = some p) :
      d.ticket (.session k) = some (p.ticket p.kind.request.isSome) := by
    rw [ticket, hs, Option.map_some]
  have hvacant (hs : (d.session k).slot = none) : d.ticket (.session k) = none := by
    rw [ticket, hs, Option.map_none]
  cases hr with
  | @entered _ id c request cookie hc hfree htarget =>
    by_cases hdesk : desk = .session k
    · have hslot :
          (d.setSession k ((d.session k).enter id request)).ticket (.session k) = none := by
        rw [ticket_setSession_self, Session.enter, hfree, Option.map_none]
      rw [hdesk, hvacant hfree, hslot]
      rw [replies_cons, replies_subscription, replies_session, List.nil_append]
      exact .atOnce (Call.request?_of_session? hc) rfl
    · refine serves_elsewhere (ticket_setSession_of_ne hdesk _ _) ?_ (fun _ => rfl) nofun
      rw [replies_cons, replies_subscription, replies_session_of_ne hdesk, List.nil_append]
  | refused => exact serves_elsewhere rfl rfl (fun _ => rfl) nofun
  | @awaited _ id c request cookie p hc hfree htarget hne hp hcookie =>
    by_cases hdesk : desk = .session k
    · rw [hdesk, hvacant hfree, ticket_setSession_self]
      refine .accepted hp ?_
      rw [Call.request?_of_session? hc, ← hcookie]
      exact congrArg (fun j : SessionChange => some (Desk.session k, j.request.isSome, p.cookie))
        htarget.symm
    · exact serves_elsewhere (ticket_setSession_of_ne hdesk _ _) rfl (fun _ => rfl) nofun
  | @settled _ _ p enabled raw code _ hs hcode hr =>
    obtain ⟨⟨s, rfl, hs'⟩, hasked⟩ := hr.frame
    rw [session_setSession, setSession_setSession]
    rw [session_setSession, Session.settle_slot] at hs'
    by_cases hdesk : desk = .session k
    · rw [hdesk, replies_append, replies_sessionOutcome, ← replies_append]
      refine serves_closed (hticket hs) (k.isReported_status enabled raw) (fun id => ?_)
        (replies_of_asked hasked) fun y hy => ?_
      · rw [replies_session]
        exact .session k code
      · rw [ticket_setSession_self] at hy
        rcases hs' with rfl | ⟨-, q, rfl, hq⟩
        · cases hy
        · cases hy
          exact hq
    · refine serves_elsewhere (ticket_setSession_of_ne hdesk _ _) ?_
        (closes_report_of_ne (k.isReported_status enabled raw) hdesk) nofun
      rw [replies_append, replies_sessionOutcome, replies_of_asked hasked, List.append_nil]
      exact replies_answered_nil fun id => replies_session_of_ne hdesk id _ _ _
  | @timedOut _ p hs =>
    by_cases hdesk : desk = .session k
    · rw [hdesk, ← List.append_nil (p.answered _)]
      refine serves_closed (hticket hs) (Desk.closes_timer (.session k) (p.ticket _))
        (fun id => ?_) rfl ?_
      · rw [replies_session]
        exact .session k _
      · rw [ticket_setSession_self]
        nofun
    · exact serves_elsewhere (ticket_setSession_of_ne hdesk _ _)
        (replies_answered_nil fun id => replies_session_of_ne hdesk id _ _ _)
        (fun x => closes_timer_of_ne hdesk x p.timer) nofun
  | shared hr =>
    refine serves_elsewhere rfl ?_ (fun _ => hr desk) nofun
    rcases desk with _ | _ | _ <;> cases k <;> rfl

theorem DeskRule.serves (hr : DeskRule m d fx d') (hl : ∀ id, m ≠ .left id) :
    desk.Serves (d.ticket desk) m (desk.replies fx) (d'.ticket desk) := by
  cases hr with
  | idle hm => exact .idle (hm desk) hl
  | subscribed => exact serves_elsewhere rfl rfl (fun _ => rfl) hl
  | unsubscribed => exact serves_elsewhere rfl rfl (fun _ => rfl) hl
  | monitor h => exact h.serves
  | scan h => exact h.serves
  | ranging h => exact h.serves
  | cell h => exact h.serves
  | session k h => exact h.serves

/-- The call leaves the common setting of its session as it is. -/
def Meets (d : Desks) (id : InstanceId) (c : Call) : Prop :=
  ∃ k request cookie, c.session? id = some (k, request, cookie) ∧
    SessionSetting.aggregate ((d.session k).others id ++ request.toList) = (d.session k).confirmed

/-- The desk admits the request if it is free, and answers it at once or keeps it. -/
structure Admits (desk : Desk) (id : InstanceId) (start : Bool) (cookie : Cookie) (met : Prop)
    (t : Option Ticket) (l : List Event) (t' : Option Ticket) : Prop where
  free : t = none
  atOnce : met → t' = none ∧
    ∃ k, desk = .session k ∧ l = [sessionAnswer k id start .none cookie]
  kept : ¬ met → l = [] ∧
    ∃ x, t' = some x ∧ x.requester = some id ∧ x.cookie = cookie ∧ x.start = start

theorem DeskRule.admits {id : InstanceId} {c : Call} {start : Bool} {cookie : Cookie}
    (hr : DeskRule (.called id c) d fx d') (hc : c.request? = some (desk, start, cookie)) :
    (Effect.granted fx = true → Admits desk id start cookie (d.Meets id c) (d.ticket desk)
      (desk.replies fx) (d'.ticket desk)) ∧
    (Effect.granted fx = false → d' = d ∧ desk.replies fx = []) := by
  cases hr with
  | idle => exact ⟨nofun, fun _ => ⟨rfl, rfl⟩⟩
  | subscribed => cases hc
  | unsubscribed => cases hc
  | monitor h => cases h <;> cases hc
  | scan h =>
    cases h with
    | served hm => cases hm
    | _ => cases hc
  | ranging h =>
    cases h with
    | refused => exact ⟨nofun, fun _ => ⟨rfl, rfl⟩⟩
    | awaited hfree hp hcookie =>
      cases hc
      refine ⟨fun _ => ⟨by rw [ticket, hfree]; rfl, ?_, fun _ => ⟨rfl, _, rfl, hp, hcookie, rfl⟩⟩,
        nofun⟩
      rintro ⟨_, _, _, hs, -⟩
      cases hs
  | cell h =>
    cases h with
    | refused => exact ⟨nofun, fun _ => ⟨rfl, rfl⟩⟩
    | awaited hfree hp hcookie =>
      cases hc
      refine ⟨fun _ => ⟨by rw [ticket, hfree]; rfl, ?_, fun _ => ⟨rfl, _, rfl, hp, hcookie, rfl⟩⟩,
        nofun⟩
      rintro ⟨_, _, _, hs, -⟩
      cases hs
  | session k h =>
    have hfree (hs : (d.session k).slot = none) : d.ticket (.session k) = none := by
      rw [ticket, hs, Option.map_none]
    cases h with
    | @entered _ _ _ request _ hs hslot htarget =>
      cases (Call.request?_of_session? hs).symm.trans hc
      refine ⟨fun _ => ⟨hfree hslot, fun _ => ⟨?_, k, rfl, ?_⟩, fun hmeets => ?_⟩, fun h => ?_⟩
      · rw [ticket_setSession_self, Session.enter, hslot, Option.map_none]
      · rw [replies_cons, replies_subscription, replies_session, List.nil_append]
      · exact absurd ⟨k, request, cookie, hs, htarget⟩ hmeets
      · cases request <;> cases h
    | refused => exact ⟨nofun, fun _ => ⟨rfl, rfl⟩⟩
    | @awaited _ _ _ request _ p hs hslot htarget hne hp hcookie =>
      cases (Call.request?_of_session? hs).symm.trans hc
      refine ⟨fun _ => ⟨hfree hslot, fun hmeets => ?_, fun _ => ⟨rfl, ?_⟩⟩, nofun⟩
      · obtain ⟨k', request', cookie', hs', hmet⟩ := hmeets
        cases hs.symm.trans hs'
        rw [htarget] at hne
        exact absurd hmet hne
      · refine ⟨_, ticket_setSession_self d k _, hp, hcookie, ?_⟩
        exact congrArg (fun j : SessionChange => j.request.isSome) htarget

/-- A request goes on without a nanoapp that leaves, or is given up. -/
theorem Forgotten.serves {id : InstanceId} (hf : Forgotten id d d') :
    desk.Serves (d.ticket desk) (.left id) [] (d'.ticket desk) := by
  have hwithout (s : Slot Unit) : desk.Serves (s.map (·.ticket true)) (.left id) []
      ((s.without id).map (·.ticket true)) := by
    cases s with
    | none => exact .left (fun _ hx => by cases hx) fun _ _ hy => by cases hy
    | some p =>
      by_cases hp : p.requester = some id
      · have hs : Slot.without (some p) id = none := by simp [Slot.without, hp]
        rw [hs]
        exact .left (fun x hx hne => absurd hp (by cases hx; exact hne)) fun _ _ hy => by cases hy
      · have hs : Slot.without (some p) id = some p := by simp [Slot.without, hp]
        rw [hs]
        exact .left (fun x hx _ => hx) fun hown => absurd (hown _ rfl) hp
  cases desk with
  | ranging =>
    rw [ticket, ticket, hf.ranging]
    exact hwithout d.ranging
  | cell =>
    rw [ticket, ticket, hf.cell]
    exact hwithout d.cell
  | session k =>
    have hs := hf.session k
    rw [Session.forget] at hs
    cases hp : (d.session k).slot with
    | none =>
      rw [hp, Option.map_none] at hs
      rw [ticket, ticket, hp, Option.map_none]
      refine .left (fun _ hx => by cases hx) fun _ y hy => ?_
      rcases hs with hs | ⟨-, q, hs, hq⟩
      · rw [hs] at hy
        cases hy
      · rw [hs] at hy
        cases hy
        exact hq
    | some p =>
      rw [hp, Option.map_some] at hs
      have hs := hs.resolve_right fun hno => by cases hno.1
      rw [ticket, ticket, hp, Option.map_some, hs, Option.map_some]
      split
      · rename_i hid
        refine .left (fun x hx hne => absurd hid (by cases hx; exact hne)) fun _ y hy => ?_
        cases hy
        rfl
      · rename_i hid
        exact .left (fun x hx _ => hx) fun hown => absurd (hown _ rfl) hid

end Desks

/-! ## The front -/

/-- What an entry tells of answers from a desk. -/
def Entry.reply? (desk : Desk) : Entry → Option Event
  | .handed e true => if desk.issues e then some e else none
  | _ => none

namespace Front

variable {F F' : Front} {o o' : Option Dispatch} {m : Move}

/-- What was answered from a desk, in order. -/
def replies (F : Front) (desk : Desk) : List Event :=
  (F.notes.filterMap (Entry.reply? desk)).reverse

theorem replies_after (F : Front) (desk : Desk) (fx : List Effect) :
    (F.after fx).replies desk = F.replies desk ++ desk.replies fx := by
  have hfx : (fx.filterMap Effect.entry?).filterMap (Entry.reply? desk) = desk.replies fx := by
    rw [Desk.replies, List.filterMap_filterMap, List.filter_filterMap]
    refine List.filterMap_congr fun x _ => ?_
    cases x <;> rfl
  rw [replies, after, List.filterMap_append, List.reverse_append, ← hfx, List.filterMap_reverse,
    List.reverse_reverse]
  rfl

/-- A move serves every desk. -/
theorem Step.serves (hs : F.Step o m F' o') (desk : Desk) :
    ∃ l, desk.Serves (F.desks.ticket desk) m l (F'.desks.ticket desk) ∧
      F'.replies desk = F.replies desk ++ l := by
  have hidle {m : Move} (hc : ∀ x, desk.closes x m = false) (hl : ∀ id, m ≠ .left id) :
      ∃ l, desk.Serves (F.desks.ticket desk) m l (F.desks.ticket desk) ∧
        F.replies desk = F.replies desk ++ l :=
    ⟨[], .idle (fun x _ => hc x) hl, (List.append_nil _).symm⟩
  cases hs with
  | worked hm hr =>
    refine ⟨_, hr.serves fun id h => ?_, replies_after _ _ _⟩
    rw [h] at hm
    cases hm
  | left hl =>
    obtain ⟨hf, hasked⟩ := hl.forgotten
    refine ⟨[], hf.serves, (replies_after _ _ _).trans ?_⟩
    rw [Desks.replies_of_asked hasked]
    rfl
  | joined => exact hidle (fun _ => rfl) nofun
  | taken => exact hidle (fun _ => rfl) nofun
  | delivered => exact hidle (fun _ => rfl) nofun
  | other => exact hidle (fun _ => rfl) nofun

end Front

namespace Desk.Serves

variable {desk : Desk} {x : Ticket} {m : Move} {l : List Event} {t t' : Option Ticket}
  {id : InstanceId}

/-- What is not closed stays in flight, and is not answered. -/
theorem stays (hs : desk.Serves (some x) m l t) (hid : x.requester = some id)
    (hc : desk.closes x m = false) (hl : m ≠ .left id) : t = some x ∧ l = [] := by
  cases hs with
  | idle => exact ⟨rfl, rfl⟩
  | closed hm => rw [hm] at hc; cases hc
  | left hother =>
    refine ⟨hother x rfl fun h => hl ?_, rfl⟩
    rw [Option.some.inj (hid.symm.trans h)]

theorem answers (hs : desk.Serves (some x) m l t) (hid : x.requester = some id)
    (hc : desk.closes x m = true) :
    desk.Reply id x.start x.cookie l ∧ ∀ y, t = some y → y.requester = none := by
  cases hs with
  | idle hm => rw [hm x rfl] at hc; cases hc
  | closed _ _ hsome ht => exact ⟨hsome id hid, ht⟩
  | left => cases hc

theorem leaves (hs : desk.Serves (some x) (.left id) l t) (hid : x.requester = some id) :
    l = [] ∧ ∀ y, t = some y → y.requester = none := by
  cases hs with
  | idle _ hl => exact absurd rfl (hl id)
  | closed hm => cases hm
  | left _ hown => exact ⟨rfl, hown fun y hy => by cases hy; exact hid⟩

/-- Nothing is answered that nobody asked for. -/
theorem unasked (hs : desk.Serves t m l t') (ht : ∀ y, t = some y → y.requester = none)
    (hm : ∀ id c, m = .called id c → ∀ start cookie, c.request? ≠ some (desk, start, cookie)) :
    l = [] ∧ ∀ y, t' = some y → y.requester = none := by
  cases hs with
  | idle => exact ⟨rfl, ht⟩
  | atOnce hc => exact absurd hc (hm _ _ rfl _ _)
  | accepted _ hc => exact absurd hc (hm _ _ rfl _ _)
  | closed _ hnone _ ht' => exact ⟨hnone (ht _ rfl), ht'⟩
  | left hother hown =>
    refine ⟨rfl, fun y hy => ?_⟩
    cases t with
    | none => exact hown nofun y hy
    | some x =>
      have hx := ht x rfl
      rw [hother x rfl (by rw [hx]; nofun)] at hy
      cases hy
      exact hx

end Desk.Serves

namespace Hub

variable {A R : Type}

/-- The request in flight at a desk. -/
def ticket (h : Hub A R) (desk : Desk) : Option Ticket := h.desks.ticket desk

/-- What was answered from a desk so far, in order. -/
def replies (h : Hub A R) (desk : Desk) : List Event :=
  (h.journal.filterMap (Entry.reply? desk)).reverse

theorem isResult_of_issues {desk : Desk} {e : Event} (he : desk.issues e = true) :
    e.type.isResult = true := by
  unfold Desk.issues at he
  simp only [EventType.isResult, List.contains_eq_mem, decide_eq_true_eq, List.mem_cons,
    List.not_mem_nil, or_false]
  split at he <;> simp at he <;> tauto

theorem replies_eq (h : Hub A R) (desk : Desk) : h.replies desk = h.front.replies desk := by
  rw [replies, Front.replies, front, List.filterMap_filter]
  congr 1
  refine List.filterMap_congr fun e _ => ?_
  cases e with
  | handed e accepted =>
    cases accepted with
    | false => rfl
    | true =>
      by_cases he : desk.issues e = true
      · simp [Entry.reply?, Entry.isNoted, he, isResult_of_issues he]
      · simp [Entry.reply?, he]
  | _ => simp [Entry.reply?]

variable [Radio R]

theorem Moves.serves {h h' : Hub A R} {o o' : Option Dispatch} {m : Move} (hm : Moves h o m h' o')
    (desk : Desk) : ∃ l, desk.Serves (h.ticket desk) m l (h'.ticket desk) ∧
      h'.replies desk = h.replies desk ++ l := by
  rw [replies_eq, replies_eq]
  exact hm.front.serves desk

/-- As long as nothing closes it and its nanoapp does not leave, a request stays in flight and is
not answered. -/
theorem Course.inFlight {desk : Desk} {x : Ticket} {id : InstanceId} {h h' : Hub A R}
    {o o' : Option Dispatch} {ms : List Move} (hid : x.requester = some id)
    (hx : h.ticket desk = some x)
    (hc : Course (fun _ m _ => desk.closes x m = false ∧ m ≠ .left id) h o ms h' o') :
    h'.ticket desk = some x ∧ h'.replies desk = h.replies desk := by
  induction hc with
  | stay => exact ⟨hx, rfl⟩
  | snoc _ hm hP ih =>
    obtain ⟨hx, hreplies⟩ := ih
    obtain ⟨l, hs, hl⟩ := hm.serves desk
    rw [hx] at hs
    obtain ⟨ht, rfl⟩ := hs.stays hid hP.1 hP.2
    exact ⟨ht, hl.trans ((List.append_nil _).trans hreplies)⟩

/-- A call at a desk is admitted or refused. -/
theorem call_admits {h h₁ : Hub A R} {id : InstanceId} {c : Call} {reply : c.Reply} {desk : Desk}
    {start : Bool} {cookie : Cookie} {b : Bool} (hr : perform id c h = .ok reply h₁)
    (hc : c.request? = some (desk, start, cookie)) (hb : c.admitted? reply = some b) :
    ∃ l, h₁.replies desk = h.replies desk ++ l ∧
      (b = true → Desks.Admits desk id start cookie (h.desks.Meets id c) (h.ticket desk) l
        (h₁.ticket desk)) ∧
      (b = false → h₁.ticket desk = h.ticket desk ∧ l = []) := by
  obtain ⟨d, fx, ⟨hrule, hgranted, -⟩, hch⟩ := (perform_yields id c h).ok hr
  have hgranted := hgranted b hb
  obtain ⟨htrue, hfalse⟩ := hrule.admits hc
  refine ⟨desk.replies fx, ?_, fun hb => ?_, fun hb => ?_⟩
  · rw [replies_eq, replies_eq, hch]
    exact Front.replies_after _ _ _
  · rw [ticket, ticket, hch.desks]
    exact htrue (hgranted.symm.trans hb)
  · obtain ⟨hd, hl⟩ := hfalse (hgranted.symm.trans hb)
    rw [ticket, ticket, hch.desks, hd]
    exact ⟨rfl, hl⟩

/-- An accepted request finds its desk free. A session request that leaves the common setting as it
is is answered at once; any other stays in flight, unanswered, until it is closed, and then it is
answered once, or until its nanoapp leaves, and then it is not answered. Nothing else is answered,
and no request in flight is overwritten. Whatever hosts do to a hub is made of such moves. -/
theorem requests_answered_once [Behaviour A] :
    (∀ (h h₁ : Hub A R) id c reply desk start cookie, perform id c h = .ok reply h₁ →
      c.request? = some (desk, start, cookie) → c.admitted? reply = some true →
        h.ticket desk = none ∧
        (h.desks.Meets id c → h₁.ticket desk = none ∧
          ∃ l, desk.Reply id start cookie l ∧ h₁.replies desk = h.replies desk ++ l) ∧
        (¬ h.desks.Meets id c → ∃ x, h₁.ticket desk = some x ∧ x.requester = some id ∧
          h₁.replies desk = h.replies desk ∧
          ∀ o ms h₂ o₂,
            Course (fun _ m _ => desk.closes x m = false ∧ m ≠ .left id) h₁ o ms h₂ o₂ →
              h₂.ticket desk = some x ∧ h₂.replies desk = h.replies desk ∧
              ∀ m h₃ o₃, Moves h₂ o₂ m h₃ o₃ →
                (desk.closes x m = true → (∀ y, h₃.ticket desk = some y → y.requester = none) ∧
                  ∃ l, desk.Reply id start cookie l ∧
                    h₃.replies desk = h.replies desk ++ l) ∧
                (m = .left id → (∀ y, h₃.ticket desk = some y → y.requester = none) ∧
                  h₃.replies desk = h.replies desk))) ∧
    (∀ (h h₁ : Hub A R) id c reply desk start cookie, perform id c h = .ok reply h₁ →
      c.request? = some (desk, start, cookie) → c.admitted? reply = some false →
        h₁.ticket desk = h.ticket desk ∧ h₁.replies desk = h.replies desk) ∧
    (∀ (h h' : Hub A R) o m o' desk, Moves h o m h' o' →
      (∀ y, h.ticket desk = some y → y.requester = none) →
        (∀ id c, m = .called id c → ∀ start cookie, c.request? ≠ some (desk, start, cookie)) →
          h'.replies desk = h.replies desk ∧
            ∀ y, h'.ticket desk = some y → y.requester = none) ∧
    (∀ (h h' : Hub A R) (t : Turn A R) e, t.Honest → t.run h = .error e h' → e.Sound R) ∧
    ∀ config (h : Hub A R), Hosted config h → ∃ now radios metrics ms o,
      Course Free (blank config now radios metrics) none ms h o := by
  refine ⟨?_, ?_, ?_, ?_, fun config h hh => hh.course⟩
  · intro h h₁ id c reply desk start cookie hr hc hb
    obtain ⟨l, hl, hadmits, -⟩ := call_admits hr hc hb
    have hadmits := hadmits rfl
    refine ⟨hadmits.free, fun hmet => ?_, fun hmet => ?_⟩
    · obtain ⟨ht, k, rfl, rfl⟩ := hadmits.atOnce hmet
      exact ⟨ht, _, .session k .none, hl⟩
    · obtain ⟨rfl, x, hx, hid, rfl, rfl⟩ := hadmits.kept hmet
      rw [List.append_nil] at hl
      refine ⟨x, hx, hid, hl, fun o ms h₂ o₂ hcourse => ?_⟩
      obtain ⟨hx₂, hl₂⟩ := hcourse.inFlight hid hx
      refine ⟨hx₂, hl₂.trans hl, fun m h₃ o₃ hm => ?_⟩
      obtain ⟨l₃, hs, hl₃⟩ := hm.serves desk
      rw [hx₂] at hs
      rw [hl₂, hl] at hl₃
      refine ⟨fun hclose => ?_, fun hleft => ?_⟩
      · obtain ⟨hreply, ht⟩ := hs.answers hid hclose
        exact ⟨ht, l₃, hreply, hl₃⟩
      · rw [hleft] at hs
        obtain ⟨rfl, ht⟩ := hs.leaves hid
        exact ⟨ht, hl₃.trans (List.append_nil _)⟩
  · intro h h₁ id c reply desk start cookie hr hc hb
    obtain ⟨l, hl, -, hrefused⟩ := call_admits hr hc hb
    obtain ⟨ht, rfl⟩ := hrefused rfl
    exact ⟨ht, hl.trans (List.append_nil _)⟩
  · intro h h' o m o' desk hm ht hcall
    obtain ⟨l, hs, hl⟩ := hm.serves desk
    obtain ⟨rfl, ht'⟩ := hs.unasked ht hcall
    exact ⟨hl.trans (List.append_nil _), ht'⟩
  · intro h h' t e ht hr
    obtain ⟨-, -, -, he⟩ := (Turn.coursing ht h).error hr
    exact he

/-- A ranging request is answered once, when the radio reports. -/
theorem reported_ranging_is_answered_once : ∃ (h h₁ h₂ : Hub Script Stations) (l : List Event),
    perform ⟨1⟩ (.ranging [[1, 2, 3, 4, 5, 6]] ⟨7⟩) h = .ok true h₁ ∧
    Moves h₁ none (.reported (.wifi (.ranging 0 none))) h₂ none ∧
    Desk.Reply ⟨1⟩ true ⟨7⟩ .ranging l ∧ h₂.replies .ranging = h.replies .ranging ++ l := by
  obtain ⟨h, -, hrun⟩ := hosted_of_ends (A := Script) {} 0 Stations.scripted none
    [.load ⟨1⟩ { wifi := true } {}] (by simp [Turn.Honest])
    (P := fun h => Ends (perform ⟨1⟩ (.ranging [[1, 2, 3, 4, 5, 6]] ⟨7⟩)) h (fun reply h₁ =>
        (show Bool from reply) = true ∧ Ends (handleReport (.wifi (.ranging 0 none))) h₁
          (fun _ _ => True) fun _ _ => False) fun _ _ => False) (by decide +kernel)
  obtain ⟨reply, h₁, hr, hyes, hrun⟩ := hrun.exists_ok
  obtain ⟨_, h₂, hr', -⟩ := hrun.exists_ok
  obtain rfl : reply = true := hyes
  obtain ⟨-, -, hkept⟩ := (@requests_answered_once Script Stations _ _).1 h h₁ ⟨1⟩
    (.ranging [[1, 2, 3, 4, 5, 6]] ⟨7⟩) true .ranging true ⟨7⟩ hr rfl rfl
  have hunmet : ¬ h.desks.Meets ⟨1⟩ (.ranging [[1, 2, 3, 4, 5, 6]] ⟨7⟩) := by
    rintro ⟨_, _, _, hs, -⟩
    cases hs
  obtain ⟨x, -, -, -, hflight⟩ := hkept hunmet
  have hm : Moves h₁ none (.reported (.wifi (.ranging 0 none))) h₂ none := .report hr'
  obtain ⟨-, l, hl, hreplies⟩ := ((hflight none [] h₁ none .stay).2.2 _ h₂ none hm).1 rfl
  exact ⟨h, h₁, h₂, l, hr, hm, hl, hreplies⟩

end Hub

end ContextHub
