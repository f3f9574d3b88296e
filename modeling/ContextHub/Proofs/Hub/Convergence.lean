import ContextHub.Proofs.Hub.Course
import ContextHub.Simulation.World
/-!
# Sessions and what nanoapps asked for

A session is settled if the radio has confirmed the setting that serves the requests, unless it is
working on a change. As long as the radio refuses nothing, whatever changes a session settles it,
with one exception: a change in flight that times out is not followed up, so what the radio does may
stay behind the requests. `Session.Goes` says so of a move, and `Stuck` of a course that ends so.
-/

namespace ContextHub

namespace SessionSetting

theorem foldl_tuned (l : List SessionRequest) (interval fix : Nat) :
    l.foldl (fun s r =>
      if s.enabled then ⟨true, min s.interval r.interval, min s.fix r.fix⟩
      else ⟨true, r.interval, r.fix⟩) (⟨true, interval, fix⟩ : SessionSetting) =
    ⟨true, (l.map (·.interval)).foldl min interval, (l.map (·.fix)).foldl min fix⟩ := by
  induction l generalizing interval fix with
  | nil => rfl
  | cons r l ih => exact ih _ _

/-- On if anyone has a request, at the minima of what is asked for. -/
theorem aggregate_eq (l : List SessionRequest) : aggregate l =
    ⟨!l.isEmpty, (l.map (·.interval)).min?.getD 0, (l.map (·.fix)).min?.getD 0⟩ := by
  cases l with
  | nil => rfl
  | cons r l => exact foldl_tuned l r.interval r.fix

end SessionSetting

namespace Session

/-- Unless a change is in flight, the radio has confirmed what serves the requests. -/
def Settled (s : Session) : Prop :=
  s.slot = none → s.confirmed = SessionSetting.aggregate s.requests

/-- The move lets a change in flight time out that the requests still call for. -/
def Lapses (k : SessionKind) (s : Session) (m : Move) : Prop :=
  ∃ p, s.slot = some p ∧ m = .expired p.timer k.purpose ∧
    s.confirmed ≠ SessionSetting.aggregate s.requests

/-- What a move does to a session. -/
inductive Goes (k : SessionKind) : Session → Move → Session → Prop
  | kept {s : Session} {m : Move} (hm : ¬ s.Lapses k m) : Goes k s m s
  | settled {s s' : Session} {m : Move} (hm : ¬ s.Lapses k m) (hs : s'.Settled) : Goes k s m s'
  | lapsed {s : Session} {m : Move} (hm : s.Lapses k m) : Goes k s m { s with slot := none }

variable {k : SessionKind} {s s' : Session} {m : Move}

theorem Settled.of_slot {p : Pending SessionChange} (hs : s.slot = some p) : s.Settled :=
  fun hnone => by cases hs.symm.trans hnone

/-- Only an expiry can be a lapse. -/
theorem not_lapses (hm : ∀ x, m ≠ .expired x k.purpose) : ¬ s.Lapses k m := by
  rintro ⟨p, -, h, -⟩
  exact hm _ h

theorem Lapses.unsettled (hm : s.Lapses k m) : ¬ Settled { s with slot := none } := by
  obtain ⟨p, -, -, hne⟩ := hm
  exact fun hs => hne (hs rfl)

theorem Goes.unsettled (hg : Goes k s m s') (hm : s.Lapses k m) : ¬ s'.Settled := by
  cases hg with
  | kept h => exact absurd hm h
  | settled h => exact absurd hm h
  | lapsed h => exact h.unsettled

/-- What is not settled has just lapsed, or it was not settled before and stays as it is. -/
theorem Goes.inv (hg : Goes k s m s') (hs : ¬ s'.Settled) : s.Lapses k m ∨ s' = s := by
  cases hg with
  | kept => exact .inr rfl
  | settled _ h => exact absurd h hs
  | lapsed h => exact .inl h

end Session

namespace Desks

variable {k : SessionKind} {d d' : Desks} {fx : List Effect} {m : Move}

/-- The session is not worked at. -/
theorem goes_elsewhere (hs : d'.session k = d.session k) (hm : ∀ x, m ≠ .expired x k.purpose) :
    Session.Goes k (d.session k) m (d'.session k) := by
  rw [hs]
  exact .kept (Session.not_lapses hm)

theorem MonitorRule.goes (hr : MonitorRule m d fx d') :
    Session.Goes k (d.session k) m (d'.session k) := by
  cases hr with
  | @settled _ _ p enabled _ code _ _ _ hr =>
    obtain ⟨⟨s, rfl, -⟩, -⟩ := hr.frame
    refine goes_elsewhere ?_ nofun
    unfold settleMonitor grantMonitor
    split
    · rfl
    · split <;> rfl
  | _ => exact goes_elsewhere rfl nofun

theorem ScanRule.goes (hr : ScanRule m d fx d') :
    Session.Goes k (d.session k) m (d'.session k) := by
  cases hr with
  | served hm =>
    refine goes_elsewhere rfl fun x h => ?_
    rw [h] at hm
    cases k <;> cases hm
  | _ => exact goes_elsewhere rfl nofun

theorem RangingRule.goes (hr : RangingRule m d fx d') :
    Session.Goes k (d.session k) m (d'.session k) := by
  cases hr <;> exact goes_elsewhere rfl fun x h => by cases k <;> cases h

theorem CellRule.goes (hr : CellRule m d fx d') :
    Session.Goes k (d.session k) m (d'.session k) := by
  cases hr <;> exact goes_elsewhere rfl fun x h => by cases k <;> cases h

/-- The radio does what is left of the requests, or it is asked to, unless it refuses. -/
theorem SessionRealigned.settled (hr : SessionRealigned k d fx d')
    (hfx : ∀ s, .asked (k.request s) false ∉ fx) : (d'.session k).Settled := by
  cases hr with
  | kept h =>
    intro hfree
    rw [hfree] at h
    exact (h.resolve_left nofun).symm
  | refused => exact absurd List.mem_cons_self (hfx _)
  | awaited =>
    rw [session_setSession]
    exact .of_slot rfl

theorem SessionRealigned.session_of_ne {k' : SessionKind} (hr : SessionRealigned k' d fx d')
    (hne : k ≠ k') : d'.session k = d.session k := by
  obtain ⟨⟨s, rfl, -⟩, -⟩ := hr.frame
  exact session_setSession_of_ne hne _ _

/-- Work on one session is none on the other. -/
theorem SessionRule.goes_of_ne {k' : SessionKind} (hr : SessionRule k' m d fx d') (hne : k ≠ k') :
    Session.Goes k (d.session k) m (d'.session k) := by
  cases hr with
  | entered => exact goes_elsewhere (session_setSession_of_ne hne _ _) nofun
  | refused => exact goes_elsewhere rfl nofun
  | awaited => exact goes_elsewhere (session_setSession_of_ne hne _ _) nofun
  | settled _ _ hr =>
    exact goes_elsewhere ((hr.session_of_ne hne).trans (session_setSession_of_ne hne _ _)) nofun
  | timedOut =>
    refine goes_elsewhere (session_setSession_of_ne hne _ _) fun x h => hne ?_
    cases k <;> cases k' <;> first | rfl | cases h
  | shared => exact goes_elsewhere rfl nofun

theorem SessionRule.goes (hr : SessionRule k m d fx d')
    (hfx : ∀ s, .asked (k.request s) false ∉ fx) :
    Session.Goes k (d.session k) m (d'.session k) := by
  cases hr with
  | entered _ _ htarget =>
    rw [session_setSession]
    exact .settled (Session.not_lapses nofun) fun _ => htarget.symm
  | refused => exact goes_elsewhere rfl nofun
  | awaited =>
    rw [session_setSession]
    exact .settled (Session.not_lapses nofun) (.of_slot rfl)
  | settled _ _ hr =>
    refine .settled (Session.not_lapses nofun) (hr.settled fun s hs => hfx s ?_)
    exact List.mem_append_right _ hs
  | @timedOut _ p hs =>
    rw [session_setSession]
    by_cases hserved : (d.session k).confirmed = SessionSetting.aggregate (d.session k).requests
    · exact .settled (fun ⟨_, _, _, hne⟩ => hne hserved) fun _ => hserved
    · exact .lapsed ⟨p, hs, rfl, hserved⟩
  | shared => exact goes_elsewhere rfl nofun

theorem DeskRule.goes (hr : DeskRule m d fx d') (hfx : ∀ s, .asked (k.request s) false ∉ fx) :
    Session.Goes k (d.session k) m (d'.session k) := by
  cases hr with
  | idle hm =>
    refine .kept ?_
    rintro ⟨p, hs, rfl, -⟩
    -- the timer of a change in flight would have closed it
    have ht : d.ticket (.session k) = some (p.ticket p.kind.request.isSome) := by
      rw [ticket, hs, Option.map_some]
    exact absurd ((Desk.closes_timer (.session k) (p.ticket _)).symm.trans (hm _ _ ht)) nofun
  | subscribed => exact goes_elsewhere rfl nofun
  | unsubscribed => exact goes_elsewhere rfl nofun
  | monitor h => exact h.goes
  | scan h => exact h.goes
  | ranging h => exact h.goes
  | cell h => exact h.goes
  | session k' h =>
    by_cases hk : k = k'
    · subst hk
      exact h.goes hfx
    · exact h.goes_of_ne hk

theorem Leaves.settled {id : InstanceId} (hl : Leaves id d fx d')
    (hfx : ∀ s, .asked (k.request s) false ∉ fx) : (d'.session k).Settled := by
  obtain ⟨hw, hloc, hmeas⟩ := hl
  cases k with
  | location =>
    rw [hmeas.session_of_ne SessionKind.noConfusion, forgetSession,
      session_setSession_of_ne SessionKind.noConfusion]
    refine hloc.settled fun s hs => hfx s ?_
    exact List.mem_append_right _ (List.mem_append_left _ hs)
  | measurement =>
    refine hmeas.settled fun s hs => hfx s ?_
    exact List.mem_append_right _ (List.mem_append_right _ hs)

/-- A request for a session that is admitted settles it. -/
theorem DeskRule.settles_call {id : InstanceId} {c : Call} {request : Option SessionRequest}
    {cookie : Cookie} (hr : DeskRule (.called id c) d fx d')
    (hc : c.session? id = some (k, request, cookie)) (hgranted : Effect.granted fx = true) :
    (d'.session k).Settled := by
  cases hr with
  | idle => cases hgranted
  | subscribed => cases hc
  | unsubscribed => cases hc
  | monitor h => cases h <;> cases hc
  | scan h =>
    cases h with
    | served hm => cases hm
    | _ => cases hc
  | ranging h => cases h <;> cases hc
  | cell h => cases h <;> cases hc
  | session k' h =>
    cases h with
    | entered hs _ htarget =>
      cases hs.symm.trans hc
      rw [session_setSession]
      exact fun _ => htarget.symm
    | refused => cases hgranted
    | awaited hs =>
      cases hs.symm.trans hc
      rw [session_setSession]
      exact .of_slot rfl

/-- A report on a change in flight settles the session. -/
theorem DeskRule.settles_report {enabled : Bool} {raw : Nat}
    (hr : DeskRule (.reported (.gnss (k.status enabled raw))) d fx d')
    (hs : (d.session k).slot.isSome = true) (hfx : ∀ s, .asked (k.request s) false ∉ fx) :
    (d'.session k).Settled := by
  have hreported := k.isReported_status enabled raw
  obtain ⟨p, hs⟩ := Option.isSome_iff_exists.1 hs
  generalize k.status enabled raw = r at hr hreported
  cases hr with
  | idle hm =>
    have ht : d.ticket (.session k) = some (p.ticket p.kind.request.isSome) := by
      rw [ticket, hs, Option.map_some]
    exact absurd (hreported.symm.trans (hm _ _ ht)) nofun
  | monitor h => cases h
  | scan h =>
    cases h with
    | served hm => cases hm
  | ranging h => cases h
  | cell h => cases h
  | session k' h =>
    generalize hm : Move.reported (.gnss r) = m at h
    cases h with
    | settled _ _ hr =>
      cases hm
      cases Desk.eq_of_isReported hreported (k'.isReported_status _ _)
      exact hr.settled fun s hs => hfx s (List.mem_append_right _ hs)
    | shared hr =>
      cases hm
      rw [hr] at hreported
      cases hreported
    | _ => cases hm

end Desks

/-! ## Refusals -/

/-- Whether the entry tells that a radio refused to change the session. -/
def Entry.refuses (k : SessionKind) : Entry → Bool
  | .requested (.location _ _ _) false => k == .location
  | .requested (.measurement _ _) false => k == .measurement
  | _ => false

theorem Entry.refuses_request (k : SessionKind) (s : SessionSetting) :
    (Entry.requested (k.request s) false).refuses k = true := by cases k <;> rfl

namespace Front

variable {F F' : Front} {o o' : Option Dispatch} {m : Move} {k : SessionKind}

def refused (F : Front) (k : SessionKind) : Bool := F.notes.any (Entry.refuses k)

/-- What is noted stays noted. -/
theorem Step.notes (hs : F.Step o m F' o') : ∃ l, F'.notes = l ++ F.notes := by
  cases hs with
  | delivered => exact ⟨[_], rfl⟩
  | worked => exact ⟨_, rfl⟩
  | left => exact ⟨_, rfl⟩
  | _ => exact ⟨[], rfl⟩

theorem Step.unrefused (hs : F.Step o m F' o') (hF' : F'.refused k = false) :
    F.refused k = false := by
  obtain ⟨l, hl⟩ := hs.notes
  rw [refused, hl, List.any_append, Bool.or_eq_false_iff] at hF'
  exact hF'.2

/-- What was asked of the radio was not refused. -/
theorem asked_of_unrefused {fx : List Effect} (hF : (F.after fx).refused k = false)
    (s : SessionSetting) : .asked (k.request s) false ∉ fx := by
  intro hs
  have he : Entry.requested (k.request s) false ∈ (F.after fx).notes :=
    List.mem_append_left _ (List.mem_reverse.2 (List.mem_filterMap.2 ⟨_, hs, rfl⟩))
  exact List.any_eq_false.1 hF _ he (Entry.refuses_request k s)

theorem Step.goes (hs : F.Step o m F' o') (hF' : F'.refused k = false) :
    Session.Goes k (F.desks.session k) m (F'.desks.session k) := by
  cases hs with
  | worked _ hr => exact hr.goes (asked_of_unrefused hF')
  | left hl => exact .settled (Session.not_lapses nofun) (hl.settled (asked_of_unrefused hF'))
  | _ => exact .kept (Session.not_lapses nofun)

theorem Step.settles_report {enabled : Bool} {raw : Nat}
    (hs : F.Step o (.reported (.gnss (k.status enabled raw))) F' o') (hF' : F'.refused k = false)
    (hslot : (F.desks.session k).slot.isSome = true) : (F'.desks.session k).Settled := by
  cases hs with
  | worked _ hr => exact hr.settles_report hslot (asked_of_unrefused hF')

theorem Step.settles_left {id : InstanceId} (hs : F.Step o (.left id) F' o')
    (hF' : F'.refused k = false) : (F'.desks.session k).Settled := by
  cases hs with
  | worked hm => cases hm
  | left hl => exact hl.settled (asked_of_unrefused hF')

end Front

namespace Hub

variable {A R : Type}

/-- Whether the radio has refused so far to change the session. -/
def refused (h : Hub A R) (k : SessionKind) : Bool := h.journal.any (Entry.refuses k)

def Settled (k : SessionKind) (h : Hub A R) : Prop := (h.gnss.session k).Settled

def Lapses (k : SessionKind) (h : Hub A R) (m : Move) : Prop := (h.gnss.session k).Lapses k m

theorem refused_eq (h : Hub A R) (k : SessionKind) : h.refused k = h.front.refused k := by
  rw [refused, Front.refused, front, List.any_filter]
  congr 1
  funext e
  cases e <;> simp [Entry.refuses, Entry.isNoted]

variable [Radio R] {k : SessionKind}

theorem Moves.unrefused {h h' : Hub A R} {o o' : Option Dispatch} {m : Move}
    (hm : Moves h o m h' o') (hh' : h'.refused k = false) : h.refused k = false := by
  rw [refused_eq] at *
  exact hm.front.unrefused hh'

theorem Moves.goes {h h' : Hub A R} {o o' : Option Dispatch} {m : Move}
    (hm : Moves h o m h' o') (hh' : h'.refused k = false) :
    Session.Goes k (h.desks.session k) m (h'.desks.session k) := by
  rw [refused_eq] at hh'
  exact hm.front.goes hh'

theorem Course.unrefused {P : Hub A R → Move → Hub A R → Prop} {h h' : Hub A R}
    {o o' : Option Dispatch} {ms : List Move} (hc : Course P h o ms h' o')
    (hh' : h'.refused k = false) : h.refused k = false := by
  induction hc with
  | stay => exact hh'
  | snoc _ hm _ ih => exact ih (hm.unrefused hh')

/-- The session is as it was. -/
def Rests (k : SessionKind) (h : Hub A R) (_ : Move) (h' : Hub A R) : Prop :=
  h'.desks.session k = h.desks.session k

theorem Course.rests {h h' : Hub A R} {o o' : Option Dispatch} {ms : List Move}
    (hc : Course (Rests k) h o ms h' o') : h'.desks.session k = h.desks.session k := by
  induction hc with
  | stay => rfl
  | snoc _ _ hP ih => exact Eq.trans hP ih

/-- A change that the requests call for timed out, and since then the session rested. -/
def Stuck (k : SessionKind) (h : Hub A R) (o : Option Dispatch) (ms : List Move) (h' : Hub A R)
    (o' : Option Dispatch) : Prop :=
  ∃ before m after h₁ h₂ o₁ o₂, ms = before ++ m :: after ∧ Course Free h o before h₁ o₁ ∧
    Moves h₁ o₁ m h₂ o₂ ∧ h₁.Lapses k m ∧ Course (Rests k) h₂ o₂ after h' o'

variable {h h' : Hub A R} {o o' : Option Dispatch} {ms : List Move}

/-- What rests after a lapse is not settled. -/
theorem Stuck.unsettled (hs : Stuck k h o ms h' o') (hh' : h'.refused k = false) :
    ¬ h'.Settled k := by
  obtain ⟨before, m, after, h₁, h₂, o₁, o₂, -, -, hm, hl, hrest⟩ := hs
  have hs₂ : ¬ (h₂.desks.session k).Settled :=
    (hm.goes (hrest.unrefused hh')).unsettled hl
  rwa [← hrest.rests] at hs₂

/-- Nothing but a lapse unsettles a session, and then it rests. -/
theorem Course.stuck (hc : Course Free h o ms h' o') (hh : h.Settled k)
    (hh' : h'.refused k = false) (hs : ¬ h'.Settled k) : Stuck k h o ms h' o' := by
  induction hc with
  | stay => exact absurd hh hs
  | @snoc _ last _ h' _ _ hc hm _ ih =>
    rcases (hm.goes hh').inv hs with hl | hsame
    · exact ⟨_, _, [], _, _, _, _, rfl, hc, hm, hl, .stay⟩
    · have hs : ¬ (h'.desks.session k).Settled := hs
      rw [hsame] at hs
      obtain ⟨before, m, after, h₁, h₂, o₁, o₂, rfl, hbefore, hlapse, hl, hrest⟩ :=
        ih (hm.unrefused hh') hs
      refine ⟨before, m, after ++ [last], h₁, h₂, o₁, o₂, ?_, hbefore, hlapse, hl, ?_⟩
      · rw [List.append_assoc, List.cons_append]
      · exact hrest.snoc hm hsame

omit [Radio R] in
theorem blank_settled (config : Config) (now : Nat) (radios : R) (metrics : Option Metrics) :
    (blank config now radios metrics : Hub A R).Settled k := by
  cases k <;> exact fun _ => rfl

/-- A report on a change in flight, a request that is admitted and a nanoapp that leaves settle a
session, if the radio never refused. On any course from a new hub it is settled, unless a change of
it that the requests call for timed out and it has rested since. Whatever hosts do to a hub is such
a course. -/
theorem sessions_converge [Behaviour A] (k : SessionKind) :
    (∀ l, SessionSetting.aggregate l =
      ⟨!l.isEmpty, (l.map (·.interval)).min?.getD 0, (l.map (·.fix)).min?.getD 0⟩) ∧
    (∀ (h h' : Hub A R) o o' enabled raw,
      Moves h o (.reported (.gnss (k.status enabled raw))) h' o' → h'.refused k = false →
        (h.gnss.session k).slot.isSome = true → h'.Settled k) ∧
    (∀ (h h' : Hub A R) id c reply request cookie, perform id c h = .ok reply h' →
      c.session? id = some (k, request, cookie) → c.admitted? reply = some true →
        h'.Settled k) ∧
    (∀ (h h' : Hub A R) o o' id, Moves h o (.left id) h' o' → h'.refused k = false →
      h'.Settled k) ∧
    (∀ config now radios metrics ms (h : Hub A R) o,
      Course Free (blank config now radios metrics) none ms h o → h.refused k = false →
        (¬ h.Settled k ↔ Stuck k (blank config now radios metrics) none ms h o)) ∧
    ∀ config (h : Hub A R), Hosted config h → ∃ now radios metrics ms o,
      Course Free (blank config now radios metrics) none ms h o := by
  refine ⟨SessionSetting.aggregate_eq, ?_, ?_, ?_, ?_, fun config h hh => hh.course⟩
  · intro h h' o o' enabled raw hm hh' hs
    rw [refused_eq] at hh'
    exact hm.front.settles_report hh' hs
  · intro h h' id c reply request cookie hr hc hgranted
    obtain ⟨d, fx, ⟨hrule, hadmits, -⟩, hch⟩ := (perform_yields id c h).ok hr
    have hs := hrule.settles_call hc (hadmits true hgranted).symm
    rwa [← hch.desks] at hs
  · intro h h' o o' id hm hh'
    rw [refused_eq] at hh'
    exact hm.front.settles_left hh'
  · intro config now radios metrics ms h o hc hh
    exact ⟨hc.stuck (blank_settled _ _ _ _) hh, fun hs => hs.unsettled hh⟩

/-- A session that is being started is settled when the radio reports on it. -/
theorem started_session_is_settled : ∃ h h' : Hub Script Stations, Hosted {} h ∧
    Moves h none (.reported (.gnss (.locationStatus true 0))) h' none ∧
    h'.refused .location = false ∧ (h.gnss.session .location).slot.isSome = true ∧
    h'.Settled .location ∧ h'.gnss.location.slot = none ∧
    h'.gnss.location.confirmed.enabled = true := by
  obtain ⟨h, hh, hslot, hrun⟩ := hosted_of_ends (A := Script) {} 0 Stations.scripted none
    [.load ⟨1⟩ { gnss := true } { start := [.startLocation 1 1 ⟨7⟩] }] (by simp [Turn.Honest])
    (P := fun h => (h.gnss.session .location).slot.isSome = true ∧
      Ends (handleReport (.gnss (.locationStatus true 0))) h (fun _ h' =>
        h'.refused .location = false ∧ h'.gnss.location.slot.isNone = true ∧
          h'.gnss.location.confirmed.enabled = true) fun _ _ => False) (by decide +kernel)
  obtain ⟨_, h', hr, hrefused, hnone, hon⟩ := hrun.exists_ok
  have hm : Moves h none (.reported (.gnss (.locationStatus true 0))) h' none := .report hr
  have hs := (@sessions_converge Script Stations _ _ .location).2.1 h h' none none true 0 hm
    hrefused hslot
  exact ⟨h, h', hh, hm, hrefused, hslot, hs, Option.isNone_iff_eq_none.1 hnone, hon⟩

/-- A change that times out after a nanoapp left leaves the radio on for nobody. -/
theorem lapsed_change_is_not_followed_up : ¬ ∀ h : Hub Script Stations, Hosted {} h →
    h.refused .location = false → h.gnss.location.slot = none →
      h.gnss.location.confirmed = SessionSetting.aggregate h.gnss.location.requests := by
  intro hclaim
  obtain ⟨h, hh, hrefused, hnone, hgone, hon⟩ := hosted_of_ends (A := Script) {} 0
    Stations.scripted none
    [.load ⟨1⟩ { gnss := true } { start := [.startLocation 2 2 ⟨7⟩] },
      .report (.gnss (.locationStatus true 0)), .runOnce, .runOnce,
      .load ⟨2⟩ { gnss := true } { start := [.startLocation 1 1 ⟨8⟩] }, .unload ⟨1⟩,
      .advanceClock 5000000000, .fireIfDue, .runOnce, .runOnce, .runOnce, .runOnce, .runOnce]
    (by simp [Turn.Honest])
    (P := fun h => h.refused .location = false ∧ h.gnss.location.slot.isNone = true ∧
      h.gnss.location.requests.isEmpty = true ∧ h.gnss.location.confirmed.enabled = true)
    (by decide +kernel)
  have hsame := hclaim h hh hrefused (Option.isNone_iff_eq_none.1 hnone)
  rw [List.isEmpty_iff.1 hgone] at hsame
  rw [hsame] at hon
  cases hon

end Hub

end ContextHub
