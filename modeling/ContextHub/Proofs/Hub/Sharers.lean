import ContextHub.Proofs.Hub.Crew
/-!
# Who shares what

What nanoapps share of the radios, scans and the data of the two sessions, goes to whoever is
subscribed to its type, while the desks keep a list of those who asked for it (`Sharing`). Work at
the desks changes the two together: whoever is entered in the list is subscribed, and whoever is
taken off is unsubscribed (`Shifts`). So the two agree (`Agrees`) until a nanoapp registers or
unregisters the type itself, past its desk.
-/

namespace ContextHub

/-- What nanoapps share: results of scan monitoring, and the data of a session. -/
inductive Sharing where
  | scans
  | session (k : SessionKind)

namespace Sharing

def type : Sharing → EventType
  | scans => EventType.wifiScanResult
  | session k => k.dataType

def permission : Sharing → Permission
  | scans => .wifi
  | session _ => .gnss

end Sharing

theorem SessionKind.dataType_ne_wifiScanResult (k : SessionKind) :
    k.dataType ≠ EventType.wifiScanResult := by cases k <;> decide

theorem SessionKind.dataType_ne {k k' : SessionKind} (hk : k' ≠ k) : k'.dataType ≠ k.dataType := by
  cases k <;> cases k' <;> first | exact absurd rfl hk | decide

/-- Whether a call registers or unregisters the type itself. -/
def Call.registers (type : EventType) : Call → Bool
  | subscribe t => t == type
  | unsubscribe t => t == type
  | _ => false

def Move.registers (type : EventType) : Move → Bool
  | called _ c => c.registers type
  | _ => false

/-! ## Effects on subscriptions -/

namespace Effect

variable {type : EventType}

/-- Whether somebody is subscribed to the type or unsubscribed from it. -/
def changes (type : EventType) : Effect → Bool
  | subscribed _ t => t == type
  | unsubscribed _ t => t == type
  | _ => false

theorem mem_onMember {x : Effect} (hx : x.changes type = false) (m : Member) :
    type ∈ (x.onMember m).subscriptions ↔ type ∈ m.subscriptions := by
  cases x with
  | subscribed id t =>
    have ht : ¬ type = t := fun he => by simp [changes, he] at hx
    simp only [onMember]
    split
    · rw [Front.mem_insertType, or_iff_right ht]
    · exact Iff.rfl
  | unsubscribed id t =>
    have ht : (type != t) = true := bne_iff_ne.2 fun he => by simp [changes, he] at hx
    simp only [onMember]
    split
    · rw [List.mem_filter, and_iff_left ht]
    · exact Iff.rfl
  | _ => exact Iff.rfl

theorem mem_fold {fx : List Effect} (hfx : ∀ x ∈ fx, x.changes type = false) (m : Member) :
    type ∈ (fx.foldl onMember m).subscriptions ↔ type ∈ m.subscriptions := by
  induction fx generalizing m with
  | nil => exact Iff.rfl
  | cons x fx ih =>
    rw [List.forall_mem_cons] at hfx
    rw [List.foldl_cons, ih hfx.2, mem_onMember hfx.1]

theorem mem_onMember_subscription (on : Bool) (id : InstanceId) (type : EventType) (m : Member) :
    type ∈ ((subscription on id type).onMember m).subscriptions ↔
      if on then type ∈ m.subscriptions ∨ m.id = id else type ∈ m.subscriptions ∧ m.id ≠ id := by
  cases on with
  | true =>
    simp only [subscription, onMember, ↓reduceIte]
    split
    · rename_i hid
      simp [Front.mem_insertType, hid]
    · rename_i hid
      simp [hid]
  | false =>
    simp only [subscription, onMember, Bool.false_eq_true, ↓reduceIte]
    split
    · rename_i hid
      simp [hid]
    · rename_i hid
      simp [hid]

end Effect

/-! ## Work at the desks -/

namespace Desks

variable {H : InstanceId → Permission → Prop} {d d' : Desks} {fx : List Effect} {m : Move}
  {s : Sharing} {k : SessionKind} {type : EventType}

/-- The list of those who have their part in what is shared. -/
def sharers (d : Desks) : Sharing → List InstanceId
  | .scans => d.monitors
  | .session k => (d.session k).requests.map (·.id)

/-- Whoever is to get a part in a session asked for it. -/
def Signed (d : Desks) : Prop :=
  ∀ k, ∀ p ∈ (d.session k).slot, ∀ r ∈ p.kind.request, p.requester = some r.id

/-- What work means for what is shared. -/
inductive Shifts (H : InstanceId → Permission → Prop) (s : Sharing) (d : Desks) (fx : List Effect)
    (d' : Desks) : Prop
  | kept (hd : d'.sharers s = d.sharers s) (hfx : ∀ x ∈ fx, x.changes s.type = false)
  /-- A nanoapp is entered and subscribed, or taken off and unsubscribed. -/
  | entered {id : InstanceId} {on : Bool} {rest : List Effect} (hid : H id s.permission)
      (hmem : ∀ x, x ∈ d'.sharers s ↔
        if on then x ∈ d.sharers s ∨ x = id else x ∈ d.sharers s ∧ x ≠ id)
      (honce : (d.sharers s).Nodup → (d'.sharers s).Nodup)
      (hfx : fx = .subscription on id s.type :: rest)
      (hrest : ∀ x ∈ rest, x.changes s.type = false)

theorem unchanged_nil {type : EventType} : ∀ x ∈ ([] : List Effect), x.changes type = false :=
  fun _ hx => by cases hx

theorem unchanged_posted {type : EventType} {e : Event} {fx : List Effect}
    (hfx : ∀ x ∈ fx, x.changes type = false) :
    ∀ x ∈ Effect.posted e :: fx, x.changes type = false :=
  List.forall_mem_cons.2 ⟨rfl, hfx⟩

theorem unchanged_asked {type : EventType} (hfx : ∀ x ∈ fx, ∃ q accepted, x = .asked q accepted) :
    ∀ x ∈ fx, x.changes type = false := fun x hx => by
  obtain ⟨q, accepted, rfl⟩ := hfx x hx
  rfl

theorem unchanged_answered {κ : Type} {p : Pending κ} {type : EventType}
    {answer : InstanceId → List Effect} (ha : ∀ id, ∀ x ∈ answer id, x.changes type = false) :
    ∀ x ∈ p.answered answer, x.changes type = false := by
  unfold Pending.answered
  cases p.requester with
  | none => exact unchanged_nil
  | some id => exact ha id

theorem changes_subscription (on : Bool) (id : InstanceId) (t : EventType) :
    (Effect.subscription on id t).changes type = (t == type) := by cases on <;> rfl

/-- Effects on other subscriptions, and none on the list. -/
theorem Shifts.aside {fx' : List Effect} (hs : d.Shifts H s fx d')
    (hfx' : ∀ x ∈ fx', x.changes s.type = false) : d.Shifts H s (fx ++ fx') d' := by
  cases hs with
  | kept hd hfx => exact .kept hd (List.forall_mem_append.2 ⟨hfx, hfx'⟩)
  | entered hid hmem honce hfx hrest =>
    refine .entered hid hmem honce ?_ (List.forall_mem_append.2 ⟨hrest, hfx'⟩)
    rw [hfx, List.cons_append]

/-! ### Scan monitoring -/

/-- Whoever is entered in the list of monitors is also subscribed to scans. -/
theorem MonitorRule.shifts (hr : MonitorRule m d fx d')
    (hcall : ∀ id c p, m = .called id c → c.permission? = some p → H id p) (hd : d.Licensed H) :
    d.Shifts H .scans fx d' := by
  have henter {d₁ : Desks} {id : InstanceId} {enable : Bool} {rest : List Effect} (hid : H id .wifi)
      (hrest : ∀ x ∈ rest, x.changes EventType.wifiScanResult = false)
      (hd₁ : d₁.monitors = (d.enter id enable).monitors) :
      d.Shifts H .scans (.subscription enable id EventType.wifiScanResult :: rest) d₁ := by
    refine .entered hid (fun x => ?_) (fun hn => ?_) rfl hrest
    · exact (iff_of_eq (congrArg (x ∈ ·) hd₁)).trans (d.mem_enter id enable x)
    · rw [sharers, hd₁]
      exact enter_nodup hn id enable
  cases hr with
  | entered => exact henter (hcall _ _ .wifi rfl rfl) (unchanged_posted unchanged_nil) rfl
  | refused => exact .kept rfl (unchanged_asked (by simp))
  | awaited => exact .kept rfl (unchanged_asked (by simp))
  | @settled _ _ p enabled _ code _ hs _ hr =>
    obtain ⟨⟨s, rfl, -⟩, hasked⟩ := hr.frame
    refine Shifts.aside ?_ (unchanged_asked hasked)
    unfold settleMonitor grantMonitor monitorOutcome Pending.answered
    cases hp : p.requester with
    | none => exact .kept rfl unchanged_nil
    | some id =>
      simp only [Option.elim]
      split
      · exact henter (hd.monitor p hs id hp) (unchanged_posted unchanged_nil) rfl
      · exact .kept rfl (unchanged_posted unchanged_nil)

/-! ### Sessions -/

theorem requester_eq_of_session? {c : Call} {id : InstanceId} {request : Option SessionRequest}
    {cookie : Cookie} (hc : c.session? id = some (k, request, cookie)) :
    ∀ r ∈ request, r.id = id := by
  intro r hr
  cases c <;> cases hc <;> cases hr <;> rfl

/-- A nanoapp's part in a session replaces the one it had. -/
theorem enter_requests {S : Session} {id : InstanceId} {request : Option SessionRequest}
    (hr : ∀ r ∈ request, r.id = id) :
    (S.enter id request).requests.map (·.id) =
      (S.requests.map (·.id)).filter (· != id) ++ if request.isSome then [id] else [] := by
  have hadded : request.toList.map (·.id) = if request.isSome then [id] else [] := by
    cases request with
    | none => rfl
    | some r => exact congrArg ([·]) (hr r rfl)
  rw [Session.enter, List.map_append, hadded, Session.others, List.filter_map]
  rfl

theorem mem_enter_requests {S : Session} {id : InstanceId} {request : Option SessionRequest}
    (hr : ∀ r ∈ request, r.id = id) (x : InstanceId) :
    x ∈ (S.enter id request).requests.map (·.id) ↔
      if request.isSome then x ∈ S.requests.map (·.id) ∨ x = id
      else x ∈ S.requests.map (·.id) ∧ x ≠ id := by
  rw [enter_requests hr, List.mem_append, List.mem_filter, bne_iff_ne]
  split
  · rw [List.mem_singleton]
    tauto
  · simp

theorem enter_requests_nodup {S : Session} {id : InstanceId} {request : Option SessionRequest}
    (hr : ∀ r ∈ request, r.id = id) (hn : (S.requests.map (·.id)).Nodup) :
    ((S.enter id request).requests.map (·.id)).Nodup := by
  rw [enter_requests hr]
  refine (hn.filter _).append ?_ ?_
  · split
    · exact List.nodup_singleton id
    · exact List.nodup_nil
  · split <;> simp

theorem settle_requests (S : Session) (p : Pending SessionChange) (result : ErrorCode) :
    (S.settle p result).requests = match p.requester with
      | none => S.requests
      | some id =>
        if result.isSuccess then (S.enter id p.kind.request).requests else S.requests := by
  unfold Session.settle Session.grant
  cases p.requester with
  | none => rfl
  | some id => cases result.isSuccess <;> rfl

theorem Signed.setSession {S : Session} (hd : d.Signed)
    (hS : ∀ p ∈ S.slot, ∀ r ∈ p.kind.request, p.requester = some r.id) :
    (d.setSession k S).Signed := by
  intro k' p hp
  by_cases hk : k' = k
  · rw [hk, session_setSession] at hp
    exact hS p hp
  · rw [session_setSession_of_ne hk] at hp
    exact hd k' p hp

theorem SessionRealigned.signed (hr : SessionRealigned k d fx d') (hd : d.Signed) : d'.Signed := by
  cases hr with
  | kept => exact hd
  | refused => exact hd
  | awaited _ htarget =>
    refine hd.setSession ?_
    rintro _ ⟨⟩ r hrequest
    rw [htarget] at hrequest
    cases hrequest

theorem SessionRule.signed (hr : SessionRule k m d fx d') (hd : d.Signed) : d'.Signed := by
  cases hr with
  | entered => exact hd.setSession (hd k)
  | refused => exact hd
  | awaited hc _ htarget _ hp =>
    refine hd.setSession ?_
    rintro _ ⟨⟩ r hrequest
    rw [htarget] at hrequest
    rw [hp, requester_eq_of_session? hc r hrequest]
  | settled _ _ hr =>
    refine hr.signed (hd.setSession fun p hp => ?_)
    rw [Session.settle_slot] at hp
    cases hp
  | timedOut => exact hd.setSession fun p hp => by cases hp
  | shared => exact hd

/-- Requests are signed, so whoever is entered for a session is also subscribed to its data. -/
theorem SessionRule.shifts (hr : SessionRule k m d fx d')
    (hcall : ∀ id c p, m = .called id c → c.permission? = some p → H id p) (hd : d.Licensed H)
    (hsigned : d.Signed) : d.Shifts H (.session k) fx d' := by
  have henter {d₁ : Desks} {id : InstanceId} {request : Option SessionRequest} {rest : List Effect}
      (hid : H id .gnss) (hown : ∀ r ∈ request, r.id = id)
      (hrest : ∀ x ∈ rest, x.changes k.dataType = false)
      (hd₁ : (d₁.session k).requests = ((d.session k).enter id request).requests) :
      d.Shifts H (.session k) (.subscription request.isSome id k.dataType :: rest) d₁ := by
    refine .entered hid (fun x => ?_) (fun hn => ?_) rfl hrest
    · rw [sharers, hd₁]
      exact mem_enter_requests hown x
    · rw [sharers, hd₁]
      exact enter_requests_nodup hown hn
  cases hr with
  | @entered _ id c request _ hc =>
    have hid : H id .gnss := hcall id c .gnss rfl (by cases c <;> first | rfl | cases hc)
    refine henter hid (requester_eq_of_session? hc) (unchanged_posted unchanged_nil) ?_
    rw [session_setSession]
  | refused => exact .kept rfl (unchanged_asked (by simp))
  | awaited =>
    refine .kept ?_ (unchanged_asked (by simp))
    rw [sharers, session_setSession, sharers]
  | @settled _ _ p _ _ code _ hs _ hr =>
    obtain ⟨⟨s, rfl, -⟩, hasked⟩ := hr.frame
    refine Shifts.aside ?_ (unchanged_asked hasked)
    have hrequests : (((d.setSession k ((d.session k).settle p code)).setSession k
        { (d.setSession k ((d.session k).settle p code)).session k with slot := s }).session
          k).requests = ((d.session k).settle p code).requests := by
      rw [session_setSession, session_setSession]
    unfold sessionOutcome Pending.answered
    cases hp : p.requester with
    | none =>
      refine .kept ?_ unchanged_nil
      rw [sharers, hrequests, settle_requests, hp]
      rfl
    | some id =>
      have hown : ∀ r ∈ p.kind.request, r.id = id := fun r hr =>
        (Option.some.inj ((hp.symm.trans (hsigned k p hs r hr)))).symm
      simp only [Option.elim]
      split
      · rename_i hcode
        refine henter (hd.session k p hs id hp) hown (unchanged_posted unchanged_nil) ?_
        rw [hrequests, settle_requests, hp]
        exact if_pos hcode
      · rename_i hcode
        refine .kept ?_ (unchanged_posted unchanged_nil)
        rw [sharers, hrequests, settle_requests, hp]
        exact congrArg (List.map _) (if_neg hcode)
  | timedOut =>
    refine .kept ?_ (unchanged_answered fun _ => unchanged_posted unchanged_nil)
    rw [sharers, session_setSession, sharers]
  | shared => exact .kept rfl (unchanged_posted unchanged_nil)

/-! ### The other desks -/

theorem settleMonitor_session (d : Desks) (p : Pending MonitorChange) (enabled : Bool)
    (code : ErrorCode) : (d.settleMonitor p enabled code).session = d.session := by
  unfold settleMonitor grantMonitor
  split
  · rfl
  · split <;> rfl

theorem MonitorRule.session_eq (hr : MonitorRule m d fx d') : d'.session = d.session := by
  cases hr with
  | entered => rfl
  | refused => rfl
  | awaited => rfl
  | settled _ _ hr =>
    obtain ⟨⟨s, rfl, -⟩, -⟩ := hr.frame
    exact settleMonitor_session _ _ _ _

theorem MonitorRule.unchanged (hr : MonitorRule m d fx d') (ht : type ≠ EventType.wifiScanResult) :
    ∀ x ∈ fx, x.changes type = false := by
  have hscan (on : Bool) (id : InstanceId) :
      (Effect.subscription on id EventType.wifiScanResult).changes type = false :=
    (changes_subscription _ _ _).trans (beq_eq_false_iff_ne.2 ht.symm)
  cases hr with
  | entered => exact List.forall_mem_cons.2 ⟨hscan _ _, unchanged_posted unchanged_nil⟩
  | refused => exact unchanged_asked (by simp)
  | awaited => exact unchanged_asked (by simp)
  | settled _ _ hr =>
    obtain ⟨-, hasked⟩ := hr.frame
    refine List.forall_mem_append.2 ⟨unchanged_answered fun id => ?_, unchanged_asked hasked⟩
    split
    · exact List.forall_mem_cons.2 ⟨hscan _ _, unchanged_posted unchanged_nil⟩
    · exact unchanged_posted unchanged_nil

theorem ScanRule.unchanged (hr : ScanRule m d fx d') : ∀ x ∈ fx, x.changes type = false := by
  have heffect {requester : Option InstanceId} (hfx : ∀ x ∈ fx, ScanEffect requester x) :
      ∀ x ∈ fx, x.changes type = false := fun x hx => by cases hfx x hx <;> rfl
  cases hr with
  | refused => exact unchanged_asked (by simp)
  | awaited => exact unchanged_asked (by simp)
  | served _ _ _ hfx => exact heffect hfx
  | shared hfx => exact heffect hfx

theorem RangingRule.unchanged (hr : RangingRule m d fx d') : ∀ x ∈ fx, x.changes type = false := by
  cases hr with
  | refused => exact unchanged_asked (by simp)
  | awaited => exact unchanged_asked (by simp)
  | answered =>
    refine unchanged_answered fun id => unchanged_posted ?_
    split
    · exact unchanged_posted unchanged_nil
    · exact unchanged_nil
  | timedOut => exact unchanged_answered fun _ => unchanged_posted unchanged_nil

theorem CellRule.unchanged (hr : CellRule m d fx d') : ∀ x ∈ fx, x.changes type = false := by
  cases hr with
  | refused => exact unchanged_asked (by simp)
  | awaited => exact unchanged_asked (by simp)
  | answered => exact unchanged_answered fun _ => unchanged_posted unchanged_nil
  | timedOut => exact unchanged_answered fun _ => unchanged_posted unchanged_nil

theorem SessionRule.monitors (hr : SessionRule k m d fx d') : d'.monitors = d.monitors := by
  cases hr with
  | settled _ _ hr =>
    obtain ⟨⟨s, rfl, -⟩, -⟩ := hr.frame
    rfl
  | _ => rfl

theorem SessionRule.session_of_ne {k' : SessionKind} (hr : SessionRule k m d fx d') (hk : k' ≠ k) :
    d'.session k' = d.session k' := by
  cases hr with
  | entered => exact session_setSession_of_ne hk _ _
  | refused => rfl
  | awaited => exact session_setSession_of_ne hk _ _
  | settled _ _ hr =>
    obtain ⟨⟨s, rfl, -⟩, -⟩ := hr.frame
    rw [session_setSession_of_ne hk, session_setSession_of_ne hk]
  | timedOut => exact session_setSession_of_ne hk _ _
  | shared => rfl

theorem SessionRule.unchanged (hr : SessionRule k m d fx d') (ht : type ≠ k.dataType) :
    ∀ x ∈ fx, x.changes type = false := by
  have hdata (on : Bool) (id : InstanceId) :
      (Effect.subscription on id k.dataType).changes type = false :=
    (changes_subscription _ _ _).trans (beq_eq_false_iff_ne.2 ht.symm)
  cases hr with
  | entered => exact List.forall_mem_cons.2 ⟨hdata _ _, unchanged_posted unchanged_nil⟩
  | refused => exact unchanged_asked (by simp)
  | awaited => exact unchanged_asked (by simp)
  | settled _ _ hr =>
    obtain ⟨-, hasked⟩ := hr.frame
    refine List.forall_mem_append.2 ⟨unchanged_answered fun id => ?_, unchanged_asked hasked⟩
    split
    · exact List.forall_mem_cons.2 ⟨hdata _ _, unchanged_posted unchanged_nil⟩
    · exact unchanged_posted unchanged_nil
  | timedOut => exact unchanged_answered fun _ => unchanged_posted unchanged_nil
  | shared => exact unchanged_posted unchanged_nil

/-! ### All desks -/

theorem DeskRule.signed (hr : DeskRule m d fx d') (hd : d.Signed) : d'.Signed := by
  cases hr with
  | monitor h =>
    intro k
    rw [h.session_eq]
    exact hd k
  | session k h => exact h.signed hd
  | scan h => cases h <;> exact hd
  | ranging h => cases h <;> exact hd
  | cell h => cases h <;> exact hd
  | _ => exact hd

/-- A nanoapp is subscribed as it is entered in a list, and unsubscribed as it is taken off. -/
theorem DeskRule.shifts (hr : DeskRule m d fx d')
    (hcall : ∀ id c p, m = .called id c → c.permission? = some p → H id p) (hd : d.Licensed H)
    (hsigned : d.Signed) (hm : m.registers s.type = false) : d.Shifts H s fx d' := by
  cases hr with
  | idle => exact .kept rfl unchanged_nil
  | subscribed => exact .kept rfl (List.forall_mem_cons.2 ⟨hm, unchanged_nil⟩)
  | unsubscribed => exact .kept rfl (List.forall_mem_cons.2 ⟨hm, unchanged_nil⟩)
  | monitor h =>
    cases s with
    | scans => exact h.shifts hcall hd
    | session k =>
      refine .kept ?_ (h.unchanged k.dataType_ne_wifiScanResult)
      rw [sharers, h.session_eq, sharers]
  | scan h => exact .kept (by cases s <;> cases h <;> rfl) h.unchanged
  | ranging h => exact .kept (by cases s <;> cases h <;> rfl) h.unchanged
  | cell h => exact .kept (by cases s <;> cases h <;> rfl) h.unchanged
  | session k' h =>
    cases s with
    | scans => exact .kept h.monitors (h.unchanged k'.dataType_ne_wifiScanResult.symm)
    | session k =>
      by_cases hk : k = k'
      · subst hk
        exact h.shifts hcall hd hsigned
      · refine .kept ?_ (h.unchanged (SessionKind.dataType_ne hk))
        rw [sharers, h.session_of_ne hk, sharers]

/-! ### Leaving -/

theorem Signed.forgetSession (hd : d.Signed) (k : SessionKind) (id : InstanceId) :
    (d.forgetSession k id).Signed := by
  refine hd.setSession fun p hp r hr => ?_
  obtain ⟨q, hq, rfl⟩ := Option.map_eq_some_iff.1 hp
  split at hr
  · cases hr
  · rename_i hother
    rw [if_neg hother]
    exact hd k q hq r hr

theorem Leaves.monitors {id : InstanceId} (hl : Leaves id d fx d') :
    d'.monitors = d.monitors.filter (· != id) := by
  obtain ⟨hw, hloc, hmeas⟩ := hl
  obtain ⟨⟨s₁, rfl, -⟩, -⟩ := hw.frame
  obtain ⟨⟨s₂, rfl, -⟩, -⟩ := hloc.frame
  obtain ⟨⟨s₃, rfl, -⟩, -⟩ := hmeas.frame
  rfl

theorem Leaves.signed {id : InstanceId} (hl : Leaves id d fx d') (hd : d.Signed) : d'.Signed := by
  obtain ⟨hw, hloc, hmeas⟩ := hl
  obtain ⟨⟨s, rfl, -⟩, -⟩ := hw.frame
  have hcell : ({ d.forgetWifi id with monitor := s }.forgetCell id).Signed := hd
  exact hmeas.signed ((hloc.signed (hcell.forgetSession _ _)).forgetSession _ _)

theorem Leaves.sharers {id : InstanceId} (hl : Leaves id d fx d') (s : Sharing) :
    d'.sharers s = (d.sharers s).filter (· != id) := by
  cases s with
  | scans => exact hl.monitors
  | session k =>
    obtain ⟨hw, hloc, hmeas⟩ := hl
    obtain ⟨⟨s₁, rfl, -⟩, -⟩ := hw.frame
    obtain ⟨⟨s₂, rfl, -⟩, -⟩ := hloc.frame
    obtain ⟨⟨s₃, rfl, -⟩, -⟩ := hmeas.frame
    cases k <;> exact (List.filter_map (f := SessionRequest.id) (p := (· != id))).symm

end Desks

/-! ## Nanoapps and lists -/

namespace Front

variable {F F' : Front} {o o' : Option Dispatch} {m : Move} {s : Sharing}

/-- What is in flight is for loaded nanoapps, each in its own name. -/
structure Vouches (F : Front) : Prop where
  licensed : F.desks.Licensed F.holds
  signed : F.desks.Signed

/-- Those who are listed are loaded, each is listed once, and they and no others are subscribed. -/
structure Agrees (F : Front) (s : Sharing) : Prop where
  once : (F.desks.sharers s).Nodup
  loaded : ∀ id ∈ F.desks.sharers s, id ∈ F.ids
  subscribed : ∀ x ∈ F.crew, s.type ∈ x.subscriptions ↔ x.id ∈ F.desks.sharers s

/-- Calls without the permission have no effect, so no request comes to be in flight for anybody who
has not got it. -/
theorem licensed_of_rule {d : Desks} {fx : List Effect} (hv : F.Vouches)
    (hr : Desks.DeskRule m F.desks fx d)
    (hp : ∀ id c p, m = .called id c → c.permission? = some p →
      fx = [] ∧ d = F.desks ∨ F.holds id p) : d.Licensed F.holds := by
  by_cases hidle : fx = [] ∧ d = F.desks
  · rw [hidle.2]
    exact hv.licensed
  · exact (hr.licit (fun id c p h hc => (hp id c p h hc).resolve_left hidle) hv.licensed).1

theorem Vouches.step (hv : F.Vouches) (hs : F.Step o m F' o') : F'.Vouches := by
  cases hs with
  | worked _ hr hp =>
    have hd := licensed_of_rule hv hr hp
    refine ⟨?_, hr.signed hv.signed⟩
    rw [holds_after]
    exact hd
  | left hl =>
    obtain ⟨hf, hasked⟩ := hl.forgotten
    rw [after_asked _ hasked]
    refine ⟨?_, hl.signed hv.signed⟩
    rw [holds_without]
    exact hf.licensed hv.licensed
  | joined _ hcrew =>
    exact ⟨hv.licensed.mono fun i p ⟨x, hx, h⟩ => ⟨x, (hcrew x).2 (.inr hx), h⟩, hv.signed⟩
  | _ => exact ⟨hv.licensed, hv.signed⟩

theorem Agrees.worked {d : Desks} {fx : List Effect} (ha : F.Agrees s)
    (hd : F.desks.Shifts F.holds s fx d) : (({ F with desks := d }).after fx).Agrees s := by
  have hids : (({ F with desks := d } : Front).after fx).ids = F.ids := ids_after _ fx
  cases hd with
  | kept hd hfx =>
    refine ⟨?_, fun id hid => hids ▸ ha.loaded id (hd ▸ hid), fun x hx => ?_⟩
    · exact hd ▸ ha.once
    · obtain ⟨x, hin, rfl⟩ := List.mem_map.1 hx
      rw [(onMember_fold fx x).1, Effect.mem_fold hfx, ha.subscribed x hin]
      exact iff_of_eq (congrArg (x.id ∈ ·) hd.symm)
  | @entered i on rest hi hmem honce hfx hrest =>
    refine ⟨honce ha.once, fun id hid => hids ▸ ?_, fun x hx => ?_⟩
    · have hid := (hmem id).1 hid
      split at hid
      · exact hid.elim (ha.loaded id) fun he => he ▸ mem_ids_of_holds hi
      · exact ha.loaded id hid.1
    · obtain ⟨x, hin, rfl⟩ := List.mem_map.1 hx
      rw [(onMember_fold fx x).1, hfx, List.foldl_cons, Effect.mem_fold hrest,
        Effect.mem_onMember_subscription, ha.subscribed x hin]
      exact (hmem x.id).symm

/-- The list and the subscriptions are changed together, unless a nanoapp passes the desk by. -/
theorem Agrees.step (ha : F.Agrees s) (hv : F.Vouches) (hs : F.Step o m F' o')
    (hm : m.registers s.type = false) : F'.Agrees s := by
  cases hs with
  | @worked _ _ d fx _ hr hp =>
    by_cases hidle : fx = [] ∧ d = F.desks
    · obtain ⟨rfl, rfl⟩ := hidle
      rwa [after_nil]
    · exact ha.worked (hr.shifts (fun id c p h hc => (hp id c p h hc).resolve_left hidle)
        hv.licensed hv.signed hm)
  | @left _ id d fx hl =>
    have hmem (x : InstanceId) : x ∈ d.sharers s ↔ x ∈ F.desks.sharers s ∧ x ≠ id := by
      rw [hl.sharers, List.mem_filter, bne_iff_ne]
    obtain ⟨-, hasked⟩ := hl.forgotten
    rw [after_asked _ hasked]
    refine ⟨?_, fun x hx => ?_, fun x hx => ?_⟩
    · exact hl.sharers s ▸ ha.once.filter _
    · obtain ⟨hx, hne⟩ := (hmem x).1 hx
      rw [ids_without]
      exact List.mem_filter.2 ⟨ha.loaded x hx, bne_iff_ne.2 hne⟩
    · obtain ⟨hx, hne⟩ := List.mem_filter.1 hx
      exact (ha.subscribed x hx).trans
        ((and_iff_left (bne_iff_ne.1 hne)).symm.trans (hmem x.id).symm)
  | @joined _ id permissions crew hfresh hcrew =>
    refine ⟨ha.once, fun x hx => ?_, fun x hx => ?_⟩
    · obtain ⟨y, hy, hid⟩ := mem_ids.1 (ha.loaded x hx)
      exact mem_ids.2 ⟨y, (hcrew y).2 (.inr hy), hid⟩
    · rcases (hcrew x).1 hx with rfl | hx
      · refine ⟨fun ht => (by cases ht), fun hid => ?_⟩
        obtain ⟨y, hy, hid⟩ := mem_ids.1 (ha.loaded id hid)
        exact absurd hid (hfresh y hy)
      · exact ha.subscribed x hx
  | _ => exact ⟨ha.once, ha.loaded, ha.subscribed⟩

/-- Only nanoapps and desks matter. -/
theorem Vouches.congr (hv : F.Vouches) (hcrew : F'.crew = F.crew) (hdesks : F'.desks = F.desks) :
    F'.Vouches := by
  have hholds : F'.holds = F.holds := by
    funext id p
    rw [holds, holds, hcrew]
  exact ⟨hdesks ▸ hholds ▸ hv.licensed, hdesks ▸ hv.signed⟩

theorem Agrees.congr (ha : F.Agrees s) (hcrew : F'.crew = F.crew) (hdesks : F'.desks = F.desks) :
    F'.Agrees s := by
  have hids : F'.ids = F.ids := congrArg (List.map Member.id) hcrew
  exact ⟨hdesks ▸ ha.once, hdesks ▸ hids ▸ ha.loaded, hdesks ▸ hcrew ▸ ha.subscribed⟩

end Front

/-! ## On a course -/

namespace Hub

variable {A R : Type} {h h' : Hub A R} {o o' : Option Dispatch} {ms : List Move} {s : Sharing}

theorem blank_vouches (config : Config) (now : Nat) (radios : R) (metrics : Option Metrics) :
    (front (blank config now radios metrics : Hub A R)).Vouches where
  licensed := (blank_guards config now radios metrics).desks
  signed k p hp := by cases k <;> cases hp

theorem blank_agrees (config : Config) (now : Nat) (radios : R) (metrics : Option Metrics)
    (s : Sharing) : (front (blank config now radios metrics : Hub A R)).Agrees s := by
  have hnobody : (front (blank config now radios metrics : Hub A R)).desks.sharers s = [] := by
    cases s with
    | scans => rfl
    | session k => cases k <;> rfl
  refine ⟨hnobody ▸ List.nodup_nil, fun id hid => ?_, fun x hx => by cases hx⟩
  rw [hnobody] at hid
  cases hid

variable [Radio R] {P : Hub A R → Move → Hub A R → Prop}

theorem Course.vouches (hc : Course P h o ms h' o') (hv : h.front.Vouches) :
    h'.front.Vouches := by
  induction hc with
  | stay => exact hv
  | snoc _ hm _ ih => exact ih.step hm.front

theorem Course.agrees (hc : Course P h o ms h' o') (hv : h.front.Vouches) (ha : h.front.Agrees s)
    (hm : ∀ m ∈ ms, m.registers s.type = false) : h'.front.Agrees s := by
  induction hc with
  | stay => exact ha
  | snoc hc hstep _ ih =>
    rw [List.forall_mem_append] at hm
    exact (ih hm.1).step (hc.vouches hv) hstep.front (hm.2 _ (List.mem_singleton_self _))

end Hub

end ContextHub
