import ContextHub.Proofs.Hub.Course
import ContextHub.Simulation.World
/-!
# Permissions and what is delivered

Requests are refused without a permission, so whoever has a request in flight has it, and so does
everyone to whom a result is addressed. Results that are shared go to whoever subscribed. The desks
subscribe only nanoapps with the permission, but a nanoapp may subscribe itself to anything. Hence
what tells of a radio reaches only nanoapps with its permission and those that subscribed themselves
to what is shared.
-/

namespace ContextHub

namespace EventType

/-- The permission for the radio that events of a type tell of. -/
def permission? (t : EventType) : Option Permission :=
  if [wifiAsyncResult, wifiScanResult, wifiRangingResult].contains t then some .wifi
  else if [gnssAsyncResult, gnssLocation, gnssData].contains t then some .gnss
  else if t = wwanCellInfoResult then some .wwan
  else none

/-- Whether results of a type go to all who subscribed. -/
def isShared (t : EventType) : Bool := [wifiScanResult, gnssLocation, gnssData].contains t

theorem isResult_of_permission? {t : EventType} {p : Permission} (ht : t.permission? = some p) :
    t.isResult = true := by
  unfold permission? at ht
  simp only [isResult, List.contains_eq_mem, decide_eq_true_eq, List.mem_cons, List.not_mem_nil,
    or_false] at ht ⊢
  split at ht
  · tauto
  · split at ht
    · tauto
    · split at ht
      · tauto
      · cases ht

end EventType

/-! ## Who may have what -/

section

variable (H : InstanceId → Permission → Prop)

/-- An event that tells of a radio is for a nanoapp with the permission, or of a type that is
shared. -/
def Event.Guarded (e : Event) : Prop :=
  ∀ p, e.type.permission? = some p →
    match e.target with
    | .nanoapp id => H id p
    | .broadcast => e.type.isShared = true

/-- The requester of what is in flight has the permission. -/
def Slot.Licensed {κ : Type} (p : Permission) (s : Slot κ) : Prop :=
  ∀ q ∈ s, ∀ id, q.requester = some id → H id p

structure Desks.Licensed (d : Desks) : Prop where
  monitor : Slot.Licensed H .wifi d.monitor
  scan : Slot.Licensed H .wifi d.scan
  ranging : Slot.Licensed H .wifi d.ranging
  cell : Slot.Licensed H .wwan d.cell
  session : ∀ k, Slot.Licensed H .gnss (d.session k).slot

/-- What is posted is guarded. Who is subscribed has the permission, or subscribes itself. -/
def Effect.Licit (m : Move) : Effect → Prop
  | posted e => e.Guarded H
  | subscribed id type =>
    ∀ p, type.permission? = some p → H id p ∨ m = .called id (.subscribe type)
  | _ => True

end

section

variable {H H' : InstanceId → Permission → Prop}

theorem Event.Guarded.mono {e : Event} (he : e.Guarded H)
    (hH : ∀ id p, e.target = .nanoapp id → H id p → H' id p) : e.Guarded H' := by
  intro p hp
  have he := he p hp
  split at he
  · exact hH _ p ‹_› he
  · exact he

theorem Event.guarded_toOne {type : EventType} {payload : Payload} {id : InstanceId}
    {p : Permission} (hp : type.permission? = some p) (hid : H id p) :
    (Event.toOne type payload id).Guarded H := fun q hq => by
  cases hp.symm.trans hq
  exact hid

theorem Slot.Licensed.mono {κ : Type} {p : Permission} {s : Slot κ} (hs : Slot.Licensed H p s)
    (hH : ∀ id, H id p → H' id p) : Slot.Licensed H' p s :=
  fun q hq id hid => hH id (hs q hq id hid)

theorem Slot.licensed_none {κ : Type} {p : Permission} :
    Slot.Licensed H p (none : Slot κ) := fun _ hq => by cases hq

theorem Slot.licensed_some {κ : Type} {p : Permission} {q : Pending κ}
    (hq : ∀ id, q.requester = some id → H id p) : Slot.Licensed H p (some q) := by
  rintro _ ⟨⟩
  exact hq

/-- The hub's own requests need no permission. -/
theorem Slot.licensed_unowned {κ : Type} {p : Permission} {q : Pending κ}
    (hq : q.requester = none) : Slot.Licensed H p (some q) :=
  licensed_some fun id hid => by rw [hq] at hid; cases hid

theorem Slot.licensed_owned {κ : Type} {p : Permission} {q : Pending κ} {id : InstanceId}
    (hq : q.requester = some id) (hid : H id p) : Slot.Licensed H p (some q) :=
  licensed_some fun i hi => by
    rw [hq] at hi
    cases hi
    exact hid

theorem Slot.Licensed.without {κ : Type} {p : Permission} {s : Slot κ} (hs : Slot.Licensed H p s)
    (id : InstanceId) : Slot.Licensed (fun i p => H i p ∧ i ≠ id) p (s.without id) := by
  intro q hq i hi
  obtain ⟨hq, hne⟩ := Option.mem_filter_iff.1 hq
  refine ⟨hs q hq i hi, fun he => ?_⟩
  simp [hi, he] at hne

theorem Desks.Licensed.mono {d : Desks} (hd : d.Licensed H) (hH : ∀ id p, H id p → H' id p) :
    d.Licensed H' where
  monitor := hd.monitor.mono fun id => hH id _
  scan := hd.scan.mono fun id => hH id _
  ranging := hd.ranging.mono fun id => hH id _
  cell := hd.cell.mono fun id => hH id _
  session k := (hd.session k).mono fun id => hH id _

theorem Desks.Licensed.setSession {d : Desks} (hd : d.Licensed H) {k : SessionKind} {s : Session}
    (hs : Slot.Licensed H .gnss s.slot) : (d.setSession k s).Licensed H where
  monitor := hd.monitor
  scan := hd.scan
  ranging := hd.ranging
  cell := hd.cell
  session k' := by
    by_cases hk : k' = k
    · rw [hk, session_setSession]
      exact hs
    · rw [session_setSession_of_ne hk]
      exact hd.session k'

/-! ## Work at the desks -/

/-- Answers to the requester of what is in flight are guarded. -/
theorem Pending.answered_licit {κ : Type} {p : Pending κ} {q : Permission} {m : Move}
    {answer : InstanceId → List Effect} (hp : Slot.Licensed H q (some p))
    (ha : ∀ id, H id q → ∀ x ∈ answer id, x.Licit H m) : ∀ x ∈ p.answered answer, x.Licit H m := by
  intro x hx
  unfold Pending.answered at hx
  cases hr : p.requester with
  | none => rw [hr] at hx; cases hx
  | some id =>
    rw [hr] at hx
    exact ha id (hp p rfl id hr) x hx

theorem Effect.licit_subscription {on : Bool} {id : InstanceId} {type : EventType} {p : Permission}
    {m : Move} (hp : type.permission? = some p) (hid : H id p) :
    (Effect.subscription on id type).Licit H m := by
  cases on with
  | false => trivial
  | true =>
    intro q hq
    cases hp.symm.trans hq
    exact .inl hid

namespace Desks

variable {d d' : Desks} {fx : List Effect} {m : Move}

theorem MonitorRealigned.licit (hr : MonitorRealigned d fx d') (hd : d.Licensed H) :
    d'.Licensed H ∧ ∀ x ∈ fx, ∃ q accepted, x = .asked q accepted := by
  cases hr with
  | kept => exact ⟨hd, by simp⟩
  | refused => exact ⟨hd, by simp⟩
  | awaited _ _ _ hp => exact ⟨{ hd with monitor := Slot.licensed_unowned hp }, by simp⟩

theorem SessionRealigned.licit {k : SessionKind} (hr : SessionRealigned k d fx d')
    (hd : d.Licensed H) : d'.Licensed H ∧ ∀ x ∈ fx, ∃ q accepted, x = .asked q accepted := by
  cases hr with
  | kept => exact ⟨hd, by simp⟩
  | refused => exact ⟨hd, by simp⟩
  | awaited _ _ _ hp => exact ⟨hd.setSession (Slot.licensed_unowned hp), by simp⟩

theorem licit_of_asked (hfx : ∀ x ∈ fx, ∃ q accepted, x = .asked q accepted) :
    ∀ x ∈ fx, x.Licit H m := fun x hx => by
  obtain ⟨q, accepted, rfl⟩ := hfx x hx
  trivial

theorem licit_append {fx' : List Effect} (hfx : ∀ x ∈ fx, x.Licit H m)
    (hfx' : ∀ x ∈ fx', x.Licit H m) : ∀ x ∈ fx ++ fx', x.Licit H m := fun x hx =>
  (List.mem_append.1 hx).elim (hfx x) (hfx' x)

theorem licit_cons {y : Effect} (hy : y.Licit H m) (hfx : ∀ x ∈ fx, x.Licit H m) :
    ∀ x ∈ y :: fx, x.Licit H m := List.forall_mem_cons.2 ⟨hy, hfx⟩

theorem licit_nil : ∀ x ∈ ([] : List Effect), x.Licit H m := fun _ hx => by cases hx

variable (hcall : ∀ id c p, m = .called id c → c.permission? = some p → H id p)

include hcall

theorem MonitorRule.licit (hr : MonitorRule m d fx d') (hd : d.Licensed H) :
    d'.Licensed H ∧ ∀ x ∈ fx, x.Licit H m := by
  cases hr with
  | entered =>
    have hid := hcall _ _ .wifi rfl rfl
    refine ⟨⟨hd.monitor, hd.scan, hd.ranging, hd.cell, hd.session⟩, ?_⟩
    exact licit_cons (Effect.licit_subscription rfl hid)
      (licit_cons (Event.guarded_toOne rfl hid) licit_nil)
  | refused => exact ⟨hd, licit_cons trivial licit_nil⟩
  | awaited _ _ _ hp =>
    have hid := hcall _ _ .wifi rfl rfl
    exact ⟨{ hd with monitor := Slot.licensed_owned hp hid }, licit_cons trivial licit_nil⟩
  | @settled _ _ p enabled _ code _ hs _ hr =>
    have hlicensed : (d.settleMonitor p enabled code).Licensed H := by
      unfold settleMonitor grantMonitor
      split
      · exact { hd with monitor := Slot.licensed_none }
      · split
        · exact ⟨Slot.licensed_none, hd.scan, hd.ranging, hd.cell, hd.session⟩
        · exact { hd with monitor := Slot.licensed_none }
    obtain ⟨hd', hasked⟩ := hr.licit hlicensed
    refine ⟨hd', licit_append ?_ (licit_of_asked hasked)⟩
    refine Pending.answered_licit (hs ▸ hd.monitor) fun id hid => licit_append ?_ ?_
    · split
      · exact licit_cons (Effect.licit_subscription rfl hid) licit_nil
      · exact licit_nil
    · exact licit_cons (Event.guarded_toOne rfl hid) licit_nil

theorem ScanRule.licit (hr : ScanRule m d fx d') (hd : d.Licensed H) :
    d'.Licensed H ∧ ∀ x ∈ fx, x.Licit H m := by
  have heffect {requester : Option InstanceId} (hid : ∀ id, requester = some id → H id .wifi)
      (hfx : ∀ x ∈ fx, ScanEffect requester x) : ∀ x ∈ fx, x.Licit H m := by
    intro x hx
    cases hfx x hx with
    | answered h => exact Event.guarded_toOne rfl (hid _ h)
    | passed h => exact Event.guarded_toOne rfl (hid _ h)
    | shared => exact fun _ _ => rfl
    | asked => trivial
  cases hr with
  | refused => exact ⟨hd, licit_cons trivial licit_nil⟩
  | awaited _ hp =>
    have hid := hcall _ _ .wifi rfl rfl
    exact ⟨{ hd with scan := Slot.licensed_owned hp hid }, licit_cons trivial licit_nil⟩
  | @served _ _ p s _ _ hs hkept hfx =>
    have hid : ∀ id, p.requester = some id → H id .wifi := hd.scan p hs
    refine ⟨{ hd with scan := fun q hq id h => ?_ }, heffect hid hfx⟩
    obtain ⟨job, rfl⟩ := hkept q hq
    exact hid id h
  | shared hfx => exact ⟨hd, heffect (fun _ h => by cases h) hfx⟩

theorem RangingRule.licit (hr : RangingRule m d fx d') (hd : d.Licensed H) :
    d'.Licensed H ∧ ∀ x ∈ fx, x.Licit H m := by
  cases hr with
  | refused => exact ⟨hd, licit_cons trivial licit_nil⟩
  | awaited _ hp =>
    have hid := hcall _ _ .wifi rfl rfl
    exact ⟨{ hd with ranging := Slot.licensed_owned hp hid }, licit_cons trivial licit_nil⟩
  | answered hs =>
    refine ⟨{ hd with ranging := Slot.licensed_none }, ?_⟩
    refine Pending.answered_licit (hs ▸ hd.ranging) fun id hid => ?_
    refine licit_cons (Event.guarded_toOne rfl hid) ?_
    split
    · exact licit_cons (Event.guarded_toOne rfl hid) licit_nil
    · exact licit_nil
  | timedOut hs =>
    refine ⟨{ hd with ranging := Slot.licensed_none }, ?_⟩
    exact Pending.answered_licit (hs ▸ hd.ranging) fun id hid =>
      licit_cons (Event.guarded_toOne rfl hid) licit_nil

theorem CellRule.licit (hr : CellRule m d fx d') (hd : d.Licensed H) :
    d'.Licensed H ∧ ∀ x ∈ fx, x.Licit H m := by
  have hanswer {p : Pending Unit} (hs : d.cell = some p) (r : CellReport) :
      ∀ x ∈ p.answered fun id => [.posted (cellAnswer id r)], x.Licit H m :=
    Pending.answered_licit (hs ▸ hd.cell) fun id hid =>
      licit_cons (Event.guarded_toOne rfl hid) licit_nil
  cases hr with
  | refused => exact ⟨hd, licit_cons trivial licit_nil⟩
  | awaited _ hp =>
    have hid := hcall _ _ .wwan rfl rfl
    exact ⟨{ hd with cell := Slot.licensed_owned hp hid }, licit_cons trivial licit_nil⟩
  | answered hs => exact ⟨{ hd with cell := Slot.licensed_none }, hanswer hs _⟩
  | timedOut hs => exact ⟨{ hd with cell := Slot.licensed_none }, hanswer hs _⟩

theorem SessionRule.licit {k : SessionKind} (hr : SessionRule k m d fx d') (hd : d.Licensed H) :
    d'.Licensed H ∧ ∀ x ∈ fx, x.Licit H m := by
  have hdata : k.dataType.permission? = some .gnss := by cases k <;> rfl
  have hcaller {id : InstanceId} {c : Call} {request : Option SessionRequest} {cookie : Cookie}
      (hm : m = .called id c) (hc : c.session? id = some (k, request, cookie)) : H id .gnss := by
    refine hcall id c .gnss hm ?_
    cases c <;> first | rfl | cases hc
  cases hr with
  | entered hc =>
    have hid := hcaller rfl hc
    refine ⟨hd.setSession (hd.session k), ?_⟩
    exact licit_cons (Effect.licit_subscription hdata hid)
      (licit_cons (Event.guarded_toOne rfl hid) licit_nil)
  | refused => exact ⟨hd, licit_cons trivial licit_nil⟩
  | awaited hc _ _ _ hp =>
    exact ⟨hd.setSession (Slot.licensed_owned hp (hcaller rfl hc)), licit_cons trivial licit_nil⟩
  | @settled _ _ p _ _ code _ hs _ hr =>
    have hslot : Slot.Licensed H .gnss ((d.session k).settle p code).slot := by
      rw [Session.settle_slot]
      exact Slot.licensed_none
    obtain ⟨hd', hasked⟩ := hr.licit (hd.setSession hslot)
    refine ⟨hd', licit_append ?_ (licit_of_asked hasked)⟩
    refine Pending.answered_licit (hs ▸ hd.session k) fun id hid => licit_append ?_ ?_
    · split
      · exact licit_cons (Effect.licit_subscription hdata hid) licit_nil
      · exact licit_nil
    · exact licit_cons (Event.guarded_toOne rfl hid) licit_nil
  | timedOut hs =>
    refine ⟨hd.setSession Slot.licensed_none, ?_⟩
    exact Pending.answered_licit (hs ▸ hd.session k) fun id hid =>
      licit_cons (Event.guarded_toOne rfl hid) licit_nil
  | shared =>
    have hshared : k.dataType.isShared = true := by cases k <;> rfl
    exact ⟨hd, licit_cons (fun _ _ => hshared) licit_nil⟩

/-- If the caller has the permission, so has everyone who is subscribed, answered or awaits an
answer, except that nanoapps may subscribe themselves. -/
theorem DeskRule.licit (hr : DeskRule m d fx d') (hd : d.Licensed H) :
    d'.Licensed H ∧ ∀ x ∈ fx, x.Licit H m := by
  cases hr with
  | idle => exact ⟨hd, licit_nil⟩
  | subscribed => exact ⟨hd, licit_cons (fun _ _ => .inr rfl) licit_nil⟩
  | unsubscribed => exact ⟨hd, licit_cons trivial licit_nil⟩
  | monitor h => exact h.licit hcall hd
  | scan h => exact h.licit hcall hd
  | ranging h => exact h.licit hcall hd
  | cell h => exact h.licit hcall hd
  | session k h => exact h.licit hcall hd

omit hcall in
/-- Nothing is in flight any more for a nanoapp that has left. -/
theorem Forgotten.licensed {id : InstanceId} (hf : Forgotten id d d') (hd : d.Licensed H) :
    d'.Licensed fun i p => H i p ∧ i ≠ id := by
  have horphaned {κ : Type} {p : Permission} {s : Slot κ} {f : Pending κ → Pending κ}
      (hs : Slot.Licensed H p s)
      (hf : ∀ q i, (f q).requester = some i → q.requester = some i ∧ i ≠ id) :
      Slot.Licensed (fun i p => H i p ∧ i ≠ id) p (s.map f) := by
    intro _ hmap i hi
    obtain ⟨q, hq, rfl⟩ := Option.map_eq_some_iff.1 hmap
    obtain ⟨hi, hne⟩ := hf q i hi
    exact ⟨hs q hq i hi, hne⟩
  refine ⟨?_, hf.scan ▸ hd.scan.without id, hf.ranging ▸ hd.ranging.without id,
    hf.cell ▸ hd.cell.without id, fun k => ?_⟩
  · rcases hf.monitor with hm | ⟨-, p, hm, hp⟩
    · rw [hm]
      refine horphaned hd.monitor fun q i hi => ?_
      split at hi
      · cases hi
      · rename_i hne
        exact ⟨hi, fun he => hne (he ▸ hi)⟩
    · rw [hm]
      exact Slot.licensed_unowned hp
  · rcases hf.session k with hm | ⟨-, p, hm, hp⟩
    · rw [hm]
      refine horphaned (hd.session k) fun q i hi => ?_
      split at hi
      · cases hi
      · rename_i hne
        exact ⟨hi, fun he => hne (he ▸ hi)⟩
    · rw [hm]
      exact Slot.licensed_unowned hp

end Desks

end

/-! ## What was done by whom -/

/-- The nanoapp joined with the permissions and has not left; `since` is what happened after. -/
def Enrolled (ms : List Move) (id : InstanceId) (permissions : Permissions) (since : List Move) :
    Prop :=
  ∃ before, ms = before ++ .joined id permissions :: since ∧
    (∀ p, .joined id p ∉ since) ∧ .left id ∉ since

/-- The nanoapp has the permission, or it subscribed itself to a type that is shared. -/
def Entitled (ms : List Move) (id : InstanceId) (type : EventType) (p : Permission) : Prop :=
  ∃ permissions since, Enrolled ms id permissions since ∧ (permissions.allows p = true ∨
    type.isShared = true ∧ .called id (.subscribe type) ∈ since)

section

variable {ms : List Move} {id : InstanceId} {permissions permissions' : Permissions}
  {since since' : List Move} {m : Move}

theorem Enrolled.snoc (he : Enrolled ms id permissions since) (hl : m ≠ .left id)
    (hj : ∀ p, m ≠ .joined id p) : Enrolled (ms ++ [m]) id permissions (since ++ [m]) := by
  obtain ⟨before, rfl, hjoined, hleft⟩ := he
  refine ⟨before, by simp, fun p hp => ?_, fun hm => ?_⟩
  · rcases List.mem_append.1 hp with hp | hp
    · exact hjoined p hp
    · exact hj p (List.mem_singleton.1 hp).symm
  · rcases List.mem_append.1 hm with hm | hm
    · exact hleft hm
    · exact hl (List.mem_singleton.1 hm).symm

theorem Enrolled.join (ms : List Move) (id : InstanceId) (permissions : Permissions) :
    Enrolled (ms ++ [.joined id permissions]) id permissions [] :=
  ⟨ms, rfl, by simp, by simp⟩

/-- A nanoapp is enrolled once. -/
theorem Enrolled.unique (he : Enrolled ms id permissions since)
    (he' : Enrolled ms id permissions' since') : permissions = permissions' := by
  obtain ⟨before, rfl, hjoined, -⟩ := he
  obtain ⟨before', hsame, hjoined', -⟩ := he'
  rcases List.append_eq_append_iff.1 hsame with ⟨l, -, hl⟩ | ⟨l, -, hl⟩
  · cases l with
    | nil =>
      cases hl
      rfl
    | cons m l =>
      rw [List.cons_append] at hl
      refine absurd ?_ (hjoined permissions')
      rw [(List.cons.inj hl).2]
      simp
  · cases l with
    | nil =>
      cases hl
      rfl
    | cons m l =>
      rw [List.cons_append] at hl
      refine absurd ?_ (hjoined' permissions)
      rw [(List.cons.inj hl).2]
      simp

theorem Entitled.snoc {type : EventType} {p : Permission} (he : Entitled ms id type p)
    (hl : m ≠ .left id) (hj : ∀ p, m ≠ .joined id p) : Entitled (ms ++ [m]) id type p := by
  obtain ⟨permissions, since, he, hp⟩ := he
  refine ⟨permissions, _, he.snoc hl hj, hp.imp_right fun hs => ⟨hs.1, ?_⟩⟩
  exact List.mem_append_left _ hs.2

end

/-! ## The front and its past -/

namespace Front

/-- Subscriptions come from the desks, with the permission, or from the nanoapp itself. -/
def Justified (ms : List Move) (m : Member) : Prop :=
  ∃ since, Enrolled ms m.id m.permissions since ∧ ∀ t ∈ m.subscriptions, ∀ p,
    t.permission? = some p → m.permissions.allows p = true ∨ .called m.id (.subscribe t) ∈ since

/-- After the moves `ms`, requests in flight and results are for those who may have them. -/
structure Guards (F : Front) (o : Option Dispatch) (ms : List Move) : Prop where
  desks : F.desks.Licensed F.holds
  queued : ∀ e ∈ F.queued, e.Guarded F.holds
  crew : ∀ m ∈ F.crew, Justified ms m
  round : ∀ D, o = some D → ∀ id ∈ D.recipients, ∀ p, D.event.type.permission? = some p →
    Entitled ms id D.event.type p

variable {F F' : Front} {o o' : Option Dispatch} {ms : List Move} {m : Move}

theorem Guards.entitled (hg : F.Guards o ms) {id : InstanceId} {type : EventType} {p : Permission}
    (hp : F.holds id p) : Entitled ms id type p := by
  obtain ⟨x, hx, rfl, hp⟩ := hp
  obtain ⟨since, he, -⟩ := hg.crew x hx
  exact ⟨x.permissions, since, he, .inl hp⟩

theorem mem_insertType {t type : EventType} {l : List EventType} :
    t ∈ Nanoapp.insertType type l ↔ t = type ∨ t ∈ l := by
  induction l with
  | nil => simp [Nanoapp.insertType]
  | cons x l ih =>
    unfold Nanoapp.insertType
    split
    · exact List.mem_cons
    · split
      · rename_i he
        rw [he, List.mem_cons, or_self_left]
      · rw [List.mem_cons, ih, List.mem_cons]
        exact or_left_comm

theorem onMember_eq (x : Member) (y : Effect) :
    (y.onMember x).id = x.id ∧ (y.onMember x).permissions = x.permissions ∧
    ∀ t ∈ (y.onMember x).subscriptions, t ∈ x.subscriptions ∨ y = .subscribed x.id t := by
  cases y with
  | subscribed id type =>
    simp only [Effect.onMember]
    split
    · rename_i hid
      refine ⟨rfl, rfl, fun t ht => ?_⟩
      exact (mem_insertType.1 ht).elim (fun he => .inr (by rw [he, hid])) .inl
    · exact ⟨rfl, rfl, fun t ht => .inl ht⟩
  | unsubscribed id type =>
    simp only [Effect.onMember]
    split
    · exact ⟨rfl, rfl, fun t ht => .inl (List.mem_filter.1 ht).1⟩
    · exact ⟨rfl, rfl, fun t ht => .inl ht⟩
  | _ => exact ⟨rfl, rfl, fun t ht => .inl ht⟩

/-- Effects change nothing of a nanoapp but its subscriptions. -/
theorem onMember_fold (fx : List Effect) (x : Member) :
    (fx.foldl Effect.onMember x).id = x.id ∧
    (fx.foldl Effect.onMember x).permissions = x.permissions ∧
    ∀ t ∈ (fx.foldl Effect.onMember x).subscriptions,
      t ∈ x.subscriptions ∨ .subscribed x.id t ∈ fx := by
  induction fx generalizing x with
  | nil => exact ⟨rfl, rfl, fun t ht => .inl ht⟩
  | cons y fx ih =>
    obtain ⟨hid, hp, hs⟩ := ih (Effect.onMember x y)
    obtain ⟨hid', hp', hs'⟩ := onMember_eq x y
    rw [List.foldl_cons, hid, hp]
    refine ⟨hid', hp', fun t ht => ?_⟩
    rcases hs t ht with ht | ht
    · exact (hs' t ht).imp_right fun h => List.mem_cons.2 (.inl h.symm)
    · rw [hid'] at ht
      exact .inr (List.mem_cons_of_mem y ht)

theorem holds_after (F : Front) (fx : List Effect) : (F.after fx).holds = F.holds := by
  funext id p
  refine propext ⟨?_, ?_⟩
  · rintro ⟨_, hin, hid, hp⟩
    obtain ⟨x, hx, rfl⟩ := List.mem_map.1 hin
    obtain ⟨hid', hp', -⟩ := onMember_fold fx x
    exact ⟨x, hx, hid'.symm.trans hid, hp' ▸ hp⟩
  · rintro ⟨x, hx, hid, hp⟩
    obtain ⟨hid', hp', -⟩ := onMember_fold fx x
    exact ⟨_, List.mem_map_of_mem hx, hid'.trans hid, hp'.symm ▸ hp⟩

theorem Justified.snoc {x : Member} (hx : Justified ms x) (hl : m ≠ .left x.id)
    (hj : ∀ p, m ≠ .joined x.id p) : Justified (ms ++ [m]) x := by
  obtain ⟨since, he, ht⟩ := hx
  refine ⟨_, he.snoc hl hj, fun t h p hp => (ht t h p hp).imp_right ?_⟩
  exact List.mem_append_left _

/-- Who is subscribed by licit effects is so with good reason. -/
theorem Justified.after {x : Member} {fx : List Effect} (hx : Justified ms x) (hl : m ≠ .left x.id)
    (hj : ∀ p, m ≠ .joined x.id p) (hg : F.Guards o ms) (hfx : ∀ y ∈ fx, y.Licit F.holds m) :
    Justified (ms ++ [m]) (fx.foldl Effect.onMember x) := by
  obtain ⟨since, he, ht⟩ := hx
  obtain ⟨hid, hp, hs⟩ := onMember_fold fx x
  rw [Justified, hid, hp]
  refine ⟨_, he.snoc hl hj, fun t h p hperm => ?_⟩
  rcases hs t h with h | h
  · exact (ht t h p hperm).imp_right (List.mem_append_left _)
  · rcases hfx _ h p hperm with ⟨y, hy, hyid, hyp⟩ | rfl
    · obtain ⟨since', he', -⟩ := hg.crew y hy
      rw [hyid] at he'
      exact .inl (he.unique he' ▸ hyp)
    · exact .inr (by simp)

theorem Guards.worked {d : Desks} {fx : List Effect} (hg : F.Guards o ms)
    (hd : d.Licensed F.holds) (hfx : ∀ x ∈ fx, x.Licit F.holds m)
    (hl : ∀ id, m ≠ .left id) (hj : ∀ id p, m ≠ .joined id p) :
    (({ F with desks := d }).after fx).Guards o (ms ++ [m]) where
  desks := by
    rw [holds_after]
    exact hd
  queued e he := by
    rw [holds_after]
    rcases List.mem_append.1 he with he | he
    · exact hg.queued e he
    · obtain ⟨x, hx, he⟩ := List.mem_filterMap.1 he
      cases x with
      | posted e' =>
        cases he
        exact hfx _ hx
      | _ => cases he
  crew x hin := by
    obtain ⟨x, hx, rfl⟩ := List.mem_map.1 hin
    exact (hg.crew x hx).after (hl _) (hj _) hg hfx
  round D hD id hid p hp := (hg.round D hD id hid p hp).snoc (hl id) (hj id)

theorem holds_without (F : Front) (id : InstanceId) :
    (F.without id).holds = fun i p => F.holds i p ∧ i ≠ id := by
  funext i p
  refine propext ⟨?_, ?_⟩
  · rintro ⟨x, hx, rfl, hp⟩
    obtain ⟨hx, hne⟩ := List.mem_filter.1 hx
    exact ⟨⟨x, hx, rfl, hp⟩, by simpa using hne⟩
  · rintro ⟨⟨x, hx, rfl, hp⟩, hne⟩
    exact ⟨x, List.mem_filter.2 ⟨hx, by simpa using hne⟩, rfl, hp⟩

/-- What radios are asked is only noted. -/
theorem after_asked (F : Front) {fx : List Effect}
    (hfx : ∀ x ∈ fx, ∃ q accepted, x = .asked q accepted) :
    F.after fx = { F with notes := (F.after fx).notes } := by
  have hqueued : fx.filterMap Effect.event? = [] := by
    refine List.filterMap_eq_nil_iff.2 fun x hx => ?_
    obtain ⟨q, accepted, rfl⟩ := hfx x hx
    rfl
  have hcrew (x : Member) : fx.foldl Effect.onMember x = x := by
    induction fx with
    | nil => rfl
    | cons y fx ih =>
      obtain ⟨q, accepted, rfl⟩ := hfx y List.mem_cons_self
      exact ih (fun z hz => hfx z (List.mem_cons_of_mem _ hz))
        ((List.filterMap_cons_none rfl).symm.trans hqueued)
  simp only [after, hqueued, hcrew, List.map_id', List.append_nil]

theorem Guards.left {d : Desks} {fx : List Effect} {id : InstanceId} (hg : F.Guards o ms)
    (hl : F.desks.Leaves id fx d) :
    ((({ F with desks := d }).after fx).without id).Guards none (ms ++ [Move.left id]) := by
  obtain ⟨hf, hasked⟩ := hl.forgotten
  rw [after_asked _ hasked]
  refine ⟨?_, fun e he => ?_, fun x hx => ?_, fun D hD => by cases hD⟩
  · rw [holds_without]
    exact hf.licensed hg.desks
  · obtain ⟨he, htarget⟩ := List.mem_filter.1 he
    rw [holds_without]
    refine (hg.queued e he).mono fun i p hi hp => ⟨hp, fun hid => ?_⟩
    simp [Target.isAt, hi, hid] at htarget
  · obtain ⟨hx, hne⟩ := List.mem_filter.1 hx
    refine (hg.crew x hx).snoc (fun hid => ?_) fun _ hm => by cases hm
    cases hid
    simp at hne

theorem Guards.joined {id : InstanceId} {permissions : Permissions} {crew : List Member}
    (hg : F.Guards o ms) (hfresh : ∀ m ∈ F.crew, m.id ≠ id)
    (hcrew : ∀ m, m ∈ crew ↔ m = ⟨id, permissions, []⟩ ∨ m ∈ F.crew) :
    Guards { F with crew } none (ms ++ [.joined id permissions]) := by
  have hholds (i : InstanceId) (p : Permission) : F.holds i p → holds { F with crew } i p :=
    fun ⟨x, hx, h⟩ => ⟨x, (hcrew x).2 (.inr hx), h⟩
  refine ⟨hg.desks.mono hholds, fun e he => ?_, fun x hx => ?_, fun D hD => by cases hD⟩
  · exact (hg.queued e he).mono fun i p _ => hholds i p
  · rcases (hcrew x).1 hx with rfl | hx
    · exact ⟨[], .join ms id permissions, fun t ht => by cases ht⟩
    · refine (hg.crew x hx).snoc (fun hm => by cases hm) fun p hm => ?_
      cases hm
      exact hfresh x hx rfl

/-- Whom an event is dispatched to is entitled to it. -/
theorem Guards.taken {e : Event} {queued : List Event} (hg : F.Guards o ms)
    (hq : F.queued = (Task.result? (.event e)).toList ++ queued) :
    Guards { F with queued } (some ⟨e, F.recipients e⟩) (ms ++ [.taken e]) := by
  have hl (id : InstanceId) : (.taken e : Move) ≠ .left id := fun hm => by cases hm
  have hj (id : InstanceId) (p : Permissions) : (.taken e : Move) ≠ .joined id p :=
    fun hm => by cases hm
  refine ⟨hg.desks, fun e' he => hg.queued e' ?_, fun x hx => (hg.crew x hx).snoc (hl _) (hj _), ?_⟩
  · rw [hq]
    exact List.mem_append_right _ he
  rintro _ ⟨⟩ id hid p hp
  refine Entitled.snoc ?_ (hl id) (hj id)
  have hguarded : e.Guarded F.holds := by
    refine hg.queued e ?_
    rw [hq, Task.result?, if_pos (EventType.isResult_of_permission? hp)]
    exact List.mem_append_left _ List.mem_cons_self
  have hguarded := hguarded p hp
  unfold recipients at hid
  cases ht : e.target with
  | nanoapp i =>
    simp only [ht] at hguarded hid
    split at hid
    · rw [List.mem_singleton.1 hid]
      exact hg.entitled hguarded
    · cases hid
  | broadcast =>
    simp only [ht] at hguarded hid
    obtain ⟨x, hx, rfl⟩ := List.mem_map.1 hid
    obtain ⟨hx, hsubscribed⟩ := List.mem_filter.1 hx
    obtain ⟨since, he, hs⟩ := hg.crew x hx
    refine ⟨x.permissions, since, he, (hs e.type ?_ p hp).imp_right fun hm => ⟨hguarded, hm⟩⟩
    simpa using hsubscribed

/-- Every move keeps what is in flight and what is queued for those who may have it. -/
theorem Guards.step (hg : F.Guards o ms) (hs : F.Step o m F' o') : F'.Guards o' (ms ++ [m]) := by
  have hsame (hl : ∀ id, m ≠ .left id) (hj : ∀ id p, m ≠ .joined id p) :
      F.Guards o (ms ++ [m]) :=
    ⟨hg.desks, hg.queued, fun x hx => (hg.crew x hx).snoc (hl _) (hj _),
      fun D hD id hid p hp => (hg.round D hD id hid p hp).snoc (hl id) (hj id)⟩
  cases hs with
  | @worked _ _ d fx hm hr hp =>
    have hl (id : InstanceId) : m ≠ .left id := fun h => by rw [h] at hm; cases hm
    have hj (id : InstanceId) (p : Permissions) : m ≠ .joined id p := fun h => by
      rw [h] at hm
      cases hm
    by_cases hidle : fx = [] ∧ d = F.desks
    · obtain ⟨rfl, rfl⟩ := hidle
      rw [after_nil]
      exact hsame hl hj
    · obtain ⟨hd, hfx⟩ := hr.licit
        (fun id c p h hc => (hp id c p h hc).resolve_left hidle) hg.desks
      exact hg.worked hd hfx hl hj
  | left hl => exact hg.left hl
  | joined hfresh hcrew => exact hg.joined hfresh hcrew
  | taken hq => exact hg.taken hq
  | delivered hid =>
    have hg := hsame (fun _ h => by cases h) fun _ _ h => by cases h
    exact ⟨hg.desks, hg.queued, hg.crew, hg.round⟩
  | other => exact hsame (fun _ h => by cases h) fun _ _ h => by cases h

end Front

namespace Hub

variable {A R : Type} [Radio R]

theorem Course.guards {P : Hub A R → Move → Hub A R → Prop} {h h' : Hub A R}
    {o o' : Option Dispatch} {ms ms' : List Move} (hg : h.front.Guards o ms)
    (hc : Course P h o ms' h' o') : h'.front.Guards o' (ms ++ ms') := by
  induction hc with
  | stay => rwa [List.append_nil]
  | snoc _ hm _ ih =>
    rw [← List.append_assoc]
    exact ih.step hm.front

omit [Radio R] in
theorem blank_guards (config : Config) (now : Nat) (radios : R) (metrics : Option Metrics) :
    (front (blank config now radios metrics : Hub A R)).Guards none [] where
  desks := ⟨Slot.licensed_none, Slot.licensed_none, Slot.licensed_none, Slot.licensed_none,
    fun k => by cases k <;> exact Slot.licensed_none⟩
  queued _ he := by cases he
  crew _ hx := by cases hx
  round _ hD := by cases hD

/-- What tells of a radio is delivered to nanoapps that joined with the permission and have not left
since, or that subscribed themselves to what is shared. Whatever hosts do to a hub, also if it
halts, is such a course. -/
theorem resource_data_reaches_the_entitled [Behaviour A] :
    (∀ config (h : Hub A R), Hosted config h → ∃ now radios metrics ms o,
      Course Free (blank config now radios metrics) none ms h o) ∧
    (∀ config (h h' : Hub A R) (t : Turn A R) e, Hosted config h → t.Honest →
      t.run h = .error e h' → ∃ now radios metrics ms h₁ o,
        Course Free (blank config now radios metrics : Hub A R) none ms h₁ o ∧
          h'.deliveries = h₁.deliveries) ∧
    ∀ config now radios metrics ms (h : Hub A R) o,
      Course Free (blank config now radios metrics) none ms h o →
        h.deliveries = (ms.filterMap Move.delivery?).reverse ∧
        ∀ before d after p, ms = before ++ .delivered d :: after →
          d.type.permission? = some p → Entitled before d.id d.type p := by
  refine ⟨fun config h hh => hh.course, fun config h h' t e hh ht hr => ?_, ?_⟩
  · exact (hh.course_of_halt ht hr).2
  · intro config now radios metrics ms h o hc
    refine ⟨hc.deliveries.trans (List.append_nil _), ?_⟩
    rintro before d after p hs hp
    obtain ⟨h₁, h₁', o₁, o₁', hbefore, hm, -, -⟩ := hc.split hs
    have hg := hbefore.guards (blank_guards config now radios metrics)
    cases hm with
    | deliver hid => exact hg.round _ rfl _ hid p hp

/-- A nanoapp with the permission asks for locations and is told of one. -/
theorem permitted_nanoapp_is_told : ∃ (h : Hub Script Stations) (before after : List Move)
    (d : Delivery), Hosted {} h ∧ (∃ now radios metrics o,
      Course Free (blank {} now radios metrics) none (before ++ .delivered d :: after) h o) ∧
    d.id = ⟨1⟩ ∧ d.type = EventType.gnssLocation ∧ Entitled before ⟨1⟩ d.type .gnss := by
  obtain ⟨h, hh, hd⟩ := hosted_of_ends (A := Script) {} 0 Stations.scripted none
    [.load ⟨1⟩ { gnss := true } { start := [.startLocation 1 1 ⟨7⟩] },
      .report (.gnss (.locationStatus true 0)), .runOnce, .runOnce,
      .report (.gnss (.location {})), .runOnce, .runOnce, .runOnce]
    (by simp [Turn.Honest])
    (P := fun h => h.deliveries.head?.map (fun d => (d.id, d.type)) =
      some (⟨1⟩, EventType.gnssLocation)) (by decide +kernel)
  obtain ⟨d, hd, hsame⟩ := Option.map_eq_some_iff.1 hd
  obtain ⟨hid, htype⟩ := Prod.mk.inj hsame
  obtain ⟨hcourse, -, hall⟩ := @resource_data_reaches_the_entitled Script Stations _ _
  obtain ⟨now, radios, metrics, ms, o, hc⟩ := hcourse {} h hh
  obtain ⟨hdeliveries, hentitled⟩ := hall {} now radios metrics ms h o hc
  have hm : d ∈ ms.filterMap Move.delivery? :=
    List.mem_reverse.1 (hdeliveries ▸ List.mem_of_mem_head? hd)
  obtain ⟨m, hm, hmd⟩ := List.mem_filterMap.1 hm
  obtain rfl : m = .delivered d := by cases m <;> cases hmd; rfl
  obtain ⟨before, after, rfl⟩ := List.append_of_mem hm
  refine ⟨h, before, after, d, hh, ⟨now, radios, metrics, o, hc⟩, hid, htype, ?_⟩
  exact hid ▸ hentitled before d after .gnss rfl (by rw [htype]; rfl)

/-- Whoever subscribes to locations is told of them, with or without the permission. -/
theorem subscriber_is_told_without_permission : ¬ ∀ h : Hub Script Stations, Hosted {} h →
    ∀ d ∈ h.deliveries, ∀ p, d.type.permission? = some p →
      ∀ n ∈ h.registry.apps, n.id = d.id → n.permissions.allows p = true := by
  intro hclaim
  obtain ⟨h, hh, hd, hn⟩ := hosted_of_ends (A := Script) {} 0 Stations.scripted none
    [.load ⟨1⟩ { gnss := true } { start := [.startLocation 1 1 ⟨7⟩] },
      .load ⟨2⟩ {} { start := [.subscribe EventType.gnssLocation] },
      .report (.gnss (.locationStatus true 0)), .runOnce, .runOnce, .runOnce,
      .report (.gnss (.location {})), .runOnce, .runOnce, .runOnce]
    (by simp [Turn.Honest])
    (P := fun h => h.deliveries.head?.map (fun d => (d.id, d.type)) =
        some (⟨2⟩, EventType.gnssLocation) ∧
      (h.registry.apps.any fun n => n.id == ⟨2⟩ && !n.permissions.gnss) = true)
    (by decide +kernel)
  obtain ⟨d, hd, hsame⟩ := Option.map_eq_some_iff.1 hd
  obtain ⟨hid, htype⟩ := Prod.mk.inj hsame
  obtain ⟨n, hn, hother⟩ := List.any_eq_true.1 hn
  obtain ⟨hnid, hno⟩ := Bool.and_eq_true_iff.1 hother
  have hgnss := hclaim h hh d (List.mem_of_mem_head? hd) .gnss (by rw [htype]; rfl) n hn
    ((beq_iff_eq.1 hnid).trans hid.symm)
  simp [Permissions.allows] at hgnss
  simp [hgnss] at hno

end Hub

end ContextHub
