import ContextHub.Proofs.Hub.Managers
import ContextHub.Proofs.Timer.History
/-!
# The managers stand aside

How the timer operations of a hub change its core, and that the request managers never touch what
concerns the timers of nanoapps: their requests, the expiries queued for them, and what was
delivered. The law `aside` says so of every report, every system timer and every call of a nanoapp
that is not about its own timers.
-/

namespace ContextHub

open TimerPool

/-- Whether a task is an event. -/
def Task.isEvent : Task → Bool
  | .event _ => true
  | .deferred _ => false

/-- Whether an entry tells of a delivery. -/
def Entry.isDelivery : Entry → Bool
  | .delivered _ _ _ => true
  | _ => false

namespace Hub

namespace Core

/-- The requests of nanoapps. -/
def nanoappRequests (c : Core) : List TimerRequest :=
  c.timers.requests.filter (!·.owner.isSystem)

/-- The expiries that are queued for nanoapps. -/
def notices (c : Core) : List Task := c.expiries.filter Task.isEvent

/-- The expiries that were delivered, latest first. -/
def deliveries (c : Core) : List Entry := c.told.filter Entry.isDelivery

/-- `c'` comes after `c`, and nothing about the timers of nanoapps has changed. -/
structure Aside (c c' : Core) : Prop where
  coherent : c'.timers.Coherent
  ids : c'.ids = c.ids
  nextId : c'.nextId = c.nextId
  limits : c'.timers.limits = c.timers.limits
  handles : c'.timers.HandlesLeft →
    c.timers.HandlesLeft ∧ c.timers.issued ≤ c'.timers.issued
  requests : c'.nanoappRequests = c.nanoappRequests
  notices : c'.notices = c.notices
  deliveries : c'.deliveries = c.deliveries

theorem Aside.refl {c : Core} (hp : c.timers.Coherent) : c.Aside c :=
  ⟨hp, rfl, rfl, rfl, fun h => ⟨h, Nat.le_refl _⟩, rfl, rfl, rfl⟩

theorem Aside.trans {c c' c'' : Core} (h : c.Aside c') (h' : c'.Aside c'') : c.Aside c'' where
  coherent := h'.coherent
  ids := h'.ids.trans h.ids
  nextId := h'.nextId.trans h.nextId
  limits := h'.limits.trans h.limits
  handles hl :=
    have ⟨hl', hle'⟩ := h'.handles hl
    have ⟨hl'', hle⟩ := h.handles hl'
    ⟨hl'', Nat.le_trans hle hle'⟩
  requests := h'.requests.trans h.requests
  notices := h'.notices.trans h.notices
  deliveries := h'.deliveries.trans h.deliveries

theorem Aside.of_same {c c' : Core} (hp : c.timers.Coherent) (ht : c'.timers = c.timers)
    (hi : c'.ids = c.ids) (hn : c'.nextId = c.nextId) (he : c'.expiries = c.expiries)
    (hd : c'.deliveries = c.deliveries) : c.Aside c' where
  coherent := ht ▸ hp
  ids := hi
  nextId := hn
  limits := by rw [ht]
  handles h := by rw [ht] at h ⊢; exact ⟨h, Nat.le_refl _⟩
  requests := by rw [nanoappRequests, ht, nanoappRequests]
  notices := by rw [Core.notices, he, Core.notices]
  deliveries := hd

/-- A timer of the system is set. -/
theorem Aside.set {c : Core} (hp : c.timers.Coherent) {now : Nat} {s : TimerSpec}
    {x : TimerHandle} {q : TimerPool} (hs : c.timers.set now s = .ok (x, q))
    (ho : s.owner.isSystem = true) : c.Aside { c with timers := q } := by
  have ha := set_eq_ok hp hs
  refine ⟨ha.coherent, rfl, rfl, ha.limits, fun h => ?_, ?_, rfl, rfl⟩
  · obtain ⟨hl, -, hi⟩ := ha.unwrapped h.1
    exact ⟨hl, by rw [hi]; exact Nat.le_succ _⟩
  · simp only [nanoappRequests, ha.requests]
    have hout : (!(c.timers.newRequest now s x).owner.isSystem) = false := by
      rw [newRequest, ho, Bool.not_true]
    exact filter_place hout _

/-- Timers of the system are taken out. -/
theorem Aside.shed {c : Core} {out : TimerRequest → Bool} {q : TimerPool}
    (hs : Sheds c.timers out q) (hout : ∀ r, out r = true → r.owner.isSystem = true) :
    c.Aside { c with timers := q } := by
  refine ⟨hs.coherent, rfl, rfl, hs.kept.limits, fun h => ?_, ?_, rfl, rfl⟩
  · exact ⟨hs.kept.handlesLeft.1 h, Nat.le_of_eq hs.kept.issued.symm⟩
  · simp only [nanoappRequests, hs.requests, List.filter_filter]
    refine List.filter_congr fun r _ => ?_
    cases ho : out r with
    | false => rw [Bool.not_false, Bool.and_true]
    | true => rw [hout r ho]; rfl

end Core

variable {A R : Type}

/-! ## Timer operations -/

theorem trySetTimer_ends (s : TimerSpec) (h : Hub A R) :
    Ends (trySetTimer s) h
      (fun r h' => match r with
        | .error e => h.timers.set h.now s = .error e ∧ h'.core = h.core
        | .ok x => ∃ q, h.timers.set h.now s = .ok (x, q) ∧ h'.core = { h.core with timers := q })
      (fun _ _ => False) := by
  unfold trySetTimer
  rw [ends_bind, ends_get]
  split
  · rename_i e he
    exact ⟨he, rfl⟩
  · rename_i x q hq
    exact ⟨q, hq, rfl⟩

theorem setNanoappTimer_ends (owner : InstanceId) (duration : Nat) (cookie : Cookie)
    (oneShot : Bool) (h : Hub A R) :
    Ends (setNanoappTimer owner duration cookie oneShot) h
      (fun x h' => (x = .invalid ∧ h'.core = h.core) ∨ ∃ q,
        h.timers.set h.now { owner, duration, cookie, oneShot } = .ok (x, q) ∧
          h'.core = { h.core with timers := q })
      (fun _ _ => False) := by
  refine (trySetTimer_ends _ h).bind fun r h' hr => ?_
  split
  · exact .inr hr
  · exact .inl ⟨rfl, hr.2⟩

theorem setSystemTimer_ends (duration : Nat) (purpose : TimerPurpose) (h : Hub A R) :
    Ends (setSystemTimer duration purpose) h
      (fun x h' => ∃ q,
        h.timers.set h.now { owner := .system, duration, purpose := some purpose } = .ok (x, q) ∧
          h'.core = { h.core with timers := q })
      (fun _ h' => h'.core = h.core ∧ ∃ e,
        h.timers.set h.now { owner := .system, duration, purpose := some purpose } = .error e) := by
  unfold setSystemTimer
  refine ends_bind.2 ((trySetTimer_ends _ h).mono (fun r h' hr => ?_) fun _ _ => False.elim)
  split
  · exact hr
  · exact ⟨hr.2, _, hr.1⟩

/-- Cancelling takes out the timer if it is the owner's, and nothing else. -/
theorem cancelTimer_ends (owner : InstanceId) (x : TimerHandle) (h : Hub A R)
    (hp : h.timers.Coherent) :
    Ends (cancelTimer owner x) h
      (fun b h' => (b = true ↔ ∃ r ∈ h.timers.requests, r.handle = x ∧ r.owner = owner) ∧
        ∃ q, Sheds h.timers (fun r => r.handle == x && r.owner == owner) q ∧
          h' = { h with timers := q })
      (fun _ _ => False) := by
  unfold cancelTimer
  rw [ends_bind, ends_get]
  split
  · rename_i hc
    have hno := (cancel?_eq_none_iff hp).1 hc
    refine ⟨?_, h.timers, ⟨?_, hp, .refl _⟩, rfl⟩
    · simp only [Bool.false_eq_true, false_iff]
      rintro ⟨r, hr, hh, ho⟩
      exact hno r hr hh ho
    · refine (List.filter_eq_self.2 fun r hr => ?_).symm
      by_cases hh : r.handle = x
      · simp [beq_eq_false_iff_ne.2 (hno r hr hh)]
      · simp [beq_eq_false_iff_ne.2 hh]
  · rename_i q hc
    obtain ⟨⟨r, hr, hh, ho⟩, hs⟩ := cancel?_eq_some hp hc
    refine ⟨⟨fun _ => ⟨r, hr, hh, ho⟩, fun _ => rfl⟩, q, ⟨?_, hs.coherent, hs.kept⟩, rfl⟩
    rw [hs.requests]
    refine List.filter_congr fun a ha => ?_
    by_cases e : a.handle = x
    · obtain rfl := hp.eq_of_handle ha hr (e.trans hh.symm)
      simp [ho]
    · simp [beq_eq_false_iff_ne.2 e]

theorem cancelSystemTimer_ends (x : TimerHandle) (h : Hub A R) (hp : h.timers.Coherent) :
    Ends (cancelSystemTimer x) h
      (fun _ h' => ∃ q, Sheds h.timers (fun r => r.owner.isSystem && r.handle == x) q ∧
        h'.core = { h.core with timers := q })
      (fun _ _ => False) := by
  refine (cancelTimer_ends .system x h hp).mono (fun _ h' hc => ?_) fun _ _ => id
  obtain ⟨-, q, hq, rfl⟩ := hc
  exact ⟨q, hq.congr fun r _ => Bool.and_comm _ _, rfl⟩

theorem cancelTimersOf_ends (owner : InstanceId) (h : Hub A R) (hp : h.timers.Coherent) :
    Ends (cancelTimersOf owner) h
      (fun _ h' => ∃ q, Sheds h.timers (·.owner == owner) q ∧
        h'.core = { h.core with timers := q })
      (fun _ _ => False) :=
  ⟨_, (cancelAllOwnedBy_sheds hp h.now owner).2, rfl⟩

/-! ## Answers to scans -/

/-- The event that answers a scan on demand. -/
def scanAnswer (id : InstanceId) (code : ErrorCode) (cookie : Cookie) : Event :=
  .toOne EventType.wifiAsyncResult (.async ⟨WifiKind.scan, code, cookie⟩) id

/-- An answer is posted, or the hub halts. -/
theorem answerScan_ends [Radio R] (id : InstanceId) (code : ErrorCode) (cookie : Cookie)
    (h : Hub A R) :
    Ends (answerWifi id WifiKind.scan code cookie) h
      (fun _ h' => h'.core = { h.core with
        told := .handed (scanAnswer id code cookie) true :: h.core.told })
      (fun e h' => h'.core = h.core ∧ Mild R e) := by
  refine ends_bind.2 ((tryPost_ends _ h).mono (fun r h' hr => ?_) fun _ _ => False.elim)
  split at hr
  · exact ⟨hr, .post _⟩
  · exact hr.trans (congrArg (fun l => { h.core with
      expiries := l
      told := .handed (scanAnswer id code cookie) true :: h.core.told })
      (List.append_nil h.core.expiries))

/-! ## The law -/

/-- Nothing about the timers of nanoapps changes. -/
def aside : Law A R where
  rel h h' := h.timers.Coherent → h.core.Aside h'.core
  halts h _ h' := h.timers.Coherent → h.core.Aside h'.core
  refl _ hp := .refl hp
  trans h h' hp := (h hp).trans (h' (h hp).coherent)
  halts_of_rel h h' hp := (h hp).trans (h' (h hp).coherent)

theorem aside_of_same {h h' : Hub A R} (ht : h'.timers = h.timers)
    (hi : h'.core.ids = h.core.ids) (hn : h'.core.nextId = h.core.nextId)
    (he : h'.core.expiries = h.core.expiries)
    (hd : h'.core.deliveries = h.core.deliveries) : aside.rel h h' :=
  fun hp => .of_same hp ht hi hn he hd

theorem aside_of_core {h h' : Hub A R} (hc : h'.core = h.core) : aside.rel h h' :=
  aside_of_same (congrArg Core.timers hc) (by rw [hc]) (by rw [hc]) (by rw [hc]) (by rw [hc])

variable [Radio R]

theorem aside_scans : (aside : Law A R).Scans where
  quietly := ⟨fun h => aside_of_core h, fun h => aside_of_core h.1⟩
  set duration purpose h := by
    refine (setSystemTimer_ends duration purpose h).mono (fun x h' hx hp => ?_) fun e h' he => ?_
    · obtain ⟨q, hq, hc⟩ := hx
      rw [hc]
      exact .set hp hq rfl
    · exact aside_of_core he.1
  cancel handle h := by
    by_cases hp : h.timers.Coherent
    · refine (cancelSystemTimer_ends handle h hp).mono (fun b h' hb _ => ?_) fun _ _ => False.elim
      obtain ⟨q, hs, hc⟩ := hb
      rw [hc]
      exact .shed hs fun r hr => (Bool.and_eq_true _ _ ▸ hr).1
    · unfold Ends
      split <;> exact fun hp' => absurd hp' hp
  wifi f _ := .modify fun _ => aside_of_same rfl rfl rfl rfl rfl
  wwan f := .modify fun _ => aside_of_same rfl rfl rfl rfl rfl
  session k f := .modify fun _ => aside_of_same rfl rfl rfl rfl rfl
  scan f := .modify fun _ => aside_of_same rfl rfl rfl rfl rfl
  answer id code cookie h := by
    refine (answerScan_ends id code cookie h).mono (fun _ h' hc hp => ?_) fun e h' he => ?_
    · rw [hc]
      exact .of_same hp rfl rfl rfl rfl rfl
    · exact aside_of_core he.1

end Hub

end ContextHub
