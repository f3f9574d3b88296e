import ContextHub.Proofs.Hub.Annals
import ContextHub.Proofs.Hub.Hosting
import ContextHub.Simulation.World
/-!
# Deliveries of expiries

A hub seen as a system that takes steps (`Step`), each of which may tell a happening; `Lives h past
h'` is a run. Every step keeps a past faithful, and whatever is reached lies on a run. So what is
delivered to a nanoapp was fired before and asked for before that, and nothing of a timer that was
cancelled is delivered any more.
-/

namespace ContextHub

open TimerPool

/-- What an entry tells of an expiry that was delivered to the nanoapp `id`. -/
def Entry.noticeTo? (id : InstanceId) : Entry → Option (TimerHandle × Cookie)
  | .delivered _ d _ =>
    if d.id = id ∧ d.type = EventType.timer then
      match d.payload with
      | .timer x cookie => some (x, cookie)
      | _ => none
    else none
  | _ => none

namespace Hub

variable {A R : Type}

/-- The expiries that were delivered to the nanoapp `id` by the journal, in order. -/
def deliveredTo (id : InstanceId) (h : Hub A R) : List (TimerHandle × Cookie) :=
  (h.journal.filterMap (Entry.noticeTo? id)).reverse

def Core.deliveredTo (id : InstanceId) (c : Core) : List (TimerHandle × Cookie) :=
  (c.deliveries.filterMap (Entry.noticeTo? id)).reverse

theorem core_deliveredTo (id : InstanceId) (h : Hub A R) :
    h.core.deliveredTo id = h.deliveredTo id := by
  rw [Core.deliveredTo, Core.deliveries, Hub.deliveredTo, core, List.filter_filter,
    List.filterMap_filter]
  congr 1
  refine List.filterMap_congr fun e _ => ?_
  cases e with
  | delivered watched d time =>
    by_cases ht : d.type = EventType.timer
    · simp [Entry.isTold, Entry.isDelivery, ht]
    · simp [Entry.isTold, Entry.isDelivery, Entry.noticeTo?, ht]
  | _ => simp [Entry.isDelivery, Entry.noticeTo?]

/-! ## What a step does to the core -/

/-- What holds of a hub in the middle of a turn. -/
structure Core.Fit (c : Core) : Prop where
  coherent : c.timers.Coherent
  foreign : .system ∉ c.ids
  numbered : c.nextId ≠ 0
  shaped : ∀ t ∈ c.notices, ∃ x cookie id,
    t = .event (.toOne EventType.timer (.timer x cookie) id)

/-- A step leads from `c` to `c'` and tells `e`. -/
structure Core.Leads (c : Core) (e : Option Happening) (c' : Core) : Prop where
  fit : c'.Fit
  handles : c'.timers.HandlesLeft →
    c.timers.HandlesLeft ∧ c.timers.issued ≤ c'.timers.issued
  fresh : c'.timers.HandlesLeft → ∀ x, e.bind Happening.setHandle? = some x →
    c.timers.issued ≤ x.val
  deliveries : ∀ id, c'.deliveredTo id =
    c.deliveredTo id ++ (e.bind (Happening.deliveryTo? id)).toList
  faithful : c'.timers.HandlesLeft → ∀ past, Faithful past → Tells past c →
    Faithful (past ++ e.toList) ∧ Tells (past ++ e.toList) c'

namespace Core

variable {c c' : Core}

theorem Fit.aside (hf : c.Fit) (ha : c.Aside c') : c.Leads none c' where
  fit := ⟨ha.coherent, ha.ids ▸ hf.foreign, ha.nextId ▸ hf.numbered, ha.notices ▸ hf.shaped⟩
  handles := ha.handles
  fresh _ x hx := by cases hx
  deliveries id := by
    rw [deliveredTo, ha.deliveries]
    exact (List.append_nil _).symm
  faithful hl past h ht := by
    rw [Option.toList_none, List.append_nil]
    exact ⟨h, ht.aside ha hl⟩

/-- A step and then one that leaves the timers of nanoapps alone. -/
theorem Leads.aside {e : Option Happening} {c'' : Core} (hs : c.Leads e c') (ha : c'.Aside c'') :
    c.Leads e c'' := by
  have hs' := hs.fit.aside ha
  refine ⟨hs'.fit, fun hl => ?_, fun hl => hs.fresh (hs'.handles hl).1, fun id => ?_,
    fun hl past h ht => ?_⟩
  · obtain ⟨hl', hle'⟩ := hs'.handles hl
    obtain ⟨hl'', hle⟩ := hs.handles hl'
    exact ⟨hl'', Nat.le_trans hle hle'⟩
  · rw [hs'.deliveries, hs.deliveries]
    exact List.append_nil _
  · obtain ⟨h', ht'⟩ := hs.faithful (hs'.handles hl).1 past h ht
    exact ⟨h', ht'.aside ha hl⟩

theorem Fit.joined (hf : c.Fit) {ids : List InstanceId} {nextId : Nat} (hids : .system ∉ ids)
    (hnext : nextId ≠ 0) : c.Leads none { c with ids, nextId } where
  fit := ⟨hf.coherent, hids, hnext, hf.shaped⟩
  handles h := ⟨h, Nat.le_refl _⟩
  fresh _ x hx := by cases hx
  deliveries id := (List.append_nil _).symm
  faithful _ past h ht := by
    rw [Option.toList_none, List.append_nil]
    exact ⟨h, ht.issued, ht.held, ht.unspent, ht.pending, ht.queued⟩

theorem Fit.drop (hf : c.Fit) {t : Task} {expiries : List Task}
    (hexpiries : c.expiries = t :: expiries) : c.Leads none { c with expiries } where
  fit := by
    refine ⟨hf.coherent, hf.foreign, hf.numbered, fun t ht => hf.shaped t ?_⟩
    rw [notices, hexpiries]
    exact ((List.sublist_cons_self _ _).filter _).subset ht
  handles h := ⟨h, Nat.le_refl _⟩
  fresh _ x hx := by cases hx
  deliveries id := (List.append_nil _).symm
  faithful _ past h ht := by
    rw [Option.toList_none, List.append_nil]
    exact ⟨h, ht.drop rfl hexpiries⟩

theorem Fit.set (hf : c.Fit) {now : Nat} {s : TimerSpec} {x : TimerHandle} {q : TimerPool}
    (hs : c.timers.set now s = .ok (x, q)) :
    c.Leads (some (.set s.owner x s.cookie s.oneShot)) { c with timers := q } := by
  have ha := set_eq_ok hf.coherent hs
  refine ⟨⟨ha.coherent, hf.foreign, hf.numbered, hf.shaped⟩, fun hl => ?_, fun hl y hy => ?_,
    fun id => (List.append_nil _).symm, fun hl past h ht => ?_⟩
  · obtain ⟨hl, -, hi⟩ := ha.unwrapped hl.1
    exact ⟨hl, by rw [hi]; exact Nat.le_succ _⟩
  · cases hy
    exact Nat.le_of_eq (ha.unwrapped hl.1).2.1.symm
  · obtain ⟨-, hval, hi⟩ := ha.unwrapped hl.1
    have ht' := ht.set h ha hval hi rfl
    exact ⟨h.set ht hval ht', ht'⟩

theorem Fit.type_of_mem (hf : c.Fit) {e : Event} (he : .event e ∈ c.expiries) :
    e.type = EventType.timer := by
  obtain ⟨x, cookie, id, h⟩ := hf.shaped (.event e) (List.mem_filter.2 ⟨he, rfl⟩)
  cases h
  rfl

theorem Fit.cancel (hf : c.Fit) {id : InstanceId} {x : TimerHandle} {q : TimerPool}
    (hs : Sheds c.timers (fun r => r.handle == x && r.owner == id) q) (result : Bool) :
    c.Leads (some (.cancelled id x result))
      { c with timers := q, expiries := Queue.others (·.isExpiryOf x id) c.expiries } where
  fit := by
    refine ⟨hs.coherent, hf.foreign, hf.numbered, fun t ht => hf.shaped t ?_⟩
    exact ((List.filter_sublist).filter _).subset ht
  handles hl := ⟨hs.kept.handlesLeft.1 hl, Nat.le_of_eq hs.kept.issued.symm⟩
  fresh _ y hy := by cases hy
  deliveries i := (List.append_nil _).symm
  faithful _ past h ht :=
    have ht' := ht.cancel hs result (fun _ he => hf.type_of_mem he) rfl
    ⟨h.idle ht' rfl rfl fun _ => rfl, ht'⟩

theorem Fit.tick (hf : c.Fit) {fired kept : List TimerRequest} {q : TimerPool} {now lost : Nat}
    (hs : Serves now c.timers fired q) (hsub : kept.Sublist fired) :
    c.Leads (some (.fired (ofNanoapps fired))) { c with
      timers := { q.rearm now with lost }
      expiries := c.expiries ++ kept.map (·.notice) } where
  fit := by
    refine ⟨?_, hf.foreign, hf.numbered, fun t ht => ?_⟩
    · exact (hs.coherent.rearm now).hush (q.rearm now).hardware lost
    · rw [notices, List.filter_append, List.mem_append] at ht
      rcases ht with ht | ht
      · exact hf.shaped t ht
      · obtain ⟨ht, he⟩ := List.mem_filter.1 ht
        obtain ⟨r, -, rfl⟩ := List.mem_map.1 ht
        unfold TimerRequest.notice at he ⊢
        split at he
        · cases he
        · exact ⟨_, _, _, rfl⟩
  handles hl := by
    obtain ⟨-, hlast, hwrapped⟩ := hs.kept
    have hl : q.wrapped = false ∧ q.lastHandle.succ.isValid = true := hl
    rw [hwrapped, hlast] at hl
    refine ⟨hl, Nat.le_of_eq ?_⟩
    rw [TimerPool.issued, ← hlast]
    rfl
  fresh _ y hy := by cases hy
  deliveries i := (List.append_nil _).symm
  faithful _ past h ht :=
    have ht' := ht.tick hf.coherent hs hsub rfl rfl
    ⟨h.tick ht hs ht', ht'⟩

theorem Fit.deliver (hf : c.Fit) {x : TimerHandle} {cookie : Cookie} {id : InstanceId}
    {expiries : List Task} (watched : Bool) (time : Nat)
    (hexpiries : c.expiries = .event (.toOne EventType.timer (.timer x cookie) id) :: expiries) :
    c.Leads (some (.delivered id x cookie)) { c with
      expiries
      told := .delivered watched ⟨id, .system, EventType.timer, .timer x cookie⟩ time ::
        c.told } where
  fit :=
    have hdrop := (hf.drop hexpiries).fit
    ⟨hdrop.coherent, hdrop.foreign, hdrop.numbered, hdrop.shaped⟩
  handles h := ⟨h, Nat.le_refl _⟩
  fresh _ y hy := by cases hy
  deliveries i := by
    rw [deliveredTo, Core.deliveries, List.filter_cons_of_pos rfl, deliveredTo, Core.deliveries]
    by_cases hi : id = i
    · simp [Entry.noticeTo?, Happening.deliveryTo?, hi]
    · simp [Entry.noticeTo?, Happening.deliveryTo?, hi]
  faithful _ past h ht := by
    have hm : (x, cookie) ∈ c.noticesTo id := by
      refine mem_noticesTo.2 ⟨.toOne EventType.timer (.timer x cookie) id, ?_, rfl, rfl⟩
      rw [hexpiries]
      exact List.mem_cons_self
    refine ⟨h.deliver ht hm ?tells, ?tells⟩
    exact ht.deliver rfl hexpiries

theorem Fit.reclaim (hf : c.Fit) {id : InstanceId} {q : TimerPool} {c₁ : Core}
    {ids : List InstanceId} (hs : Sheds c.timers (·.owner == id) q)
    (ha : Aside { c with timers := q } c₁) (hids : ∀ i ∈ ids, i ∈ c₁.ids) :
    c.Leads (some (.reclaimed id))
      { c₁ with expiries := Queue.others (·.target.isAt id) c₁.expiries, ids } := by
  have hnotices : (Queue.others (·.target.isAt id) c₁.expiries).filter Task.isEvent =
      Queue.others (·.target.isAt id) c.notices := by
    rw [others_filter, ← notices, ha.notices]
    rfl
  have hrequests : c₁.nanoappRequests = c.nanoappRequests.filter (·.owner != id) := by
    rw [ha.requests, nanoappRequests, hs.requests, nanoappRequests, List.filter_comm]
    rfl
  have hissued (hl : c₁.timers.HandlesLeft) : c.timers.issued ≤ c₁.timers.issued :=
    hs.kept.issued ▸ (ha.handles hl).2
  refine ⟨?_, ?_, ?_, ?_, ?_⟩
  · refine ⟨ha.coherent, fun hi => hf.foreign ?_, ?_, fun t ht => hf.shaped t ?_⟩
    · exact ha.ids ▸ hids _ hi
    · rw [ha.nextId]
      exact hf.numbered
    · rw [notices, hnotices] at ht
      exact (List.mem_filter.1 ht).1
  · exact fun hl => ⟨hs.kept.handlesLeft.1 (ha.handles hl).1, hissued hl⟩
  · intro _ y hy
    cases hy
  · intro i
    have hd : c₁.deliveries = c.deliveries := ha.deliveries
    rw [deliveredTo, deliveredTo, ← hd]
    exact (List.append_nil _).symm
  · intro hl past h ht
    refine ⟨h.idle ?tells rfl rfl fun _ => rfl, ?tells⟩
    exact ht.reclaim (hissued hl) hrequests hnotices

end Core

/-! ## Cancelling and reclaiming -/

/-- What a nanoapp's cancelling of `x` does to a hub. -/
structure Cancels (id : InstanceId) (x : TimerHandle) (h : Hub A R) (result : Bool)
    (h' : Hub A R) : Prop where
  result : result = true ↔ (∃ r ∈ h.timers.requests, r.handle = x ∧ r.owner = id) ∨
    ∃ e, .event e ∈ h.queue.tasks ∧ e.isExpiryOf x id = true
  timers : Sheds h.timers (fun r => r.handle == x && r.owner == id) h'.timers
  tasks : h'.queue.tasks = Queue.others (·.isExpiryOf x id) h.queue.tasks

theorem matching_isEmpty (p : Event → Bool) (ts : List Task) :
    (Queue.matching p ts).isEmpty = false ↔ ∃ e, .event e ∈ ts ∧ p e = true := by
  rw [List.isEmpty_eq_false_iff_exists_mem]
  constructor
  · rintro ⟨e, he⟩
    obtain ⟨t, ht, he⟩ := List.mem_filterMap.1 he
    cases t with
    | event e' =>
      dsimp only at he
      split at he
      · cases he
        exact ⟨e, ht, ‹_›⟩
      · cases he
    | deferred => cases he
  · rintro ⟨e, he, hp⟩
    exact ⟨e, List.mem_filterMap.2 ⟨_, he, by simp [hp]⟩⟩

theorem cancelWithExpiries_ends (id : InstanceId) (x : TimerHandle) (h : Hub A R)
    (hp : h.timers.Coherent) :
    Ends (cancelWithExpiries id x) h
      (fun result h' => Cancels id x h result h' ∧ h'.core = { h.core with
        timers := h'.timers
        expiries := Queue.others (·.isExpiryOf x id) h.core.expiries })
      (fun _ _ => False) := by
  refine ends_bind.2 ((cancelTimer_ends id x h hp).mono ?_ fun _ _ => False.elim)
  rintro cancelled h₁ ⟨hcancelled, q, hs, rfl⟩
  refine ends_bind.2 ((discard_ends _ _).mono ?_ fun _ _ => False.elim)
  rintro out h₂ ⟨rfl, htasks, hc⟩
  have hq : h₂.timers = q := congrArg Core.timers hc
  refine ⟨⟨?_, hq ▸ hs, htasks⟩, hq ▸ hc⟩
  rw [Bool.or_eq_true, hcancelled, Bool.not_eq_true', matching_isEmpty]

theorem purge_ends (id : InstanceId) (timers : Nat) (h : Hub A R) :
    Ends (purge id timers) h
      (fun _ h' => ∃ ids, (∀ i ∈ ids, i ∈ h.core.ids) ∧ h'.core =
        { h.core with expiries := Queue.others (·.target.isAt id) h.core.expiries, ids })
      (fun _ _ => False) := by
  refine ends_bind.2 ((discard_ends _ _).mono ?_ fun _ _ => False.elim)
  rintro out h₁ ⟨-, -, hc⟩
  have hids : h₁.registry.ids = h.registry.ids := congrArg Core.ids hc
  refine ⟨(h₁.registry.remove id).ids, fun i hi => ?_, ?_⟩
  · rw [show h.core.ids = h₁.registry.ids from hids.symm]
    exact ((List.filter_sublist).map _).subset hi
  · exact congrArg (fun c : Core => { c with ids := (h₁.registry.remove id).ids }) hc

theorem releaseResources_ends [Radio R] (id : InstanceId) (h : Hub A R) (hp : h.timers.Coherent) :
    Ends (releaseResources id) h
      (fun _ h' => ∃ q c₁ ids, Sheds h.timers (·.owner == id) q ∧
        Core.Aside { h.core with timers := q } c₁ ∧ (∀ i ∈ ids, i ∈ c₁.ids) ∧
        h'.core = { c₁ with expiries := Queue.others (·.target.isAt id) c₁.expiries, ids })
      (fun _ h' => h'.core.deliveries = h.core.deliveries) := by
  have hcancel : Ends (cancelTimersOf id) h
      (fun _ h₁ => h₁.timers.Coherent ∧ Sheds h.timers (·.owner == id) h₁.timers ∧
        h₁.core = { h.core with timers := h₁.timers })
      (fun _ h' => h'.core.deliveries = h.core.deliveries) := by
    refine (cancelTimersOf_ends id h hp).mono (fun _ h₁ hr => ?_) fun _ _ => False.elim
    obtain ⟨q, hs, hc⟩ := hr
    have hq : h₁.timers = q := congrArg Core.timers hc
    exact ⟨hq ▸ hs.coherent, hq ▸ hs, hq ▸ hc⟩
  refine release_ends aside_scans.quietly hcancel (aside_scans.serves.forgetWifi_obeys id)
    (aside_scans.serves.forgetWwan_obeys id) (aside_scans.serves.forgetGnss_obeys id) ?_ ?_
  · rintro timers h₁ h₂ ⟨hp₁, hs, hc⟩ hrel
    refine (purge_ends id timers h₂).mono (fun _ h₃ hr => ?_) fun _ _ => False.elim
    obtain ⟨ids, hids, hc'⟩ := hr
    exact ⟨h₁.timers, h₂.core, ids, hs, hc ▸ hrel hp₁, hids, hc'⟩
  · rintro h₁ e h₂ ⟨hp₁, -, hc⟩ he
    rw [(he hp₁).deliveries, hc]
    rfl

theorem next?_expiries {h : Hub A R} {t : Task} {q : Queue} (hq : h.queue.next? = some (t, q))
    (ht : t.isExpiry = true) : h.core.expiries = t :: (core { h with queue := q }).expiries := by
  simp only [core, next?_tasks hq, List.filter_cons, ht, ↓reduceIte]

/-! ## Happenings of calls -/

/-- What a call of the nanoapp `id` and its reply tell. -/
def Happening.ofCall (id : InstanceId) : (c : Call) → c.Reply → Option Happening
  | .setTimer _ cookie oneShot, x => if x.isValid then some (.set id x cookie oneShot) else none
  | .cancelTimer x, result => some (.cancelled id x result)
  | _, _ => none

/-! ## The start -/

theorem blank_fit (config : Config) (now : Nat) (radios : R) (metrics : Option Metrics) :
    (core (blank config now radios metrics : Hub A R)).Fit where
  coherent := coherent_empty config.timers
  foreign := List.not_mem_nil
  numbered := Nat.one_ne_zero
  shaped _ ht := absurd ht List.not_mem_nil

theorem blank_tells (config : Config) (now : Nat) (radios : R) (metrics : Option Metrics) :
    Tells [] (core (blank config now radios metrics : Hub A R)) where
  issued _ _ _ _ hm := absurd hm List.not_mem_nil
  held _ hr := absurd hr List.not_mem_nil
  unspent _ hr := absurd hr List.not_mem_nil
  pending _ _ _ hm := absurd hm List.not_mem_nil
  queued _ := .slnil

/-! ## Steps and runs -/

section

variable [Radio R]

/-- The steps of a hub. Between two tasks as well as while a nanoapp runs, what leaves the core
alone may happen at any time. -/
inductive Step : Hub A R → Option Happening → Hub A R → Prop
  | call {h h' : Hub A R} {id : InstanceId} {c : Call} {reply : c.Reply} (hid : id ≠ .system)
      (hr : perform id c h = .ok reply h') : Step h (Happening.ofCall id c reply) h'
  | tick {h h' : Hub A R} {n : Nat} (hr : Hub.tick h = .ok n h') :
      Step h (some (.fired (ofNanoapps h.dueNow))) h'
  | deliver {h : Hub A R} {id : InstanceId} {x : TimerHandle} {cookie : Cookie} {q : Queue}
      (hq : h.queue.next? = some (.event (.toOne EventType.timer (.timer x cookie) id), q))
      (watched : Bool) (time : Nat) :
      Step h (some (.delivered id x cookie)) { h with
        queue := q
        journal := .delivered watched ⟨id, .system, EventType.timer, .timer x cookie⟩ time ::
          h.journal }
  | drop {h : Hub A R} {e : Event} {q : Queue} (he : e.type = EventType.timer)
      (hq : h.queue.next? = some (.event e, q)) : Step h none { h with queue := q }
  | expiry {h h₁ h' : Hub A R} {x : TimerHandle} {u : TimerPurpose} {q : Queue}
      (hq : h.queue.next? = some (.deferred (.timerExpired x u), q))
      (hc : h₁.core = core { h with queue := q }) (hr : handleSystemTimer x u h₁ = .ok () h') :
      Step h none h'
  | report {h h' : Hub A R} {r : Report} (hr : handleReport r h = .ok () h') : Step h none h'
  | release {h h' : Hub A R} {id : InstanceId} (hid : id ≠ .system)
      (hr : releaseResources id h = .ok () h') : Step h (some (.reclaimed id)) h'
  | register {h : Hub A R} {app : AppId} {permissions : Permissions} {behaviour : A}
      {id : InstanceId} {registry : Registry A}
      (hr : h.registry.register app permissions behaviour = .ok (id, registry)) :
      Step h none { h with registry }
  | clock (h : Hub A R) (t : Nat) : Step h none { h with now := t }
  | alarm (h : Hub A R) : Step h none { h with timers := { h.timers with hardware := .off } }
  | quiet {h h' : Hub A R} (hc : h'.core = h.core) : Step h none h'

/-- A run from `h` on. -/
inductive Lives (h : Hub A R) : List Happening → Hub A R → Prop
  | stay : Lives h [] h
  | snoc {past : List Happening} {e : Option Happening} {h₁ h₂ : Hub A R} (hl : Lives h past h₁)
      (hs : Step h₁ e h₂) : Lives h (past ++ e.toList) h₂

theorem Lives.of_step {h h' : Hub A R} {e : Option Happening} (hs : Step h e h') :
    Lives h e.toList h' :=
  List.nil_append e.toList ▸ Lives.stay.snoc hs

theorem Lives.append {h h₁ h₂ : Hub A R} {past past' : List Happening} (hl : Lives h past h₁)
    (hl' : Lives h₁ past' h₂) : Lives h (past ++ past') h₂ := by
  induction hl' with
  | stay => rwa [List.append_nil]
  | snoc _ hs ih =>
    rw [← List.append_assoc]
    exact ih.snoc hs

/-! ## What a step does -/

theorem call_leads {h h' : Hub A R} (hf : h.core.Fit) {id : InstanceId} {c : Call}
    {reply : c.Reply} (hr : perform id c h = .ok reply h') :
    h.core.Leads (Happening.ofCall id c reply) h'.core := by
  by_cases hc : c.isTimerCall = true
  · cases c with
    | setTimer duration cookie oneShot =>
      rcases (setNanoappTimer_ends id duration cookie oneShot h).ok hr with ⟨rfl, hc⟩ | ⟨q, hs, hc⟩
      · exact hf.aside (aside_of_core hc hf.coherent)
      · have hval : TimerHandle.isValid reply = true := (set_eq_ok hf.coherent hs).valid
        rw [hc, Happening.ofCall, if_pos hval]
        exact hf.set hs
    | cancelTimer x =>
      obtain ⟨hcancels, hc⟩ := (cancelWithExpiries_ends id x h hf.coherent).ok hr
      rw [hc]
      exact hf.cancel hcancels.timers reply
    | _ => cases hc
  · have hnone : Happening.ofCall id c reply = none := by
      cases c with
      | setTimer | cancelTimer => exact absurd rfl hc
      | _ => rfl
    rw [hnone]
    refine hf.aside ((aside_scans.requests.perform_obeys id c ?_ h).ok hr hf.coherent)
    exact Bool.eq_false_iff.2 hc

theorem Step.leads {h h' : Hub A R} {e : Option Happening} (hf : h.core.Fit)
    (hs : Step h e h') : h.core.Leads e h'.core := by
  cases hs with
  | call _ hr => exact call_leads hf hr
  | tick hr =>
    obtain ⟨kept, q, lost, hs, hsub, -, hc⟩ := (tick_ends h hf.coherent).ok hr
    rw [hc]
    exact hf.tick hs hsub
  | deliver hq watched time => exact hf.deliver watched time (next?_expiries hq rfl)
  | drop he hq => exact hf.drop (next?_expiries hq (beq_iff_eq.2 he))
  | expiry hq hc hr =>
    rename_i h₁ x u q
    have hpop := hf.drop (next?_expiries hq rfl)
    have hp : h₁.timers.Coherent := by
      rw [show h₁.timers = h.timers from congrArg Core.timers hc]
      exact hf.coherent
    have ha := (aside_scans.serves.handleSystemTimer_obeys _ _ h₁).ok hr hp
    rw [hc] at ha
    exact hpop.aside ha
  | report hr => exact hf.aside ((aside_scans.serves.handleReport_obeys _ h).ok hr hf.coherent)
  | release hid hr =>
    obtain ⟨q, c₁, ids, hs, ha, hids, hc⟩ := (releaseResources_ends _ h hf.coherent).ok hr
    rw [hc]
    exact hf.reclaim hs ha hids
  | register hr =>
    obtain ⟨hids, hnext⟩ := register_eq_ok hr
    obtain ⟨hid, hnext⟩ := hnext hf.numbered
    refine hf.joined (fun hs => ?_) hnext
    rcases (hids _).1 hs with hs | hs
    · exact hid hs.symm
    · exact hf.foreign hs
  | clock t => exact hf.aside (aside_of_same rfl rfl rfl rfl rfl hf.coherent)
  | alarm =>
    refine hf.aside ⟨hf.coherent.hush .off _, rfl, rfl, rfl, fun hl => ?_, rfl, rfl, rfl⟩
    exact ⟨hl, Nat.le_refl _⟩
  | quiet hc => exact hf.aside (aside_of_core hc hf.coherent)

/-! ## What a run does -/

section

variable {h h' : Hub A R} {past : List Happening}

theorem Lives.fit (hf : h.core.Fit) (hl : Lives h past h') : h'.core.Fit := by
  induction hl with
  | stay => exact hf
  | snoc _ hs ih => exact (hs.leads ih).fit

theorem Lives.handles (hf : h.core.Fit) (hl : Lives h past h') (hleft : h'.timers.HandlesLeft) :
    h.timers.HandlesLeft ∧ h.timers.issued ≤ h'.timers.issued := by
  induction hl with
  | stay => exact ⟨hleft, Nat.le_refl _⟩
  | snoc hl hs ih =>
    obtain ⟨hleft, hle'⟩ := (hs.leads (hl.fit hf)).handles hleft
    obtain ⟨hleft, hle⟩ := ih hleft
    exact ⟨hleft, Nat.le_trans hle hle'⟩

/-- What is set in a run has a handle that was not given before the run. -/
theorem Lives.fresh (hf : h.core.Fit) (hl : Lives h past h') (hleft : h'.timers.HandlesLeft) :
    ∀ x ∈ past.filterMap Happening.setHandle?, h.timers.issued ≤ x.val := by
  induction hl with
  | stay => exact fun x hx => absurd hx List.not_mem_nil
  | @snoc past e h₁ h₂ hl hs ih =>
    intro x hx
    have hleads := hs.leads (hl.fit hf)
    have hleft' := (hleads.handles hleft).1
    rw [List.filterMap_append, List.mem_append] at hx
    rcases hx with hx | hx
    · exact ih hleft' x hx
    · cases e with
      | none => cases hx
      | some e =>
        obtain ⟨e', he, hx⟩ := List.mem_filterMap.1 hx
        rw [List.mem_singleton.1 he] at hx
        exact Nat.le_trans (hl.handles hf hleft').2 (hleads.fresh hleft x hx)

theorem Lives.deliveries (hf : h.core.Fit) (hl : Lives h past h') (id : InstanceId) :
    h'.deliveredTo id = h.deliveredTo id ++ deliveriesTo id past := by
  induction hl with
  | stay => exact (List.append_nil _).symm
  | @snoc past e h₁ h₂ hl hs ih =>
    have hd := (hs.leads (hl.fit hf)).deliveries id
    rw [core_deliveredTo, core_deliveredTo, ih, List.append_assoc] at hd
    rw [hd]
    cases e with
    | none => simp
    | some e => rw [Option.toList_some, deliveriesTo_snoc, Option.bind_some]

theorem Lives.faithful (hf : h.core.Fit) (hl : Lives h past h') (hleft : h'.timers.HandlesLeft)
    (ht : Tells [] h.core) : Faithful past ∧ Tells past h'.core := by
  induction hl with
  | stay => exact ⟨faithful_nil, ht⟩
  | snoc hl hs ih =>
    have hleads := hs.leads (hl.fit hf)
    obtain ⟨h, ht⟩ := ih (hleads.handles hleft).1
    exact hleads.faithful hleft _ h ht

end

/-- No timer is delivered that the nanoapp has cancelled, unless its handle was given out later. -/
theorem Lives.quiet_after_cancel {h h₁ h₂ : Hub A R} {past rest before after : List Happening}
    {id : InstanceId} {x : TimerHandle} {cookie : Cookie} {result : Bool} (hf : h.core.Fit)
    (ht : Tells [] h.core) (hl : Lives h past h₁) (hid : id ≠ .system)
    (hr : perform id (.cancelTimer x) h₁ = .ok result h₂) {h₃ : Hub A R} (hl' : Lives h₂ rest h₃)
    (hleft : h₃.timers.HandlesLeft) (hsplit : rest = before ++ .delivered id x cookie :: after) :
    h₁.timers.issued ≤ x.val ∧ ∃ oneShot, Since before id x cookie oneShot := by
  have hcall := hl.snoc (.call hid hr)
  have hall := hcall.append hl'
  obtain ⟨hfaithful, -⟩ := hall.faithful hf hleft ht
  obtain ⟨oneShot, hsince⟩ := hfaithful.caused (past ++ .cancelled id x result :: before) id x
    cookie after (by rw [hsplit]; simp [Happening.ofCall])
  have hset := hsince.after_cancel
  have hmem : x ∈ rest.filterMap Happening.setHandle? := by
    refine List.mem_filterMap.2 ⟨.set id x cookie oneShot, ?_, rfl⟩
    rw [hsplit]
    exact List.mem_append_left _ hset.mem
  have hf₂ := hcall.fit hf
  have hissued := (((Step.call hid hr).leads (hl.fit hf)).handles (hl'.handles hf₂ hleft).1).2
  exact ⟨Nat.le_trans hissued (hl'.fresh hf₂ hleft x hmem), oneShot, hset⟩

/-! ## What is reached lies on a run -/

/-- Whatever is done are steps, up to what halts the hub. -/
def living : Law A R where
  rel h h' := h.core.Fit → ∃ past, Lives h past h'
  halts h _ h' := h.core.Fit → ∃ past h₁, Lives h past h₁ ∧ h'.core.deliveries = h₁.core.deliveries
  refl _ _ := ⟨[], .stay⟩
  trans h h' hf :=
    have ⟨past, hl⟩ := h hf
    have ⟨past', hl'⟩ := h' (hl.fit hf)
    ⟨past ++ past', hl.append hl'⟩
  halts_of_rel h h' hf :=
    have ⟨past, hl⟩ := h hf
    have ⟨past', h₁, hl', hd⟩ := h' (hl.fit hf)
    ⟨past ++ past', h₁, hl.append hl', hd⟩

theorem Step.living {h h' : Hub A R} {e : Option Happening} (hs : Step h e h') :
    living.rel h h' := fun _ => ⟨_, .of_step hs⟩

/-- Where an operation ends, it is a step; where it halts, it has delivered nothing. -/
theorem living_of_ends {α : Type} {m : HubM A R α} {h h₁ : Hub A R}
    (hstep : ∀ a h', m h₁ = .ok a h' → living.rel h h')
    (hm : h.core.Fit → Ends m h₁ (fun _ _ => True)
      fun _ h' => h'.core.deliveries = h.core.deliveries) :
    Ends m h₁ (fun _ => living.rel h) (living.halts h) := by
  unfold Ends
  split
  · exact hstep _ _ ‹_›
  · exact fun hf => ⟨[], h, .stay, (hm hf).error ‹_›⟩

theorem living_of_aside {α : Type} {m : HubM A R α} {h : Hub A R}
    (hstep : ∀ a h', m h = .ok a h' → living.rel h h') (hm : Obeys aside m) :
    Ends m h (fun _ => living.rel h) (living.halts h) :=
  living_of_ends hstep fun hf => (hm h).mono (fun _ _ _ => trivial) fun _ _ ha =>
    (ha hf.coherent).deliveries

theorem living_quiet : (quiet : Law A R).Within living where
  rel hc := (Step.quiet hc).living
  halts hc _ := ⟨[], _, .stay, by rw [hc.1]⟩

theorem living_runs : (living : Law A R).Runs where
  quietly := living_quiet
  perform id c hid h := by
    have hstep (reply : c.Reply) (h' : Hub A R) (hr : perform id c h = .ok reply h') :
        living.rel h h' := (Step.call hid hr).living
    by_cases hc : c.isTimerCall = true
    · cases c with
      | setTimer =>
        refine living_of_ends hstep fun _ => ?_
        exact (setNanoappTimer_ends _ _ _ _ h).mono (fun _ _ _ => trivial) fun _ _ => False.elim
      | cancelTimer =>
        refine living_of_ends hstep fun hf => ?_
        exact (cancelWithExpiries_ends _ _ h hf.coherent).mono (fun _ _ _ => trivial)
          fun _ _ => False.elim
      | _ => cases hc
    · exact living_of_aside hstep
        (aside_scans.requests.perform_obeys id c (Bool.eq_false_iff.2 hc))
  nobody hs := ⟨fun _ hf => absurd hs hf.foreign, fun _ _ hf => absurd hs hf.foreign⟩

theorem living_hosts [Behaviour A] : (living : Law A R).Hosts where
  toRuns := living_runs
  clock h t := (Step.clock h t).living
  alarm h := (Step.alarm h).living
  register hr := (Step.register hr).living
  release id hid h := by
    refine living_of_ends (fun _ _ hr => (Step.release hid hr).living) fun hf => ?_
    exact (releaseResources_ends id h hf.coherent).mono (fun _ _ _ => trivial) fun _ _ hd => hd
  tick h := by
    refine living_of_ends (fun _ _ hr => (Step.tick hr).living) fun hf => ?_
    refine (tick_ends h hf.coherent).mono (fun _ _ _ => trivial) fun e h' he => ?_
    rw [Core.deliveries, he.2, Core.deliveries]
  report r h := living_of_aside (fun _ _ hr => (Step.report hr).living)
    (aside_scans.serves.handleReport_obeys r)
  expiry := by
    intro h h₁ x u q hq hc
    refine living_of_ends (fun _ _ hr => (Step.expiry hq hc hr).living) fun hf => ?_
    have hp : h₁.timers.Coherent := by
      rw [show h₁.timers = h.timers from congrArg Core.timers hc]
      exact hf.coherent
    refine (aside_scans.serves.handleSystemTimer_obeys x u h₁).mono (fun _ _ _ => trivial)
      fun e h' ha => ?_
    rw [(ha hp).deliveries, hc]
    rfl
  notice := by
    intro h e q he hq
    by_cases hf : h.core.Fit
    · have hm : .event e ∈ h.core.notices := by
        rw [Core.notices, next?_expiries hq (beq_iff_eq.2 he)]
        exact List.mem_filter.2 ⟨List.mem_cons_self, rfl⟩
      obtain ⟨x, cookie, id, ht⟩ := hf.shaped _ hm
      cases ht
      refine deliver_ends living_runs rfl (Step.drop he hq).living fun watched time => ?_
      exact (Step.deliver hq watched time).living
    · unfold Ends
      split <;> exact fun hf' => absurd hf' hf

/-! ## From the start -/

/-- A run of a hub from its start. -/
def Lived (config : Config) (past : List Happening) (h : Hub A R) : Prop :=
  ∃ now radios metrics, Lives (blank config now radios metrics) past h

theorem Reached.lived [Behaviour A] {config : Config} {h : Hub A R} (hh : Reached config h) :
    ∃ past, Lived config past h := by
  obtain ⟨now, radios, metrics, hrel⟩ := hh.within living_hosts
  obtain ⟨past, hl⟩ := hrel (blank_fit config now radios metrics)
  exact ⟨past, now, radios, metrics, hl⟩

/-- What is delivered to a nanoapp was fired before, each time once and in the same order, and what
fires was set by its owner before, and was neither cancelled nor reclaimed in between. A cancelled
timer is not delivered any more unless its handle was given out later, and cancelling takes nothing
but the timer and its expiries. -/
theorem timer_deliveries_trace_back [Behaviour A] {config : Config} :
    (∀ h : Hub A R, Reached config h → ∃ past, Lived config past h) ∧
    (∀ (h : Hub A R) (t : Turn A R) e h', Reached config h → t.run h = .error e h' →
      ∃ past, ∃ h₁ : Hub A R, Lived config past h₁ ∧
        ∀ id, h'.deliveredTo id = h₁.deliveredTo id) ∧
    ∀ past (h : Hub A R), Lived config past h →
      (h.timers.HandlesLeft →
        (∀ id, h.deliveredTo id = deliveriesTo id past) ∧
        (∀ before after, past = before ++ after →
          ∀ id, (deliveriesTo id before).Sublist (firingsOf id before)) ∧
        (∀ before requests after, past = before ++ .fired requests :: after →
          ∀ f ∈ requests, Since before f.owner f.handle f.cookie f.oneShot) ∧
        ∀ id x cookie, .set id x cookie true ∈ past →
          ((deliveriesTo id past).map (·.1)).count x ≤ 1) ∧
      ∀ id x, id ≠ .system →
        Ends (perform id (.cancelTimer x)) h (Cancels id x h) (fun _ _ => False) ∧
        ∀ result h₁ rest h₂, perform id (.cancelTimer x) h = .ok result h₁ → Lives h₁ rest h₂ →
          h₂.timers.HandlesLeft →
            ∀ before cookie after, rest = before ++ .delivered id x cookie :: after →
              h.timers.issued ≤ x.val ∧ ∃ oneShot, Since before id x cookie oneShot := by
  refine ⟨fun h hh => hh.lived, fun h t e h' hh he => ?_, fun past h hl => ⟨fun hleft => ?_, ?_⟩⟩
  · obtain ⟨now, radios, metrics, hrel⟩ := hh.within living_hosts
    have hhalts := living.halts_of_rel hrel ((t.obeys living_hosts h).error he)
    obtain ⟨past, h₁, hl, hd⟩ := hhalts (blank_fit config now radios metrics)
    refine ⟨past, h₁, ⟨now, radios, metrics, hl⟩, fun id => ?_⟩
    rw [← core_deliveredTo, ← core_deliveredTo, Core.deliveredTo, hd, Core.deliveredTo]
  · obtain ⟨now, radios, metrics, hl⟩ := hl
    have hf := blank_fit (A := A) config now radios metrics
    obtain ⟨hfaithful, -⟩ := hl.faithful hf hleft (blank_tells config now radios metrics)
    refine ⟨fun id => ?_, hfaithful.matched, hfaithful.asked, fun id x cookie hm => ?_⟩
    · rw [hl.deliveries hf]
      exact List.nil_append _
    · exact hfaithful.count_oneShot_le hm
  · intro id x hid
    obtain ⟨now, radios, metrics, hl⟩ := hl
    have hf := blank_fit (A := A) config now radios metrics
    refine ⟨?_, fun result h₁ rest h₂ hr hl' hleft before cookie after hsplit => ?_⟩
    · exact (cancelWithExpiries_ends id x h (hl.fit hf).coherent).mono (fun _ _ hc => hc.1)
        fun _ _ => False.elim
    · exact hl.quiet_after_cancel hf (blank_tells config now radios metrics) hid hr hl' hleft hsplit

end

/-- The expiry of a timer that a nanoapp sets when it starts is delivered, and has fired. -/
theorem expiry_traces_back : ∃ past, ∃ h : Hub Script Stations, Lived {} past h ∧
    h.timers.HandlesLeft ∧ deliveriesTo ⟨1⟩ past = [(⟨0⟩, ⟨7⟩)] ∧
    [(⟨0⟩, ⟨7⟩)].Sublist (firingsOf ⟨1⟩ past) := by
  obtain ⟨h, hr, hleft, hd⟩ := reached_of_ends (A := Script) {} 0 Stations.scripted none
    [.load ⟨1⟩ {} { start := [.setTimer 5 ⟨7⟩ true] }, .advanceClock 5, .fireIfDue, .runOnce,
      .runOnce, .runOnce]
    (P := fun h => h.timers.HandlesLeft ∧ h.deliveredTo ⟨1⟩ = [(⟨0⟩, ⟨7⟩)]) (by decide +kernel)
  obtain ⟨hlived, -, hall⟩ := @timer_deliveries_trace_back Script Stations _ _ {}
  obtain ⟨past, hl⟩ := hlived h hr
  obtain ⟨htold, hmatched, -⟩ := (hall past h hl).1 hleft
  have hpast := (htold ⟨1⟩).symm.trans hd
  exact ⟨past, h, hl, hleft, hpast, hpast ▸ hmatched past [] (List.append_nil past).symm ⟨1⟩⟩

/-- A handle may be cancelled before it is given out, which does not keep its timer from being
delivered later. -/
theorem cancelled_before_it_is_set : ¬ ∀ past, ∀ h : Hub Script Stations, Lived {} past h →
    h.timers.HandlesLeft → ∀ before id x result after,
      past = before ++ .cancelled id x result :: after → ∀ cookie, .delivered id x cookie ∉ after := by
  intro hclaim
  let start : Hub Script Stations := blank {} 0 Stations.scripted none
  let h₀ : Hub Script Stations := { start with
    registry := { apps := [⟨⟨1⟩, ⟨1⟩, {}, [], some {}⟩], nextId := 2 } }
  have hregister : start.registry.register ⟨1⟩ {} {} = .ok (⟨1⟩, h₀.registry) := rfl
  have hrun : Ends (cancelWithExpiries ⟨1⟩ ⟨0⟩) h₀ (fun _ h₁ =>
      Ends (setNanoappTimer ⟨1⟩ 5 ⟨7⟩ true) h₁ (fun x h₂ => x = ⟨0⟩ ∧
        Ends tick { h₂ with now := 5 } (fun _ h₃ =>
          h₃.queue.next?.map (·.1) =
            some (.event (.toOne EventType.timer (.timer ⟨0⟩ ⟨7⟩) ⟨1⟩)) ∧
          h₃.timers.HandlesLeft)
        fun _ _ => False) fun _ _ => False) fun _ _ => False := by decide +kernel
  obtain ⟨result, h₁, hcancel, hrun⟩ := hrun.exists_ok
  obtain ⟨x, h₂, hset, rfl, hrun⟩ := hrun.exists_ok
  have hcancel : perform ⟨1⟩ (.cancelTimer ⟨0⟩) h₀ = .ok result h₁ := hcancel
  have hset : perform ⟨1⟩ (.setTimer 5 ⟨7⟩ true) h₁ = .ok ⟨0⟩ h₂ := hset
  obtain ⟨n, h₃, htick, hnext, hleft⟩ := hrun.exists_ok
  obtain ⟨⟨t, q⟩, hq, rfl⟩ := Option.map_eq_some_iff.1 hnext
  have hl : Lives start _ h₁ :=
    (Lives.stay.snoc (.register hregister)).snoc (.call (by decide) hcancel)
  have hl := (hl.snoc (.call (by decide) hset)).snoc (.clock h₂ 5)
  have hl := (hl.snoc (.tick htick)).snoc (.deliver hq true 5)
  exact hclaim _ _ ⟨0, Stations.scripted, none, hl⟩ hleft [] ⟨1⟩ ⟨0⟩ result _ rfl ⟨7⟩ (by simp)

end Hub

end ContextHub
