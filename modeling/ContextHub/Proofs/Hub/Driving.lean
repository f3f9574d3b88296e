import ContextHub.Proofs.Hub.Course
import ContextHub.Proofs.Hub.Supply
/-!
# What hosts drive a hub to

A host loads and unloads nanoapps, posts events, turns the loop and lets time pass. All of it comes
down to a few parts: calls of nanoapps, what the managers do with reports and timers, what a nanoapp
leaves behind, events that are posted, and the counts that the loop keeps. A law that these parts
obey (`Law.Drives`) is obeyed by whatever hosts do (`Law.Drives.driven`). If all nanoapps keep to
certain calls, only these need to obey.

Such a law looks at a hub's `Account` only: the crew, the desks and the counts. Everything else may
change at any time. A law that looks at the radios as well (`Law.Steers`) is obeyed by what hosts do
short of starting and shutting down.
-/

namespace ContextHub

/-- Whichever replies it gets, the program makes only certain calls. -/
def Program.Only {α : Type} (C : Call → Prop) : Program α → Prop
  | .done _ => True
  | .call c next => C c ∧ ∀ reply, (next reply).Only C

theorem Program.Only.bind {α β : Type} {C : Call → Prop} {p : Program α} {f : α → Program β}
    (hp : p.Only C) (hf : ∀ a, (f a).Only C) : (p.bind f).Only C := by
  induction p with
  | done a => exact hf a
  | call c next ih => exact ⟨hp.1, fun reply => ih reply (hp.2 reply)⟩

theorem Program.only_true {α : Type} (p : Program α) : p.Only fun _ => True := by
  induction p with
  | done => trivial
  | call c next ih => exact ⟨trivial, ih⟩

/-- Nanoapps of this kind make only certain calls. -/
structure Behaviour.Only (A : Type) [Behaviour A] (C : Call → Prop) : Prop where
  start : ∀ id (a : A), (Behaviour.start id a).Only C
  handle : ∀ d (a : A), (Behaviour.handle d a).Only C
  stop : ∀ id (a : A), (Behaviour.stop id a).Only C

theorem Behaviour.only_true (A : Type) [Behaviour A] : Behaviour.Only A fun _ => True :=
  ⟨fun _ _ => Program.only_true _, fun _ _ => Program.only_true _, fun _ _ => Program.only_true _⟩

/-- The counters that metrics show of the loop. -/
structure Shown where
  dispatched : Nat := 0
  dropped : Nat := 0
  deferred : Nat := 0
  deriving DecidableEq, Repr

def Metrics.shown (m : Metrics) : Shown := ⟨m.dispatched, m.dropped, m.deferred⟩

/-- What the loop counted, and what the metrics show of it. -/
structure Tallies where
  stats : LoopStats := {}
  shown : Option Shown := none
  deriving DecidableEq, Repr

structure Account where
  crew : List Member
  desks : Desks
  tallies : Tallies

namespace Hub

variable {A R α : Type}

def tallies (h : Hub A R) : Tallies := ⟨h.stats, h.metrics.map Metrics.shown⟩

def account (h : Hub A R) : Account := ⟨h.front.crew, h.desks, h.tallies⟩

/-- The hub after something was counted twice, in its statistics and in its metrics. -/
def counted (f : LoopStats → LoopStats) (g : Metrics → Metrics) (h : Hub A R) : Hub A R :=
  { h with stats := f h.stats, metrics := h.metrics.map g }

def countedDispatched : Hub A R → Hub A R :=
  counted (fun s => { s with dispatched := s.dispatched + 1 }) (·.addDispatched 1)

def countedDeferred : Hub A R → Hub A R :=
  counted (fun s => { s with deferred := s.deferred + 1 }) (·.addDeferred 1)

def countedUndelivered : Hub A R → Hub A R :=
  counted (fun s => { s with dropped := s.dropped + 1 }) (·.addDropped 1)

/-- A law about accounts and about the radios, of which posting is a part. -/
structure Law.Surveys (L : Law A R) : Prop where
  halt : ∀ h e h', L.halts h e h'
  level : ∀ {h h' : Hub A R}, h'.account = h.account → Supplied Entry.Mute h h' → L.rel h h'
  tryPost_obeys : ∀ e, Obeys L (tryPost e)

/-- A law about accounts, of which posting is a part. It says nothing about halts. -/
structure Law.Accounts (L : Law A R) : Prop extends L.Surveys where
  aside : ∀ {h h' : Hub A R}, h'.account = h.account → L.rel h h'
  level ha _ := aside ha

/-- A law for the parts of what hosts do but for starting and shutting down, if nanoapps make only
the calls `C`. -/
structure Law.Steers [Radio R] (L : Law A R) (C : Call → Prop) : Prop extends L.Surveys where
  perform_obeys : ∀ id c, C c → Obeys L (perform id c)
  releaseResources_obeys : ∀ id, Obeys L (releaseResources id)
  handleReport_obeys : ∀ r, Obeys L (handleReport r)
  handleSystemTimer_obeys : ∀ x u, Obeys L (handleSystemTimer x u)
  register : ∀ {h : Hub A R} {app permissions behaviour id registry},
    h.registry.register app permissions behaviour = .ok (id, registry) →
      L.rel h { h with registry }
  dispatched : ∀ h, L.rel h h.countedDispatched
  deferred : ∀ h, L.rel h h.countedDeferred
  undelivered : ∀ h, L.rel h h.countedUndelivered

/-- A law for the parts of what hosts do, if nanoapps make only the calls `C`. -/
structure Law.Drives [Radio R] (L : Law A R) (C : Call → Prop) : Prop
  extends L.Accounts, L.Steers C

variable {L : Law A R}

/-- What is counted in both places, and then a step. -/
theorem Obeys.counting {f : LoopStats → LoopStats} {g : Metrics → Metrics} {m : HubM A R α}
    (hc : ∀ h, L.rel h (counted f g h)) (hm : Obeys L m) : Obeys L (do
      modifyStats f
      countMetric g
      m) := fun h =>
  ends_bind.2 (ends_modify.2 (ends_bind.2 (ends_modify.2 (hm.after (hc h)))))

/-! ## Logging, posting and deferring -/

section

variable (hL : L.Surveys)

include hL

theorem Law.Surveys.throw_obeys (e : Halt) : Obeys L (throw e : HubM A R α) :=
  .throw fun h => hL.halt h e h

theorem Law.Surveys.modify_obeys {f : Hub A R → Hub A R} (hf : ∀ h, (f h).account = h.account)
    (hs : ∀ h : Hub A R, Supplied Entry.Mute h (f h)) : Obeys L (modify f : HubM A R PUnit) :=
  .modify fun h => hL.level (hf h) (hs h)

theorem Law.Surveys.emit_obeys (level : Level) (message : String)
    (fields : List (String × String)) : Obeys L (emit level message fields) :=
  hL.modify_obeys (fun _ => rfl) fun _ => .of_same rfl rfl

theorem Law.Surveys.note_obeys {e : Entry} (he : e.Mute) : Obeys L (note e) :=
  hL.modify_obeys (fun _ => rfl) fun _ => .of_entry he rfl rfl

theorem Law.Surveys.fatal_obeys (message : String) : Obeys L (fatal message : HubM A R α) :=
  .bind (hL.emit_obeys _ _ _) fun _ => hL.throw_obeys _

theorem Law.Surveys.countMetric_obeys {f : Metrics → Metrics} (hf : ∀ m, (f m).shown = m.shown) :
    Obeys L (countMetric f) := by
  refine hL.modify_obeys (fun h => ?_) fun _ => .of_same rfl rfl
  simp only [account, tallies, Option.map_map, Function.comp_def, hf]
  rfl

theorem Law.Surveys.post_obeys (e : Event) : Obeys L (post e) := by
  unfold post
  refine .bind (hL.tryPost_obeys e) fun r => ?_
  split <;> exact .pure _

theorem Law.Surveys.postOrDie_obeys (e : Event) : Obeys L (postOrDie e) := by
  unfold postOrDie
  refine .bind (hL.tryPost_obeys e) fun r => ?_
  split
  · exact .pure _
  · exact hL.fatal_obeys _

theorem Law.Surveys.defer_obeys (c : Callback) : Obeys L (defer c) := by
  intro h
  unfold defer
  rw [ends_bind, ends_get]
  split
  · exact hL.level rfl (.of_same rfl rfl)
  · exact hL.level rfl (.of_same rfl rfl)

theorem Law.Surveys.deferOrDie_obeys (c : Callback) : Obeys L (deferOrDie c) :=
  .bind (hL.defer_obeys c) fun _ => .ite (fun _ => .pure _) fun _ => hL.fatal_obeys _

/-! ## Timers, time and radios -/

theorem Law.Surveys.setTimers_obeys (pool : TimerPool) : Obeys L (setTimers pool) :=
  hL.modify_obeys (fun _ => rfl) fun _ => .of_same rfl rfl

theorem Law.Surveys.postExpiry_obeys (r : TimerRequest) : Obeys L (postExpiry r) := by
  unfold postExpiry
  split
  · exact hL.deferOrDie_obeys _
  · refine .bind (hL.post_obeys _) fun _ => .ite (fun _ => .pure _) fun _ => ?_
    exact .bind (hL.modify_obeys (fun _ => rfl) fun _ => .of_same rfl rfl) fun _ =>
      hL.emit_obeys _ _ _

theorem Law.Surveys.tick_obeys : Obeys L tick := by
  unfold tick
  refine .get_bind fun _ => ?_
  split
  · exact hL.throw_obeys _
  · exact .bind (hL.setTimers_obeys _) fun _ =>
      .bind (.forM fun _ _ => hL.postExpiry_obeys _) fun _ => .pure _

theorem Law.Surveys.fireIfDue_obeys : Obeys L fireIfDue := by
  unfold fireIfDue
  refine .get_bind fun _ => ?_
  split
  · exact .pure _
  · exact .bind (hL.setTimers_obeys _) fun _ => .bind (hL.deferOrDie_obeys _) fun _ => .pure _

theorem Law.Surveys.takeStop_obeys : Obeys L takeStop := by
  intro h
  unfold takeStop
  rw [ends_bind, ends_get, ends_ite]
  split
  · exact hL.level rfl (.of_same rfl rfl)
  · exact L.refl h

end

section

variable [Radio R] (hL : L.Accounts)

include hL

omit [Radio R] in
theorem Law.Accounts.modify_obeys {f : Hub A R → Hub A R} (hf : ∀ h, (f h).account = h.account) :
    Obeys L (modify f : HubM A R PUnit) := .modify fun h => hL.aside (hf h)

theorem Law.Accounts.powerOn_obeys (device : Device) : Obeys L (powerOn device) := by
  intro h
  unfold powerOn
  rw [ends_bind, ends_get]
  dsimp only
  refine ends_bind.2 (ends_set.2 (Obeys.after ?_ (hL.aside rfl)))
  exact .ite (fun _ => .bind (hL.emit_obeys _ _ _) fun _ => .pure _) fun _ => .pure _

theorem Law.Accounts.powerOff_obeys (device : Device) : Obeys L (powerOff device) :=
  Law.Accounts.modify_obeys hL fun _ => rfl

theorem Law.Accounts.powers : L.Powers where
  emit_obeys := hL.emit_obeys
  powerOn_obeys := hL.powerOn_obeys
  powerOff_obeys := hL.powerOff_obeys
  wifi _ := Law.Accounts.modify_obeys hL fun _ => rfl
  wwan _ := Law.Accounts.modify_obeys hL fun _ => rfl
  gnss _ := Law.Accounts.modify_obeys hL fun _ => rfl

end

/-! ## Nanoapps -/

section

variable [Radio R] {C : Call → Prop} (hL : L.Steers C)

include hL

theorem Law.Steers.execute_obeys (id : InstanceId) {p : Program α} (hp : p.Only C) :
    Obeys L (execute id p) := by
  induction p with
  | done a => exact .pure a
  | call c next ih =>
    exact .bind (hL.perform_obeys id c hp.1) fun reply => ih reply (hp.2 reply)

omit [Radio R] hL in
/-- Taking a behaviour out and putting one back does not show in the account. -/
theorem account_update (h : Hub A R) {id : InstanceId} {f : Nanoapp A → Nanoapp A}
    (hf : ∀ n, (f n).member = n.member) :
    account { h with registry := h.registry.update id f } = h.account :=
  congrArg (fun F : Front => (⟨F.crew, h.desks, h.tallies⟩ : Account)) (front_update h hf)

theorem Law.Steers.withBehaviour_obeys (id : InstanceId) {run : A → Program (α × A)}
    (hrun : ∀ a, (run a).Only C) : Obeys L (withBehaviour id run) := by
  intro h
  unfold withBehaviour
  rw [ends_bind, ends_get]
  split
  · exact L.refl h
  · rename_i a _
    have hout : L.rel h { h with registry := h.registry.takeOut id } :=
      hL.level (account_update h fun _ => rfl) (.of_same rfl rfl)
    refine ends_bind.2 (ends_set.2 (Obeys.after ?_ hout))
    refine .bind (hL.execute_obeys id (hrun a)) fun x => ?_
    refine .bind (hL.modify_obeys (fun h => ?_) fun _ => .of_same rfl rfl) fun _ => .pure _
    exact account_update h (f := fun n => { n with behaviour := some x.2 }) fun _ => rfl

variable [Behaviour A] (hA : Behaviour.Only A C)

include hA

theorem Law.Steers.deliverTo_obeys (e : Event) (id : InstanceId) : Obeys L (deliverTo e id) := by
  have hrun (d : Delivery) : Obeys L (do
      let done ← withBehaviour id fun (a : A) => do return ((), ← Behaviour.handle d a)
      if done.isNone then
        emit .error "Nanoapp handler unavailable during dispatch" [("instance_id", toString id)] :
      HubM A R Unit) :=
    .bind (hL.withBehaviour_obeys _ fun a => (hA.handle d a).bind fun _ => trivial) fun _ =>
      .ite (fun _ => hL.emit_obeys _ _ _) fun _ => .pure _
  unfold deliverTo
  refine .get_bind fun _ => ?_
  dsimp only
  split
  · exact hrun _
  · exact .bind (hL.note_obeys ⟨trivial, rfl⟩) fun _ => hrun _

omit [Behaviour A] hA in
theorem Law.Steers.dropUndelivered_obeys (e : Event) : Obeys L (dropUndelivered e) := by
  unfold dropUndelivered
  split
  · exact hL.note_obeys ⟨trivial, rfl⟩
  · refine .bind (hL.emit_obeys _ _ _) fun _ => ?_
    exact .counting hL.undelivered (hL.note_obeys ⟨trivial, rfl⟩)

theorem Law.Steers.deliver_obeys (e : Event) : Obeys L (deliver e) := by
  unfold deliver
  refine .get_bind fun _ => .ite (fun _ => hL.dropUndelivered_obeys e) fun _ => ?_
  exact .bind (.forM fun id _ => hL.deliverTo_obeys hA e id) fun _ =>
    .counting hL.dispatched (hL.note_obeys ⟨trivial, rfl⟩)

theorem Law.Steers.runStop_obeys (id : InstanceId) : Obeys L (runStop id) := by
  have hrun : Obeys L (do
      let _ ← withBehaviour id fun (a : A) => do return ((), ← Behaviour.stop id a) :
      HubM A R Unit) :=
    .bind (hL.withBehaviour_obeys _ fun a => (hA.stop id a).bind fun _ => trivial) fun _ => .pure _
  unfold runStop
  refine .get_bind fun _ => ?_
  dsimp only
  split
  · exact hrun
  · exact .bind (hL.note_obeys ⟨trivial, rfl⟩) fun _ => hrun

theorem Law.Steers.load_obeys (app : AppId) (permissions : Permissions) (behaviour : A) :
    Obeys L (load app permissions behaviour) := by
  intro h
  unfold load
  rw [ends_bind, ends_get]
  split
  · exact L.refl h
  · rename_i id registry hr
    refine ends_bind.2 (ends_set.2 (Obeys.after ?_ (hL.register hr)))
    refine .bind (hL.withBehaviour_obeys _ (hA.start id)) fun started => ?_
    refine .ite (fun _ => ?_) fun _ => ?_
    · exact .bind (hL.emit_obeys _ _ _) fun _ => .bind (hL.post_obeys _) fun _ => .pure _
    · refine .bind (hL.emit_obeys _ _ _) fun _ => .bind (hL.releaseResources_obeys id) fun _ => ?_
      exact .bind (hL.emit_obeys _ _ _) fun _ => .pure _

theorem Law.Steers.unload_obeys (id : InstanceId) : Obeys L (unload id) := by
  unfold unload
  refine .get_bind fun _ => ?_
  split
  · exact .pure _
  · refine .bind (hL.runStop_obeys hA id) fun _ => .bind (hL.releaseResources_obeys id) fun _ => ?_
    exact .bind (hL.emit_obeys _ _ _) fun _ => .bind (hL.post_obeys _) fun _ => .pure _

theorem Law.Steers.unloadAll_obeys (ids : List InstanceId) : Obeys L (ids.forM fun id => do
    match ← unload id with
    | .ok () => pure ()
    | .error e => emit .warn "Unload during shutdown failed" [("error", e.message)]) := by
  refine .forM fun id _ => .bind (hL.unload_obeys hA id) fun r => ?_
  split
  · exact .pure _
  · exact hL.emit_obeys _ _ _

/-! ## Tasks and turns -/

theorem Law.Steers.runCallback_obeys (c : Callback) : Obeys L (runCallback c) := by
  cases c with
  | timerTick => exact .bind hL.tick_obeys fun _ => hL.countMetric_obeys fun _ => rfl
  | timerExpired x u => exact hL.handleSystemTimer_obeys x u
  | report r => exact hL.handleReport_obeys r
  | unload id =>
    refine .bind (hL.unload_obeys hA id) fun r => ?_
    split
    · exact .pure _
    · exact hL.emit_obeys _ _ _

theorem Law.Steers.process_obeys (t : Task) : Obeys L (process t) := by
  have hcount (started : Nat) : Obeys L (do
      let ended := (← get).now
      countMetric (·.observeLatency (ended - started)) : HubM A R Unit) :=
    .get_bind fun _ => hL.countMetric_obeys fun _ => rfl
  unfold process
  refine .get_bind fun _ => ?_
  cases t with
  | event e => exact .bind (hL.deliver_obeys hA e) fun _ => hcount _
  | deferred c =>
    refine .counting hL.deferred (.bind (hL.emit_obeys _ _ _) fun _ => ?_)
    exact .bind (hL.runCallback_obeys hA c) fun _ => hcount _

theorem Law.Steers.runOnce_obeys : Obeys L runOnce := by
  intro h
  unfold runOnce
  rw [ends_bind, ends_get]
  split
  · exact L.refl h
  · refine ends_bind.2 (ends_set.2 (Obeys.after ?_ (hL.level rfl (.of_same rfl rfl))))
    exact .bind (hL.process_obeys hA _) fun _ => .pure _

/-- Every turn but one that shuts the hub down. -/
theorem Law.Steers.turn_obeys (t : Turn A R) (ht : t ≠ .shutdown) : Obeys L t.run := by
  cases t with
  | load => exact .bind (hL.load_obeys hA _ _ _) fun _ => .pure _
  | unload => exact .bind (hL.unload_obeys hA _) fun _ => .pure _
  | shutdown => exact absurd rfl ht
  | runOnce => exact .bind (hL.runOnce_obeys hA) fun _ => .pure _
  | post => exact .bind (hL.post_obeys _) fun _ => .pure _
  | requestUnload => exact .bind (hL.defer_obeys _) fun _ => .pure _
  | report => exact hL.deferOrDie_obeys _
  | stop => exact hL.modify_obeys (fun _ => rfl) fun _ => .of_same rfl rfl
  | takeStop => exact .bind hL.takeStop_obeys fun _ => .pure _
  | fireIfDue => exact .bind hL.fireIfDue_obeys fun _ => .pure _
  | advanceClock => exact hL.modify_obeys (fun _ => rfl) fun _ => .of_same rfl rfl
  | advanceClockTo => exact hL.modify_obeys (fun _ => rfl) fun _ => .of_same rfl rfl
  | radios => exact hL.modify_obeys (fun _ => rfl) fun _ => .of_same rfl rfl

end

section

variable [Radio R] [Behaviour A] {C : Call → Prop} (hL : L.Drives C) (hA : Behaviour.Only A C)

include hL hA

theorem Law.Drives.shutdown_obeys : Obeys L shutdown := by
  unfold shutdown
  exact .get_bind fun _ => .bind (hL.unloadAll_obeys hA _) fun _ =>
    hL.powers.closeRadios_obeys

theorem Law.Drives.turn_obeys (t : Turn A R) : Obeys L t.run := by
  by_cases ht : t = .shutdown
  · exact ht ▸ hL.shutdown_obeys hA
  · exact hL.toSteers.turn_obeys hA t ht

end

/-! ## Hosts -/

section

variable [Radio R] [Behaviour A]

/-- The hub `g` is initialised, and then a host leads it to `h`: with turns, with events of any type
that it posts, with ticks of the timers' pool, and with what does not show in the account. -/
inductive Driven (g : Hub A R) : Hub A R → Prop
  | start {h : Hub A R} (hr : initialise g = .ok () h) : Driven g h
  | turn {h h' : Hub A R} {t : Turn A R} (hd : Driven g h) (hr : t.run h = .ok () h') : Driven g h'
  | post {h h' : Hub A R} {e : Event} {b : Bool} (hd : Driven g h) (hr : post e h = .ok b h') :
    Driven g h'
  | tick {h h' : Hub A R} {n : Nat} (hd : Driven g h) (hr : tick h = .ok n h') : Driven g h'
  | aside {h h' : Hub A R} (hd : Driven g h) (ha : h'.account = h.account) : Driven g h'

theorem Law.Drives.driven {C : Call → Prop} (hL : L.Drives C) (hA : Behaviour.Only A C)
    {g h : Hub A R} (hd : Driven g h) : L.rel g h := by
  induction hd with
  | start hr => exact (hL.powers.initialise_obeys g).ok hr
  | turn _ hr ih => exact L.trans ih ((hL.turn_obeys hA _ _).ok hr)
  | post _ hr ih => exact L.trans ih ((hL.post_obeys _ _).ok hr)
  | tick _ hr ih => exact L.trans ih ((hL.tick_obeys _).ok hr)
  | aside _ ha ih => exact L.trans ih (hL.aside ha)

theorem Driven.turns {g h : Hub A R} (hd : Driven g h) {turns : List (Turn A R)}
    {P : Hub A R → Prop} (hP : Ends (turns.forM Turn.run) h (fun _ => P) (fun _ _ => False)) :
    ∃ h', Driven g h' ∧ P h' := by
  induction turns generalizing h with
  | nil => exact ⟨h, hd, hP⟩
  | cons t turns ih =>
    obtain ⟨_, h', hr, hP⟩ := (ends_bind.1 hP).exists_ok
    exact ih (.turn hd hr) hP

theorem driven_of_ends (g : Hub A R) (turns : List (Turn A R)) {P : Hub A R → Prop}
    (hP : Ends (do initialise; turns.forM Turn.run) g (fun _ => P) (fun _ _ => False)) :
    ∃ h, Driven g h ∧ P h := by
  obtain ⟨_, h, hr, hP⟩ := (ends_bind.1 hP).exists_ok
  exact (Driven.start hr).turns hP

end

end Hub

end ContextHub
