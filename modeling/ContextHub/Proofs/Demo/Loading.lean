import ContextHub.Proofs.Demo.Tasks
/-!
# Loading the demo

The radios are switched on, and the three nanoapps start one after the other. Each sets its
recurring timer, and its start is announced. No nanoapp has a timer before it is loaded.
-/

namespace ContextHub.Demo

open Hub TimerPool

variable {registry : Registry DemoApp} {total left : Nat} {h : DemoHub}

/-- All timers are those of these nanoapps. -/
def Manned (ids : List InstanceId) (p : TimerPool) : Prop :=
  ∀ r ∈ p.requests, ∃ id ∈ ids, roleOf r.toTimerSpec = .inl id

/-- A nanoapp without a timer gets one. -/
theorem setTimer_ready {ids : List InstanceId} {id : InstanceId} (hid : .inl id ∈ roles)
    (hnew : id ∉ ids) {period : Nat} (hperiod : 0 < period)
    (hr : Ready registry total left (gist h)) (hm : Manned ids h.timers) (cookie : Cookie) :
    Ends (execute id (DemoApp.setTimer period cookie)) h
      (fun x h' => x.isValid = true ∧ Ready registry total left (gist h') ∧
        Manned (id :: ids) h'.timers) (fun _ _ => False) := by
  have hp : Census h.timers := hr.census
  have hnanoapp : id.isSystem = false := by
    have h : id = ⟨1⟩ ∨ id = ⟨2⟩ ∨ id = ⟨3⟩ := by simpa [roles] using hid
    rcases h with rfl | rfl | rfl <;> rfl
  refine ends_bind.2 (ends_bind.2 ?_)
  refine (trySetTimer_census hp ⟨?_, fun _ => hperiod⟩ ?_ ?_ ?_).mono ?_ fun _ _ he => he
  · exact hnanoapp
  · exact hid
  · intro r hr he
    obtain ⟨i, hi, hrole⟩ := hm r hr
    have heq : id = i := Sum.inl.inj (he.symm.trans hrole)
    exact hnew (heq ▸ hi)
  · exact fun hu => absurd hu Bool.false_ne_true
  rintro _ _ ⟨x, q, log, rfl, rfl, hq, ha⟩
  refine ⟨?_, { hr with census := hq, ahead := ?_, linked := ?_ }, ?_⟩
  · exact hq.coherent.valid _ (ha.mem.2 (.inl rfl))
  · exact hr.ahead_of_admits ha hperiod
  · exact hr.linked.set (fun _ => ha.mem) fun u hu => absurd hu (Option.some_ne_none u).symm
  · intro r hr
    rcases ha.mem.1 hr with rfl | hr
    · exact ⟨id, List.mem_cons_self, rfl⟩
    · obtain ⟨i, hi, hrole⟩ := hm r hr
      exact ⟨i, List.mem_cons_of_mem id hi, hrole⟩

theorem announce_ready {ids : List InstanceId} (hr : Ready registry total (left + 1) (gist h))
    (hm : Manned ids h.timers) (app : AppId) (id : InstanceId) :
    Ends (post (.toAll EventType.nanoappStarted (.nanoapp app id))) h
      (fun _ h' => Ready registry total left (gist h') ∧ Manned ids h'.timers)
      (fun _ _ => False) := by
  refine (post_ready hr (.inl rfl)).mono ?_ fun _ _ he => he
  rintro _ h' ⟨-, hr', ht⟩
  exact ⟨hr', ht ▸ hm⟩

/-- A nanoapp whose start succeeds is loaded. -/
theorem load_ready {before : Registry DemoApp} {ids : List InstanceId} {id : InstanceId}
    {app : AppId} {permissions : Permissions} {a : DemoApp} {K : DemoApp → Prop}
    (hreg : before.register app permissions a = .ok (id, registry))
    (ha : registry.behaviour? id = some a)
    (hr : Ready before total (left + 1) (gist h)) (hm : Manned ids h.timers)
    (hstart : ∀ h₁ : DemoHub, Ready (registry.takeOut id) total (left + 1) (gist h₁) →
      Manned ids h₁.timers → Ends (execute id (DemoApp.start a)) h₁
        (fun s h' => s.1 = true ∧ K s.2 ∧
          Ready (registry.takeOut id) total (left + 1) (gist h') ∧ Manned (id :: ids) h'.timers)
        (fun _ _ => False)) :
    Ends (load app permissions a) h (fun r h' => r = .ok id ∧ ∃ a', K a' ∧
        Ready ((registry.takeOut id).putBack id a') total left (gist h') ∧
        Manned (id :: ids) h'.timers) (fun _ _ => False) := by
  have hbefore : h.registry = before := hr.registry
  unfold load withBehaviour
  rw [ends_bind, ends_get, hbefore, hreg]
  refine ends_bind.2 (ends_set.2 (ends_bind.2 (ends_bind.2 (ends_get.2 ?_))))
  dsimp only
  rw [ha]
  refine ends_bind.2 (ends_set.2 (Ends.bind (hstart _ (hr.rehosted _) hm) ?_))
  rintro ⟨_, a'⟩ h₁ ⟨rfl, hK, hr₁, hm₁⟩
  refine ends_bind.2 (ends_modify.2 ?_)
  have hback : h₁.registry.putBack id a' = (registry.takeOut id).putBack id a' :=
    congrArg (·.putBack id a') hr₁.registry
  have hhosted := hr₁.rehosted ((registry.takeOut id).putBack id a')
  rw [ends_pure, if_pos (show (some (true, a').1).getD false = true from rfl)]
  refine ends_bind.2 (ends_modify.2 ?_)
  refine Ends.bind (P := fun _ h' =>
    Ready ((registry.takeOut id).putBack id a') total left (gist h') ∧
      Manned (id :: ids) h'.timers) ?_ ?_
  · refine announce_ready ?_ ?_ app id
    · rw [← hback] at hhosted ⊢
      exact hhosted
    · exact hm₁
  · rintro _ h' ⟨hr', hm'⟩
    exact ⟨rfl, a', hK, hr', hm'⟩

/-! ## The three of them -/

theorem initialise_ready (seed : Nat) {chaos : ChaosConfig} (hn : chaos.nack ≠ .notANumber)
    (hd : chaos.drop ≠ .notANumber) :
    Ends initialise (start {} seed chaos)
      (fun _ h' => Ready {} allowance allowance (gist h') ∧ Manned [] h'.timers)
      (fun _ _ => False) := by
  have hearly : 0 < Nanos.last := by decide
  have hvacant {κ : Type} {P : Pending κ → Prop} : ∀ p ∈ (none : Slot κ), P p := by
    rintro _ ⟨⟩
  have hunset {P : TimerRequest → Prop} : ∀ r ∈ (TimerPool.empty {}).requests, P r := by
    rintro _ ⟨⟩
  unfold initialise openRadios powerOn
  simp only [ends_bind, ends_get, ends_set, ends_modify, modifyWifi, modifyWwan, emit]
  refine ⟨⟨{ queue := .empty, dropped := rfl, early := hearly, census := .empty, registry := rfl
             wifiSettings := rfl, wifiOn := rfl, wifi := ⟨rfl, rfl, rfl, _, rfl, hn, hd⟩
             unmonitored := ⟨rfl, rfl⟩, scanner := hvacant
             wwanSettings := rfl, wwanOn := rfl, wwan := ⟨rfl, rfl, rfl, _, rfl, hn, hd⟩
             poller := hvacant }, hunset, .empty⟩, hunset⟩

/-- The first `n` of the nanoapps are loaded. -/
def loaded (n : Nat) (ticker scanner poller : DemoApp) : Registry DemoApp :=
  { apps := (crew ticker scanner poller).take n, nextId := n + 1 }

theorem register_of_new {r : Registry DemoApp} {app : AppId} (happ : r.findApp? app = none)
    (hid : r.contains ⟨r.nextId⟩ = false) (permissions : Permissions) (a : DemoApp) :
    r.register app permissions a = .ok (⟨r.nextId⟩,
      { apps := Registry.place { id := ⟨r.nextId⟩, app, permissions, behaviour := some a } r.apps
        nextId := Registry.rollover r.nextId }) := by
  unfold Registry.register
  rw [happ]
  simp [Registry.lastId, Registry.freeId?, hid]

theorem register_ticker (a b c : DemoApp) :
    (loaded 0 a b c).register DemoApp.tickerId {} a = .ok (⟨1⟩, loaded 1 a b c) :=
  register_of_new rfl rfl _ _

theorem register_scanner (a b c : DemoApp) : (loaded 1 a b c).register DemoApp.scannerId
    { wifi := true } b = .ok (⟨2⟩, loaded 2 a b c) :=
  register_of_new rfl rfl _ _

theorem register_poller (a b c : DemoApp) : (loaded 2 a b c).register DemoApp.cellPollerId
    { wwan := true } c = .ok (⟨3⟩, loaded 3 a b c) :=
  register_of_new rfl rfl _ _

/-- The scanner starts only where scans can be asked for, as they can here. -/
theorem scanner_starts {ids : List InstanceId} {n : Nanoapp DemoApp}
    (hn : registry.find? ⟨2⟩ = some n) (hp : n.permissions.allows .wifi = true)
    (hnew : ⟨2⟩ ∉ ids) {interval : Nat} (hinterval : 0 < interval)
    (hr : Ready registry total left (gist h)) (hm : Manned ids h.timers) (cookie : Nat) :
    Ends (execute ⟨2⟩ (DemoApp.start (.scanner interval cookie))) h
      (fun s h' => s.1 = true ∧ s.2 = .scanner interval cookie ∧
        Ready registry total left (gist h') ∧ Manned (⟨2⟩ :: ids) h'.timers)
      (fun _ _ => False) := by
  have hfind : h.registry.find? ⟨2⟩ = some n := by
    rw [show h.registry = registry from hr.registry]
    exact hn
  refine ends_execute_bind.2 (ends_bind.2 ?_)
  refine Ends.bind (permitted_ends hfind hp) ?_
  rintro _ _ ⟨rfl, rfl⟩
  refine wifiCapabilities_ends.2 ?_
  rw [hr.wifiBits]
  refine ends_execute_bind.2 ((setTimer_ready ?_ hnew hinterval hr hm .none).mono ?_ fun _ _ => id)
  · simp [roles]
  · rintro x h' ⟨hx, hr', hm'⟩
    exact ⟨hx, rfl, hr', hm'⟩

/-- The nanoapps are loaded, and nothing has happened yet. -/
theorem loadAll_ready (hr : Ready {} allowance allowance (gist h)) (hm : Manned [] h.timers) :
    Ends (loadAll apps) h (fun r h' => r = .ok () ∧ Hosts allowance 16 h') (fun _ _ => False) := by
  let scanner : DemoApp := .newScanner (Nanos.ofSeconds 5)
  let poller : DemoApp := .newCellPoller (Nanos.ofSeconds 2)
  have hr : Ready (loaded 0 (.newTicker (Nanos.ofMillis 100)) scanner poller) allowance (18 + 1)
    (gist h) := hr
  refine Ends.bind (load_ready (K := fun a => ∃ x, a = .ticker (Nanos.ofMillis 100) x 0)
    (register_ticker _ scanner poller) rfl hr hm fun h₁ hr₁ hm₁ => ?_) ?_
  · refine ends_execute_bind.2 ((setTimer_ready ?_ ?_ ?_ hr₁ hm₁ _).mono ?_ fun _ _ => id)
    · simp [roles]
    · decide
    · decide
    · rintro x h₂ ⟨hx, hr₂, hm₂⟩
      exact ⟨hx, ⟨x, rfl⟩, hr₂, hm₂⟩
  rintro _ h₁ ⟨rfl, _, ⟨x, rfl⟩, hr₁, hm₁⟩
  have hr₁ : Ready (loaded 1 (.ticker (Nanos.ofMillis 100) x 0) scanner poller) allowance (17 + 1)
    (gist h₁) := hr₁
  refine Ends.bind (load_ready (K := fun a => a = scanner)
    (register_scanner _ _ poller) rfl hr₁ hm₁ fun h₂ hr₂ hm₂ => ?_) ?_
  · exact scanner_starts rfl rfl (by decide) (by decide) hr₂ hm₂ _
  rintro _ h₂ ⟨rfl, _, rfl, hr₂, hm₂⟩
  have hr₂ : Ready (loaded 2 (.ticker (Nanos.ofMillis 100) x 0) scanner poller) allowance (16 + 1)
    (gist h₂) := hr₂
  refine Ends.bind (load_ready (K := fun a => a = poller)
    (register_poller _ _ _) rfl hr₂ hm₂ fun h₃ hr₃ hm₃ => ?_) ?_
  · refine ends_execute_bind.2 ((setTimer_ready ?_ ?_ ?_ hr₃ hm₃ _).mono ?_ fun _ _ => id)
    · simp [roles]
    · decide
    · decide
    · rintro y h₂ ⟨hy, hr₂, hm₂⟩
      exact ⟨hy, rfl, hr₂, hm₂⟩
  rintro _ h₃ ⟨rfl, _, rfl, hr₃, hm₃⟩
  exact ⟨rfl, hr₃.hosts ⟨_, _, _, _, _, _, rfl⟩⟩

end ContextHub.Demo
