import ContextHub.Proofs.Hub.WakeUp
import ContextHub.Proofs.Simulation.Passage
/-!
# Punctual timers

In a simulation only `advance` moves the clock, and it never moves it past an alarm or while tasks
are queued. So no timer is ever overdue (`Prompt`): the alarm stands exactly at the first
expiration, and when the clock is there, that timer is due to the nanosecond. `Underway until_ h g`
says that `g` is on the way of an `advance` from `h`, whether or not that comes to an end.
-/

namespace ContextHub

open TimerPool

/-- Of timers that are not overdue, only those fire that expire at once. -/
theorem TimerPool.Serves.on_time {now : Nat} {p q : TimerPool} {fired : List TimerRequest}
    (h : Serves now p fired q) (hp : ∀ r ∈ p.requests, now ≤ r.expiration) :
    ∀ f ∈ fired, f.expiration = now := by
  induction h with
  | rest => simp
  | @serve p q r rest fired hc hl hd _ ih =>
    have hr := hp r (hl ▸ List.mem_cons_self)
    have hlater := Nanos.le_after (hc.timely r (hl ▸ List.mem_cons_self)) r.duration
    intro f hf
    rcases List.mem_cons.1 hf with rfl | hf
    · exact Nat.le_antisymm hd hr
    · refine ih (fun a ha => ?_) f hf
      rcases (mem_renew hc hl).1 ha with ha | ⟨-, rfl⟩
      · exact hp a (hl ▸ List.mem_cons_of_mem r ha)
      · exact Nat.le_trans hr hlater

theorem TimerPool.nextExpiration?_le {p : TimerPool} (hp : p.Coherent) {f : Nat}
    (hf : p.nextExpiration? = some f) {r : TimerRequest} (hr : r ∈ p.requests) :
    f ≤ r.expiration := by
  obtain ⟨a, ha, rfl⟩ := Option.map_eq_some_iff.1 hf
  obtain ⟨rest, hl⟩ := List.head?_eq_some_iff.1 ha
  rw [hl] at hr
  rcases List.mem_cons.1 hr with rfl | hr
  · exact Nat.le_refl _
  · have hbefore := List.rel_of_pairwise_cons (hl ▸ hp.ordered) hr
    simp only [TimerRequest.Before] at hbefore
    omega

namespace Hub

variable {A R α : Type}

/-- No timer is overdue, and the alarm is right. -/
structure Prompt (h : Hub A R) : Prop extends h.Wakeful where
  upcoming : ∀ r ∈ h.timers.requests, h.now ≤ r.expiration

/-- A tick at this moment fires only what expires at this moment. -/
def Punctual (h : Hub A R) : Prop := ∀ r ∈ h.dueNow, r.expiration = h.now

namespace Prompt

variable {h h' : Hub A R}

theorem punctual (hp : h.Prompt) : h.Punctual := by
  unfold Punctual dueNow
  split
  · simp
  · rename_i fired pool ht
    obtain ⟨q, hs, -⟩ := tick?_eq_some hp.coherent ht
    exact hs.on_time hp.upcoming

/-- Steps that leave the timers, the clock and queued ticks alone. -/
theorem aside (hp : h.Prompt) (ht : h'.timers = h.timers) (hn : h'.now = h.now)
    (hq : Task.deferred .timerTick ∈ h.queue.tasks → Task.deferred .timerTick ∈ h'.queue.tasks) :
    h'.Prompt where
  toWakeful := hp.toWakeful.aside ht hn hq
  upcoming := by
    rw [ht, hn]
    exact hp.upcoming

/-- A new pool that minds the alarm and holds nothing overdue. -/
theorem minded (hp : h.Prompt) {q : TimerPool} (hq : q.Coherent) (hm : h.timers.Minds h.now q)
    (hr : ∀ r ∈ q.requests, h.now ≤ r.expiration) (ht : h'.timers = q) (hn : h'.now = h.now)
    (hqueue : h'.queue = h.queue) : h'.Prompt where
  toWakeful := hp.toWakeful.minded hq hm ht hn hqueue
  upcoming := by
    rw [ht, hn]
    exact hr

end Prompt

/-! ## The clock -/

namespace Prompt

variable {h : Hub A R}

/-- Without tasks, something waits for what can fall due. -/
theorem attended (hp : h.Prompt) (hq : h.queue.tasks = []) : ¬ h.timers.Unattended := by
  intro hu
  have hm := hp.pending hu
  rw [hq] at hm
  cases hm

/-- No timer expires before the alarm. -/
theorem alarm_le (hp : h.Prompt) {t : Nat} (ht : h.timers.alarm = some t) :
    ∀ r ∈ h.timers.requests, t ≤ r.expiration := by
  obtain ⟨f, hf, -, hle, hge⟩ := hp.covers t ht
  obtain ⟨a, ha, rfl⟩ := Option.map_eq_some_iff.1 hf
  have hnow := hp.upcoming a (List.mem_of_head? ha)
  intro r hr
  have hfirst := nextExpiration?_le hp.coherent hf hr
  omega

/-- The clock may be moved up to where nothing falls due before. -/
theorem clockedTo (hp : h.Prompt) {t : Nat} (hlast : t ≤ Nanos.last)
    (ht : ∀ r ∈ h.timers.requests, t ≤ r.expiration) : (h.clockedTo t).Prompt where
  toWakeful := hp.toWakeful.later (Nat.le_max_left _ _) (Nat.max_le.2 ⟨hp.timely, hlast⟩)
  upcoming r hr := Nat.max_le.2 ⟨hp.upcoming r hr, ht r hr⟩

/-- Where no alarm is due, timers expire later or at the end of time. -/
theorem undue (hp : h.Prompt) (hq : h.queue.tasks = []) {until_ : Nat}
    (hd : h.dueBy? until_ = none) :
    ∀ r ∈ h.timers.requests, until_ < r.expiration ∨ r.expiration = Nanos.last := by
  intro r hr
  cases ha : h.timers.alarm with
  | some t =>
    have ht := dueBy?_eq_none.1 hd t ha
    exact .inl (Nat.lt_of_lt_of_le ht (hp.alarm_le ha r hr))
  | none =>
    right
    obtain ⟨a, hfront⟩ : ∃ a, h.timers.front? = some a :=
      ⟨_, List.head?_eq_some_head (List.ne_nil_of_mem hr)⟩
    have hf : h.timers.nextExpiration? = some a.expiration := by
      rw [nextExpiration?, hfront]
      rfl
    have hlast : a.expiration = Nanos.last := by
      by_contra hne
      exact hp.attended hq ⟨ha, _, hf, hne⟩
    exact Nat.le_antisymm (hp.coherent.timely r hr)
      (hlast ▸ nextExpiration?_le hp.coherent hf hr)

end Prompt

/-! ## Steps -/

theorem trySetTimer_prompt (s : TimerSpec) {h : Hub A R} (hp : h.Prompt) :
    Ends (trySetTimer s) h (fun _ => Prompt) (fun _ _ => True) := by
  unfold trySetTimer
  rw [ends_bind, ends_get]
  split
  · exact hp
  · rename_i x pool hs
    have hset := set_eq_ok hp.coherent hs
    refine hp.minded hset.coherent (set_minds hp.coherent hs) (fun r hr => ?_) rfl rfl rfl
    rcases hset.mem.1 hr with rfl | hr
    · exact Nanos.le_after hp.timely _
    · exact hp.upcoming r hr

theorem cancelTimer_prompt (owner : InstanceId) (x : TimerHandle) {h : Hub A R} (hp : h.Prompt) :
    Ends (cancelTimer owner x) h (fun _ => Prompt) (fun _ _ => True) := by
  unfold cancelTimer
  rw [ends_bind, ends_get]
  split
  · exact hp
  · rename_i pool hc
    have hsheds := (cancel?_eq_some hp.coherent hc).2
    exact hp.minded hsheds.coherent (cancel?_minds hp.coherent hc)
      (fun r hr => hp.upcoming r (hsheds.mem.1 hr).1) rfl rfl rfl

theorem cancelTimersOf_prompt (owner : InstanceId) {h : Hub A R} (hp : h.Prompt) :
    Ends (cancelTimersOf owner) h (fun _ => Prompt) (fun _ _ => True) := by
  have hsheds := (cancelAllOwnedBy_sheds hp.coherent h.now owner).2
  unfold cancelTimersOf
  rw [ends_bind, ends_get]
  exact hp.minded hsheds.coherent (cancelAllOwnedBy_minds hp.coherent h.now owner)
    (fun r hr => hp.upcoming r (hsheds.mem.1 hr).1) rfl rfl rfl

theorem fireIfDue_prompt {h : Hub A R} (hp : h.Prompt) :
    Ends fireIfDue h (fun _ => Prompt) (fun _ _ => True) := by
  have hkept : Ends fireIfDue h
      (fun _ h' => h'.timers.requests = h.timers.requests ∧ h'.now = h.now) fun _ _ => True := by
    unfold fireIfDue
    rw [ends_bind, ends_get]
    split
    · exact ⟨rfl, rfl⟩
    · rename_i pool ht
      obtain rfl := takeAlarm?_eq_some ht
      refine ends_bind.2 (ends_modify.2 (ends_bind.2 ((deferOrDie_queues _ _).mono ?_ ?_)))
      · rintro _ h' ⟨htimers, hnow, -⟩
        exact ⟨by rw [htimers], hnow⟩
      · exact fun _ _ _ => trivial
  refine ((fireIfDue_wakeful hp.toWakeful).and hkept).mono ?_ fun _ _ _ => trivial
  rintro _ h' ⟨hw, hrequests, hnow⟩
  refine ⟨hw, ?_⟩
  rw [hrequests, hnow]
  exact hp.upcoming

/-- A tick leaves nothing behind that is due. -/
theorem tick_prompt [Radio R] {h : Hub A R} (hp : h.timers.Coherent) (hlast : h.now ≤ Nanos.last) :
    Ends tick h (fun _ => Prompt) (fun _ _ => True) := by
  refine ((tick_wound hp hlast).and (tick_ends h hp)).mono ?_ fun _ _ _ => trivial
  rintro _ h' ⟨hw, kept, q, lost, hs, -, -, hc⟩
  have ht : h'.timers = { q.rearm h.now with lost } := congrArg Core.timers hc
  have hn : h'.now = h.now := congrArg Core.now hc
  refine ⟨hw.wakeful, ?_⟩
  rw [ht, hn]
  exact fun r hr => Nat.le_of_lt (hs.remaining r hr)

/-- Nothing becomes overdue. -/
def prompt : Law A R where
  rel h h' := h.Prompt → h'.Prompt
  halts _ _ _ := True
  refl _ := id
  trans h h' hp := h' (h hp)
  halts_of_rel _ _ := trivial

theorem obeys_prompt {m : HubM A R α}
    (hm : ∀ h : Hub A R, h.Prompt → Ends m h (fun _ => Prompt) fun _ _ => True) :
    Obeys prompt m := by
  intro h
  unfold Ends
  split
  · rename_i hr
    exact fun hp => (hm h hp).ok hr
  · exact trivial

theorem tryPost_prompt (e : Event) : Obeys prompt (tryPost e : HubM A R _) := by
  refine obeys_prompt fun h hp => ?_
  unfold tryPost
  rw [ends_bind, ends_get]
  split
  · rename_i q hq
    refine hp.aside rfl rfl fun hm => ?_
    rw [offer_tasks hq]
    exact List.mem_append_left _ hm
  · exact hp.aside rfl rfl id

theorem prompt_overlooks [Radio R] : (prompt : Law A R).Overlooks where
  beside hb hp := hp.aside hb.timers hb.now fun hq => by rwa [hb.queue]
  apart hb hp := hp.aside hb.timers hb.now fun hq => by rwa [hb.queue]
  halt _ _ := trivial
  tryPost_obeys e _ := tryPost_prompt e
  defer_obeys c := by
    refine obeys_prompt fun h hp => ?_
    unfold defer
    rw [ends_bind, ends_get]
    split
    · rename_i q hq
      refine hp.aside rfl rfl fun hm => ?_
      rw [offer_tasks hq]
      exact List.mem_append_left _ hm
    · exact hp.aside rfl rfl id
  refuse e h _ hp := hp.aside rfl rfl id
  discard_obeys p := by
    refine obeys_prompt fun h hp => (discard_ends p h).mono ?_ fun _ _ => False.elim
    rintro _ h' ⟨-, ht, hc⟩
    refine hp.aside (congrArg Core.timers hc) (congrArg Core.now hc) fun hm => ?_
    rw [ht]
    exact List.mem_filter.2 ⟨hm, rfl⟩
  trySetTimer_obeys s := obeys_prompt fun _ => trySetTimer_prompt s
  cancelTimer_obeys owner x := obeys_prompt fun _ => cancelTimer_prompt owner x
  cancelTimersOf_obeys owner := obeys_prompt fun _ => cancelTimersOf_prompt owner
  fireIfDue_obeys := obeys_prompt fun _ => fireIfDue_prompt

theorem prompt_dispatches [Radio R] : (prompt : Law A R).Dispatches :=
  ⟨prompt_overlooks.works, fun _ _ _ _ hp => hp.aside rfl rfl id⟩

variable [Radio R] [Behaviour A]

/-- A tick that is taken from the queue makes up for its absence there. -/
theorem process_tick_prompt {h : Hub A R} (hp : h.timers.Coherent) (hlast : h.now ≤ Nanos.last) :
    Ends (process (.deferred .timerTick)) h (fun _ => Prompt) (fun _ _ => True) := by
  unfold process runCallback
  simp only [ends_bind, ends_get, modifyStats, countMetric, emit, ends_modify]
  refine (tick_prompt ?_ ?_).mono (fun _ h' hw => hw.aside rfl rfl id) fun _ _ _ => trivial
  · exact hp
  · exact hlast

theorem runOnce_prompt : Obeys prompt (runOnce : HubM A R Bool) := by
  refine obeys_prompt fun h hp => ?_
  unfold runOnce
  rw [ends_bind, ends_get]
  split
  · exact hp
  · rename_i t q hq
    refine ends_bind.2 (ends_set.2 (ends_bind.2 ?_))
    by_cases ht : t = .deferred .timerTick
    · subst ht
      have hc : ({ h with queue := q } : Hub A R).timers.Coherent := hp.coherent
      exact process_tick_prompt hc hp.timely
    · have htaken : ({ h with queue := q } : Hub A R).Prompt := by
        refine hp.aside rfl rfl fun hm => ?_
        rw [next?_tasks hq] at hm
        exact (List.mem_cons.1 hm).resolve_left (Ne.symm ht)
      exact (prompt_dispatches.process_obeys t (absurd · ht) _).mono (fun _ _ h => h htaken)
        fun _ _ _ => trivial

omit [Behaviour A] in
theorem serveAlarm_prompt : Obeys prompt (serveAlarm : HubM A R Unit) := by
  unfold serveAlarm
  refine .bind prompt_dispatches.fireIfDue_obeys fun _ => .ite (fun _ => ?_) fun _ => .pure _
  exact .modify fun _ hp => hp.aside rfl rfl id

/-! ## Simulations -/

/-- On the way of an `advance` from `h` up to `until_`: tasks are processed, and when there is none
the clock moves to the next alarm and serves it, or to the end. -/
inductive Underway (until_ : Nat) (h : Hub A R) : Hub A R → Prop
  | start : Underway until_ h h
  | task {g g' : Hub A R} (hg : Underway until_ h g) (hr : runOnce g = .ok true g') :
      Underway until_ h g'
  | alarm {g g' : Hub A R} {t : Nat} (hg : Underway until_ h g) (hq : g.queue.next? = none)
      (hd : g.dueBy? until_ = some t) (ha : serveAlarm (g.clockedTo t) = .ok () g') :
      Underway until_ h g'
  | arrived {g : Hub A R} (hg : Underway until_ h g) (hq : g.queue.next? = none)
      (hd : g.dueBy? until_ = none) : Underway until_ h (g.clockedTo until_)

theorem next?_eq_none {q : Queue} (hq : q.next? = none) : q.tasks = [] := by
  unfold Queue.next? at hq
  split at hq
  · cases hq
  · cases hq
  · rename_i hp hi
    rw [Queue.tasks, hp, hi]
    rfl

section

variable {until_ : Nat} {h g g' : Hub A R} {stops : List (Hub A R)}

theorem Underway.prompt (hg : Underway until_ h g) (hh : h.Prompt) (hlast : until_ ≤ Nanos.last) :
    g.Prompt := by
  induction hg with
  | start => exact hh
  | task _ hr ih => exact (runOnce_prompt _).ok hr ih
  | alarm _ hq hd ha ih =>
    obtain ⟨halarm, ht⟩ := dueBy?_eq_some.1 hd
    have hclock := ih.clockedTo (Nat.le_trans ht hlast) (ih.alarm_le halarm)
    exact (serveAlarm_prompt _).ok ha hclock
  | @arrived g _ hq hd ih =>
    refine ih.clockedTo hlast fun r hr => ?_
    rcases ih.undue (next?_eq_none hq) hd r hr with hlt | heq
    · exact Nat.le_of_lt hlt
    · exact heq ▸ hlast

theorem Drains.underway (hs : Drains g stops g') (hg : Underway until_ h g) :
    (∀ s ∈ stops, Underway until_ h s) ∧ Underway until_ h g' := by
  induction hs with
  | rest => exact ⟨by simp, hg⟩
  | task hr _ ih =>
    obtain ⟨hstops, hend⟩ := ih (hg.task hr)
    exact ⟨List.forall_mem_cons.2 ⟨hg, hstops⟩, hend⟩

theorem Rounds.underway (hr : Rounds until_ g stops g') (hq : g.queue.next? = none)
    (hg : Underway until_ h g) :
    (∀ s ∈ stops, Underway until_ h s) ∧ Underway until_ h g' := by
  induction hr with
  | rest => exact ⟨by simp, hg⟩
  | round hd ha hs _ ih =>
    obtain ⟨hstops, hg⟩ := hs.underway (hg.alarm hq hd ha)
    obtain ⟨hmore, hend⟩ := ih hs.idle hg
    exact ⟨List.forall_mem_append.2 ⟨hstops, hmore⟩, hend⟩

end

/-- A passage of time is on its way at every stop, and comes to where nothing is due. -/
theorem Passes.underway {d : Nat} {h h' : Hub A R} {stops : List (Hub A R)}
    (hp : Passes d h stops h') (hn : h.now ≤ Nanos.last) :
    (∀ s ∈ stops, Underway (Nanos.after h.now d) h s) ∧ Underway (Nanos.after h.now d) h h' ∧
      h'.dueBy? (Nanos.after h.now d) = none := by
  obtain ⟨before, served, h₁, h₂, rfl, hb, hr, rfl, -, hidle⟩ := hp.rounds rfl hn
  have hstart : Underway (Nanos.after h.now d) h h := .start
  obtain ⟨hbefore, h₁way⟩ := hb.underway hstart
  obtain ⟨hserved, h₂way⟩ := hr.underway hb.idle h₁way
  exact ⟨List.forall_mem_append.2 ⟨hbefore, hserved⟩, h₂way.arrived hidle hr.undue, hr.undue⟩

/-- A simulation from its beginning on. Hosts do what they want with the hub, but only `advance`
moves the clock. -/
inductive Simulated (config : Config) : Hub A R → Prop
  | start {radios : R} {metrics : Option Metrics} {h : Hub A R}
      (hr : initialise (blank config 0 radios metrics) = .ok () h) : Simulated config h
  | use {h h' : Hub A R} (hh : Simulated config h) (u : Usage A R) (hu : u.movesClock = false)
      (hr : u.run h = .ok () h') : Simulated config h'
  | pass {h h' : Hub A R} {d n : Nat} (hh : Simulated config h) (he : Elapses d h n h') :
      Simulated config h'

namespace Simulated

variable {config : Config} {h : Hub A R}

theorem prompt (hh : Simulated config h) : h.Prompt := by
  induction hh with
  | @start radios metrics h hr =>
    refine (prompt_dispatches.powers.initialise_obeys _).ok hr ⟨⟨Nat.zero_le _, ?_, ?_, ?_⟩, ?_⟩
    · exact coherent_empty config.timers
    · exact fun t hnone => by cases hnone
    · rintro ⟨-, f, hf, -⟩
      cases hf
    · exact fun r hr => by cases hr
  | use _ u hu hr ih =>
    by_cases ht : u = .turn .runOnce
    · subst ht
      exact (Obeys.bind runOnce_prompt (fun _ => .pure _) _).ok hr ih
    · have htick : Obeys Hub.prompt (tick : HubM A R Nat) :=
        obeys_prompt fun _ hp => tick_prompt hp.coherent hp.timely
      exact (prompt_overlooks.usage_obeys u (fun e _ => tryPost_prompt e) (fun _ => htick) hu ht
        _).ok hr ih
  | pass _ he ih =>
    obtain ⟨stops, hp, -⟩ := elapses_iff.1 he
    obtain ⟨-, hway, -⟩ := hp.underway ih.timely
    exact hway.prompt ih (Nanos.after_le_last _ _)

end Simulated

theorem simulated_of_ends (config : Config) (radios : R) (metrics : Option Metrics)
    (us : List (Usage A R)) (hus : ∀ u ∈ us, u.movesClock = false) {P : Hub A R → Prop}
    (hP : Ends (do initialise; us.forM Usage.run) (blank config 0 radios metrics) (fun _ => P)
      (fun _ _ => False)) : ∃ h, Simulated config h ∧ P h := by
  obtain ⟨_, h, hr, hP⟩ := (ends_bind.1 hP).exists_ok
  exact hP.of_forM (.start hr) fun u hu _ _ hh => hh.use u (hus u hu)

/-- On the way of an `advance`, whether or not it comes to an end, ticks fire timers at the very
instant at which they expire. When it has come to an end, the clock has moved by `d` or to the end
of time, the queue is empty and no timer is due but at the end of time; all tasks were taken on the
way. -/
theorem advance_is_punctual {config : Config} {h : Hub A R} (hh : Simulated config h) (d : Nat) :
    (∀ g, Underway (min (h.now + d) Nanos.last) h g → g.Punctual) ∧
    ∀ n h', Elapses d h n h' →
      h'.now = min (h.now + d) Nanos.last ∧ h'.queue.tasks = [] ∧
      (∀ r ∈ h'.timers.requests, h'.now < r.expiration ∨ r.expiration = Nanos.last) ∧
      ∃ stops, Passes d h stops h' ∧ n = stops.length ∧
        ∀ g ∈ stops, Underway (min (h.now + d) Nanos.last) h g := by
  have hp := hh.prompt
  have hlast := Nanos.after_le_last h.now d
  refine ⟨fun g hg => (hg.prompt hp hlast).punctual, fun n h' he => ?_⟩
  obtain ⟨stops, hpass, rfl⟩ := elapses_iff.1 he
  obtain ⟨hstops, hway, hdue⟩ := hpass.underway hp.timely
  obtain ⟨_, _, _, _, _, _, _, _, hnow, hidle⟩ := hpass.rounds rfl hp.timely
  have hidle := next?_eq_none hidle
  refine ⟨hnow, hidle, fun r hr => ?_, stops, hpass, rfl, hstops⟩
  rw [hnow]
  exact (hway.prompt hp hlast).undue hidle hdue r hr

/-- Sets a recurring timer, and a one-shot timer when it is told of the first expiry. -/
def chainedTimers : Script where
  start := [.setTimer 2 ⟨7⟩ false]
  rules := [{ type := some EventType.timer, acts := [.setTimer 3 ⟨8⟩ true] }]

/-- Four alarms in seven nanoseconds. -/
theorem chained_timers_are_punctual : ∃ h h' : Hub Script Stations, Simulated {} h ∧
    Elapses 7 h 9 h' ∧ h'.deadlines = 4 ∧ h'.now = 7 ∧ h'.queue.tasks = [] ∧
      ∀ g, Underway 7 h g → g.Punctual := by
  obtain ⟨h, hh, hnow, hrun⟩ := simulated_of_ends {} Stations.scripted none
    [.turn (.load ⟨1⟩ {} chainedTimers)] (by simp [Usage.movesClock, Turn.movesClock])
    (P := fun h => h.now = 0 ∧
      Ends (advance 20 7) h (fun n h' => n = 9 ∧ h'.deadlines = 4) fun _ _ => False)
    (by decide +kernel)
  obtain ⟨_, h', hr, rfl, hdeadlines⟩ := hrun.exists_ok
  obtain ⟨hticks, hend⟩ := advance_is_punctual hh 7
  have hlast : min (h.now + 7) Nanos.last = 7 := by rw [hnow]; rfl
  rw [hlast] at hticks hend
  obtain ⟨hclock, hqueue, -⟩ := hend 9 h' ⟨20, hr⟩
  exact ⟨h, h', hh, ⟨20, hr⟩, hdeadlines, hclock, hqueue, hticks⟩

end Hub

end ContextHub
