import ContextHub.Proofs.Hub.Expiries
import ContextHub.Proofs.Timer.Alarm
import ContextHub.Proofs.Timer.History
import ContextHub.Simulation.World
/-!
# No wake-up is lost

`TimersUsed` is a hub whose timers were used in any order: set, cancelled, the clock moved on, the
alarm served, and ticks run, from the queue or at once. At every moment the alarm covers the first
expiration (`Covers`), and if there is no alarm although something could fall due, then a tick is
still queued. Only a tick that is taken out of the queue can put an end to that, and it sets the
alarm anew.
-/

namespace ContextHub.Hub

open TimerPool

variable {A R : Type}

/-- The alarm is right, and missing only while a tick is queued. -/
structure Wakeful (h : Hub A R) : Prop where
  timely : h.now ≤ Nanos.last
  coherent : h.timers.Coherent
  covers : h.timers.Covers h.now
  pending : h.timers.Unattended → Task.deferred .timerTick ∈ h.queue.tasks

/-- A tick has just set the alarm. -/
structure Wound (h : Hub A R) : Prop where
  timely : h.now ≤ Nanos.last
  coherent : h.timers.Coherent
  covers : h.timers.Covers h.now
  attended : ¬ h.timers.Unattended

theorem Wound.wakeful {h : Hub A R} (hw : h.Wound) : h.Wakeful :=
  ⟨hw.timely, hw.coherent, hw.covers, fun hu => absurd hu hw.attended⟩

/-- Steps that leave the timers, the clock and queued ticks alone. -/
theorem Wakeful.aside {h h' : Hub A R} (hw : h.Wakeful) (ht : h'.timers = h.timers)
    (hn : h'.now = h.now)
    (hq : Task.deferred .timerTick ∈ h.queue.tasks → Task.deferred .timerTick ∈ h'.queue.tasks) :
    h'.Wakeful where
  timely := hn ▸ hw.timely
  coherent := ht ▸ hw.coherent
  covers := by
    rw [ht, hn]
    exact hw.covers
  pending hu := hq (hw.pending (ht ▸ hu))

/-- A new pool that minds the alarm, with the rest as it was. -/
theorem Wakeful.minded {h h' : Hub A R} (hw : h.Wakeful) {q : TimerPool} (hq : q.Coherent)
    (hm : h.timers.Minds h.now q) (ht : h'.timers = q) (hn : h'.now = h.now)
    (hqueue : h'.queue = h.queue) : h'.Wakeful where
  timely := hn ▸ hw.timely
  coherent := ht ▸ hq
  covers := by
    rw [ht, hn]
    exact hm.covers hw.covers
  pending hu := by
    rw [hqueue]
    exact hw.pending (hm.attended (ht ▸ hu))

/-! ## Setting and cancelling -/

theorem trySetTimer_wakeful (s : TimerSpec) {h : Hub A R} (hw : h.Wakeful) :
    Ends (trySetTimer s) h (fun _ => Wakeful) (fun _ _ => False) := by
  unfold trySetTimer
  rw [ends_bind, ends_get]
  split
  · exact hw
  · rename_i x pool hs
    have hm := set_minds hw.coherent hs
    exact hw.minded (set_eq_ok hw.coherent hs).coherent hm rfl rfl rfl

theorem cancelTimer_wakeful (owner : InstanceId) (x : TimerHandle) {h : Hub A R}
    (hw : h.Wakeful) : Ends (cancelTimer owner x) h (fun _ => Wakeful) (fun _ _ => False) := by
  unfold cancelTimer
  rw [ends_bind, ends_get]
  split
  · exact hw
  · rename_i pool hc
    have hm := cancel?_minds hw.coherent hc
    exact hw.minded (cancel?_eq_some hw.coherent hc).2.coherent hm rfl rfl rfl

theorem cancelTimersOf_wakeful (owner : InstanceId) {h : Hub A R} (hw : h.Wakeful) :
    Ends (cancelTimersOf owner) h (fun _ => Wakeful) (fun _ _ => False) := by
  unfold cancelTimersOf
  rw [ends_bind, ends_get]
  have hm := cancelAllOwnedBy_minds hw.coherent h.now owner
  have hsheds := (cancelAllOwnedBy_sheds hw.coherent h.now owner).2
  exact hw.minded hsheds.coherent hm rfl rfl rfl

/-! ## The clock and the alarm -/

theorem Wakeful.later {h : Hub A R} (hw : h.Wakeful) {now : Nat} (hle : h.now ≤ now)
    (hlast : now ≤ Nanos.last) : ({ h with now } : Hub A R).Wakeful :=
  ⟨hlast, hw.coherent, hw.covers.later hle, hw.pending⟩

theorem deferOrDie_queues (c : Callback) (h : Hub A R) :
    Ends (deferOrDie c) h
      (fun _ h' => h'.timers = h.timers ∧ h'.now = h.now ∧
        h'.queue.tasks = h.queue.tasks ++ [.deferred c])
      (fun _ _ => True) := by
  unfold deferOrDie defer
  rw [ends_bind, ends_bind, ends_get]
  split
  · rename_i q hq
    exact ⟨rfl, rfl, offer_tasks hq⟩
  · exact trivial

/-- An alarm that is served leaves a tick in the queue. -/
theorem fireIfDue_wakeful {h : Hub A R} (hw : h.Wakeful) :
    Ends fireIfDue h (fun _ => Wakeful) (fun _ _ => True) := by
  unfold fireIfDue
  rw [ends_bind, ends_get]
  split
  · exact hw
  · rename_i pool ht
    obtain rfl := takeAlarm?_eq_some ht
    refine ends_bind.2 (ends_modify.2 (ends_bind.2 ((deferOrDie_queues _ _).mono ?_ ?_)))
    · rintro _ h' ⟨htimers, hnow, htasks⟩
      refine ⟨hnow ▸ hw.timely, ?_, ?_, fun _ => ?_⟩
      · rw [htimers]
        exact hw.coherent.hush .off h.timers.lost
      · rw [htimers]
        exact fun t hnone => by cases hnone
      · rw [htasks]
        simp
    · exact fun _ _ _ => trivial

/-! ## Ticks -/

variable [Radio R]

theorem tick_wound {h : Hub A R} (hp : h.timers.Coherent) (hlast : h.now ≤ Nanos.last) :
    Ends tick h (fun _ => Wound) (fun _ _ => True) := by
  refine (tick_ends h hp).mono ?_ fun _ _ _ => trivial
  rintro _ h' ⟨kept, q, lost, hserves, -, -, hc⟩
  have ht : h'.timers = { q.rearm h.now with lost } := congrArg Core.timers hc
  have hn : h'.now = h.now := congrArg Core.now hc
  refine ⟨hn ▸ hlast, ?_, ?_, ?_⟩
  · rw [ht]
    exact (hserves.coherent.rearm h.now).hush _ lost
  · rw [ht, hn]
    exact covers_rearm hserves.coherent h.now
  · rw [ht]
    exact attended_rearm q h.now

variable [Behaviour A]

/-- A tick that is taken from the queue sets the alarm anew. -/
theorem process_tick_wound {h : Hub A R} (hp : h.timers.Coherent)
    (hlast : h.now ≤ Nanos.last) :
    Ends (process (.deferred .timerTick)) h (fun _ => Wound) (fun _ _ => True) := by
  unfold process runCallback
  simp only [ends_bind, ends_get, modifyStats, countMetric, emit, ends_modify]
  refine (tick_wound ?_ ?_).mono (fun _ h' hw => ?_) fun _ _ _ => trivial
  · exact hp
  · exact hlast
  · exact ⟨hw.timely, hw.coherent, hw.covers, hw.attended⟩

/-- From an empty pool with these limits, the timers were used in any order. What leaves the timers,
the clock and queued ticks alone may happen in between. -/
inductive TimersUsed (limits : TimerLimits) : Hub A R → Prop
  | start {h : Hub A R} (ht : h.timers = .empty limits) (hn : h.now ≤ Nanos.last) :
      TimersUsed limits h
  | set {h h' s r} (hu : TimersUsed limits h) (hr : trySetTimer s h = .ok r h') :
      TimersUsed limits h'
  | cancel {h h' owner x b} (hu : TimersUsed limits h) (hr : cancelTimer owner x h = .ok b h') :
      TimersUsed limits h'
  | cancelAll {h h' owner n} (hu : TimersUsed limits h) (hr : cancelTimersOf owner h = .ok n h') :
      TimersUsed limits h'
  | advance {h h' d u} (hu : TimersUsed limits h) (hr : advanceClock d h = .ok u h') :
      TimersUsed limits h'
  | advanceTo {h h' t u} (hu : TimersUsed limits h) (ht : t ≤ Nanos.last)
      (hr : advanceClockTo t h = .ok u h') : TimersUsed limits h'
  | fire {h h' b} (hu : TimersUsed limits h) (hr : fireIfDue h = .ok b h') : TimersUsed limits h'
  | tick {h h' n} (hu : TimersUsed limits h) (hr : Hub.tick h = .ok n h') : TimersUsed limits h'
  | serve {h h' q b} (hu : TimersUsed limits h)
      (hq : h.queue.next? = some (.deferred .timerTick, q)) (hr : runOnce h = .ok b h') :
      TimersUsed limits h'
  | aside {h h' : Hub A R} (hu : TimersUsed limits h) (ht : h'.timers = h.timers)
      (hn : h'.now = h.now) (hq : Task.deferred .timerTick ∈ h.queue.tasks →
        Task.deferred .timerTick ∈ h'.queue.tasks) : TimersUsed limits h'

variable {limits : TimerLimits} {h : Hub A R}

theorem TimersUsed.wakeful (hu : TimersUsed limits h) : h.Wakeful := by
  induction hu with
  | start ht hn =>
    refine ⟨hn, ?_, ?_, ?_⟩
    · rw [ht]
      exact coherent_empty limits
    · rw [ht]
      exact fun t hnone => by cases hnone
    · rw [ht]
      rintro ⟨-, f, hf, -⟩
      cases hf
  | set _ hr ih => exact (trySetTimer_wakeful _ ih).ok hr
  | cancel _ hr ih => exact (cancelTimer_wakeful _ _ ih).ok hr
  | cancelAll _ hr ih => exact (cancelTimersOf_wakeful _ ih).ok hr
  | @advance h h' d u _ hr ih =>
    cases hr
    exact ih.later (Nanos.le_after ih.timely _) (Nanos.after_le_last _ _)
  | @advanceTo h h' t u _ ht hr ih =>
    cases hr
    exact ih.later (Nat.le_max_left _ _) (Nat.max_le.2 ⟨ih.timely, ht⟩)
  | fire _ hr ih => exact (fireIfDue_wakeful ih).ok hr
  | tick _ hr ih => exact ((tick_wound ih.coherent ih.timely).ok hr).wakeful
  | @serve h h' q b _ hq hr ih =>
    have hstep : Ends runOnce h (fun _ => Wound) (fun _ _ => True) := by
      have hp : ({ h with queue := q } : Hub A R).timers.Coherent := ih.coherent
      have hlast : ({ h with queue := q } : Hub A R).now ≤ Nanos.last := ih.timely
      unfold runOnce
      simp only [ends_bind, ends_get, hq, ends_set]
      exact (process_tick_wound hp hlast).mono (fun _ _ hw => hw) fun _ _ he => he
    exact (hstep.ok hr).wakeful
  | aside _ ht hn hq ih => exact ih.aside ht hn hq

/-- However the timers are used, an alarm that is set stands for the first expiration, which then
lies before the end of time: no earlier than it, and no later than it or now. If no alarm is set,
then there is no timer, or none before the end of time, or a tick is still queued. -/
theorem no_wakeup_is_lost (hu : TimersUsed limits h) :
    (∀ t, h.timers.alarm = some t → ∃ f, h.timers.nextExpiration? = some f ∧
      f ≠ Nanos.last ∧ f ≤ t ∧ t ≤ max f h.now) ∧
    (h.timers.alarm = none → h.timers.requests = [] ∨
      h.timers.nextExpiration? = some Nanos.last ∨
      Task.deferred .timerTick ∈ h.queue.tasks) := by
  have hw := hu.wakeful
  refine ⟨hw.covers, fun hnone => ?_⟩
  cases hl : h.timers.requests with
  | nil => exact .inl rfl
  | cons r rest =>
    right
    have hf : h.timers.nextExpiration? = some r.expiration := by
      rw [nextExpiration?, front?, hl]
      rfl
    by_cases hlast : r.expiration = Nanos.last
    · left
      rw [hf, hlast]
    · right
      exact hw.pending ⟨hnone, r.expiration, hf, hlast⟩

/-- Between the alarm and its tick, a second timer is set behind the first: no alarm stands, and the
tick is queued. -/
theorem late_set_waits_for_tick : ∃ h : Hub Script Stations, TimersUsed {} h ∧
    h.timers.alarm = none ∧ h.timers.nextExpiration? = some 5 ∧
    Task.deferred .timerTick ∈ h.queue.tasks := by
  have hu := TimersUsed.set (s := { owner := ⟨1⟩, duration := 100 }) (.fire (.advance (d := 5)
    (.set (s := { owner := ⟨1⟩, duration := 5 })
      (.start (h := (blank {} 0 Stations.scripted none : Hub Script Stations)) rfl
        (Nat.zero_le _)) rfl) rfl) rfl) rfl
  refine ⟨_, hu, rfl, rfl, ?_⟩
  rcases (no_wakeup_is_lost hu).2 rfl with hnil | hlast | hqueued
  · cases hnil
  · cases hlast
  · exact hqueued

end ContextHub.Hub
