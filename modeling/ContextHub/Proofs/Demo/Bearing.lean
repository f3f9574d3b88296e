import ContextHub.Proofs.Demo.Census
import ContextHub.Proofs.Hub.Exclusion
/-!
# How the demo's hub stands between two steps

`Gist` is what the course of the demo depends on. `Ready` says how it stands while tasks are
processed: the queue is within its means, the pool keeps its census with nothing due, the radios are
on and answer by themselves, and a timer of the hub belongs to a request in flight, unless its
expiry is queued (`Linked`). The steps that all managers share are here: posting, setting and
cancelling a timer, and asking a radio.
-/

namespace ContextHub.Demo

open Hub TimerPool

/-! ## Radios that answer by themselves -/

/-- A simulated device that is on, refuses nothing, and whose faults can be drawn. -/
def Answers (capabilities : Nat) : Station → Prop
  | .simulated s => s.capabilities = capabilities ∧ s.refusing = false ∧ s.poweredOn = true ∧
      ∃ c, s.chaos = some c ∧ c.config.nack ≠ .notANumber ∧ c.config.drop ≠ .notANumber
  | _ => False

theorem capabilities_of_answers {capabilities : Nat} {s : Station} (hs : Answers capabilities s) :
    s.capabilities = capabilities := by
  cases s with
  | simulated s => exact hs.1
  | absent => exact hs.elim
  | recording => exact hs.elim

theorem draw_eq_ok {c : Chance} (hc : c ≠ .notANumber) (r : Random) :
    ∃ b r', c.draw r = .ok (b, r') := by
  cases c with
  | always => exact ⟨_, _, rfl⟩
  | below => exact ⟨_, _, rfl⟩
  | notANumber => exact absurd rfl hc

theorem nextMishap_eq_ok {c : Chaos} (hn : c.config.nack ≠ .notANumber)
    (hd : c.config.drop ≠ .notANumber) :
    ∃ mishap c', c.nextMishap = .ok (mishap, c') ∧ c'.config = c.config := by
  obtain ⟨refused, r, hnack⟩ := draw_eq_ok hn c.random
  cases refused with
  | true =>
    obtain ⟨busy, r', hbusy⟩ := draw_eq_ok (c := Chance.half) nofun r
    refine ⟨.nack (if busy then .busy else .rejectedRateLimit), { c with random := r' }, ?_, rfl⟩
    simp [Chaos.nextMishap, hnack, hbusy, bind, Except.bind, pure, Except.pure]
  | false =>
    obtain ⟨lost, r', hdrop⟩ := draw_eq_ok hd r
    refine ⟨if lost then .drop else .none, { c with random := r' }, ?_, rfl⟩
    simp [Chaos.nextMishap, hnack, hdrop, bind, Except.bind, pure, Except.pure]

/-- Such a device accepts what it is asked for, and reports what becomes of it. -/
theorem request_answers {capabilities : Nat} {s : Station} (hs : Answers capabilities s) (now : Nat)
    (q : RadioRequest) : ∃ mishap r next, Answers capabilities next ∧ s.request now q =
      .ok { accepted := true, reports := (Simulated.reports now q mishap r).1, next } := by
  cases s with
  | simulated s =>
    obtain ⟨hcap, hrefusing, hon, c, hc, hn, hd⟩ := hs
    obtain ⟨mishap, c', hnext, hconfig⟩ := nextMishap_eq_ok hn hd
    refine ⟨mishap, c'.random, .simulated { s with
      history := q :: s.history
      chaos := some { c' with random := (Simulated.reports now q mishap c'.random).2 } }, ?_, ?_⟩
    · exact ⟨hcap, hrefusing, hon, _, rfl, hconfig ▸ hn, hconfig ▸ hd⟩
    · simp only [Station.request, Simulated.request, hrefusing, hc, hon, hnext]
      rfl
  | absent => exact hs.elim
  | recording => exact hs.elim

/-- What a device may report to a request of the demo, and how many reports there are at most. -/
structure Reports (q : RadioRequest) (most : Nat) : Prop where
  length_le : ∀ now mishap r, (Simulated.reports now q mishap r).1.length ≤ most
  foreseen : ∀ now mishap r, ∀ report ∈ (Simulated.reports now q mishap r).1,
    Foreseen (.deferred (.report report))

theorem reports_scan (params : ScanParams) : Reports (.scan params) 2 where
  length_le now mishap r := by cases mishap <;> simp [Simulated.reports]
  foreseen now mishap r := by cases mishap <;> simp [Simulated.reports, Foreseen]

theorem reports_cellInfo : Reports .cellInfo 1 where
  length_le now mishap r := by cases mishap <;> simp [Simulated.reports]
  foreseen now mishap r := by cases mishap <;> simp [Simulated.reports, Foreseen]

/-! ## Steps that all managers share -/

section

variable {total : Nat} (left : Nat) {h : DemoHub}

theorem tryPost_affords {e : Event} (hq : Affords total (left + cost (.event e)) h.queue)
    (he : Foreseen (.event e)) :
    Ends (tryPost e) h (fun r h' => r = .ok () ∧ ∃ q s j, h' = { h with
        queue := q, stats := s, journal := j } ∧ s.dropped = h.stats.dropped ∧
        Affords total left q ∧ q.tasks = h.queue.tasks ++ [.event e]) (fun _ _ => False) := by
  obtain ⟨q, ho, htasks, hafford⟩ := hq.offer he fun _ _ _ => rfl
  unfold tryPost
  rw [ends_bind, ends_get, ho]
  exact ⟨rfl, q, _, _, rfl, rfl, hafford, htasks⟩

theorem post_affords {e : Event} (hq : Affords total (left + cost (.event e)) h.queue)
    (he : Foreseen (.event e)) :
    Ends (post e) h (fun b h' => b = true ∧ ∃ q s j, h' = { h with
        queue := q, stats := s, journal := j } ∧ s.dropped = h.stats.dropped ∧
        Affords total left q ∧ q.tasks = h.queue.tasks ++ [.event e]) (fun _ _ => False) := by
  refine (tryPost_affords left hq he).bind ?_
  rintro _ h' ⟨rfl, hpost⟩
  exact ⟨rfl, hpost⟩

theorem postOrDie_affords {e : Event} (hq : Affords total (left + cost (.event e)) h.queue)
    (he : Foreseen (.event e)) :
    Ends (postOrDie e) h (fun _ h' => ∃ q s j, h' = { h with
        queue := q, stats := s, journal := j } ∧ s.dropped = h.stats.dropped ∧
        Affords total left q ∧ q.tasks = h.queue.tasks ++ [.event e]) (fun _ _ => False) := by
  refine (tryPost_affords left hq he).bind ?_
  rintro _ h' ⟨rfl, hpost⟩
  exact hpost

theorem deferOrDie_affords {c : Callback} (hq : Affords total (left + cost (.deferred c)) h.queue)
    (hc : Foreseen (.deferred c))
    (hs : ∀ t ∈ h.queue.tasks, isReport t = true → Task.expired? (.deferred c) = none) :
    Ends (deferOrDie c) h (fun _ h' => ∃ q, h' = { h with queue := q } ∧
        Affords total left q ∧ q.tasks = h.queue.tasks ++ [.deferred c]) (fun _ _ => False) := by
  obtain ⟨q, ho, htasks, hafford⟩ := hq.offer hc hs
  unfold deferOrDie defer
  rw [ends_bind, ends_bind, ends_get, ho]
  exact ⟨q, rfl, hafford, htasks⟩

/-- Reports cost two each. -/
theorem deferReports_affords {reports : List Report}
    (hq : Affords total (left + 2 * reports.length) h.queue)
    (hr : ∀ r ∈ reports, Foreseen (.deferred (.report r))) :
    Ends (reports.forM fun r => deferOrDie (.report r)) h (fun _ h' => ∃ q, h' = { h with
        queue := q } ∧ Affords total left q ∧ told q.tasks = told h.queue.tasks)
      (fun _ _ => False) := by
  induction reports generalizing h with
  | nil => exact ⟨h.queue, rfl, hq, rfl⟩
  | cons r reports ih =>
    obtain ⟨hfirst, hrest⟩ := List.forall_mem_cons.1 hr
    have hpaid : Affords total (left + 2 * reports.length + cost (.deferred (.report r))) h.queue :=
      hq.spend (by simp only [List.length_cons, cost]; omega)
    refine (deferOrDie_affords _ hpaid hfirst fun _ _ _ => rfl).bind ?_
    rintro _ _ ⟨q, rfl, hafford, htasks⟩
    refine Ends.mono (ih hafford hrest) ?_ fun _ _ => id
    rintro _ _ ⟨q', rfl, hafford', htold⟩
    refine ⟨q', rfl, hafford', htold.trans ?_⟩
    show told q.tasks = _
    rw [htasks, told_append, told_cons_of_none rfl]
    exact List.append_nil _

/-- A device of the demo is asked. -/
theorem requestRadio_answers {request : RadioRequest} {most capabilities : Nat}
    (hq : Affords total (left + 2 * most) h.queue)
    (hs : Answers capabilities (h.radios.get request.device)) (hr : Reports request most) :
    Ends (requestRadio request) h (fun b h' => b = true ∧ ∃ q station j, h' = { h with
        queue := q, radios := h.radios.set request.device station, journal := j } ∧
        Answers capabilities station ∧ Affords total left q ∧
        told q.tasks = told h.queue.tasks) (fun _ _ => False) := by
  obtain ⟨mishap, r, station, hstation, hrequest⟩ := request_answers hs h.now request
  have hlen := hr.length_le h.now mishap r
  have hradio : Radio.request h.now request h.radios = .ok
      { accepted := true, reports := (Simulated.reports h.now request mishap r).1
        next := h.radios.set request.device station } := congrArg (Except.map _) hrequest
  unfold requestRadio
  rw [ends_bind, ends_get, hradio]
  refine ends_bind.2 (ends_set.2 ?_)
  have hpaid : Affords total
      (left + 2 * (Simulated.reports h.now request mishap r).1.length) h.queue :=
    hq.spend (by omega)
  refine Ends.bind (deferReports_affords left hpaid (hr.foreseen h.now mishap r)) ?_
  rintro _ _ ⟨q, rfl, hafford, htold⟩
  exact ⟨rfl, q, station, _, rfl, hstation, hafford, htold⟩

theorem trySetTimer_census {s : TimerSpec} (hp : Census h.timers) (hs : s.WellFormed)
    (hrole : roleOf s ∈ roles) (hfree : ∀ r ∈ h.timers.requests, roleOf r.toTimerSpec ≠ roleOf s)
    (honce : s.purpose.isSome = true → s.oneShot = true) :
    Ends (trySetTimer s) h (fun r h' => ∃ x q log, r = .ok x ∧ h' = { h with
        timers := q, log := log } ∧ Census q ∧ h.timers.Admits h.now s x q) (fun _ _ => False) := by
  obtain ⟨x, q, hset, hadmits, hq⟩ := hp.set hs hrole hfree honce h.now
  unfold trySetTimer
  rw [ends_bind, ends_get, hset]
  exact ⟨x, q, _, rfl, rfl, hq, hadmits⟩

theorem setSystemTimer_census {u : TimerPurpose} (hp : Census h.timers) (hu : u ∈ purposes)
    (hnone : ∀ r ∈ h.timers.requests, r.purpose ≠ some u) (duration : Nat) :
    Ends (setSystemTimer duration u) h (fun x h' => ∃ q log, h' = { h with
        timers := q, log := log } ∧ Census q ∧
        h.timers.Admits h.now { owner := .system, duration, purpose := some u } x q)
      (fun _ _ => False) := by
  unfold setSystemTimer
  refine Ends.bind (trySetTimer_census hp ⟨rfl, by simp⟩ ?_ ?_ fun _ => rfl) ?_
  · exact List.mem_append_right _ (List.mem_map_of_mem hu)
  · exact fun r hr he => hnone r hr (roleOf_eq_inr.1 he)
  · rintro _ _ ⟨x, q, log, rfl, rfl, hq, hadmits⟩
    exact ⟨q, log, rfl, hq, hadmits⟩

theorem cancelSystemTimer_census (hp : Census h.timers) (x : TimerHandle) :
    Ends (cancelSystemTimer x) h (fun _ h' => ∃ q, h' = { h with timers := q } ∧ Census q ∧
        ∀ r, r ∈ q.requests ↔ r ∈ h.timers.requests ∧ (r.purpose.isSome = true → r.handle ≠ x))
      (fun _ _ => False) := by
  have hlost : Ends (cancelSystemTimer x) h (fun _ h' => h'.timers.lost = h.timers.lost)
      (fun _ _ => False) := by
    unfold cancelSystemTimer cancelTimer
    rw [ends_bind, ends_get]
    split
    · rfl
    · rename_i pool hc
      exact lost_of_cancel? hc
  refine ((cancelTimer_ends .system x h hp.coherent).and hlost).mono ?_ fun _ _ he => he.1
  rintro _ _ ⟨⟨-, q, hs, rfl⟩, hlost⟩
  refine ⟨q, rfl, hp.shed hs hlost, fun r => ?_⟩
  rw [hs.mem]
  refine and_congr_right fun hr => ?_
  have howned : (r.owner == .system) = r.purpose.isSome := hp.coherent.owned r hr
  rw [howned]
  cases r.purpose <;> simp

end

/-! ## The gist -/

/-- What the course of the demo depends on. -/
structure Gist where
  now : Nat
  queue : Queue
  dropped : Nat
  timers : TimerPool
  registry : Registry DemoApp
  wifiSettings : WifiSettings
  wifiOn : Bool
  monitoring : Bool
  monitors : List InstanceId
  scan : Slot ScanJob
  wwanSettings : WwanSettings
  wwanOn : Bool
  cell : Slot Unit
  radios : Stations

def gist (h : DemoHub) : Gist where
  now := h.now
  queue := h.queue
  dropped := h.stats.dropped
  timers := h.timers
  registry := h.registry
  wifiSettings := h.wifi.settings
  wifiOn := h.wifi.available
  monitoring := h.wifi.monitorEnabled
  monitors := h.wifi.monitors
  scan := h.wifi.scanSlot
  wwanSettings := h.wwan.settings
  wwanOn := h.wwan.available
  cell := h.wwan.cellSlot
  radios := h.radios

/-- The timer that the request in flight has for a purpose. -/
def awaited (scan : Slot ScanJob) (cell : Slot Unit) : TimerPurpose → Option TimerHandle
  | .wifiScanRetry => scan.bind fun p =>
    if p.kind.phase = .retryScheduled then some p.kind.retryTimer else none
  | .wifiScanTimeout => scan.map (·.timer)
  | .wwanCellInfoTimeout => cell.map (·.timer)
  | _ => none

/-! ### Timers and requests -/

/-- A timer of the hub that is set belongs to the request in flight. Once it has expired there is
no other for its purpose until the queue has told of it, and a request that timed out is still
there. -/
structure Linked (awaits : TimerPurpose → Option TimerHandle) (rs : List TimerRequest)
    (ts : List Task) : Prop where
  awaited : ∀ r ∈ rs, ∀ u, r.purpose = some u → awaits u = some r.handle
  once : (told ts).Nodup
  spent : ∀ u ∈ told ts, (∀ r ∈ rs, r.purpose ≠ some u) ∧
    (u = .wifiScanRetry ∨ (awaits u).isSome = true)

namespace Linked

variable {awaits awaits' : TimerPurpose → Option TimerHandle} {rs rs' : List TimerRequest}
  {t : Task} {ts ts' : List Task} {u : TimerPurpose} {x : TimerHandle}

theorem empty : Linked awaits [] [] where
  awaited r hr := by cases hr
  once := .nil
  spent u hu := by cases hu

theorem queued (hl : Linked awaits rs ts) (ht : told ts' = told ts) : Linked awaits rs ts' where
  awaited := hl.awaited
  once := ht ▸ hl.once
  spent := ht ▸ hl.spent

theorem fewer (hl : Linked awaits rs ts) (hr : ∀ r ∈ rs', r ∈ rs) : Linked awaits rs' ts where
  awaited r h := hl.awaited r (hr r h)
  once := hl.once
  spent u hu := ⟨fun r h => (hl.spent u hu).1 r (hr r h), (hl.spent u hu).2⟩

theorem take (hl : Linked awaits rs (t :: ts)) : Linked awaits rs ts := by
  have hsub : (told ts).Sublist (told (t :: ts)) :=
    ((List.sublist_cons_self t ts).filterMap _).map _
  exact ⟨hl.awaited, hsub.nodup hl.once, fun u hu => hl.spent u (hsub.subset hu)⟩

/-- An expiry that is taken from the queue is the only one of its purpose. -/
theorem expired (hl : Linked awaits rs (.deferred (.timerExpired x u) :: ts)) :
    u ∉ told ts ∧ (∀ r ∈ rs, r.purpose ≠ some u) := by
  have hu : u ∈ told (.deferred (.timerExpired x u) :: ts) := by simp [told_cons_expired]
  have honce := hl.once
  rw [told_cons_expired, List.nodup_cons] at honce
  exact ⟨honce.1, (hl.spent u hu).1⟩

/-- Requests change only where no timer is set and no timeout is queued. -/
theorem realigned (hl : Linked awaits rs ts) (h : ∀ u, awaits' u = awaits u ∨
    (∀ r ∈ rs, r.purpose ≠ some u) ∧ (u = .wifiScanRetry ∨ u ∉ told ts)) :
    Linked awaits' rs ts where
  awaited r hr u hu := by
    rcases h u with he | ⟨hnone, -⟩
    · rw [he]
      exact hl.awaited r hr u hu
    · exact absurd hu (hnone r hr)
  once := hl.once
  spent u hu := by
    obtain ⟨hnone, hkept⟩ := hl.spent u hu
    refine ⟨hnone, ?_⟩
    rcases h u with he | ⟨-, hretry | hno⟩
    · rwa [he]
    · exact .inl hretry
    · exact absurd hu hno

/-- A timer is set, and if it is the hub's, then for a request that awaits it. -/
theorem set (hl : Linked awaits rs ts) {new : TimerRequest}
    (hmem : ∀ r, r ∈ rs' ↔ r = new ∨ r ∈ rs)
    (hnew : ∀ u, new.purpose = some u → awaits u = some new.handle ∧ u ∉ told ts) :
    Linked awaits rs' ts where
  awaited r hr u hu := by
    rcases (hmem r).1 hr with rfl | hr
    · exact (hnew u hu).1
    · exact hl.awaited r hr u hu
  once := hl.once
  spent u hu := by
    obtain ⟨hnone, hkept⟩ := hl.spent u hu
    refine ⟨fun r hr he => ?_, hkept⟩
    rcases (hmem r).1 hr with rfl | hr
    · exact (hnew u he).2 hu
    · exact hnone r hr he

/-- For a purpose that nobody awaits no timer is set. -/
theorem unset (hl : Linked awaits rs ts) (hu : awaits u = none) : ∀ r ∈ rs, r.purpose ≠ some u := by
  intro r hr he
  have h := hl.awaited r hr u he
  rw [hu] at h
  cases h

theorem untold (hl : Linked awaits rs ts) (hu : awaits u = none) (hne : u ≠ .wifiScanRetry) :
    u ∉ told ts := by
  intro hm
  rcases (hl.spent u hm).2 with h | h
  · exact hne h
  · simp [hu] at h

end Linked

/-! ### Between two steps -/

/-- What holds in the middle of a step, too. -/
structure Steady (registry : Registry DemoApp) (total left : Nat) (g : Gist) : Prop where
  queue : Affords total left g.queue
  dropped : g.dropped = 0
  early : g.now < Nanos.last
  census : Census g.timers
  registry : g.registry = registry
  wifiSettings : g.wifiSettings = {}
  wifiOn : g.wifiOn = true
  wifi : Answers 15 g.radios.wifi
  unmonitored : g.monitoring = false ∧ g.monitors = []
  scanner : ∀ p ∈ g.scan, p.requester = some ⟨2⟩
  wwanSettings : g.wwanSettings = {}
  wwanOn : g.wwanOn = true
  wwan : Answers 1 g.radios.wwan
  poller : ∀ p ∈ g.cell, p.requester = some ⟨3⟩

/-- While tasks are processed nothing is due. -/
structure Ready (registry : Registry DemoApp) (total left : Nat) (g : Gist) : Prop
    extends Steady registry total left g where
  ahead : ∀ r ∈ g.timers.requests, g.now < r.expiration
  linked : Linked (awaited g.scan g.cell) g.timers.requests g.queue.tasks

namespace Ready

variable {registry : Registry DemoApp} {total left less : Nat} {g : Gist} {q : Queue}

theorem spend (hg : Ready registry total left g) (hle : less ≤ left) :
    Ready registry total less g :=
  { hg with queue := hg.queue.spend hle }

/-- Tasks were queued, but no expiries. -/
theorem queued (hg : Ready registry total left g) (hq : Affords total less q)
    (ht : told q.tasks = told g.queue.tasks) : Ready registry total less { g with queue := q } :=
  { hg with queue := hq, linked := hg.linked.queued ht }

/-- A new timer expires later. -/
theorem ahead_of_admits (hg : Ready registry total left g) {s : TimerSpec} {x : TimerHandle}
    {p : TimerPool} (ha : g.timers.Admits g.now s x p) (hs : 0 < s.duration) :
    ∀ r ∈ p.requests, g.now < r.expiration := by
  intro r hr
  rcases ha.mem.1 hr with rfl | hr
  · have hearly := hg.early
    simp only [newRequest, Nanos.after, Nanos.clamp]
    omega
  · exact hg.ahead r hr

end Ready

end ContextHub.Demo
