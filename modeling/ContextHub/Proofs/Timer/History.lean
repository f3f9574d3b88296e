import ContextHub.Proofs.Timer.Firing
/-!
# Runs of a timer pool

`Run limits past now p` says that `p` is what a new pool has become at `now`, after what `past`
tells in order: timers set and cancelled, and ticks with what they fired, under a clock that never
goes back. A refused request changes nothing and is not told. `Reachable limits p` forgets the story
and the clock, and lets the handle counter be moved on. Every such pool is coherent, and in a run a
recurring timer fires at multiples of its period after it was set, however late the ticks come.
-/

namespace ContextHub.TimerPool

/-- What happens to a pool. -/
inductive Happening where
  | set (time : Nat) (spec : TimerSpec) (handle : TimerHandle)
  | cancel (owner : InstanceId) (handle : TimerHandle)
  | cancelAll (owner : InstanceId)
  | tick (time : Nat) (fired : List TimerRequest)

inductive Run (limits : TimerLimits) : List Happening → Nat → TimerPool → Prop
  | start {now : Nat} (h : now ≤ Nanos.last) : Run limits [] now (empty limits)
  | wait {past : List Happening} {now later : Nat} {p : TimerPool} (hr : Run limits past now p)
      (h : now ≤ later) (hl : later ≤ Nanos.last) : Run limits past later p
  | set {past : List Happening} {now : Nat} {p q : TimerPool} {s : TimerSpec} {h : TimerHandle}
      (hr : Run limits past now p) (hs : p.set now s = .ok (h, q)) :
      Run limits (past ++ [.set now s h]) now q
  | cancel {past : List Happening} {now : Nat} {p q : TimerPool} {owner : InstanceId}
      {h : TimerHandle} (hr : Run limits past now p) (hc : p.cancel? now owner h = some q) :
      Run limits (past ++ [.cancel owner h]) now q
  | cancelAll {past : List Happening} {now : Nat} {p : TimerPool} (owner : InstanceId)
      (hr : Run limits past now p) :
      Run limits (past ++ [.cancelAll owner]) now (p.cancelAllOwnedBy now owner).2
  | tick {past : List Happening} {now : Nat} {p q : TimerPool} {fired : List TimerRequest}
      (hr : Run limits past now p) (ht : p.tick? now = some (fired, q)) :
      Run limits (past ++ [.tick now fired]) now q
  /-- The alarm's time has come. -/
  | alarm {past : List Happening} {now : Nat} {p q : TimerPool} (hr : Run limits past now p)
      (ht : p.takeAlarm? now = some q) : Run limits past now q
  /-- The queue had no room for an expiry. -/
  | lose {past : List Happening} {now : Nat} {p : TimerPool} (hr : Run limits past now p) :
      Run limits past now { p with lost := p.lost + 1 }

/-- What any use makes of a new pool, whatever the clock reads each time. -/
inductive Reachable (limits : TimerLimits) : TimerPool → Prop
  | start : Reachable limits (empty limits)
  | set {now : Nat} {p q : TimerPool} {s : TimerSpec} {h : TimerHandle} (hr : Reachable limits p)
      (hs : p.set now s = .ok (h, q)) : Reachable limits q
  | cancel {now : Nat} {p q : TimerPool} {owner : InstanceId} {h : TimerHandle}
      (hr : Reachable limits p) (hc : p.cancel? now owner h = some q) : Reachable limits q
  | cancelAll {p : TimerPool} (now : Nat) (owner : InstanceId) (hr : Reachable limits p) :
      Reachable limits (p.cancelAllOwnedBy now owner).2
  | tick {now : Nat} {p q : TimerPool} {fired : List TimerRequest} (hr : Reachable limits p)
      (ht : p.tick? now = some (fired, q)) : Reachable limits q
  /-- The alarm goes off, or the queue had no room for an expiry. -/
  | hush {p : TimerPool} (hardware : Alarm Unit) (lost : Nat) (hr : Reachable limits p) :
      Reachable limits { p with hardware, lost }
  /-- The handle counter is moved: anywhere once the handles have run through, and before that to a
  valid handle that is not behind. -/
  | skip {p : TimerPool} (h : TimerHandle) (hlt : h.val < 4294967296)
      (hs : p.wrapped = true ∨ h.isValid = true ∧ p.issued ≤ h.val + 1) (hr : Reachable limits p) :
      Reachable limits (p.skipHandlesTo h)

/-! ## Coherence -/

theorem Serves.coherent_of_tick? {now : Nat} {p q : TimerPool} {fired : List TimerRequest}
    (hp : p.Coherent) (h : p.tick? now = some (fired, q)) : q.Coherent := by
  obtain ⟨q', hs, rfl⟩ := tick?_eq_some hp h
  exact hs.coherent.rearm now

theorem takeAlarm?_eq_some {now : Nat} {p q : TimerPool} (h : p.takeAlarm? now = some q) :
    q = { p with hardware := .off } := by
  obtain ⟨⟨_, a⟩, hfire, rfl⟩ := Option.map_eq_some_iff.1 h
  obtain ⟨rfl, -⟩ := Alarm.fire?_eq_some.1 hfire
  rfl

/-- An alarm whose time has come can be taken down. -/
theorem takeAlarm?_of_due {p : TimerPool} {now t : Nat} (ht : p.alarm = some t) (hdue : t ≤ now) :
    p.takeAlarm? now = some { p with hardware := .off } := by
  obtain ⟨_, harmed⟩ := Alarm.deadline?_eq_some.1 ht
  exact Option.map_eq_some_iff.2 ⟨_, Alarm.fire?_eq_some.2 ⟨rfl, t, hdue, harmed⟩, rfl⟩

theorem Coherent.hush {p : TimerPool} (hp : p.Coherent) (hardware : Alarm Unit) (lost : Nat) :
    ({ p with hardware, lost } : TimerPool).Coherent :=
  ⟨hp.1, hp.2, hp.3, hp.4, hp.5, hp.6, hp.7, hp.8, hp.9, hp.10⟩

/-- A handle counter that is not behind the handles in use may go on from there. -/
theorem Coherent.skip {p : TimerPool} (hp : p.Coherent) {h : TimerHandle}
    (hlt : h.val < 4294967296)
    (hs : p.wrapped = true ∨ h.isValid = true ∧ p.issued ≤ h.val + 1) :
    (p.skipHandlesTo h).Coherent :=
  { hp with
    counter := hlt
    below := by
      intro hw r hr
      rcases hs with hs | ⟨hv, hle⟩
      · exact absurd (hs.symm.trans hw) (by decide)
      · have hbelow := hp.below hw r hr
        have hne := isValid_iff.1 hv
        simp only [issued, skipHandlesTo, TimerHandle.succ] at hbelow hle ⊢
        omega }

theorem Reachable.coherent {limits : TimerLimits} {p : TimerPool} (hr : Reachable limits p) :
    p.Coherent := by
  induction hr with
  | start => exact coherent_empty limits
  | set _ hs ih => exact (set_eq_ok ih hs).coherent
  | cancel _ hc ih => exact (cancel?_eq_some ih hc).2.coherent
  | cancelAll now owner _ ih => exact (cancelAllOwnedBy_sheds ih now owner).2.coherent
  | tick _ ht ih => exact Serves.coherent_of_tick? ih ht
  | hush hardware lost _ ih => exact ih.hush hardware lost
  | skip h hlt hs _ ih => exact ih.skip hlt hs

/-- A run is one way to get to a pool. -/
theorem Run.reachable {limits : TimerLimits} {past : List Happening} {now : Nat} {p : TimerPool}
    (hr : Run limits past now p) : Reachable limits p := by
  induction hr with
  | start _ => exact .start
  | wait _ _ _ ih => exact ih
  | set _ hs ih => exact ih.set hs
  | cancel _ hc ih => exact ih.cancel hc
  | cancelAll owner _ ih => exact ih.cancelAll _ owner
  | tick _ ht ih => exact ih.tick ht
  | @alarm past now p q _ ht ih => exact takeAlarm?_eq_some ht ▸ ih.hush .off p.lost
  | @lose past now p _ ih => exact ih.hush p.hardware (p.lost + 1)

theorem Run.coherent {limits : TimerLimits} {past : List Happening} {now : Nat} {p : TimerPool}
    (hr : Run limits past now p) : p.Coherent :=
  hr.reachable.coherent

/-! ## Expiries lost -/

theorem Serves.lost {now : Nat} {p q : TimerPool} {fired : List TimerRequest}
    (h : Serves now p fired q) : q.lost = p.lost := by
  induction h with
  | rest => rfl
  | serve _ _ _ _ ih =>
    refine ih.trans ?_
    unfold renew
    split <;> rfl

theorem lost_of_set {p q : TimerPool} {now : Nat} {s : TimerSpec} {x : TimerHandle}
    (hs : p.set now s = .ok (x, q)) : q.lost = p.lost := by
  unfold set rearmIfMoved at hs
  simp only at hs
  repeat' split at hs
  all_goals cases hs
  all_goals rfl

theorem lost_remove (p : TimerPool) (x : TimerHandle) : (p.remove x).lost = p.lost := by
  unfold remove remove?
  cases p.find? x <;> rfl

theorem lost_of_cancel? {p q : TimerPool} {now : Nat} {owner : InstanceId} {x : TimerHandle}
    (hc : p.cancel? now owner x = some q) : q.lost = p.lost := by
  have hremove := p.lost_remove x
  unfold cancel? at hc
  repeat' split at hc
  all_goals cases hc
  all_goals exact hremove

theorem lost_of_cancelAllOwnedBy (p : TimerPool) (now : Nat) (owner : InstanceId) :
    (p.cancelAllOwnedBy now owner).2.lost = p.lost := by
  have hfold (hs : List TimerHandle) (p : TimerPool) : (hs.foldl remove p).lost = p.lost := by
    induction hs generalizing p with
    | nil => rfl
    | cons x hs ih => exact (ih _).trans (p.lost_remove x)
  unfold cancelAllOwnedBy rearmIfMoved
  dsimp only
  split
  · exact hfold _ p
  · exact hfold _ p

/-! ## Between ticks -/

/-- What is done to a pool at `now`, but for ticks. -/
inductive Adjusts (now : Nat) (p : TimerPool) : TimerPool → Prop
  | set {q : TimerPool} {s : TimerSpec} {h : TimerHandle} (hs : p.set now s = .ok (h, q)) :
      Adjusts now p q
  | cancel {q : TimerPool} {owner : InstanceId} {h : TimerHandle}
      (hc : p.cancel? now owner h = some q) : Adjusts now p q
  | cancelAll (owner : InstanceId) : Adjusts now p (p.cancelAllOwnedBy now owner).2
  | alarm {q : TimerPool} (ht : p.takeAlarm? now = some q) : Adjusts now p q

theorem Adjusts.reachable {limits : TimerLimits} {now : Nat} {p q : TimerPool}
    (ha : Adjusts now p q) (hr : Reachable limits p) : Reachable limits q := by
  cases ha with
  | set hs => exact hr.set hs
  | cancel hc => exact hr.cancel hc
  | cancelAll owner => exact hr.cancelAll now owner
  | alarm ht => exact takeAlarm?_eq_some ht ▸ hr.hush .off p.lost

theorem Adjusts.lost {now : Nat} {p q : TimerPool} (ha : Adjusts now p q) : q.lost = p.lost := by
  cases ha with
  | set hs => exact lost_of_set hs
  | cancel hc => exact lost_of_cancel? hc
  | cancelAll owner => exact p.lost_of_cancelAllOwnedBy now owner
  | alarm ht => rw [takeAlarm?_eq_some ht]

/-! ## Drift -/

namespace Happening

def fired : Happening → List TimerRequest
  | .set _ _ _ => []
  | .cancel _ _ => []
  | .cancelAll _ => []
  | .tick _ fired => fired

/-- Whether a timer is set that gets the handle `h`. -/
def sets (h : TimerHandle) : Happening → Bool
  | .set _ _ h' => h' == h
  | _ => false

end Happening

/-- All that fired in a run, in order. -/
def firedIn (past : List Happening) : List TimerRequest := past.flatMap Happening.fired

theorem firedIn_snoc (past : List Happening) (x : Happening) :
    firedIn (past ++ [x]) = firedIn past ++ x.fired := by
  rw [firedIn, List.flatMap_append, List.flatMap_singleton, ← firedIn]

theorem timesOf_append (h : TimerHandle) (l l' : List TimerRequest) :
    timesOf h (l ++ l') = timesOf h l ++ timesOf h l' := by
  rw [timesOf, List.filter_append, List.map_append, ← timesOf, ← timesOf]

/-- After `n` firings, the timer `h` that was set at `t` fired at the first `n` multiples of its
period, and is due at the next one if the pool `p` still has it. -/
structure OnSchedule (t : Nat) (s : TimerSpec) (h : TimerHandle) (n : Nat)
    (fired : List TimerRequest) (p : TimerPool) : Prop where
  times : timesOf h fired =
    (List.range n).map fun i => t + (i + 1) * Nanos.clamp s.duration
  spec : ∀ f ∈ fired, f.handle = h →
    f.toTimerSpec = { s with duration := Nanos.clamp s.duration }
  next : ∀ r ∈ p.requests, r.handle = h →
    r.toTimerSpec = { s with duration := Nanos.clamp s.duration } ∧
      r.expiration = Nanos.after t ((n + 1) * Nanos.clamp s.duration)

section

variable {t n : Nat} {s : TimerSpec} {h : TimerHandle} {fired : List TimerRequest} {p q : TimerPool}

theorem OnSchedule.of_subset (hs : OnSchedule t s h n fired p)
    (hsub : ∀ r ∈ q.requests, r.handle = h → r ∈ p.requests) : OnSchedule t s h n fired q :=
  ⟨hs.times, hs.spec, fun r hr hh => hs.next r (hsub r hr hh) hh⟩

/-- A tick keeps a recurring timer on schedule. -/
theorem OnSchedule.tick (hs : OnSchedule t s h n fired p) (hp : p.Coherent)
    (ho : s.oneShot = false) {now : Nat} {more : List TimerRequest} (hserve : Serves now p more q) :
    ∃ m, OnSchedule t s h (n + m) (fired ++ more) q := by
  by_cases hex : ∃ r ∈ p.requests, r.handle = h
  · obtain ⟨r, hr, rfl⟩ := hex
    obtain ⟨hspec, hexp⟩ := hs.next r hr rfl
    have hro : r.oneShot = false := by
      have := congrArg TimerSpec.oneShot hspec
      exact this.trans ho
    have hrd : r.duration = Nanos.clamp s.duration := congrArg TimerSpec.duration hspec
    obtain ⟨hnow, -⟩ := hserve.recurs hr hro
    refine ⟨TimerRequest.timesDue now r, ?_, ?_, ?_⟩
    · rw [timesOf_append, hs.times, hserve.timesOf_eq hnow hr, dueTimes, List.range_add,
        List.map_append, List.map_map]
      refine congrArg _ (List.map_congr_left fun k hk => ?_)
      -- something is due, so the next firing was still within the clock's range
      have hlt : ¬ now < r.expiration := by
        intro hlt
        rw [timesDue_of_lt hlt] at hk
        cases List.mem_range.1 hk
      have he : r.expiration = t + (n + 1) * Nanos.clamp s.duration := by
        simp only [Nanos.after] at hexp
        omega
      simp only [Function.comp_apply, he, hrd, Nat.add_mul]
      omega
    · intro f hf hh
      rcases List.mem_append.1 hf with hf | hf
      · exact hs.spec f hf hh
      · obtain ⟨a, ha, hah, has, -⟩ := hserve.origin f hf
        rw [← has, hp.eq_of_handle ha hr (hah.trans hh), hspec]
    · intro a ha hh
      obtain ⟨b, hb, hbh, hbs, hbe⟩ := hserve.moved hr hro
      obtain rfl := hserve.coherent.eq_of_handle ha hb (hh.trans hbh.symm)
      refine ⟨hbs.trans hspec, ?_⟩
      rw [hbe, hexp, hrd, Serves.after_after, ← Nat.add_mul]
      congr 2
      omega
  · have hno : ∀ r ∈ p.requests, r.handle ≠ h := fun r hr e => hex ⟨r, hr, e⟩
    have hmore : ∀ f ∈ more, f.handle ≠ h := by
      intro f hf e
      obtain ⟨r, hr, hh, -⟩ := hserve.origin f hf
      exact hno r hr (hh.trans e)
    refine ⟨0, ?_, ?_, ?_⟩
    · rw [timesOf_append, timesOf_eq_nil hmore, List.append_nil, hs.times, Nat.add_zero]
    · intro f hf hh
      rcases List.mem_append.1 hf with hf | hf
      · exact hs.spec f hf hh
      · exact absurd hh (hmore f hf)
    · intro a ha hh
      obtain ⟨r, hr, hrh, -⟩ := hserve.remains a ha
      exact absurd (hrh.trans hh) (hno r hr)

end

theorem snoc_eq_split {α : Type} {past before after : List α} {x a : α}
    (h : past ++ [x] = before ++ a :: after) :
    (after = [] ∧ past = before ∧ x = a) ∨
      ∃ rest, after = rest ++ [x] ∧ past = before ++ a :: rest := by
  rcases List.eq_nil_or_concat after with rfl | ⟨rest, y, rfl⟩
  · obtain ⟨h₁, h₂⟩ := List.append_inj' h rfl
    exact .inl ⟨rfl, h₁, List.singleton_inj.1 h₂⟩
  · have h' : past ++ [x] = (before ++ a :: rest) ++ [y] := by simpa using h
    obtain ⟨h₁, h₂⟩ := List.append_inj' h' rfl
    obtain rfl := List.singleton_inj.1 h₂
    exact .inr ⟨rest, List.concat_eq_append, h₁⟩

/-- A recurring timer stays on schedule from when it was set, as long as its handle is not given to
another. -/
theorem Run.onSchedule {limits : TimerLimits} {past before after : List Happening} {now t : Nat}
    {p : TimerPool} {s : TimerSpec} {h : TimerHandle} (hr : Run limits past now p)
    (hpast : past = before ++ .set t s h :: after) (ho : s.oneShot = false)
    (hno : ∀ x ∈ after, x.sets h = false) : ∃ n, OnSchedule t s h n (firedIn after) p := by
  induction hr generalizing after with
  | start _ => simp at hpast
  | wait _ _ _ ih => exact ih hpast hno
  | @set past now p q s' h' hr hs ih =>
    have ha := set_eq_ok hr.coherent hs
    rcases snoc_eq_split hpast with ⟨rfl, -, he⟩ | ⟨rest, rfl, hrest⟩
    · cases he
      refine ⟨0, rfl, by simp [firedIn], ?_⟩
      intro r hm hh
      rcases ha.mem.1 hm with rfl | hm
      · refine ⟨rfl, ?_⟩
        rw [Nat.zero_add, Nat.one_mul]
        rfl
      · exact absurd hh (ha.fresh r hm)
    · obtain ⟨hno, hx⟩ := List.forall_mem_append.1 hno
      obtain ⟨n, hn⟩ := ih hrest hno
      rw [firedIn_snoc, Happening.fired, List.append_nil]
      refine ⟨n, hn.of_subset fun r hm hh => ?_⟩
      rcases ha.mem.1 hm with rfl | hm
      · have hne : (h' == h) = false := hx _ List.mem_cons_self
        exact absurd hh (beq_eq_false_iff_ne.1 hne)
      · exact hm
  | cancel hr hc ih =>
    rcases snoc_eq_split hpast with ⟨-, -, he⟩ | ⟨rest, rfl, hrest⟩
    · cases he
    · obtain ⟨n, hn⟩ := ih hrest (List.forall_mem_append.1 hno).1
      rw [firedIn_snoc, Happening.fired, List.append_nil]
      exact ⟨n, hn.of_subset fun r hm _ => ((cancel?_eq_some hr.coherent hc).2.mem.1 hm).1⟩
  | @cancelAll past now p owner hr ih =>
    rcases snoc_eq_split hpast with ⟨-, -, he⟩ | ⟨rest, rfl, hrest⟩
    · cases he
    · obtain ⟨n, hn⟩ := ih hrest (List.forall_mem_append.1 hno).1
      rw [firedIn_snoc, Happening.fired, List.append_nil]
      refine ⟨n, hn.of_subset fun r hm _ => ?_⟩
      exact ((cancelAllOwnedBy_sheds hr.coherent now owner).2.mem.1 hm).1
  | tick hr ht ih =>
    rcases snoc_eq_split hpast with ⟨-, -, he⟩ | ⟨rest, rfl, hrest⟩
    · cases he
    · obtain ⟨n, hn⟩ := ih hrest (List.forall_mem_append.1 hno).1
      obtain ⟨q', hserve, rfl⟩ := tick?_eq_some hr.coherent ht
      obtain ⟨m, hm⟩ := hn.tick hr.coherent ho hserve
      rw [firedIn_snoc, Happening.fired]
      exact ⟨n + m, hm.of_subset fun r hr _ => hr⟩
  | alarm _ ht ih =>
    obtain rfl := takeAlarm?_eq_some ht
    obtain ⟨n, hn⟩ := ih hpast hno
    exact ⟨n, hn.of_subset fun r hr _ => hr⟩
  | lose _ ih =>
    obtain ⟨n, hn⟩ := ih hpast hno
    exact ⟨n, hn.of_subset fun r hr _ => hr⟩

/-- Every tick of a reachable pool fires exactly what it should, and over a whole run a recurring
timer fires at the multiples of its period after it was set. -/
theorem firing_exact_and_drift_free {limits : TimerLimits} {past : List Happening} {now : Nat}
    {p : TimerPool} (hr : Run limits past now p) :
    (now < Nanos.last → ∃ fired q, p.tick? now = some (fired, q) ∧ FiresExactly now p fired q ∧
      ∀ {A R : Type} (hub : Hub A R), hub.timers = p → hub.now = now →
        Hub.tick hub = (do
          Hub.setTimers q
          fired.forM Hub.postExpiry
          return fired.length : HubM A R Nat) hub) ∧
    ∀ before t s h after, past = before ++ .set t s h :: after → s.oneShot = false →
      (∀ x ∈ after, x.sets h = false) → ∃ n,
        timesOf h (firedIn after) =
          (List.range n).map (fun i => t + (i + 1) * Nanos.clamp s.duration) ∧
        (∀ f ∈ firedIn after, f.handle = h →
          f.toTimerSpec = { s with duration := Nanos.clamp s.duration }) ∧
        ∀ r ∈ p.requests, r.handle = h →
          r.expiration = min (t + (n + 1) * Nanos.clamp s.duration) Nanos.last := by
  constructor
  · intro hnow
    obtain ⟨fired, q, ht, hf⟩ := tick?_firesExactly hr.coherent hnow
    refine ⟨fired, q, ht, hf, ?_⟩
    rintro A R hub rfl rfl
    have hget (f : Hub A R → HubM A R Nat) : (get >>= f) hub = f hub hub := rfl
    rw [Hub.tick, hget, ht]
  · intro before t s h after hpast ho hno
    obtain ⟨n, hn⟩ := hr.onSchedule hpast ho hno
    exact ⟨n, hn.times, hn.spec, fun r hm hh => (hn.next r hm hh).2⟩

/-- A timer with period 10, set at 0 and served for the first time at 35. -/
theorem late_tick_catches_up :
    ∃ fired p, Run {} [.set 0 { owner := ⟨1⟩, duration := 10, oneShot := false } ⟨0⟩, .tick 35 fired]
        35 p ∧ timesOf ⟨0⟩ fired = [10, 20, 30] ∧
      ∃ n, timesOf ⟨0⟩ (firedIn [.tick 35 fired]) =
        (List.range n).map (fun i => 0 + (i + 1) * Nanos.clamp 10) := by
  obtain ⟨fired, p, hrun, htimes⟩ :
      ∃ fired p, Run {} (([] ++ [.set 0 { owner := ⟨1⟩, duration := 10, oneShot := false } ⟨0⟩]) ++
        [.tick 35 fired]) 35 p ∧ timesOf ⟨0⟩ fired = [10, 20, 30] :=
    ⟨_, _, .tick (.wait (.set (.start (Nat.zero_le _)) rfl) (Nat.zero_le 35) (by decide)) rfl, rfl⟩
  obtain ⟨n, hn, -⟩ := (firing_exact_and_drift_free hrun).2 [] 0 _ _ [.tick 35 fired] rfl rfl
    (by simp [Happening.sets])
  exact ⟨fired, p, hrun, htimes, n, hn⟩

end ContextHub.TimerPool
