import ContextHub.Proofs.Timer.History
/-!
# Which ticks end

A tick takes out what is due and puts the recurring requests back, so it ends only if they move past
the clock's reading. Before the end of time they do, and the number of firings is known beforehand.
At the end of time they cannot: expirations stop at `Nanos.last`, and a request that comes back
there is due at once. A pool that then holds a recurring timer, due or not yet due, is never done.
-/

namespace ContextHub

namespace TimerPool

/-- A tick that ends fires as often as anything falls due. -/
theorem Serves.length_eq {now : Nat} {p q : TimerPool} {fired : List TimerRequest}
    (h : Serves now p fired q) (he : p.Exhaustible now) : fired.length = p.work now := by
  induction h with
  | @rest p hp hlt =>
    have hwork : ∀ r ∈ p.requests, TimerRequest.timesDue now r = 0 :=
      fun r hr => timesDue_of_lt (hlt r hr)
    rw [work, List.map_eq_replicate_iff.2 hwork, List.length_nil]
    induction p.requests.length with
    | zero => rfl
    | succ n ih => rw [List.replicate_succ, List.foldr_cons, ← ih]
  | @serve p q r rest fired hp hl hd _ ih =>
    rw [List.length_cons, ih (he.renew hp hl), work_renew hp hl he hd]

/-- Whatever a tick comes to the end of could be exhausted. -/
theorem Serves.exhaustible {now : Nat} {p q : TimerPool} {fired : List TimerRequest}
    (h : Serves now p fired q) : p.Exhaustible now := by
  by_cases hall : ∀ r ∈ p.requests, r.oneShot = true
  · exact .inr hall
  · obtain ⟨r, hr, ho⟩ : ∃ r ∈ p.requests, r.oneShot = false := by simpa using hall
    exact .inl (h.recurs hr ho).1

theorem length_lt_of_collect {now fuel : Nat} {p q : TimerPool} {fired : List TimerRequest}
    (h : collect now fuel p = some (fired, q)) : fired.length < fuel := by
  induction fuel generalizing p fired with
  | zero => cases h
  | succ fuel ih =>
    simp only [collect] at h
    split at h
    · obtain ⟨rfl, rfl⟩ := Prod.mk.inj (Option.some.inj h)
      exact Nat.zero_lt_succ fuel
    · obtain ⟨c, hc, he⟩ := Option.map_eq_some_iff.1 h
      obtain ⟨rfl, rfl⟩ := Prod.mk.inj he
      exact Nat.succ_lt_succ (ih hc)

/-- What is enough to come to the end, if there is one. -/
theorem collect_isSome_iff {now fuel : Nat} {p : TimerPool} (hp : p.Coherent) :
    (collect now fuel p).isSome = true ↔ p.Exhaustible now ∧ p.work now < fuel := by
  constructor
  · intro h
    obtain ⟨⟨fired, q⟩, hc⟩ := Option.isSome_iff_exists.1 h
    have hserve := serves_of_collect hp hc
    have he := hserve.exhaustible
    exact ⟨he, hserve.length_eq he ▸ length_lt_of_collect hc⟩
  · rintro ⟨he, hf⟩
    exact collect_isSome hp he hf

/-- A tick of the pool finds its end whenever there is one. -/
theorem tick?_isSome_iff {now : Nat} {p : TimerPool} (hp : p.Coherent) :
    (p.tick? now).isSome = true ↔ p.Exhaustible now := by
  rw [tick?, Option.isSome_map, collect_isSome_iff hp, tickFuel_eq]
  exact and_iff_left (Nat.lt_succ_self _)

/-! ## The hub's tick -/

section

variable {A R : Type} {hub : Hub A R}

theorem tick_of_some {fired : List TimerRequest} {q : TimerPool}
    (h : hub.timers.tick? hub.now = some (fired, q)) :
    Hub.tick hub = (do
      Hub.setTimers q
      fired.forM Hub.postExpiry
      return fired.length : HubM A R Nat) hub := by
  have hget (f : Hub A R → HubM A R Nat) : (get >>= f) hub = f hub hub := rfl
  rw [Hub.tick, hget, h]

theorem tick_of_none (h : hub.timers.tick? hub.now = none) :
    Hub.tick hub = .error .endless hub := by
  have hget (f : Hub A R → HubM A R Nat) : (get >>= f) hub = f hub hub := rfl
  rw [Hub.tick, hget, h]
  rfl

end

/-- A recurring timer in a pool at the end of time: no number of requests is all that is due. -/
theorem collect_eq_none {now : Nat} {p : TimerPool} (hp : p.Coherent) {r : TimerRequest}
    (hr : r ∈ p.requests) (ho : r.oneShot = false) (hnow : Nanos.last ≤ now) (n : Nat) :
    collect now n p = none := by
  rw [← Option.not_isSome_iff_eq_none, collect_isSome_iff hp]
  rintro ⟨hlt | hall, -⟩
  · exact absurd hlt (Nat.not_lt.2 hnow)
  · exact absurd ((hall r hr).symm.trans ho) (by decide)

/-- The loop of a tick is done within `n` rounds exactly if nothing in the pool can fall due for
ever and `n` goes past what is due; then everything due has fired, as often as it was due. Otherwise
no number of rounds is enough, and the hub's tick gives no result. -/
theorem tick_ends_iff_exhaustible {limits : TimerLimits} {p : TimerPool}
    (hr : Reachable limits p) (now : Nat) :
    (∀ n, (collect now n p).isSome = true ↔ p.Exhaustible now ∧ p.work now < n) ∧
    (p.Exhaustible now → ∃ fired q, p.tick? now = some (fired, q) ∧ fired.length = p.work now ∧
      (∀ r ∈ q.requests, now < r.expiration) ∧
      ∀ {A R : Type} (hub : Hub A R), hub.timers = p → hub.now = now →
        Hub.tick hub = (do
          Hub.setTimers q
          fired.forM Hub.postExpiry
          return fired.length : HubM A R Nat) hub) ∧
    (¬ p.Exhaustible now → ∀ {A R : Type} (hub : Hub A R), hub.timers = p → hub.now = now →
      Hub.tick hub = .error .endless hub) := by
  have hp := hr.coherent
  refine ⟨fun n => collect_isSome_iff hp, ?_, ?_⟩
  · intro he
    obtain ⟨⟨fired, q⟩, ht⟩ := Option.isSome_iff_exists.1 ((tick?_isSome_iff hp).2 he)
    obtain ⟨q', hserve, rfl⟩ := tick?_eq_some hp ht
    refine ⟨fired, q'.rearm now, ht, hserve.length_eq he, hserve.remaining, ?_⟩
    rintro A R hub rfl rfl
    exact tick_of_some ht
  · rintro he A R hub rfl rfl
    have hnone : ¬ (hub.timers.tick? hub.now).isSome = true := mt (tick?_isSome_iff hp).1 he
    exact tick_of_none (by simpa using hnone)

/-- A recurring timer of half of all time, set at 0. -/
def halfOfTime : TimerSpec := { owner := ⟨1⟩, duration := 9223372036854775808, oneShot := false }

theorem halfOfTime_granted :
    ∃ h p r, (empty {}).set 0 halfOfTime = .ok (h, p) ∧ Reachable {} p ∧ p.requests = [r] ∧
      r.oneShot = false ∧ p.work (Nanos.last - 1) = 1 :=
  have hs := (rfl : (empty {}).set 0 halfOfTime = .ok _)
  ⟨_, _, _, hs, .set .start hs, rfl, rfl, by decide⟩

/-- The timer of half of all time fires once in a tick just before the end, and a tick at the end
does not come to one. -/
theorem half_of_time_ends_before_last :
    ∃ p, Reachable {} p ∧
      (collect (Nanos.last - 1) 2 p).isSome = true ∧
      ¬ (collect (Nanos.last - 1) 1 p).isSome = true ∧
      ¬ (collect Nanos.last 2 p).isSome = true := by
  obtain ⟨-, p, r, -, hr, hl, ho, hwork⟩ := halfOfTime_granted
  have before := (tick_ends_iff_exhaustible hr (Nanos.last - 1)).1
  rw [hwork] at before
  refine ⟨p, hr, ?_, ?_, ?_⟩
  · exact (before 2).2 ⟨.inl (by decide), by decide⟩
  · exact fun h => Nat.lt_irrefl 1 ((before 1).1 h).2
  · intro h
    rcases (((tick_ends_iff_exhaustible hr Nanos.last).1 2).1 h).1 with hlt | hall
    · exact Nat.lt_irrefl _ hlt
    · exact absurd ((hall r (hl ▸ List.mem_cons_self)).symm.trans ho) (by decide)

/-- A clock that is moved on by all of time stands at its end, and there the loop takes the timer of
half of all time out and puts it back for ever. -/
theorem last_tick_never_ends :
    ∃ h p, (empty {}).set 0 halfOfTime = .ok (h, p) ∧ Reachable {} p ∧
      ∀ n, collect (Nanos.after 0 Nanos.last) n p = none := by
  obtain ⟨h, p, r, hs, hr, hl, ho, -⟩ := halfOfTime_granted
  exact ⟨h, p, hs, hr, collect_eq_none hr.coherent (hl ▸ List.mem_cons_self) ho (Nat.le_refl _)⟩

end TimerPool

end ContextHub
