import ContextHub.Proofs.Demo.Loading
/-!
# The demo loses nothing

From one alarm to the next the demo's tasks are paid from the allowance, so the queue runs empty
before the next alarm, which is later. A run of the demo comes to its end, whatever the faults, and
what it counted as lost is nothing.
-/

namespace ContextHub.Demo

open Hub TimerPool

variable {total : Nat} {h : DemoHub}

/-! ## Tasks -/

/-- A task that is processed leaves less to pay for. -/
theorem Poised.runOnce (hp : Poised total h) {t : Task} {q : Queue}
    (hn : h.queue.next? = some (t, q)) :
    ∃ less h', less < total ∧ runOnce h = .ok true h' ∧ Poised less h' := by
  have hqueue : Affords total 0 h.queue := hp.steady.queue
  have hpaid := (hqueue.take hn).1.paid
  have hcost := cost_pos t
  obtain ⟨less, rfl⟩ := Nat.exists_eq_add_of_le' (show 1 ≤ total by omega)
  have hrun : Ends Hub.runOnce h (fun b h' => b = true ∧ Hosts (less + 1) 1 h')
      (fun _ _ => False) := by
    unfold Hub.runOnce
    rw [ends_bind, ends_get, hn]
    refine ends_bind.2 (ends_set.2 ((process_hosts hp hn).bind ?_))
    exact fun _ h' hh => ⟨rfl, hh⟩
  obtain ⟨_, h', hr, rfl, hh⟩ := hrun.exists_ok
  exact ⟨less, h', Nat.lt_succ_self less, hr, hh.poised ((runOnce_prompt h).ok hr hp.prompt)⟩

/-- The queue runs empty. -/
theorem Poised.drains (hp : Poised total h) :
    ∃ stops less h', Drains h stops h' ∧ Poised less h' := by
  induction total using Nat.strongRecOn generalizing h with
  | _ total ih =>
    cases hn : h.queue.next? with
    | none => exact ⟨[], total, h, .rest hn, hp⟩
    | some tq =>
      obtain ⟨less, h₁, hlt, hr, hp₁⟩ := hp.runOnce hn
      obtain ⟨stops, less', h', hs, hp'⟩ := ih less hlt hp₁
      exact ⟨h :: stops, less', h', .task hr hs, hp'⟩

/-! ## Alarms -/

/-- The next alarm is later, before the end of time, and sets a tick off. -/
theorem Poised.serveAlarm (hp : Poised total h) (hidle : h.queue.tasks = []) {t : Nat}
    (ht : h.timers.alarm = some t) :
    ∃ h', serveAlarm (h.clockedTo t) = .ok () h' ∧ Poised allowance h' ∧ h.now < t := by
  have hahead := hp.ahead.resolve_left (by simp [hidle])
  obtain ⟨f, hf, hlast, hle, hge⟩ := hp.prompt.covers t ht
  obtain ⟨r, hr, rfl⟩ := Option.map_eq_some_iff.1 hf
  have hfront := hahead r (List.mem_of_head? hr)
  have htimely := hp.prompt.coherent.timely r (List.mem_of_head? hr)
  have hnow : h.now < t := by omega
  have hearly : t < Nanos.last := by omega
  have hclocked := hp.prompt.clockedTo (Nat.le_of_lt hearly) (hp.prompt.alarm_le ht)
  have hqueue : Affords total 0 h.queue := hp.steady.queue
  have hpaid : Affords allowance (0 + cost (.deferred .timerTick)) h.queue := by
    refine { hqueue with paid := ?_, allowed := Nat.le_refl _ }
    rw [hidle]
    exact Nat.le_refl _
  have hserve : Ends Hub.serveAlarm (h.clockedTo t) (fun _ h' =>
      ∃ q stops trace, h' = { h.clockedTo t with
        queue := q, timers := { h.timers with hardware := .off }, deadlines := stops, trace } ∧
      Affords allowance 0 q ∧ q.tasks = h.queue.tasks ++ [.deferred .timerTick])
      (fun _ _ => False) := by
    have htake : (h.clockedTo t).timers.takeAlarm? (h.clockedTo t).now =
        some { h.timers with hardware := .off } :=
      takeAlarm?_of_due ht (Nat.le_max_right _ _)
    unfold Hub.serveAlarm fireIfDue
    rw [ends_bind, ends_bind, ends_get, htake]
    refine ends_bind.2 (ends_modify.2 (ends_bind.2 ?_))
    have hdefer := deferOrDie_affords (c := .timerTick)
      (h := { h.clockedTo t with timers := { h.timers with hardware := .off } }) 0 hpaid trivial
      fun _ _ _ => rfl
    refine hdefer.mono ?_ fun _ _ he => he
    rintro _ _ ⟨q, rfl, hafford, htasks⟩
    exact ⟨q, _, _, rfl, hafford, htasks⟩
  obtain ⟨_, h', hr, q, stops, trace, rfl, hafford, htasks⟩ := hserve.exists_ok
  refine ⟨_, hr, ⟨hp.atHand, ?_, ?_, (serveAlarm_prompt _).ok hr hclocked, .inl ?_⟩, hnow⟩
  · refine { hp.steady with queue := hafford, census := hp.steady.census.hush .off, early := ?_ }
    show max h.now t < Nanos.last
    omega
  · refine hp.linked.queued ?_
    show told q.tasks = _
    rw [htasks, hidle]
    rfl
  · show _ ∈ q.tasks
    rw [htasks]
    exact List.mem_append_right _ List.mem_cons_self

/-- All alarms up to an instant are served. -/
theorem Poised.rounds (hp : Poised total h) (hidle : h.queue.next? = none) (until_ : Nat) :
    ∃ stops less h', Rounds until_ h stops h' ∧ Poised less h' := by
  induction hn : until_ - h.now using Nat.strongRecOn generalizing total h with
  | _ n ih =>
    cases hd : h.dueBy? until_ with
    | none => exact ⟨[], total, h, .rest hd, hp⟩
    | some t =>
      obtain ⟨halarm, hle⟩ := dueBy?_eq_some.1 hd
      obtain ⟨h₁, hserve, hp₁, hlt⟩ := hp.serveAlarm (next?_eq_none hidle) halarm
      obtain ⟨stops, less, h₂, hs, hp₂⟩ := hp₁.drains
      have hnow : h₂.now = t := by
        rw [hs.now, (serveAlarm_timeless _).ok hserve]
        exact Nat.max_eq_right (Nat.le_of_lt hlt)
      obtain ⟨more, less', h', hr, hp'⟩ := ih (until_ - h₂.now) (by omega) hp₂ hs.idle rfl
      exact ⟨stops ++ more, less', h', .round hd hserve hs hr, hp'⟩

/-! ## Runs -/

theorem loadAll_obeys {L : Law DemoApp Stations} (hL : L.Works)
    (l : List (AppId × Permissions × DemoApp)) : Obeys L (loadAll l) := by
  induction l with
  | nil => exact .pure _
  | cons a l ih =>
    refine .bind (hL.load_obeys _ _ _) fun r => ?_
    cases r with
    | error => exact .pure _
    | ok => exact ih

/-- The demo is loaded and ready to run. -/
theorem loaded_poised (seed : Nat) (chaos : ChaosConfig) (hn : chaos.nack ≠ .notANumber)
    (hd : chaos.drop ≠ .notANumber) :
    ∃ h₁ h, initialise (start {} seed chaos) = .ok () h₁ ∧ loadAll apps h₁ = .ok (.ok ()) h ∧
      h.now = 0 ∧ Poised 3 h := by
  obtain ⟨_, h₁, hinit, hr₁, hm₁⟩ := (initialise_ready seed hn hd).exists_ok
  obtain ⟨_, h, hload, rfl, hh⟩ := (loadAll_ready hr₁ hm₁).exists_ok
  have hprompt₁ : h₁.Prompt := (Simulated.start hinit).prompt
  have hprompt := (loadAll_obeys prompt_dispatches.toWorks apps h₁).ok hload hprompt₁
  have hnow₁ := (timeless_dispatches.powers.initialise_obeys _).ok hinit
  have hnow := (loadAll_obeys timeless_dispatches.toWorks apps h₁).ok hload
  have hh : Hosts (3 + 16) 16 h := hh
  exact ⟨h₁, h, hinit, hload, hnow.trans hnow₁, hh.poised hprompt⟩

theorem ofBinary64_ne_notANumber {b : Binary64} (hb : b ≠ .notANumber) :
    Chance.ofBinary64 b ≠ .notANumber := by
  unfold Chance.ofBinary64
  split
  · exact absurd rfl hb
  · split <;> exact Chance.noConfusion
  · exact Chance.noConfusion
  · unfold Chance.ofRatio
    dsimp only
    split <;> exact Chance.noConfusion

/-- At the end of the demo there is only the log to write. -/
theorem run_eq_ok {config : Config} {seed duration fuel n : Nat} {chaos : ChaosConfig}
    {h₁ h₂ : DemoHub} (hinit : initialise (start config seed chaos) = .ok () h₁)
    (hload : loadAll apps h₁ = .ok (.ok ()) h₂) (hrun : advance fuel duration h₂ = .ok n h) :
    run fuel config seed chaos duration = .ok (.ok ()) { h with
      log := ⟨.info, "Simulation finished", [("seed", toString seed),
        ("virtual_time_ns", toString h.now), ("digest", h.trace.digest)]⟩ :: h.log } := by
  refine bind_eq_ok.2 ⟨(), h₁, hinit, bind_eq_ok.2 ⟨.ok (), h₂, hload, ?_⟩⟩
  exact bind_eq_ok.2 ⟨n, h, hrun, rfl⟩

/-- Whatever the seed, the chances of faults, if they are numbers, and the span of virtual time: the
demo comes to its end at the end of the span, or of time, and up to then no event was dropped and no
expiry lost. The queue ends empty, and it was never full. -/
theorem demo_loses_nothing (seed duration : Nat) {nack drop : Binary64} (hn : nack ≠ .notANumber)
    (hd : drop ≠ .notANumber) : ∃ bound h,
    (∀ fuel, bound ≤ fuel → run fuel {} seed
      { nack := .ofBinary64 nack, drop := .ofBinary64 drop } duration = .ok (.ok ()) h) ∧
    h.now = min duration Nanos.last ∧ h.stats.dropped = 0 ∧ h.timers.lost = 0 ∧
    h.queue.tasks = [] ∧ h.queue.capacity = 96 ∧ h.queue.deepest < h.queue.capacity := by
  obtain ⟨h₁, h₂, hinit, hload, hnow, hp⟩ := loaded_poised seed
    { nack := .ofBinary64 nack, drop := .ofBinary64 drop }
    (ofBinary64_ne_notANumber hn) (ofBinary64_ne_notANumber hd)
  have hspan : Nanos.after h₂.now duration = min duration Nanos.last := by
    rw [hnow, Nanos.after, Nat.zero_add]
  obtain ⟨before, less, h₃, hb, hp₃⟩ := hp.drains
  obtain ⟨served, less', h₄, hr, hp₄⟩ := hp₃.rounds hb.idle (min duration Nanos.last)
  obtain ⟨bound, hadvance⟩ := (Passes.of_rounds hspan hb hr).advance_eq_ok
  have hlate : h₄.now ≤ min duration Nanos.last := by
    apply hr.now_le
    rw [hb.now, hnow]
    exact Nat.zero_le _
  have hqueue : Affords less' 0 h₄.queue := hp₄.steady.queue
  refine ⟨bound, _, fun fuel hfuel => run_eq_ok hinit hload (hadvance fuel hfuel), ?_⟩
  refine ⟨?_, ?_, ?_, ?_, hqueue.capacity, ?_⟩
  · exact Nat.max_eq_right hlate
  · exact hp₄.steady.dropped
  · exact hp₄.steady.census.lost
  · exact next?_eq_none (hr.idle hb.idle)
  · have hdeepest : h₄.queue.deepest ≤ 19 := hqueue.deepest
    have hcapacity : h₄.queue.capacity = 96 := hqueue.capacity
    show h₄.queue.deepest < h₄.queue.capacity
    omega

/-- A minute in which every request is refused, with a chance below zero that an answer is lost. -/
theorem demo_of_refusals_loses_nothing : Binary64.infinite false ≠ .notANumber ∧
    Binary64.finite true 1 0 ≠ .notANumber ∧ ∃ bound h,
    (∀ fuel, bound ≤ fuel → run fuel {} 7
      { nack := .ofBinary64 (.infinite false), drop := .ofBinary64 (.finite true 1 0) }
      60000000000 = .ok (.ok ()) h) ∧
    h.now = 60000000000 ∧ h.stats.dropped = 0 ∧ h.timers.lost = 0 ∧
    h.queue.tasks = [] ∧ h.queue.capacity = 96 ∧ h.queue.deepest < h.queue.capacity :=
  ⟨by decide, by decide, demo_loses_nothing 7 60000000000 (by decide) (by decide)⟩

end ContextHub.Demo
