import ContextHub.Proofs.Hub.Expiries
import ContextHub.Proofs.Hub.Workings
import ContextHub.Simulation.World
/-!
# The passage of virtual time

What `advance` does, told without a bound on its loops: tasks are processed until none is left
(`Drains`), and rounds follow, each from one alarm to the next (`Rounds`). `advance` returns under
some bound exactly if this comes to an end (`elapses_iff`). No task moves the clock, so a stop on
the way, at an instant for which no alarm is set, makes no difference.
-/

namespace ContextHub.Hub

variable {A R α β : Type}

theorem bind_eq_ok {m : HubM A R α} {f : α → HubM A R β} {h h' : Hub A R} {b : β} :
    (m >>= f) h = .ok b h' ↔ ∃ a h₁, m h = .ok a h₁ ∧ f a h₁ = .ok b h' := by
  simp only [bind, EStateM.bind]
  cases m h <;> simp

/-! ## The clock -/

/-- The clock of a hub is moved to an instant that is not past. -/
def clockedTo (h : Hub A R) (t : Nat) : Hub A R := { h with now := max h.now t }

theorem clockedTo_clockedTo (h : Hub A R) {s t : Nat} (hst : s ≤ t) :
    (h.clockedTo s).clockedTo t = h.clockedTo t := by
  have hmax : max (max h.now s) t = max h.now t := by omega
  simp only [clockedTo, hmax]

theorem dueBy?_eq_some {h : Hub A R} {until_ t : Nat} :
    h.dueBy? until_ = some t ↔ h.timers.alarm = some t ∧ t ≤ until_ := by
  simp [dueBy?, Option.filter_eq_some_iff]

theorem dueBy?_eq_none {h : Hub A R} {until_ : Nat} :
    h.dueBy? until_ = none ↔ ∀ t, h.timers.alarm = some t → until_ < t := by
  simp [dueBy?, Option.filter_eq_none_iff]

/-- The clock stays where it is. -/
def timeless : Law A R where
  rel h h' := h'.now = h.now
  halts _ _ _ := True
  refl _ := rfl
  trans h h' := h'.trans h
  halts_of_rel _ _ := trivial

theorem tryPost_timeless (e : Event) : Obeys timeless (tryPost e : HubM A R _) := by
  intro h
  unfold tryPost
  rw [ends_bind, ends_get]
  split <;> exact rfl

theorem timeless_dispatches [Radio R] : (timeless : Law A R).Dispatches := by
  have hposts : (timeless : Law A R).Posts := by
    refine ⟨fun hb => hb.now, fun _ _ => trivial, fun e _ => tryPost_timeless e, fun c h => ?_⟩
    unfold defer
    rw [ends_bind, ends_get]
    split <;> exact rfl
  have htimes : (timeless : Law A R).Times :=
    hposts.times (fun _ _ => rfl) (fun _ _ _ => rfl)
      (hposts.discard_obeys (fun _ _ => rfl) fun _ _ => rfl)
  have hoverlooks : (timeless : Law A R).Overlooks := ⟨htimes, fun hb => hb.now⟩
  exact ⟨hoverlooks.works, fun _ _ _ _ => rfl⟩

variable [Behaviour A] [Radio R]

/-- Tasks are processed from `h` until none is left, at `h'`; they are taken at `stops`. -/
inductive Drains : Hub A R → List (Hub A R) → Hub A R → Prop
  | rest {h : Hub A R} (hq : h.queue.next? = none) : Drains h [] h
  | task {h h₁ h' : Hub A R} {stops : List (Hub A R)} (hr : runOnce h = .ok true h₁)
      (hs : Drains h₁ stops h') : Drains h (h :: stops) h'

/-- Alarms up to `until_` are served from `h` to `h'`; tasks are taken at `stops`. -/
inductive Rounds (until_ : Nat) : Hub A R → List (Hub A R) → Hub A R → Prop
  | rest {h : Hub A R} (hd : h.dueBy? until_ = none) : Rounds until_ h [] h
  | round {h h₁ h₂ h' : Hub A R} {t : Nat} {stops more : List (Hub A R)}
      (hd : h.dueBy? until_ = some t) (ha : serveAlarm (h.clockedTo t) = .ok () h₁)
      (hs : Drains h₁ stops h₂) (hr : Rounds until_ h₂ more h') :
      Rounds until_ h (stops ++ more) h'

/-- Time passes for `d` from `h` to `h'`; tasks are taken at `stops`. -/
inductive Passes (d : Nat) (h : Hub A R) : List (Hub A R) → Hub A R → Prop
  | intro {h₁ h₂ h' : Hub A R} {before served after : List (Hub A R)}
      (hb : Drains h before h₁) (hr : Rounds (Nanos.after h.now d) h₁ served h₂)
      (ha : Drains (h₂.clockedTo (Nanos.after h.now d)) after h') :
      Passes d h (before ++ served ++ after) h'

/-- Under some bound on its loops, `advance` returns. -/
def Elapses (d : Nat) (h : Hub A R) (n : Nat) (h' : Hub A R) : Prop :=
  ∃ fuel, advance fuel d h = .ok n h'

/-! ## Tasks -/

theorem runOnce_idle {h : Hub A R} (hq : h.queue.next? = none) : runOnce h = .ok false h := by
  refine bind_eq_ok.2 ⟨h, h, rfl, ?_⟩
  rw [hq]
  rfl

theorem runOnce_eq_false {h h' : Hub A R} (hr : runOnce h = .ok false h') :
    h.queue.next? = none ∧ h' = h := by
  cases hq : h.queue.next? with
  | none =>
    rw [runOnce_idle hq] at hr
    exact ⟨rfl, (EStateM.Result.ok.inj hr).2.symm⟩
  | some tq =>
    obtain ⟨_, h₀, hget, hr⟩ := bind_eq_ok.1 hr
    cases hget
    rw [hq] at hr
    obtain ⟨_, _, _, hr⟩ := bind_eq_ok.1 hr
    obtain ⟨_, _, _, hr⟩ := bind_eq_ok.1 hr
    cases hr

theorem runOnce_timeless : Obeys timeless (runOnce : HubM A R Bool) :=
  timeless_dispatches.runOnce_obeys
    (timeless_dispatches.tick_obeys (fun _ _ => rfl) tryPost_timeless) fun _ _ _ _ => rfl

theorem drain_eq_ok {fuel done n : Nat} {h h' : Hub A R} : drain fuel done h = .ok n h' ↔
    ∃ stops, Drains h stops h' ∧ n = done + stops.length ∧ stops.length < fuel := by
  induction fuel generalizing done h with
  | zero =>
    constructor
    · intro hr
      cases hr
    · rintro ⟨_, _, _, hlt⟩
      exact absurd hlt (Nat.not_lt_zero _)
  | succ fuel ih =>
    rw [drain, bind_eq_ok]
    constructor
    · rintro ⟨b, h₁, hr, hd⟩
      cases b with
      | false =>
        obtain ⟨hq, rfl⟩ := runOnce_eq_false hr
        cases hd
        exact ⟨[], .rest hq, rfl, Nat.zero_lt_succ _⟩
      | true =>
        obtain ⟨stops, hs, rfl, hlt⟩ := ih.1 hd
        exact ⟨_ :: stops, .task hr hs, by simp +arith, Nat.succ_lt_succ hlt⟩
    · rintro ⟨stops, hs, rfl, hlt⟩
      cases hs with
      | rest hq => exact ⟨false, _, runOnce_idle hq, rfl⟩
      | @task _ h₁ _ stops hr hs =>
        exact ⟨true, h₁, hr, ih.2 ⟨stops, hs, by simp +arith, Nat.lt_of_succ_lt_succ hlt⟩⟩

namespace Drains

variable {h h' : Hub A R} {stops : List (Hub A R)}

theorem idle (hs : Drains h stops h') : h'.queue.next? = none := by
  induction hs with
  | rest hq => exact hq
  | task _ _ ih => exact ih

theorem now (hs : Drains h stops h') : h'.now = h.now := by
  induction hs with
  | rest => rfl
  | task hr _ ih => exact ih.trans ((runOnce_timeless _).ok hr)

/-- A hub without tasks stays as it is. -/
theorem eq_of_idle (hs : Drains h stops h') (hq : h.queue.next? = none) : stops = [] ∧ h' = h := by
  cases hs with
  | rest => exact ⟨rfl, rfl⟩
  | task hr =>
    rw [runOnce_idle hq] at hr
    cases hr

end Drains

/-! ## Rounds -/

omit [Behaviour A] in
theorem serveAlarm_timeless : Obeys timeless (serveAlarm : HubM A R Unit) :=
  .bind timeless_dispatches.fireIfDue_obeys fun _ =>
    .ite (fun _ => .modify fun _ => rfl) fun _ => .pure _

namespace Rounds

variable {until_ : Nat} {h h' : Hub A R} {stops : List (Hub A R)}

theorem idle (hr : Rounds until_ h stops h') (hq : h.queue.next? = none) :
    h'.queue.next? = none := by
  induction hr with
  | rest => exact hq
  | round _ _ hs _ ih => exact ih hs.idle

theorem undue (hr : Rounds until_ h stops h') : h'.dueBy? until_ = none := by
  induction hr with
  | rest hd => exact hd
  | round _ _ _ _ ih => exact ih

theorem now_le (hr : Rounds until_ h stops h') (hn : h.now ≤ until_) : h'.now ≤ until_ := by
  induction hr with
  | rest => exact hn
  | round hd ha hs _ ih =>
    refine ih ?_
    rw [hs.now, (serveAlarm_timeless _).ok ha]
    exact Nat.max_le.2 ⟨hn, (dueBy?_eq_some.1 hd).2⟩

theorem of_serveAlarms {fuel k done n : Nat} (hr : serveAlarms fuel until_ k done h = .ok n h') :
    ∃ stops, Rounds until_ h stops h' ∧ n = done + stops.length := by
  induction k generalizing done h with
  | zero => cases hr
  | succ k ih =>
    obtain ⟨_, _, hget, hr⟩ := bind_eq_ok.1 hr
    cases hget
    cases hd : h.dueBy? until_ with
    | none =>
      rw [hd] at hr
      cases hr
      exact ⟨[], .rest hd, rfl⟩
    | some t =>
      rw [hd] at hr
      obtain ⟨_, _, hclock, hr⟩ := bind_eq_ok.1 hr
      cases hclock
      obtain ⟨_, h₁, ha, hr⟩ := bind_eq_ok.1 hr
      obtain ⟨more, h₂, hdrain, hr⟩ := bind_eq_ok.1 hr
      obtain ⟨stops, hs, rfl, -⟩ := drain_eq_ok.1 hdrain
      obtain ⟨rest, hrest, rfl⟩ := ih hr
      exact ⟨stops ++ rest, .round hd ha hs hrest, by simp +arith⟩

/-- A bound that is large enough does for all larger ones. -/
theorem serveAlarms_eq_ok (hr : Rounds until_ h stops h') : ∃ least, ∀ fuel k done, least ≤ fuel →
    least ≤ k → serveAlarms fuel until_ k done h = .ok (done + stops.length) h' := by
  induction hr with
  | @rest h hd =>
    refine ⟨1, fun fuel k done _ hk => ?_⟩
    obtain ⟨k, rfl⟩ := Nat.exists_eq_add_of_le' hk
    refine bind_eq_ok.2 ⟨h, h, rfl, ?_⟩
    rw [hd]
    rfl
  | @round h h₁ h₂ h' t stops more hd ha hs _ ih =>
    obtain ⟨least, ih⟩ := ih
    refine ⟨max (least + 1) (stops.length + 1), fun fuel k done hf hk => ?_⟩
    obtain ⟨k, rfl⟩ := Nat.exists_eq_add_of_le' (Nat.le_trans (Nat.le_add_left 1 least)
      (Nat.le_trans (Nat.le_max_left _ _) hk))
    have hdrain : runUntilIdle fuel h₁ = .ok stops.length h₂ :=
      drain_eq_ok.2 ⟨stops, hs, (Nat.zero_add _).symm, by omega⟩
    refine bind_eq_ok.2 ⟨h, h, rfl, ?_⟩
    rw [hd]
    refine bind_eq_ok.2 ⟨(), _, rfl, bind_eq_ok.2 ⟨(), h₁, ha, ?_⟩⟩
    refine bind_eq_ok.2 ⟨_, h₂, hdrain, ?_⟩
    rw [ih fuel k _ (by omega) (by omega), List.length_append, Nat.add_assoc]

/-- Alarms up to an instant can be served first, and then, with the clock there, the others. -/
theorem cut {s : Nat} (hst : s ≤ until_) (hr : Rounds until_ h stops h') :
    ∃ stops₁ stops₂ h₁ h₂, stops = stops₁ ++ stops₂ ∧ Rounds s h stops₁ h₁ ∧
      Rounds until_ (h₁.clockedTo s) stops₂ h₂ ∧ h₂.clockedTo until_ = h'.clockedTo until_ := by
  induction hr with
  | @rest h hd =>
    have hs : h.dueBy? s = none :=
      dueBy?_eq_none.2 fun t ht => Nat.lt_of_le_of_lt hst (dueBy?_eq_none.1 hd t ht)
    exact ⟨[], [], h, h.clockedTo s, rfl, .rest hs, .rest hd, clockedTo_clockedTo h hst⟩
  | @round h h₁ h₂ h' t stops more hd ha hs hr ih =>
    obtain ⟨halarm, ht⟩ := dueBy?_eq_some.1 hd
    by_cases hts : t ≤ s
    · obtain ⟨stops₁, stops₂, g₁, g₂, rfl, hr₁, hr₂, he⟩ := ih
      refine ⟨stops ++ stops₁, stops₂, g₁, g₂, (List.append_assoc _ _ _).symm, ?_, hr₂, he⟩
      exact .round (dueBy?_eq_some.2 ⟨halarm, hts⟩) ha hs hr₁
    · have hnone : h.dueBy? s = none := by
        refine dueBy?_eq_none.2 fun u hu => ?_
        obtain rfl := Option.some.inj (hu.symm.trans halarm)
        omega
      rw [← clockedTo_clockedTo h (Nat.le_of_not_le hts)] at ha
      exact ⟨[], stops ++ more, h, h', rfl, .rest hnone, .round hd ha hs hr, rfl⟩

theorem join {s : Nat} (hst : s ≤ until_) {h₁ h₂ : Hub A R} {more : List (Hub A R)}
    (hr : Rounds s h stops h₁) (hm : Rounds until_ (h₁.clockedTo s) more h₂) :
    ∃ h', Rounds until_ h (stops ++ more) h' ∧ h'.clockedTo until_ = h₂.clockedTo until_ := by
  induction hr with
  | @rest h hd =>
    cases hm with
    | rest hd' => exact ⟨h, .rest hd', (clockedTo_clockedTo h hst).symm⟩
    | @round _ g₁ g₂ _ t stops more hd' ha hs hr =>
      have hts : s < t := dueBy?_eq_none.1 hd t (dueBy?_eq_some.1 hd').1
      rw [clockedTo_clockedTo h (Nat.le_of_lt hts)] at ha
      rw [List.nil_append]
      exact ⟨h₂, .round hd' ha hs hr, rfl⟩
  | @round h g₁ g₂ g₃ t stops rest hd ha hs _ ih =>
    obtain ⟨halarm, hts⟩ := dueBy?_eq_some.1 hd
    obtain ⟨h', hr, he⟩ := ih hm
    rw [List.append_assoc]
    exact ⟨h', .round (dueBy?_eq_some.2 ⟨halarm, Nat.le_trans hts hst⟩) ha hs hr, he⟩

end Rounds

/-! ## Time that passes -/

namespace Passes

variable {d t : Nat} {h h' : Hub A R} {stops : List (Hub A R)}

/-- Where a passage ends: nothing is left to do, and the clock has moved on. -/
theorem rounds (hp : Passes d h stops h') (ht : Nanos.after h.now d = t) (hn : h.now ≤ Nanos.last) :
    ∃ before served h₁ h₂, stops = before ++ served ∧ Drains h before h₁ ∧
      Rounds t h₁ served h₂ ∧ h' = h₂.clockedTo t ∧ h'.now = t ∧ h'.queue.next? = none := by
  subst ht
  obtain @⟨h₁, h₂, _, before, served, after, hb, hr, ha⟩ := hp
  have hidle := hr.idle hb.idle
  obtain ⟨rfl, rfl⟩ := ha.eq_of_idle hidle
  refine ⟨before, served, h₁, h₂, List.append_nil _, hb, hr, rfl, ?_, hidle⟩
  exact Nat.max_eq_right (hr.now_le (hb.now ▸ Nanos.le_after hn d))

theorem of_rounds {h₁ h₂ : Hub A R} {before served : List (Hub A R)}
    (ht : Nanos.after h.now d = t) (hb : Drains h before h₁) (hr : Rounds t h₁ served h₂) :
    Passes d h (before ++ served) (h₂.clockedTo t) := by
  subst ht
  have hp := Passes.intro hb hr (.rest (hr.idle hb.idle))
  rwa [List.append_nil] at hp

theorem now (hp : Passes d h stops h') (hn : h.now ≤ Nanos.last) :
    h'.now = Nanos.after h.now d := by
  obtain ⟨_, _, _, _, _, _, _, _, hnow, _⟩ := hp.rounds rfl hn
  exact hnow

/-- A passage can be cut in two anywhere. -/
theorem cut {a b : Nat} (hp : Passes (a + b) h stops h') (hn : h.now ≤ Nanos.last) :
    ∃ stops₁ stops₂ h₁, stops = stops₁ ++ stops₂ ∧ Passes a h stops₁ h₁ ∧
      Passes b h₁ stops₂ h' := by
  have hsum := TimerPool.Serves.after_after h.now a b
  have hle := Nanos.le_after (Nanos.after_le_last h.now a) b
  obtain ⟨before, served, g₁, g₂, rfl, hb, hr, rfl, -, -⟩ := hp.rounds hsum.symm hn
  obtain ⟨served₁, served₂, g₃, g₄, rfl, hr₁, hr₂, he⟩ := hr.cut hle
  have hp₁ := of_rounds rfl hb hr₁
  have hrest : Drains (g₃.clockedTo (Nanos.after h.now a)) [] _ := .rest (hr₁.idle hb.idle)
  refine ⟨before ++ served₁, served₂, _, (List.append_assoc _ _ _).symm, hp₁, ?_⟩
  rw [← he]
  exact of_rounds (by rw [hp₁.now hn]) hrest hr₂

theorem join {a b : Nat} {h₁ : Hub A R} {stops₁ stops₂ : List (Hub A R)}
    (hp₁ : Passes a h stops₁ h₁) (hp₂ : Passes b h₁ stops₂ h') (hn : h.now ≤ Nanos.last) :
    Passes (a + b) h (stops₁ ++ stops₂) h' := by
  have hsum := TimerPool.Serves.after_after h.now a b
  have hle := Nanos.le_after (Nanos.after_le_last h.now a) b
  have hn₁ := hp₁.now hn
  obtain ⟨before, served, g₁, g₂, rfl, hb, hr, rfl, -, hidle⟩ := hp₁.rounds rfl hn
  obtain ⟨before₂, served₂, g₃, g₄, rfl, hb₂, hr₂, rfl, -, -⟩ :=
    hp₂.rounds (by rw [hn₁]) (by rw [hn₁]; exact Nanos.after_le_last _ _)
  obtain ⟨rfl, rfl⟩ := hb₂.eq_of_idle hidle
  obtain ⟨g₅, hr₅, he⟩ := hr.join hle hr₂
  rw [← he, List.append_assoc]
  exact of_rounds hsum.symm hb hr₅

end Passes

/-- A bound that is large enough does for all larger ones. -/
theorem Passes.advance_eq_ok {d : Nat} {h h' : Hub A R} {stops : List (Hub A R)}
    (hp : Passes d h stops h') :
    ∃ least, ∀ fuel, least ≤ fuel → advance fuel d h = .ok stops.length h' := by
  obtain @⟨h₁, h₂, _, before, served, after, hb, hr, ha⟩ := hp
  obtain ⟨least, hserve⟩ := hr.serveAlarms_eq_ok
  refine ⟨max least (max (before.length + 1) (after.length + 1)), fun fuel hfuel => ?_⟩
  refine bind_eq_ok.2 ⟨h, h, rfl, ?_⟩
  refine bind_eq_ok.2 ⟨before.length, h₁, ?_, ?_⟩
  · exact drain_eq_ok.2 ⟨before, hb, (Nat.zero_add _).symm, by omega⟩
  refine bind_eq_ok.2 ⟨_, h₂, hserve fuel fuel _ (by omega) (by omega), ?_⟩
  refine bind_eq_ok.2 ⟨(), _, rfl, bind_eq_ok.2 ⟨after.length, h', ?_, ?_⟩⟩
  · exact drain_eq_ok.2 ⟨after, ha, (Nat.zero_add _).symm, by omega⟩
  · rw [List.length_append, List.length_append]
    rfl

/-- `advance` returns what a passage of time comes to. -/
theorem elapses_iff {d n : Nat} {h h' : Hub A R} :
    Elapses d h n h' ↔ ∃ stops, Passes d h stops h' ∧ n = stops.length := by
  constructor
  · rintro ⟨fuel, hr⟩
    obtain ⟨_, _, hget, hr⟩ := bind_eq_ok.1 hr
    cases hget
    obtain ⟨_, h₁, hb, hr⟩ := bind_eq_ok.1 hr
    obtain ⟨before, hbefore, rfl, -⟩ := drain_eq_ok.1 hb
    obtain ⟨_, h₂, hs, hr⟩ := bind_eq_ok.1 hr
    obtain ⟨served, hserved, rfl⟩ := Rounds.of_serveAlarms hs
    obtain ⟨_, _, hclock, hr⟩ := bind_eq_ok.1 hr
    cases hclock
    obtain ⟨_, _, ha, hr⟩ := bind_eq_ok.1 hr
    obtain ⟨after, hafter, rfl, -⟩ := drain_eq_ok.1 ha
    cases hr
    exact ⟨_, .intro hbefore hserved hafter, by simp +arith⟩
  · rintro ⟨stops, hp, rfl⟩
    obtain ⟨least, hadvance⟩ := hp.advance_eq_ok
    exact ⟨least, hadvance least (Nat.le_refl _)⟩

/-- The bound on the loops of `advance` has no part in what it returns. -/
theorem Elapses.unique {d n n' : Nat} {h h' h'' : Hub A R} (he : Elapses d h n h')
    (he' : Elapses d h n' h'') : n' = n ∧ h'' = h' := by
  obtain ⟨stops, hp, rfl⟩ := elapses_iff.1 he
  obtain ⟨stops', hp', rfl⟩ := elapses_iff.1 he'
  obtain ⟨least, hr⟩ := hp.advance_eq_ok
  obtain ⟨least', hr'⟩ := hp'.advance_eq_ok
  have heq := (hr' (max least least') (Nat.le_max_right _ _)).symm.trans
    (hr (max least least') (Nat.le_max_left _ _))
  exact EStateM.Result.ok.inj heq

theorem Elapses.now {d n : Nat} {h h' : Hub A R} (he : Elapses d h n h')
    (hn : h.now ≤ Nanos.last) : h'.now = Nanos.after h.now d := by
  obtain ⟨stops, hp, -⟩ := elapses_iff.1 he
  exact hp.now hn

end ContextHub.Hub
