import ContextHub.Proofs.Hub.Bookkeeping
import ContextHub.Proofs.Hub.SafeCalls
/-!
# Counts that metrics show

The loop counts in its statistics what it dispatches, drops and defers, and the metrics show these
counts. A `Reckoning` is a run of a hub as far as its counts are concerned: each step is an
operation that counts something, and all else leaves the counts alone. Whatever hosts do is a
reckoning.

Dispatched events and deferred callbacks are always counted in both places. Of the losses, those of
an unloading and those for want of a nanoapp are. What the queue refuses, and what goes with a
cancelled timer, is counted in the statistics only, so that the metrics fall behind by as much
(`metrics_mirror_statistics`).
-/

namespace ContextHub

/-- What the loop counts, in one step. -/
inductive Tally where
  | posted
  /-- The queue did not take an event. -/
  | refused
  /-- Expiries left the queue with the timer that was cancelled. -/
  | cancelled (n : Nat)
  /-- Events left the queue with the nanoapp that was unloaded. -/
  | purged (n : Nat)
  /-- The nanoapp that an event was for is not there. -/
  | undelivered
  | dispatched
  | deferred
  | other

namespace Tally

/-- Losses that are counted, but that metrics do not show. -/
def hidden : Tally → Nat
  | refused => 1
  | cancelled n => n
  | _ => 0

/-- Losses that metrics show. -/
def plain : Tally → Nat
  | purged n => n
  | undelivered => 1
  | _ => 0

/-- What is entered in the books. -/
def book : Tally → Tallies → Tallies
  | posted, b => { b with stats := { b.stats with posted := b.stats.posted + 1 } }
  | refused, b => { b with stats := { b.stats with dropped := b.stats.dropped + 1 } }
  | cancelled n, b => { b with stats := { b.stats with dropped := b.stats.dropped + n } }
  | purged n, b =>
    ⟨{ b.stats with dropped := b.stats.dropped + n },
      b.shown.map fun s => { s with dropped := Metrics.plus s.dropped n }⟩
  | undelivered, b =>
    ⟨{ b.stats with dropped := b.stats.dropped + 1 },
      b.shown.map fun s => { s with dropped := Metrics.plus s.dropped 1 }⟩
  | dispatched, b =>
    ⟨{ b.stats with dispatched := b.stats.dispatched + 1 },
      b.shown.map fun s => { s with dispatched := Metrics.plus s.dispatched 1 }⟩
  | deferred, b =>
    ⟨{ b.stats with deferred := b.stats.deferred + 1 },
      b.shown.map fun s => { s with deferred := Metrics.plus s.deferred 1 }⟩
  | other, b => b

end Tally

/-- What is counted on the way. -/
def counts (f : Tally → Nat) (ts : List Tally) : Nat := ts.foldl (fun n t => n + f t) 0

theorem counts_snoc (f : Tally → Nat) (ts : List Tally) (t : Tally) :
    counts f (ts ++ [t]) = counts f ts + f t := by
  rw [counts, List.foldl_append]
  rfl

/-- The metrics show what the statistics say, but for `hidden` losses. -/
def Tallies.Mirrored (hidden plain : Nat) (b : Tallies) : Prop :=
  b.shown = some
    { dispatched := Metrics.plus 0 b.stats.dispatched
      dropped := Metrics.plus 0 plain
      deferred := Metrics.plus 0 b.stats.deferred } ∧
    b.stats.dropped = hidden + plain

theorem Metrics.plus_plus (m n : Nat) : plus (plus 0 m) n = plus 0 (m + n) := by
  simp only [plus, Nat.zero_add, Nat.mod_add_mod]

theorem Tallies.Mirrored.book {hidden plain : Nat} {b : Tallies} (hb : b.Mirrored hidden plain)
    (t : Tally) : (t.book b).Mirrored (hidden + t.hidden) (plain + t.plain) := by
  obtain ⟨hs, hd⟩ := hb
  cases t <;>
    simp only [Mirrored, Tally.book, Tally.hidden, Tally.plain, hs, hd, Option.map_some,
      Metrics.plus_plus, Nat.add_zero, true_and] <;>
    omega

namespace Hub

variable {A R α : Type}

/-! ## Reckonings -/

/-- A step that counts `t`. -/
inductive Reckons : Hub A R → Tally → Hub A R → Prop
  | posted {h h' : Hub A R} {e : Event} (hr : tryPost e h = .ok (.ok ()) h') : Reckons h .posted h'
  | refused {h h' : Hub A R} {e : Event} {err : QueueError}
      (hr : tryPost e h = .ok (.error err) h') : Reckons h .refused h'
  | cancelled {h h' : Hub A R} {x : TimerHandle} {id : InstanceId} {out : List Event}
      (hr : discard (·.isExpiryOf x id) h = .ok out h') : Reckons h (.cancelled out.length) h'
  | purged {h h' : Hub A R} {id : InstanceId} {out : List Event}
      (hr : discard (·.target.isAt id) h = .ok out h') : Reckons h (.purged out.length)
        { h' with metrics := h'.metrics.map (·.addDropped out.length) }
  | undelivered {h : Hub A R} : Reckons h .undelivered h.countedUndelivered
  | dispatched {h : Hub A R} : Reckons h .dispatched h.countedDispatched
  | deferred {h : Hub A R} : Reckons h .deferred h.countedDeferred
  | other {h h' : Hub A R} (hb : h'.tallies = h.tallies) : Reckons h .other h'

/-- Steps lead from `h` to a hub, and count what is listed. -/
inductive Reckoning (h : Hub A R) : List Tally → Hub A R → Prop
  | stay : Reckoning h [] h
  | snoc {ts : List Tally} {t : Tally} {h₁ h₂ : Hub A R} (hr : Reckoning h ts h₁)
      (hs : Reckons h₁ t h₂) : Reckoning h (ts ++ [t]) h₂

theorem Reckoning.append {h h₁ h₂ : Hub A R} {ts ts' : List Tally} (hr : Reckoning h ts h₁)
    (hr' : Reckoning h₁ ts' h₂) : Reckoning h (ts ++ ts') h₂ := by
  induction hr' with
  | stay => rwa [List.append_nil]
  | snoc _ hs ih =>
    rw [← List.append_assoc]
    exact ih.snoc hs

theorem tryPost_tallies (e : Event) (h : Hub A R) :
    Ends (tryPost e) h (fun r h' => match r with
      | .ok () => h'.tallies = Tally.posted.book h.tallies
      | .error _ => h'.tallies = Tally.refused.book h.tallies) (fun _ _ => False) := by
  unfold tryPost
  rw [ends_bind, ends_get]
  split <;> exact rfl

theorem discard_tallies (p : Event → Bool) (h : Hub A R) :
    Ends (discard p) h (fun out h' => h'.tallies = (Tally.cancelled out.length).book h.tallies)
      (fun _ _ => False) := by
  have hout (out : List Event) (h : Hub A R) : Ends (out.forM fun e => do
      countDropped
      release e) h (fun _ h' => h'.tallies = (Tally.cancelled out.length).book h.tallies)
      (fun _ _ => False) := by
    induction out generalizing h with
    | nil => exact rfl
    | cons e out ih =>
      refine (ih _).mono (fun _ h' hb => ?_) fun _ _ => False.elim
      rw [hb, List.length_cons]
      simp only [Tally.book, tallies, Nat.add_assoc, Nat.add_comm 1]
  unfold discard
  rw [ends_bind, ends_get]
  exact ends_bind.2 (ends_set.2 (ends_bind.2 (hout _ _)))

/-- What is counted twice is entered twice. -/
theorem tallies_counted {f : LoopStats → LoopStats} {g : Metrics → Metrics} {s : Shown → Shown}
    (hg : ∀ m, (g m).shown = s m.shown) (h : Hub A R) :
    (counted f g h).tallies = ⟨f h.stats, h.tallies.shown.map s⟩ := by
  simp only [tallies, counted, Option.map_map, Function.comp_def, hg]

theorem Reckons.tallies {h h' : Hub A R} {t : Tally} (hs : Reckons h t h') :
    h'.tallies = t.book h.tallies := by
  cases hs with
  | posted hr => exact (tryPost_tallies _ h).ok hr
  | refused hr => exact (tryPost_tallies _ h).ok hr
  | cancelled hr => exact (discard_tallies _ h).ok hr
  | @purged h' _ out hr =>
    -- the statistics have counted the loss by now, the metrics have not
    have hb := (discard_tallies _ h).ok hr
    calc _ = ⟨h'.tallies.stats, h'.tallies.shown.map fun s =>
          { s with dropped := Metrics.plus s.dropped out.length }⟩ :=
            tallies_counted (f := id) (g := (·.addDropped out.length)) (fun _ => rfl) h'
      _ = _ := by rw [hb]; rfl
  | undelivered | dispatched | deferred => exact tallies_counted (fun _ => rfl) h
  | other hb => exact hb

/-- A run enters all that it counts. -/
theorem Reckoning.mirrored {h h' : Hub A R} {ts : List Tally} (hr : Reckoning h ts h')
    {hidden plain : Nat} (hb : h.tallies.Mirrored hidden plain) :
    h'.tallies.Mirrored (hidden + counts Tally.hidden ts) (plain + counts Tally.plain ts) := by
  induction hr with
  | stay => exact hb
  | snoc _ hs ih =>
    rw [hs.tallies, counts_snoc, counts_snoc, ← Nat.add_assoc, ← Nat.add_assoc]
    exact ih.book _

/-! ## What hosts do -/

/-- The law that leads from hub to hub by what is counted. -/
def tallying : Law A R where
  rel h h' := ∃ ts, Reckoning h ts h'
  halts _ _ _ := True
  refl _ := ⟨[], .stay⟩
  trans := fun ⟨_, hr⟩ ⟨_, hr'⟩ => ⟨_, hr.append hr'⟩
  halts_of_rel _ _ := trivial

theorem Reckons.tallying {h h' : Hub A R} {t : Tally} (hs : Reckons h t h') :
    tallying.rel h h' := ⟨[t], .snoc .stay hs⟩

theorem tallying_books : (tallying : Law A R).Books where
  halt _ _ _ := trivial
  beside hb := (Reckons.other hb).tallying
  tryPost_obeys e h := by
    unfold Ends
    split
    · rename_i r h' hr
      cases r with
      | ok => exact (Reckons.posted hr).tallying
      | error => exact (Reckons.refused hr).tallying
    · trivial
  cancelled x id h := by
    unfold Ends
    split
    · exact (Reckons.cancelled ‹_›).tallying
    · trivial
  purged hr := (Reckons.purged hr).tallying
  dispatched _ := Reckons.dispatched.tallying
  deferred _ := Reckons.deferred.tallying
  undelivered _ := Reckons.undelivered.tallying

variable [Radio R] [Behaviour A]

/-- With metrics that are fresh, what is dispatched and what is deferred shows as it was counted. Of
what was dropped, the losses of unloadings and for want of a nanoapp show, and what the queue
refused or lost with a cancelled timer does not. -/
theorem metrics_mirror_statistics :
    (∀ g h : Hub A R, Driven g h → ∃ ts, Reckoning g ts h) ∧
    ∀ config now radios metrics ts (h : Hub A R),
      (blank config now radios metrics : Hub A R).metrics = some {} →
      Reckoning (blank config now radios metrics) ts h →
        ∃ m, h.metrics = some m ∧
          m.dispatched = h.stats.dispatched % UInt64.size ∧
          m.deferred = h.stats.deferred % UInt64.size ∧
          h.stats.dropped = counts Tally.hidden ts + counts Tally.plain ts ∧
          m.dropped = counts Tally.plain ts % UInt64.size ∧
          (m.dropped = h.stats.dropped % UInt64.size ↔
            counts Tally.hidden ts % UInt64.size = 0) := by
  refine ⟨fun g h hd => tallying_books.drives.driven (Behaviour.only_true A) hd, ?_⟩
  intro config now radios metrics ts h hfresh hr
  have hblank : (blank config now radios metrics : Hub A R).tallies.Mirrored 0 0 :=
    ⟨congrArg (Option.map Metrics.shown) hfresh, rfl⟩
  obtain ⟨hshown, hdropped⟩ := hr.mirrored hblank
  obtain ⟨m, hm, hshows⟩ := Option.map_eq_some_iff.1 hshown
  simp only [Metrics.shown, Shown.mk.injEq, Metrics.plus, Nat.zero_add] at hshows
  obtain ⟨hdispatched, hplain, hdeferred⟩ := hshows
  rw [Nat.zero_add, Nat.zero_add] at hdropped
  have hdropped' : h.stats.dropped = counts Tally.hidden ts + counts Tally.plain ts := hdropped
  refine ⟨m, hm, hdispatched, hdeferred, hdropped', hplain, ?_⟩
  rw [hplain, hdropped', UInt64.size]
  omega

/-- A nanoapp that fills the queue, and more: the loop counts the event that was refused, and the
one that announces the nanoapp, and the metrics count neither. -/
theorem refused_events_are_hidden : ∃ (h : Hub Script Stations) (ts : List Tally),
    Driven (blank { queueCapacity := 8 } 0 Stations.scripted (some {})) h ∧
      Reckoning (blank { queueCapacity := 8 } 0 Stations.scripted (some {})) ts h ∧
      h.stats.dropped = 2 ∧ counts Tally.hidden ts = 2 ∧ counts Tally.plain ts = 0 := by
  obtain ⟨h, hd, hdropped, hshown⟩ := driven_of_ends (A := Script)
    (blank { queueCapacity := 8 } 0 Stations.scripted (some {})) [.load ⟨1⟩ {} (eager 9)]
    (P := fun h => h.stats.dropped = 2 ∧ h.metrics.map (·.dropped) = some 0) (by decide +kernel)
  obtain ⟨hruns, hcounts⟩ := metrics_mirror_statistics (A := Script) (R := Stations)
  obtain ⟨ts, hr⟩ := hruns _ h hd
  obtain ⟨m, hm, -, -, hsum, hplain, -⟩ := hcounts { queueCapacity := 8 } 0 Stations.scripted
    (some {}) ts h rfl hr
  rw [hm, Option.map_some, Option.some_inj] at hshown
  rw [UInt64.size] at hplain
  exact ⟨h, ts, hd, hr, hdropped, by omega, by omega⟩

/-- The metrics show less than was dropped once the queue has refused an event. -/
theorem refused_event_is_not_shown : ¬ ∀ (config : Config) (turns : List (Turn Script Stations))
    (h : Hub Script Stations), config.isValid = true →
      (do initialise; turns.forM Turn.run) (blank config 0 Stations.scripted (some {})) = .ok () h →
        h.tallies.shown = some ⟨h.stats.dispatched, h.stats.dropped, h.stats.deferred⟩ := by
  intro hclaim
  obtain ⟨_, h, hr, hunseen⟩ := Ends.exists_ok (m := do
      initialise
      [Turn.load ⟨1⟩ {} (eager 9)].forM Turn.run)
    (h := (blank { queueCapacity := 8 } 0 Stations.scripted (some {}) : Hub Script Stations))
    (Q := fun _ h =>
      h.tallies.shown ≠ some ⟨h.stats.dispatched, h.stats.dropped, h.stats.deferred⟩)
    (by decide +kernel)
  exact hunseen (hclaim { queueCapacity := 8 } [.load ⟨1⟩ {} (eager 9)] h (by decide +kernel) hr)

end Hub

end ContextHub
