import ContextHub.Proofs.Simulation.Passage
import Mathlib.Algebra.GroupWithZero.Nat
/-!
# How virtual time is cut

Time that passes in several slices, one `advance` for each, passes as in one. What a simulation
comes to depends on how long it lasts in all: the whole hub does, with its trace and the number of
tasks that were processed.
-/

namespace ContextHub.Hub

variable {A R : Type} [Behaviour A] [Radio R]

/-- Time passes in slices, one after the other, with `n` tasks processed in all. -/
inductive Sliced : List Nat → Hub A R → Nat → Hub A R → Prop
  | nil {h : Hub A R} : Sliced [] h 0 h
  | cons {d n m : Nat} {ds : List Nat} {h h₁ h' : Hub A R} (he : Elapses d h n h₁)
      (hs : Sliced ds h₁ m h') : Sliced (d :: ds) h (n + m) h'

/-- Time passes at once as in two slices. -/
theorem elapses_add {a b n : Nat} {h h' : Hub A R} (hn : h.now ≤ Nanos.last) :
    Elapses (a + b) h n h' ↔
      ∃ n₁ h₁ n₂, Elapses a h n₁ h₁ ∧ Elapses b h₁ n₂ h' ∧ n = n₁ + n₂ := by
  constructor
  · intro he
    obtain ⟨stops, hp, rfl⟩ := elapses_iff.1 he
    obtain ⟨stops₁, stops₂, h₁, rfl, hp₁, hp₂⟩ := hp.cut hn
    exact ⟨_, h₁, _, elapses_iff.2 ⟨stops₁, hp₁, rfl⟩, elapses_iff.2 ⟨stops₂, hp₂, rfl⟩,
      List.length_append⟩
  · rintro ⟨n₁, h₁, n₂, he₁, he₂, rfl⟩
    obtain ⟨stops₁, hp₁, rfl⟩ := elapses_iff.1 he₁
    obtain ⟨stops₂, hp₂, rfl⟩ := elapses_iff.1 he₂
    exact elapses_iff.2 ⟨_, hp₁.join hp₂ hn, List.length_append.symm⟩

/-- Time passes in slices as in one that is as long as all of them. -/
theorem sliced_cons {d n : Nat} {ds : List Nat} {h h' : Hub A R} (hn : h.now ≤ Nanos.last) :
    Sliced (d :: ds) h n h' ↔ Elapses (d + ds.sum) h n h' := by
  induction ds generalizing d n h with
  | nil =>
    constructor
    · intro hs
      cases hs with
      | cons he hs =>
        cases hs
        exact he
    · exact fun he => .cons he .nil
  | cons e ds ih =>
    rw [List.sum_cons, elapses_add hn]
    constructor
    · intro hs
      cases hs with
      | @cons _ n₁ n₂ _ _ h₁ _ he hs =>
        have hn₁ : h₁.now ≤ Nanos.last := he.now hn ▸ Nanos.after_le_last _ _
        exact ⟨n₁, h₁, n₂, he, (ih hn₁).1 hs, rfl⟩
    · rintro ⟨n₁, h₁, n₂, he, hrest, rfl⟩
      have hn₁ : h₁.now ≤ Nanos.last := he.now hn ▸ Nanos.after_le_last _ _
      exact .cons he ((ih hn₁).2 hrest)

/-- What `advance` comes to is the same under every bound under which it returns. For two slices of
time in a row it is the same as for one that is as long as both, and the tasks add up. So any two
ways to cut the same time come to the same hub. -/
theorem slicing_changes_nothing {h : Hub A R} (hn : h.now ≤ Nanos.last) :
    (∀ d n n' h' h'', Elapses d h n h' → Elapses d h n' h'' → n' = n ∧ h'' = h') ∧
    (∀ a b n h', Elapses (a + b) h n h' ↔
      ∃ n₁ h₁ n₂, Elapses a h n₁ h₁ ∧ Elapses b h₁ n₂ h' ∧ n = n₁ + n₂) ∧
    ∀ ds es : List Nat, ds ≠ [] → es ≠ [] → ds.sum = es.sum →
      ∀ n h', Sliced ds h n h' ↔ Sliced es h n h' := by
  refine ⟨fun _ _ _ _ _ => Elapses.unique, fun _ _ _ _ => elapses_add hn, ?_⟩
  intro ds es hds hes hsum n h'
  obtain ⟨d, ds, rfl⟩ := List.exists_cons_of_ne_nil hds
  obtain ⟨e, es, rfl⟩ := List.exists_cons_of_ne_nil hes
  rw [List.sum_cons, List.sum_cons] at hsum
  rw [sliced_cons hn, sliced_cons hn, hsum]

/-- Two timers fall due in seven nanoseconds, one in each of two slices. -/
theorem seven_nanoseconds_in_two_slices : ∃ h h₁ h' : Hub Script Stations, Reached {} h ∧
    h.now ≤ Nanos.last ∧ Elapses 3 h 3 h₁ ∧ Elapses 4 h₁ 2 h' ∧ Elapses (3 + 4) h 5 h' := by
  obtain ⟨h, hh, hn, hrun⟩ := reached_of_ends (A := Script) {} 0 Stations.scripted none
    [.load ⟨1⟩ {} { start := [.setTimer 2 ⟨7⟩ true, .setTimer 5 ⟨8⟩ true] }]
    (P := fun h => h.now ≤ Nanos.last ∧
      Ends (advance 10 3) h (fun n h₁ => n = 3 ∧
        Ends (advance 10 4) h₁ (fun n _ => n = 2) fun _ _ => False) fun _ _ => False)
    (by decide +kernel)
  obtain ⟨_, h₁, hr₁, rfl, hrun⟩ := hrun.exists_ok
  obtain ⟨_, h', hr₂, rfl⟩ := hrun.exists_ok
  exact ⟨h, h₁, h', hh, hn, ⟨10, hr₁⟩, ⟨10, hr₂⟩,
    ((slicing_changes_nothing hn).2.1 3 4 5 h').2 ⟨3, h₁, 2, ⟨10, hr₁⟩, ⟨10, hr₂⟩, rfl⟩⟩

end ContextHub.Hub
