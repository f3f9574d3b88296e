import ContextHub.Hub.Basic
/-!
# Reasoning about steps of a hub

`Ends m h Q E` says where the step `m` leads from the hub `h`: to a result with `Q`, or to a halt
with `E`. A `Law` relates the hub before a step to the hub after it, whether the step ends or halts;
`Obeys L m` says that `m` keeps within `L` from every hub. Laws compose, so a step obeys a law
if its parts do.
-/

namespace ContextHub.Hub

variable {A R α β : Type}

/-- From `h` the step ends with `Q`, or halts with `E`. -/
def Ends (m : HubM A R α) (h : Hub A R) (Q : α → Hub A R → Prop) (E : Halt → Hub A R → Prop) :
    Prop :=
  match m h with
  | .ok a h' => Q a h'
  | .error e h' => E e h'

instance {m : HubM A R α} {h : Hub A R} {Q : α → Hub A R → Prop} {E : Halt → Hub A R → Prop}
    [∀ a h, Decidable (Q a h)] [∀ e h, Decidable (E e h)] : Decidable (Ends m h Q E) :=
  match hr : m h with
  | .ok a h' => decidable_of_iff (Q a h') (by rw [Ends, hr])
  | .error e h' => decidable_of_iff (E e h') (by rw [Ends, hr])

section

variable {h : Hub A R} {Q : α → Hub A R → Prop} {E : Halt → Hub A R → Prop}

theorem ends_pure {a : α} : Ends (pure a) h Q E ↔ Q a h := Iff.rfl

theorem ends_get {Q : Hub A R → Hub A R → Prop} : Ends get h Q E ↔ Q h h := Iff.rfl

theorem ends_set {s : Hub A R} {Q : PUnit → Hub A R → Prop} : Ends (set s) h Q E ↔ Q ⟨⟩ s := Iff.rfl

theorem ends_modify {f : Hub A R → Hub A R} {Q : PUnit → Hub A R → Prop} :
    Ends (modify f) h Q E ↔ Q ⟨⟩ (f h) := Iff.rfl

theorem ends_bind {m : HubM A R α} {f : α → HubM A R β} {Q : β → Hub A R → Prop} :
    Ends (m >>= f) h Q E ↔ Ends m h (fun a h' => Ends (f a) h' Q E) E := by
  unfold Ends
  simp only [bind, EStateM.bind]
  cases m h <;> exact Iff.rfl

theorem ends_ite {c : Prop} [Decidable c] {m m' : HubM A R α} :
    Ends (if c then m else m') h Q E ↔ if c then Ends m h Q E else Ends m' h Q E := by
  split <;> exact Iff.rfl

theorem Ends.mono {m : HubM A R α} {Q' : α → Hub A R → Prop} {E' : Halt → Hub A R → Prop}
    (hm : Ends m h Q E) (hQ : ∀ a h', Q a h' → Q' a h') (hE : ∀ e h', E e h' → E' e h') :
    Ends m h Q' E' := by
  unfold Ends at *
  split
  · rename_i a h' hr
    rw [hr] at hm
    exact hQ a h' hm
  · rename_i e h' hr
    rw [hr] at hm
    exact hE e h' hm

theorem Ends.and {m : HubM A R α} {Q' : α → Hub A R → Prop} {E' : Halt → Hub A R → Prop}
    (hm : Ends m h Q E) (hm' : Ends m h Q' E') :
    Ends m h (fun a h' => Q a h' ∧ Q' a h') (fun e h' => E e h' ∧ E' e h') := by
  unfold Ends at *
  split
  · rename_i a h' hr
    rw [hr] at hm hm'
    exact ⟨hm, hm'⟩
  · rename_i e h' hr
    rw [hr] at hm hm'
    exact ⟨hm, hm'⟩

/-- Where the step leads, run by run. -/
theorem Ends.of_runs {m : HubM A R α} (hok : ∀ a h', m h = .ok a h' → Q a h')
    (herror : ∀ e h', m h = .error e h' → E e h') : Ends m h Q E := by
  unfold Ends
  split
  · exact hok _ _ ‹_›
  · exact herror _ _ ‹_›

/-- One step and then another. -/
theorem Ends.bind {m : HubM A R α} {f : α → HubM A R β} {Q : β → Hub A R → Prop}
    {P : α → Hub A R → Prop} (hm : Ends m h P E) (hf : ∀ a h', P a h' → Ends (f a) h' Q E) :
    Ends (m >>= f) h Q E :=
  ends_bind.2 (hm.mono hf fun _ _ he => he)

theorem Ends.ok {m : HubM A R α} {a : α} {h' : Hub A R} (hm : Ends m h Q E)
    (hr : m h = .ok a h') : Q a h' := by
  unfold Ends at hm
  rwa [hr] at hm

theorem Ends.exists_ok {m : HubM A R α} (hm : Ends m h Q fun _ _ => False) :
    ∃ a h', m h = .ok a h' ∧ Q a h' := by
  unfold Ends at hm
  split at hm
  · rename_i a h' hr
    exact ⟨a, h', hr, hm⟩
  · exact hm.elim

theorem Ends.error {m : HubM A R α} {e : Halt} {h' : Hub A R} (hm : Ends m h Q E)
    (hr : m h = .error e h') : E e h' := by
  unfold Ends at hm
  rwa [hr] at hm

end

/-! ## Laws -/

/-- How a step may change a hub: when it ends, and when it halts. -/
structure Law (A R : Type) where
  rel : Hub A R → Hub A R → Prop
  halts : Hub A R → Halt → Hub A R → Prop
  refl : ∀ h, rel h h
  trans : ∀ {h h' h''}, rel h h' → rel h' h'' → rel h h''
  halts_of_rel : ∀ {h h' e h''}, rel h h' → halts h' e h'' → halts h e h''

/-- From every hub the step keeps within the law. -/
def Obeys (L : Law A R) (m : HubM A R α) : Prop :=
  ∀ h, Ends m h (fun _ h' => L.rel h h') (fun e h' => L.halts h e h')

/-- What one law allows, the other does too. -/
structure Law.Within (L L' : Law A R) : Prop where
  rel : ∀ {h h'}, L.rel h h' → L'.rel h h'
  halts : ∀ {h e h'}, L.halts h e h' → L'.halts h e h'

namespace Obeys

variable {L L' : Law A R}

theorem within {m : HubM A R α} (hm : Obeys L m) (hL : L.Within L') : Obeys L' m :=
  fun h => (hm h).mono (fun _ _ => hL.rel) (fun _ _ => hL.halts)

theorem pure (a : α) : Obeys L (Pure.pure a) := fun h => L.refl h

theorem throw {e : Halt} (he : ∀ h, L.halts h e h) : Obeys L (throw e : HubM A R α) := fun h => he h

theorem modify {f : Hub A R → Hub A R} (hf : ∀ h, L.rel h (f h)) :
    Obeys L (modify f : HubM A R PUnit) := fun h => hf h

theorem bind {m : HubM A R α} {f : α → HubM A R β} (hm : Obeys L m) (hf : ∀ a, Obeys L (f a)) :
    Obeys L (m >>= f) := by
  intro h
  refine (hm h).mono (fun a h' hr => ?_) (fun _ _ he => he) |> ends_bind.2
  exact (hf a h').mono (fun _ _ => L.trans hr) (fun _ _ => L.halts_of_rel hr)

theorem get_bind {f : Hub A R → HubM A R β} (hf : ∀ s, Obeys L (f s)) :
    Obeys L (get >>= f) := fun h => hf h h

theorem ite {c : Prop} [Decidable c] {m m' : HubM A R α} (hm : c → Obeys L m)
    (hm' : ¬ c → Obeys L m') : Obeys L (if c then m else m') := by
  split
  · rename_i hc
    exact hm hc
  · rename_i hc
    exact hm' hc

theorem forM {l : List α} {f : α → HubM A R PUnit} (hf : ∀ a ∈ l, Obeys L (f a)) :
    Obeys L (l.forM f) := by
  induction l with
  | nil => exact .pure _
  | cons a l ih =>
    exact .bind (hf a List.mem_cons_self) fun _ => ih fun b hb => hf b (List.mem_cons_of_mem a hb)

/-- A change within the law, and then a step that obeys it. -/
theorem after {m : HubM A R α} {h h₁ : Hub A R} (hm : Obeys L m) (hrel : L.rel h h₁) :
    Ends m h₁ (fun _ => L.rel h) (L.halts h) :=
  (hm h₁).mono (fun _ _ => L.trans hrel) fun _ _ => L.halts_of_rel hrel

/-- A step that obeys a law, and then one from wherever the law leads. -/
theorem andThen {m : HubM A R α} {f : α → HubM A R β} {h h₁ : Hub A R} {Q : β → Hub A R → Prop}
    {E : Halt → Hub A R → Prop} (hm : Obeys L m) (hrel : L.rel h h₁)
    (hE : ∀ e h₂, L.halts h e h₂ → E e h₂) (hf : ∀ a h₂, L.rel h h₂ → Ends (f a) h₂ Q E) :
    Ends (m >>= f) h₁ Q E :=
  ends_bind.2 ((hm.after hrel).mono hf hE)

end Obeys

/-- A step that ends within the law, and then one that obeys it. -/
theorem Ends.obeying {L : Law A R} {m : HubM A R α} {f : α → HubM A R β} {h h₁ : Hub A R}
    (hm : Ends m h₁ (fun _ => L.rel h) (L.halts h)) (hf : ∀ a, Obeys L (f a)) :
    Ends (m >>= f) h₁ (fun _ => L.rel h) (L.halts h) :=
  hm.bind fun a _ hrel => (hf a).after hrel

end ContextHub.Hub
