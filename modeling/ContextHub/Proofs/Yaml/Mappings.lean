import ContextHub.Yaml.Grammar
import ContextHub.Yaml.Meaning
/-!
# Block mappings with plain keys

The grammar and the meaning of mappings whose keys are plain scalars without anchors or tags. Their
tokens give the entries one by one (`Reading.pairs_cons`), and if each value stands for something,
the mapping stands for the table of these (`Node.setting_mapping`).
-/

namespace ContextHub.Yaml

theorem ok_bind {α β : Type} (a : α) (f : α → Except Fault β) : (Except.ok a >>= f) = f a := rfl

/-! ## From tokens to nodes -/

namespace Reading

variable {hs : List (List Char × Tag)} {ns : List (String × Nat)}

theorem skips_self (t : Token) (ts : List Token) :
    (skips t).run ⟨t :: ts, hs, ns⟩ = .ok (true, ⟨ts, hs, ns⟩) := by
  simp [skips, peek?, skip]
  rfl

theorem node_scalar (fuel : Nat) (ctx : Context) (x : List Char) (ts : List Token) :
    (node (fuel + 1) ctx).run ⟨.scalar .plain x :: ts, hs, ns⟩ =
      .ok (.scalar {} .plain x, ⟨ts, hs, ns⟩) := rfl

theorem node_mapping (fuel : Nat) (ctx : Context) (hctx : ctx.isBlock = true) {ts : List Token}
    {es : List (Node × Node)} {s : Progress} (hp : (pairs fuel).run ⟨ts, hs, ns⟩ = .ok (es, s)) :
    (node (fuel + 1) ctx).run ⟨.blockMapping :: ts, hs, ns⟩ = .ok (.mapping {} es, s) := by
  have hn : (node (fuel + 1) ctx).run ⟨.blockMapping :: ts, hs, ns⟩ = (do
      let (es, s) ← if ctx.isBlock then (pairs fuel).run ⟨ts, hs, ns⟩ else .error .nodeExpected
      return (.mapping {} es, s)) := by
    cases ctx <;> rfl
  rw [hn, if_pos hctx, hp]
  rfl

theorem nodeUnless_of_not_mem (fuel : Nat) (ctx : Context) {stops : List Token} {t : Token}
    (h : t ∉ stops) (ts : List Token) :
    (nodeUnless (fuel + 1) ctx stops).run ⟨t :: ts, hs, ns⟩ =
      (node fuel ctx).run ⟨t :: ts, hs, ns⟩ := by
  have hc : stops.contains t = false := by simpa using h
  have hn : (nodeUnless (fuel + 1) ctx stops).run ⟨t :: ts, hs, ns⟩ =
      (if stops.contains t then pure .empty else node fuel ctx).run ⟨t :: ts, hs, ns⟩ := rfl
  rw [hn, hc]
  rfl

theorem pairs_end (fuel : Nat) (ts : List Token) :
    (pairs (fuel + 1)).run ⟨.blockEnd :: ts, hs, ns⟩ = .ok ([], ⟨ts, hs, ns⟩) := rfl

/-- A plain key and the node of its value are an entry. -/
theorem pairs_cons {fuel : Nat} {k : List Char} {v : Node} {t : Token} {ts ts' : List Token}
    {es : List (Node × Node)} {s : Progress} (ht : t ∉ [Token.key, .value, .blockEnd])
    (hv : (node (fuel + 1) .underKey).run ⟨t :: ts, hs, ns⟩ = .ok (v, ⟨ts', hs, ns⟩))
    (hes : (pairs (fuel + 2)).run ⟨ts', hs, ns⟩ = .ok (es, s)) :
    (pairs (fuel + 3)).run ⟨.key :: .scalar .plain k :: .value :: t :: ts, hs, ns⟩ =
      .ok ((.scalar {} .plain k, v) :: es, s) := by
  have hkey : (nodeUnless (fuel + 2) .underKey [.key, .value, .blockEnd]).run
      ⟨.scalar .plain k :: .value :: t :: ts, hs, ns⟩ =
        .ok (.scalar {} .plain k, ⟨.value :: t :: ts, hs, ns⟩) :=
    nodeUnless_of_not_mem (fuel + 1) .underKey (by simp) _
  have hvalue : (nodeUnless (fuel + 2) .underKey [.key, .value, .blockEnd]).run
      ⟨t :: ts, hs, ns⟩ = .ok (v, ⟨ts', hs, ns⟩) :=
    (nodeUnless_of_not_mem (fuel + 1) .underKey ht ts).trans hv
  rw [pairs]
  simp only [StateT.run_bind, skips_self, ok_bind, if_true, hkey, hvalue, hes, StateT.run_pure]
  rfl

end Reading

/-! ## What nodes stand for -/

namespace Node

variable {l : Links} {depth n : Nat}

theorem scalarSetting_plain (text : List Char) :
    scalarSetting false none .plain text = .ok (resolve (String.ofList text)) := by
  simp [scalarSetting]

-- `setting` looks at the node and at the depth together, so that it has no equations to rewrite
-- with and is opened by hand.
theorem setting_scalar (l : Links) (depth : Nat) (text : List Char) (n : Nat) :
    (setting l depth (.scalar {} .plain text)).run n = .ok (resolve (String.ofList text), n) := by
  have hs : (setting l depth (.scalar {} .plain text)).run n =
      ((liftM (scalarSetting false none .plain text) : Interpreting Setting) >>= pure).run n := by
    delta setting
    cases depth <;> rfl
  rw [hs, scalarSetting_plain]
  rfl

/-- What the two sides of an entry stand for. -/
def entrySetting (l : Links) (depth : Nat) (e : Node × Node) : Interpreting (String × Setting) := do
  return (← key l e.1, ← setting l depth e.2)

theorem setting_mapping {entries : List (Node × Node)} {es : List (String × Setting)}
    (h : (entries.mapM (entrySetting l depth)).run n = .ok (es, n)) :
    (setting l (depth + 1) (.mapping {} entries)).run n = .ok (.ofEntries es, n) := by
  have hs : (setting l (depth + 1) (.mapping {} entries)).run n =
      ((Setting.ofEntries <$> entries.mapM (entrySetting l depth)) >>= pure).run n := by
    delta entrySetting setting
    rfl
  rw [hs, bind_pure, StateT.run_map, h]
  rfl

/-- Entries with plain keys stand for these keys and for what the values stand for. -/
theorem mapM_entrySetting {α : Type} {name : α → String} {value : α → Node} {v : α → Setting}
    {xs : List α} (hv : ∀ a ∈ xs, (setting l depth (value a)).run n = .ok (v a, n)) :
    ((xs.map fun a => (scalar {} .plain (name a).toList, value a)).mapM
        (entrySetting l depth)).run n = .ok (xs.map fun a => (name a, v a), n) := by
  induction xs with
  | nil => rfl
  | cons a xs ih =>
    have hkey : (key l (.scalar {} .plain (name a).toList)).run n =
        .ok (String.ofList (name a).toList, n) := rfl
    have hentry : (entrySetting l depth (.scalar {} .plain (name a).toList, value a)).run n =
        .ok ((name a, v a), n) := by
      simp only [entrySetting, StateT.run_bind, hkey, ok_bind, hv a List.mem_cons_self,
        String.ofList_toList, StateT.run_pure]
      rfl
    rw [List.map_cons, List.mapM_cons]
    simp only [StateT.run_bind, hentry, ok_bind, ih fun b hb => hv b (.tail a hb)]
    rfl

end Node

end ContextHub.Yaml
