import ContextHub.Config.Render
import ContextHub.Proofs.Yaml.Lines
import ContextHub.Proofs.Yaml.Mappings
import ContextHub.Yaml.Document
import Mathlib.Algebra.GroupWithZero.Nat
import Mathlib.Algebra.Order.BigOperators.Group.List
import Mathlib.Algebra.Order.Group.Nat
/-!
# Outlines are read as they are meant

An outline is a text of sections, each with a line for every field. If its names and values are
words, it is a document (`Outline.table?_text`): a table that has under the name of each section the
table of its fields, with what their texts stand for. The proof follows the reader: the characters
of the text, the tokens line by line, the node, and what it stands for. The fuel that each of the
readers has is enough, since every token takes a character and every node takes a token.
-/

namespace ContextHub

open Yaml Yaml.Layout

/-- A name that may be a key. -/
@[mk_iff]
structure IsName (name : String) : Prop where
  bare : Bare name.toList
  short : name.toList.length ≤ PossibleKey.maxLength

/-! ## Fields -/

namespace FieldText

/-- The field is a name and a value that are words. -/
structure IsPlain (f : FieldText) : Prop where
  name : IsName f.1
  value : Bare f.2.toList

def tokens (f : FieldText) : List Token :=
  [.key, .scalar .plain f.1.toList, .value, .scalar .plain f.2.toList]

/-- The field as an entry of a mapping. -/
def entry (f : FieldText) : Node × Node :=
  (.scalar {} .plain f.1.toList, .scalar {} .plain f.2.toList)

theorem toList_line (f : FieldText) :
    f.line.toList =
      List.replicate 2 ' ' ++ (f.1.toList ++ ':' :: ' ' :: (f.2.toList ++ ['\n'])) := by
  have hl : f.line = "  " ++ f.1 ++ ": " ++ f.2 ++ "\n" := rfl
  simp [hl]

theorem length_tokens (fs : List FieldText) : (fs.flatMap tokens).length = 4 * fs.length := by
  induction fs with
  | nil => rfl
  | cons f fs ih =>
    rw [List.flatMap_cons, List.length_append, ih, List.length_cons]
    simp only [tokens, List.length_cons, List.length_nil]
    omega

theorem reaches_lines {fs : List FieldText} (hfs : ∀ f ∈ fs, f.IsPlain) {text : List Char}
    (ht : Reaches 2 text) : Reaches 2 (fs.flatMap (·.line.toList) ++ text) := by
  cases fs with
  | nil => exact ht
  | cons f fs =>
    have hname := (hfs f List.mem_cons_self).name.bare
    exact ⟨2, Nat.le_refl 2, _,
      hname.indented (':' :: ' ' :: (f.2.toList ++ '\n' :: (fs.flatMap (·.line.toList) ++ text))),
      by simp [toList_line]⟩

/-- A field is read whether or not it is the first of its section. -/
theorem run_line {f : FieldText} (hf : f.IsPlain) {text : List Char} (ht : Reaches 2 text) (n : Nat)
    (ts : List Token) {is is' : List Nat} (his : is.head?.all (· ≤ 2) = true) {ts' : List Token}
    (ho : openedAt 2 ts is = (ts', 2 :: is')) (fuel : Nat) :
    run (fuel + 3) (atLine n (f.line.toList ++ text) ts is) =
      run fuel (atLine (n + 1) text (f.tokens.reverse ++ ts') (2 :: is')) := by
  have hl : f.line.toList ++ text =
      List.replicate 2 ' ' ++ (f.1.toList ++ ':' :: (' ' :: (f.2.toList ++ '\n' :: text))) := by
    simp [toList_line]
  rw [hl, run_key hf.name.bare hf.name.short rfl ts his, ho, run_value hf.value (by omega) ht]
  rfl

theorem run_lines {fs : List FieldText} (hfs : ∀ f ∈ fs, f.IsPlain) {text : List Char}
    (ht : Reaches 2 text) (n : Nat) (ts : List Token) (is : List Nat) (fuel : Nat) :
    run (fuel + 3 * fs.length) (atLine n (fs.flatMap (·.line.toList) ++ text) ts (2 :: is)) =
      run fuel (atLine (n + fs.length) text ((fs.flatMap tokens).reverse ++ ts) (2 :: is)) := by
  induction fs generalizing n ts with
  | nil => rfl
  | cons f fs ih =>
    have hf := hfs f List.mem_cons_self
    have hfs := fun g hg => hfs g (.tail f hg)
    have hfuel : fuel + 3 * (f :: fs).length = fuel + 3 * fs.length + 3 := by
      rw [List.length_cons]
      omega
    rw [List.flatMap_cons, List.append_assoc, hfuel,
      run_line hf (reaches_lines hfs ht) n ts (by simp) (openedAt_self 2 ts is), ih hfs]
    simp [Nat.add_right_comm, ← Nat.add_assoc]

end FieldText

/-! ## Sections -/

namespace SectionText

structure IsPlain (s : SectionText) : Prop where
  name : IsName s.name
  ne_nil : s.fields ≠ []
  fields : ∀ f ∈ s.fields, f.IsPlain

def tokens (s : SectionText) : List Token :=
  [.key, .scalar .plain s.name.toList, .value, .blockMapping] ++
    s.fields.flatMap FieldText.tokens ++ [.blockEnd]

/-- The section as an entry of a mapping. -/
def entry (s : SectionText) : Node × Node :=
  (.scalar {} .plain s.name.toList, .mapping {} (s.fields.map FieldText.entry))

/-- How many tokens are read to get through a section. -/
def stepCount (s : SectionText) : Nat := 2 + 3 * s.fields.length

theorem toList_lines (s : SectionText) :
    s.lines.toList = s.name.toList ++ ':' :: '\n' :: s.fields.flatMap (·.line.toList) := by
  have hl : s.lines = s.name ++ ":\n" ++ String.join (s.fields.map FieldText.line) := rfl
  simp [hl, String.toList_join, List.flatMap_map]

theorem length_tokens (s : SectionText) : s.tokens.length = 4 * s.fields.length + 5 := by
  simp only [tokens, List.length_append, FieldText.length_tokens, List.length_cons, List.length_nil]
  omega

theorem stepCount_le (s : SectionText) : s.stepCount ≤ s.lines.toList.length := by
  have hline : ∀ n ∈ s.fields.map (·.line.toList.length), 3 ≤ n := by
    intro n hn
    obtain ⟨f, _, rfl⟩ := List.mem_map.1 hn
    simp only [FieldText.toList_line, List.length_append, List.length_cons, List.length_replicate]
    omega
  have h := List.card_nsmul_le_sum _ 3 hline
  rw [List.length_map, Nat.nsmul_eq_mul] at h
  simp only [stepCount, toList_lines, List.length_append, List.length_cons, List.length_flatMap]
  omega

theorem run_section {s : SectionText} (hs : s.IsPlain) {text : List Char} (ht : Indented text)
    (n : Nat) (ts : List Token) (fuel : Nat) :
    run (fuel + s.stepCount) (atLine n (s.lines.toList ++ text) ts [0]) =
      run fuel (atLine (n + 1 + s.fields.length) text (s.tokens.reverse ++ ts) [0]) := by
  obtain ⟨f, fs, hf⟩ := List.exists_cons_of_ne_nil hs.ne_nil
  have hplain : ∀ g ∈ f :: fs, g.IsPlain := hf ▸ hs.fields
  have htext : Reaches 2 text := ⟨0, Nat.zero_le 2, text, ht, rfl⟩
  have hfs : ∀ g ∈ fs, g.IsPlain := fun g hg => hplain g (.tail f hg)
  have hrest := FieldText.reaches_lines hfs htext
  have hl : s.lines.toList ++ text = List.replicate 0 ' ' ++ (s.name.toList ++ ':' ::
      ('\n' :: (f.line.toList ++ (fs.flatMap (·.line.toList) ++ text)))) := by
    simp [toList_lines, hf]
  have hfuel : fuel + s.stepCount = fuel + 3 * fs.length + 3 + 2 := by
    rw [stepCount, hf, List.length_cons]
    omega
  rw [hl, hfuel, run_key hs.name.bare hs.name.short rfl ts (by simp), openedAt_self, run_newline,
    FieldText.run_line (hplain f (by simp)) hrest _ _ (by simp) (openedAt_of_lt (by omega) _ []),
    FieldText.run_lines hfs htext, run_dedent ht _ _ (by omega) (by simp)]
  simp [tokens, hf, Nat.add_right_comm, ← Nat.add_assoc]

end SectionText

/-! ## Outlines -/

namespace Outline

def text (ss : List SectionText) : String := String.join (ss.map SectionText.lines)

/-- The settings that an outline gives, in its own order. -/
def entries (ss : List SectionText) : List (String × Setting) :=
  ss.map fun s => (s.name, .ofEntries (s.fields.map fun f => (f.1, resolve f.2)))

theorem toList_text (ss : List SectionText) : (text ss).toList = ss.flatMap (·.lines.toList) := by
  rw [text, String.toList_join, List.flatMap_map]

/-! ### Characters -/

def isOutlineChar (c : Char) : Bool := isLetter c || c == ' ' || c == ':' || c == '\n'

theorem isAllowed_of_isOutlineChar {c : Char} (hc : isOutlineChar c = true) :
    isAllowed c = true := by
  simp only [isOutlineChar, Bool.or_eq_true, beq_iff_eq] at hc
  obtain ((hc | rfl) | rfl) | rfl := hc
  · exact isAllowed_of_isLetter hc
  · decide
  · decide
  · decide

theorem unifyBreaks_eq {cs : List Char} (hcs : ∀ c ∈ cs, isOutlineChar c = true) :
    unifyBreaks cs = cs := by
  fun_induction unifyBreaks cs with
  | case1 => exact absurd (hcs '\r' (by simp)) (by decide)
  | case2 => exact absurd (hcs '\r' (by simp)) (by decide)
  | case3 => exact absurd (hcs '\x85' (by simp)) (by decide)
  | case4 c rest _ _ _ ih => rw [ih fun d hd => hcs d (.tail c hd)]
  | case5 => rfl

theorem isOutlineChar_of_bare {w : List Char} (hw : Bare w) {c : Char} (hc : c ∈ w) :
    isOutlineChar c = true := by
  simp [isOutlineChar, hw.isLetter c hc]

theorem isOutlineChar_of_mem_line {f : FieldText} (hf : f.IsPlain) {c : Char}
    (hc : c ∈ f.line.toList) : isOutlineChar c = true := by
  simp only [FieldText.toList_line, List.mem_append, List.mem_cons, List.mem_replicate,
    List.not_mem_nil, or_false] at hc
  obtain ⟨_, rfl⟩ | h | rfl | rfl | h | rfl := hc
  · decide
  · exact isOutlineChar_of_bare hf.name.bare h
  · decide
  · decide
  · exact isOutlineChar_of_bare hf.value h
  · decide

theorem isOutlineChar_of_mem {ss : List SectionText} (hss : ∀ s ∈ ss, s.IsPlain) {c : Char}
    (hc : c ∈ (text ss).toList) : isOutlineChar c = true := by
  simp only [toList_text, List.mem_flatMap, SectionText.toList_lines, List.mem_append,
    List.mem_cons] at hc
  obtain ⟨s, hs, h | rfl | rfl | ⟨f, hf, h⟩⟩ := hc
  · exact isOutlineChar_of_bare (hss s hs).name.bare h
  · decide
  · decide
  · exact isOutlineChar_of_mem_line ((hss s hs).fields f hf) h

theorem characters_text {ss : List SectionText} (hss : ∀ s ∈ ss, s.IsPlain) :
    characters (text ss) = .ok (text ss).toList := by
  have hchars := fun c => isOutlineChar_of_mem hss (c := c)
  have hfind : (text ss).toList.find? (!isAllowed ·) = none := by
    simp only [List.find?_eq_none, Bool.not_eq_true', Bool.not_eq_false]
    exact fun c hc => isAllowed_of_isOutlineChar (hchars c hc)
  rw [characters, hfind, unifyBreaks_eq hchars]

/-! ### Tokens -/

theorem indented_sections {ss : List SectionText} (hss : ∀ s ∈ ss, s.IsPlain) :
    Indented (ss.flatMap (·.lines.toList)) := by
  cases ss with
  | nil => exact .nothing
  | cons s ss =>
    rw [List.flatMap_cons, SectionText.toList_lines, List.append_assoc]
    exact (hss s List.mem_cons_self).name.bare.indented _

theorem run_end (n : Nat) (ts : List Token) (fuel : Nat) :
    run (fuel + 1) (atLine n [] ts [0]) = .ok ((.blockEnd :: ts).reverse) := rfl

theorem run_sections {ss : List SectionText} (hss : ∀ s ∈ ss, s.IsPlain) (n : Nat)
    (ts : List Token) (fuel : Nat) :
    run (fuel + 1 + (ss.map SectionText.stepCount).sum)
        (atLine n (ss.flatMap (·.lines.toList)) ts [0]) =
      .ok (ts.reverse ++ ss.flatMap SectionText.tokens ++ [.blockEnd]) := by
  induction ss generalizing n ts with
  | nil => simp [run_end]
  | cons s ss ih =>
    have hss' : ∀ r ∈ ss, r.IsPlain := fun r hr => hss r (.tail s hr)
    rw [List.map_cons, List.sum_cons, Nat.add_comm s.stepCount, ← Nat.add_assoc, List.flatMap_cons,
      SectionText.run_section (hss s List.mem_cons_self) (indented_sections hss'), ih hss']
    simp

/-- The first key opens the outermost mapping, as if it had been open. -/
theorem run_first {s : SectionText} (hs : s.IsPlain) (rest : List Char) (fuel : Nat) :
    run (fuel + 2) (atLine 0 (s.lines.toList ++ rest) [] []) =
      run (fuel + 2) (atLine 0 (s.lines.toList ++ rest) [.blockMapping] [0]) := by
  have hl : s.lines.toList ++ rest = List.replicate 0 ' ' ++ (s.name.toList ++ ':' ::
      ('\n' :: (s.fields.flatMap (·.line.toList) ++ rest))) := by
    simp [SectionText.toList_lines]
  rw [hl, run_key hs.name.bare hs.name.short rfl [] rfl,
    run_key hs.name.bare hs.name.short rfl [.blockMapping] rfl]
  rfl

theorem tokens_text {ss : List SectionText} (hne : ss ≠ []) (hss : ∀ s ∈ ss, s.IsPlain) :
    Yaml.tokens (text ss).toList =
      .ok (.blockMapping :: ss.flatMap SectionText.tokens ++ [.blockEnd]) := by
  have hlen : (ss.map SectionText.stepCount).sum ≤ (text ss).toList.length := by
    rw [toList_text, List.length_flatMap]
    exact List.sum_le_sum fun s _ => s.stepCount_le
  obtain ⟨fuel, hfuel⟩ := Nat.exists_eq_add_of_le' hlen
  have hread := run_sections hss 0 [.blockMapping] fuel
  have hsteps : ∃ k, fuel + 1 + (ss.map SectionText.stepCount).sum = k + 2 := by
    obtain ⟨s, rest, rfl⟩ := List.exists_cons_of_ne_nil hne
    refine Nat.exists_eq_add_of_le' ?_
    simp only [List.map_cons, List.sum_cons, SectionText.stepCount]
    omega
  obtain ⟨k, hk⟩ := hsteps
  have hstart : run (k + 2) (atLine 0 (ss.flatMap (·.lines.toList)) [] []) =
      run (k + 2) (atLine 0 (ss.flatMap (·.lines.toList)) [.blockMapping] [0]) := by
    obtain ⟨s, rest, rfl⟩ := List.exists_cons_of_ne_nil hne
    exact run_first (hss s List.mem_cons_self) _ k
  rw [Yaml.tokens, hfuel, Nat.add_right_comm, hk, toList_text]
  rw [hk] at hread
  exact hstart.trans hread

/-! ### Nodes -/

section Nodes

variable {hs : List (List Char × Tag)} {ns : List (String × Nat)}

theorem pairs_fields {fs : List FieldText} {fuel : Nat} (hf : fs.length + 3 ≤ fuel)
    (ts : List Token) :
    (Reading.pairs fuel).run ⟨fs.flatMap FieldText.tokens ++ .blockEnd :: ts, hs, ns⟩ =
      .ok (fs.map FieldText.entry, ⟨ts, hs, ns⟩) := by
  induction fs generalizing fuel with
  | nil =>
    obtain ⟨fuel, rfl⟩ := Nat.exists_eq_add_of_le' (Nat.le_of_add_left_le hf)
    exact Reading.pairs_end _ ts
  | cons f fs ih =>
    rw [List.length_cons] at hf
    obtain ⟨fuel, rfl⟩ := Nat.exists_eq_add_of_le' (Nat.le_of_add_left_le hf)
    exact Reading.pairs_cons (by simp) (Reading.node_scalar _ _ _ _) (ih (by omega))

theorem pairs_sections {ss : List SectionText} {fuel : Nat}
    (hf : (ss.flatMap SectionText.tokens).length + 5 ≤ fuel) (ts : List Token) :
    (Reading.pairs fuel).run ⟨ss.flatMap SectionText.tokens ++ .blockEnd :: ts, hs, ns⟩ =
      .ok (ss.map SectionText.entry, ⟨ts, hs, ns⟩) := by
  induction ss generalizing fuel with
  | nil =>
    obtain ⟨fuel, rfl⟩ := Nat.exists_eq_add_of_le' (Nat.le_of_add_left_le hf)
    exact Reading.pairs_end _ ts
  | cons s ss ih =>
    rw [List.flatMap_cons, List.length_append, SectionText.length_tokens] at hf
    obtain ⟨fuel, rfl⟩ : ∃ n, fuel = n + 3 := Nat.exists_eq_add_of_le' (by omega)
    have hfields : (Reading.pairs fuel).run ⟨s.fields.flatMap FieldText.tokens ++ .blockEnd ::
        (ss.flatMap SectionText.tokens ++ .blockEnd :: ts), hs, ns⟩ =
          .ok (s.fields.map FieldText.entry,
            ⟨ss.flatMap SectionText.tokens ++ .blockEnd :: ts, hs, ns⟩) :=
      pairs_fields (by omega) _
    have htokens : (s :: ss).flatMap SectionText.tokens ++ .blockEnd :: ts =
        .key :: .scalar .plain s.name.toList :: .value :: .blockMapping ::
          (s.fields.flatMap FieldText.tokens ++ .blockEnd ::
            (ss.flatMap SectionText.tokens ++ .blockEnd :: ts)) := by
      simp [SectionText.tokens]
    rw [htokens]
    exact Reading.pairs_cons (by simp) (Reading.node_mapping fuel _ rfl hfields) (ih (by omega))

end Nodes

theorem document?_tokens (ss : List SectionText) :
    document? (.blockMapping :: ss.flatMap SectionText.tokens ++ [.blockEnd]) =
      .ok (some (.mapping {} (ss.map SectionText.entry))) := by
  have hpairs : (Reading.pairs (3 * ((ss.flatMap SectionText.tokens).length + 2) + 2)).run
      ⟨ss.flatMap SectionText.tokens ++ [.blockEnd], Tag.usualHandles, []⟩ =
        .ok (ss.map SectionText.entry, ⟨[], Tag.usualHandles, []⟩) :=
    pairs_sections (by omega) []
  generalize hts : ss.flatMap SectionText.tokens ++ [.blockEnd] = ts at *
  have hlen : (ss.flatMap SectionText.tokens).length + 1 = ts.length := by simp [← hts]
  have hdoc : document? (.blockMapping :: ts) =
      (Reading.node (3 * (ts.length + 1) + 3) .block).run
        ⟨.blockMapping :: ts, Tag.usualHandles, []⟩ >>= fun r =>
          if (r.2.tokens.dropWhile (· == .documentEnd)).isEmpty then .ok (some r.1)
          else .error .secondDocument := rfl
  rw [List.cons_append, hts, hdoc, ← hlen, Reading.node_mapping _ .block rfl hpairs]
  rfl

/-! ### What they stand for -/

theorem setting_fields (l : Node.Links) (depth n : Nat) (fs : List FieldText) :
    (Node.setting l (depth + 1) (.mapping {} (fs.map FieldText.entry))).run n =
      .ok (.ofEntries (fs.map fun f => (f.1, resolve f.2)), n) :=
  Node.setting_mapping (Node.mapM_entrySetting fun f _ => by
    rw [Node.setting_scalar, String.ofList_toList])

theorem setting_sections (l : Node.Links) (depth n : Nat) (ss : List SectionText) :
    (Node.setting l (depth + 2) (.mapping {} (ss.map SectionText.entry))).run n =
      .ok (.ofEntries (entries ss), n) :=
  Node.setting_mapping (Node.mapM_entrySetting fun s _ => setting_fields l depth n s.fields)

theorem table_sections (ss : List SectionText) :
    Node.table (.mapping {} (ss.map SectionText.entry)) =
      .ok ((entries ss).foldl (fun t e => Setting.put e.1 e.2 t) []) := by
  rw [Node.table, Node.maxDepth]
  simp only [setting_sections, ok_bind]
  rfl

/-- An outline of words is the table of its sections, by name. -/
theorem table?_text {ss : List SectionText} (hne : ss ≠ []) (hss : ∀ s ∈ ss, s.IsPlain) :
    table? (text ss) = .ok ((entries ss).foldl (fun t e => Setting.put e.1 e.2 t) []) := by
  rw [table?, document, characters_text hss, ok_bind, tokens_text hne hss, ok_bind,
    document?_tokens]
  exact table_sections ss

end Outline

end ContextHub
