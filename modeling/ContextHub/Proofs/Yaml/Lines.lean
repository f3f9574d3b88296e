import ContextHub.Proofs.Yaml.Words
import ContextHub.Yaml.Lexer
/-!
# Lines of a block mapping

What the reader of tokens does with the two kinds of lines that an outline has: a key alone, under
which deeper lines follow, and a key with a word as its value. Both are seen from the beginning of
a line, where no key is waiting for its colon (`Layout.atLine`). A key opens a mapping at its
column if none is open there (`Layout.run_key`), and a line that is not indented closes one that is
deeper (`Layout.run_dedent`). A value ends where the next line is indented no further than its own
mapping, and the reader is then at the beginning of that line (`Layout.run_value`).
-/

namespace ContextHub.Yaml

theorem Place.right_right (p : Place) (m n : Nat) : (p.right m).right n = p.right (m + n) := by
  simp [right, Nat.add_assoc]

/-! ## Where a word ends -/

/-- What is left behind the spaces that indent a line: nothing, or a letter first. -/
inductive Indented : List Char → Prop where
  | nothing : Indented []
  | letter {c : Char} (hc : isLetter c = true) (rest : List Char) : Indented (c :: rest)

theorem Bare.indented {w : List Char} (hw : Bare w) (rest : List Char) : Indented (w ++ rest) := by
  cases w with
  | nil => exact absurd rfl hw.ne_nil
  | cons c w => exact .letter (hw.isLetter c List.mem_cons_self) (w ++ rest)

/-- The text at the beginning of a line that is indented by at most `k` spaces. -/
def Reaches (k : Nat) (text : List Char) : Prop :=
  ∃ j ≤ k, ∃ cs, Indented cs ∧ text = List.replicate j ' ' ++ cs

theorem plainFrom_append {w : List Char} (hw : ∀ c ∈ w, isLetter c = true) (inFlow : Bool)
    (margin : Nat) (text : List Char) (p : Place) (rest : List Char) :
    plainFrom inFlow margin text .nothing p (w ++ rest) =
      plainFrom inFlow margin (w.reverse ++ text) .nothing (p.right w.length) rest := by
  induction w generalizing text p with
  | nil => rfl
  | cons c w ih =>
    have hc := hw c List.mem_cons_self
    have hends : ∀ r, endsPlain inFlow margin .nothing p c r = false := fun r => by
      simp [endsPlain, Gap.isEmpty, isMarker_of_isLetter hc, ne_of_isLetter hc (d := ':') rfl,
        isFlowIndicator_of_isLetter hc]
    rw [List.cons_append, plainFrom, if_neg (by simp [isBlank_of_isLetter hc]),
      if_neg (by simp [isBreak_of_isLetter hc]), if_neg (by simp [hends]),
      if_neg (by simp [ne_of_isLetter hc (d := ':') rfl]), ih fun c h => hw c (.tail _ h),
      after_of_isLetter hc, Place.right_right]
    simp [Gap.onto, Nat.add_comm]

/-- A word ends at a colon that white space follows. -/
theorem plainFrom_colon {rest : List Char} (hr : atSpace rest = true) (inFlow : Bool) (margin : Nat)
    (text : List Char) (p : Place) :
    plainFrom inFlow margin text .nothing p (':' :: rest) =
      .ok ⟨text.reverse, ⟨p, ':' :: rest⟩, false⟩ := by
  have hends : endsPlain inFlow margin .nothing p ':' rest = true := by simp [endsPlain, hr]
  rw [plainFrom, if_neg (by decide), if_neg (by decide), if_pos hends]
  rfl

theorem plainFrom_spaces {cs : List Char} (hcs : Indented cs) {j k n i : Nat} (hj : i + j ≤ k)
    (text : List Char) :
    plainFrom false (k + 1) text (.breaks (some '\n') []) ⟨n, i⟩ (List.replicate j ' ' ++ cs) =
      .ok ⟨text.reverse, ⟨⟨n, i + j⟩, cs⟩, true⟩ := by
  induction j generalizing i with
  | zero =>
    cases hcs with
    | nothing => rfl
    | @letter c hc rest =>
      have hends : endsPlain false (k + 1) (.breaks (some '\n') []) ⟨n, i⟩ c rest = true := by
        simp [endsPlain, Gap.isEmpty]
        omega
      rw [List.replicate_zero, List.nil_append, plainFrom,
        if_neg (by simp [isBlank_of_isLetter hc]), if_neg (by simp [isBreak_of_isLetter hc]),
        if_pos hends]
      rfl
  | succ j ih =>
    have hp : Place.after ⟨n, i⟩ ' ' = ⟨n, i + 1⟩ := rfl
    rw [List.replicate_succ, List.cons_append, plainFrom, if_pos (by decide), if_neg (by simp),
      hp, Gap.blank, ih (by omega)]
    simp only [Nat.add_assoc, Nat.add_comm 1]

/-- A word ends at the end of its line if the next line is not indented further than its block. -/
theorem plainFrom_break {cs : List Char} (hcs : Indented cs) {j k : Nat} (hj : j ≤ k)
    (text : List Char) (p : Place) :
    plainFrom false (k + 1) text .nothing p ('\n' :: (List.replicate j ' ' ++ cs)) =
      .ok ⟨text.reverse, ⟨⟨p.line + 1, j⟩, cs⟩, true⟩ := by
  have hp : p.after '\n' = ⟨p.line + 1, 0⟩ := rfl
  have hg : Gap.nothing.lineBreak '\n' = .breaks (some '\n') [] := rfl
  rw [plainFrom, if_neg (by decide), if_pos (by decide), hp, hg, plainFrom_spaces hcs (by omega),
    Nat.zero_add]

namespace Layout

/-! ## The way to a token -/

theorem approachFrom_spaces (inFlow allowsKey : Bool) (p : Place) (j : Nat) (cs : List Char) :
    approachFrom inFlow false allowsKey p (List.replicate j ' ' ++ cs) =
      approachFrom inFlow false allowsKey (p.right j) cs := by
  induction j generalizing p with
  | zero => rfl
  | succ j ih =>
    have hp : p.after ' ' = p.right 1 := rfl
    rw [List.replicate_succ, List.cons_append, approachFrom, if_neg (by decide), if_neg (by decide),
      if_pos (by simp [isSkipped]), ih, hp, Place.right_right, Nat.add_comm]

theorem approachFrom_indented {cs : List Char} (hcs : Indented cs) (inFlow allowsKey : Bool)
    (p : Place) : approachFrom inFlow false allowsKey p cs = (⟨p, cs⟩, allowsKey) := by
  cases hcs with
  | nothing => rfl
  | letter hc rest =>
    rw [approachFrom, if_neg (by simp [isBreak_of_isLetter hc]),
      if_neg (by simp [ne_of_isLetter hc (d := '#') rfl]), if_neg]
    simp [isSkipped, ne_of_isLetter hc (d := ' ') rfl, ne_of_isLetter hc (d := '\t') rfl,
      ne_of_isLetter hc (d := byteOrderMark) rfl]

theorem approachFrom_line {cs : List Char} (hcs : Indented cs) (inFlow allowsKey : Bool)
    (n j : Nat) :
    approachFrom inFlow false allowsKey ⟨n, 0⟩ (List.replicate j ' ' ++ cs) =
      (⟨⟨n, j⟩, cs⟩, allowsKey) := by
  rw [approachFrom_spaces, approachFrom_indented hcs, Place.right, Nat.zero_add]

theorem unroll_of_le {l : Layout} {k : Nat} (h : l.indents.head?.all (· ≤ k) = true) :
    l.unroll k = l := by
  have hd : l.indents.takeWhile (k < ·) = [] := by
    cases hi : l.indents with
    | nil => rfl
    | cons i is => simp_all
  unfold unroll
  split
  · rfl
  · simp [hd]

theorem unroll_cons {l : Layout} (hf : l.outerKeys = []) {j k : Nat} (hj : j < k) {is : List Nat}
    (hi : l.indents = k :: is) (his : is.head?.all (· ≤ j) = true) :
    l.unroll j = { l with indents := is, tokens := .blockEnd :: l.tokens } := by
  have hd : (k :: is).takeWhile (j < ·) = [k] := by
    cases is with
    | nil => simp [hj]
    | cons i is => simp_all
  simp [unroll, inFlow, hf, hi, hd]

/-- On the way to a token that no key ends before, the cursor moves, and then what does not reach
there is closed. -/
theorem approach_eq_unroll {l : Layout} {q : Cursor} {b : Bool} (hf : l.outerKeys = [])
    (ha : approachFrom false false l.allowsKey l.cursor.place l.cursor.rest = (q, b))
    (hk : l.key.any (·.isStale q.place) = false) :
    l.approach = .ok ({ l with cursor := q, allowsKey := b }.unroll q.place.column) := by
  have hin : l.inFlow = false := by simp [inFlow, hf]
  have hfresh : PossibleKey.fresh q.place l.key = .ok l.key := by simp [PossibleKey.fresh, hk]
  simp only [approach, hin, ha, freshKeys, hfresh, hf, List.mapM_nil]
  rfl

theorem approach_eq {l : Layout} {q : Cursor} {b : Bool} (hf : l.outerKeys = [])
    (ha : approachFrom false false l.allowsKey l.cursor.place l.cursor.rest = (q, b))
    (hk : l.key.any (·.isStale q.place) = false)
    (hi : l.indents.head?.all (· ≤ q.place.column) = true) :
    l.approach = .ok { l with cursor := q, allowsKey := b } := by
  rw [approach_eq_unroll hf ha hk]
  exact congrArg Except.ok (unroll_of_le hi)

/-- Layouts from which the way leads to the same place are read alike. -/
theorem run_congr {l l' : Layout} (h : l.approach = l'.approach) (fuel : Nat) :
    run fuel l = run fuel l' := by
  cases fuel with
  | zero => rfl
  | succ fuel => rw [run, run, h]

/-! ## One token -/

theorem step_letter {c : Char} (hc : isLetter c = true) (l : Layout) (rest : List Char) :
    l.step c rest = l.readPlain := by
  have hne : ∀ d, isLetter d = false → c ≠ d := fun d hd => ne_of_isLetter hc hd
  simp [step, hne '%' rfl, hne '[' rfl, hne '\x7b' rfl, hne ']' rfl, hne '\x7d' rfl, hne ',' rfl,
    hne '-' rfl, hne '?' rfl, hne ':' rfl, hne '*' rfl, hne '&' rfl, hne '!' rfl, hne '|' rfl,
    hne '>' rfl, hne '\'' rfl, hne '"' rfl, isMarker_of_isLetter hc, startsPlain_of_isLetter hc]

theorem step_colon {l : Layout} {rest : List Char} (hr : atSpace rest = true) :
    l.step ':' rest = l.readValue := by
  simp [step, isMarker, hr]

theorem run_readPlain {l l' l'' : Layout} {w rest : List Char} (hw : Bare w)
    (ha : l.approach = .ok l') (hr : l'.cursor.rest = w ++ rest) (hs : l'.readPlain = .ok l'')
    (fuel : Nat) : run (fuel + 1) l = run fuel l'' := by
  obtain ⟨c, w, rfl⟩ := List.exists_cons_of_ne_nil hw.ne_nil
  have hc := hw.isLetter c List.mem_cons_self
  rw [run, ha]
  simp only [bind, Except.bind, hr, List.cons_append, step_letter hc, hs]

/-! ## The parts of a line -/

/-- The reader at the beginning of a line, outside of flow collections and of keys. -/
def atLine (line : Nat) (cs : List Char) (tokens : List Token) (indents : List Nat) : Layout :=
  { cursor := ⟨⟨line, 0⟩, cs⟩, tokens := tokens, indents := indents }

/-- The reader in front of the colon of a key that began at `column`. -/
def atColon (line column : Nat) (w rest : List Char) (tokens : List Token) (indents : List Nat) :
    Layout :=
  { cursor := ⟨⟨line, column + w.length⟩, ':' :: rest⟩
    tokens := .scalar .plain w :: tokens
    indents := indents
    key := some ⟨indents.head? == some column, tokens.length, ⟨line, column⟩⟩
    allowsKey := false }

/-- The reader behind the colon of a key. -/
def afterColon (p : Place) (rest : List Char) (tokens : List Token) (indents : List Nat) : Layout :=
  { cursor := ⟨p, rest⟩, tokens := tokens, indents := indents, allowsKey := false }

/-- The tokens and the open collections once a key at `column` is known to be one. -/
def openedAt (column : Nat) (tokens : List Token) (indents : List Nat) : List Token × List Nat :=
  if indents.head?.all (· < column) then (.blockMapping :: tokens, column :: indents)
  else (tokens, indents)

@[simp] theorem openedAt_self (k : Nat) (ts : List Token) (is : List Nat) :
    openedAt k ts (k :: is) = (ts, k :: is) := by
  simp [openedAt]

theorem openedAt_of_lt {j k : Nat} (h : j < k) (ts : List Token) (is : List Nat) :
    openedAt k ts (j :: is) = (.blockMapping :: ts, k :: j :: is) := by
  simp [openedAt, h]

theorem run_word {w : List Char} (hw : Bare w) {n k : Nat} {rest : List Char}
    (hr : atSpace rest = true) {ts : List Token} {is : List Nat}
    (his : is.head?.all (· ≤ k) = true) (fuel : Nat) :
    run (fuel + 1) (atLine n (List.replicate k ' ' ++ (w ++ ':' :: rest)) ts is) =
      run fuel (atColon n k w rest ts is) := by
  have ha : (atLine n (List.replicate k ' ' ++ (w ++ ':' :: rest)) ts is).approach =
      .ok { atLine n [] ts is with cursor := ⟨⟨n, k⟩, w ++ ':' :: rest⟩ } :=
    approach_eq rfl (approachFrom_line (hw.indented _) false true n k) rfl his
  refine run_readPlain hw ha rfl ?_ fuel
  simp [readPlain, beginNode, saveKey, atLine, PossibleKey.dropped, plain,
    plainFrom_append hw.isLetter, plainFrom_colon hr, bind, Except.bind, pure, Except.pure, push,
    inFlow, column, Place.right, atColon]

theorem run_colon {w : List Char} (hw : w.length ≤ PossibleKey.maxLength) {n k : Nat}
    {rest : List Char} (hr : atSpace rest = true) (ts : List Token) {is : List Nat}
    (his : is.head?.all (· ≤ k) = true) (fuel : Nat) :
    run (fuel + 1) (atColon n k w rest ts is) =
      run fuel (afterColon ⟨n, k + w.length + 1⟩ rest
        (.value :: .scalar .plain w :: .key :: (openedAt k ts is).1) (openedAt k ts is).2) := by
  have ha : (atColon n k w rest ts is).approach = .ok (atColon n k w rest ts is) := by
    refine approach_eq (q := ⟨⟨n, k + w.length⟩, ':' :: rest⟩) (b := false) rfl ?_ ?_ ?_
    · simp [atColon, approachFrom, isSkipped, isBreak, byteOrderMark]
    · have hnear : ¬ PossibleKey.maxLength < w.length := by omega
      simp [atColon, PossibleKey.isStale, hnear]
    · revert his
      simp only [atColon]
      cases is.head? with
      | none => simp
      | some i => simp; omega
  rw [run, ha]
  simp only [bind, Except.bind, atColon, step_colon hr, readValue]
  by_cases h : is.head?.all (· < k) = true
  · have hi : ts.length + 1 + 1 - ts.length = 2 := by omega
    simp [insertAt, roll, take, push, inFlow, h, openedAt, Cursor.skip, Cursor.moveTo, Place.right,
      afterColon, hi]
  · simp [insertAt, roll, take, push, inFlow, h, openedAt, Cursor.skip, Cursor.moveTo, Place.right,
      afterColon]

/-! ## Lines -/

/-- A key at the beginning of a line, up to its colon. -/
theorem run_key {w : List Char} (hw : Bare w) (hlen : w.length ≤ PossibleKey.maxLength) {n k : Nat}
    {rest : List Char} (hr : atSpace rest = true) (ts : List Token) {is : List Nat}
    (his : is.head?.all (· ≤ k) = true) (fuel : Nat) :
    run (fuel + 2) (atLine n (List.replicate k ' ' ++ (w ++ ':' :: rest)) ts is) =
      run fuel (afterColon ⟨n, k + w.length + 1⟩ rest
        (.value :: .scalar .plain w :: .key :: (openedAt k ts is).1) (openedAt k ts is).2) := by
  rw [run_word hw hr his, run_colon hlen hr ts his]

/-- A value ends its line. -/
theorem run_value {v text : List Char} (hv : Bare v) {n i k : Nat} (hk : k ≤ i)
    (htext : Reaches k text) (ts : List Token) (is : List Nat) (fuel : Nat) :
    run (fuel + 1) (afterColon ⟨n, i⟩ (' ' :: (v ++ '\n' :: text)) ts (k :: is)) =
      run fuel (atLine (n + 1) text (.scalar .plain v :: ts) (k :: is)) := by
  obtain ⟨j, hj, cs, hcs, rfl⟩ := htext
  have hline := approachFrom_line hcs false true (n + 1) j
  have hend := plainFrom_break hcs hj (v.reverse ++ []) (Place.right ⟨n, i + 1⟩ v.length)
  generalize List.replicate j ' ' ++ cs = text at hline hend ⊢
  have ha : (afterColon ⟨n, i⟩ (' ' :: (v ++ '\n' :: text)) ts (k :: is)).approach =
      .ok (afterColon ⟨n, i + 1⟩ (v ++ '\n' :: text) ts (k :: is)) := by
    refine approach_eq (q := ⟨⟨n, i + 1⟩, v ++ '\n' :: text⟩) (b := false) rfl ?_ rfl ?_
    · simpa [afterColon, Place.right, approachFrom_indented (hv.indented _)] using
        approachFrom_spaces false false ⟨n, i⟩ 1 (v ++ '\n' :: text)
    · simp [afterColon]
      omega
  have hs : readPlain (afterColon ⟨n, i + 1⟩ (v ++ '\n' :: text) ts (k :: is)) =
      .ok { atLine (n + 1) cs (.scalar .plain v :: ts) (k :: is) with
        cursor := ⟨⟨n + 1, j⟩, cs⟩ } := by
    simp only [readPlain, beginNode, saveKey, afterColon, plain, plainFrom_append hv.isLetter,
      inFlow, margin, bind, Except.bind, pure, Except.pure, List.isEmpty_nil, Bool.not_true,
      Bool.false_eq_true, if_false, hend]
    simp [push, atLine, Place.right]
  rw [run_readPlain hv ha rfl hs]
  -- The reader already stands behind the spaces of the next line, where it would go from its
  -- beginning.
  have hhere := approachFrom_indented hcs false true ⟨n + 1, j⟩
  apply run_congr
  rw [approach_eq_unroll (q := ⟨⟨n + 1, j⟩, cs⟩) (b := true) rfl hhere rfl,
    approach_eq_unroll (q := ⟨⟨n + 1, j⟩, cs⟩) (b := true) rfl hline rfl]
  rfl

/-- A line may end at the colon. -/
theorem run_newline (p : Place) (cs : List Char) (ts : List Token) (is : List Nat) (fuel : Nat) :
    run fuel (afterColon p ('\n' :: cs) ts is) = run fuel (atLine (p.line + 1) cs ts is) := by
  have hp : p.after '\n' = ⟨p.line + 1, 0⟩ := rfl
  have ha : approachFrom false false false p ('\n' :: cs) =
      approachFrom false false true ⟨p.line + 1, 0⟩ cs := by
    rw [approachFrom, if_pos (by decide), hp]
    rfl
  apply run_congr
  simp [approach, atLine, afterColon, inFlow, ha]

/-- A line that is not indented closes what is deeper. -/
theorem run_dedent {text : List Char} (ht : Indented text) (n : Nat) (ts : List Token) {k : Nat}
    (hk : 0 < k) {is : List Nat} (his : is.head?.all (· ≤ 0) = true) (fuel : Nat) :
    run fuel (atLine n text ts (k :: is)) = run fuel (atLine n text (.blockEnd :: ts) is) := by
  have ha := approachFrom_indented ht false true ⟨n, 0⟩
  apply run_congr
  rw [approach_eq_unroll (q := ⟨⟨n, 0⟩, text⟩) (b := true) rfl ha rfl,
    approach_eq_unroll (q := ⟨⟨n, 0⟩, text⟩) (b := true) rfl ha rfl]
  congr 1
  rw [unroll_cons rfl hk rfl his, unroll_of_le his]
  rfl

end Layout

end ContextHub.Yaml
