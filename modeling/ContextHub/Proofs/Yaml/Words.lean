import ContextHub.Yaml.Plain
import ContextHub.Yaml.Scalar
/-!
# Words and what they stand for

A word is made of letters, digits and underscores. None of these is an indicator, so a word is one
plain scalar wherever it stands (`Bare`). What it stands for depends on the whole of it: the digits
of a number are that number (`resolve_repr`), the two flags are flags (`resolve_flag`), and
what begins with a letter of the alphabet is its own text, but for the few words that are not
(`resolve_text`).
-/

namespace ContextHub.Yaml

/-! ## Letters -/

theorem isAlpha_iff_toNat {c : Char} :
    c.isAlpha = true ↔ ('A'.toNat ≤ c.toNat ∧ c.toNat ≤ 'Z'.toNat) ∨
      ('a'.toNat ≤ c.toNat ∧ c.toNat ≤ 'z'.toNat) := by
  have hranges : c.isAlpha = (decide (c.val ≥ 'A'.val ∧ c.val ≤ 'Z'.val) ||
      (decide (c.val ≥ 'a'.val) && decide (c.val ≤ 'z'.val))) := rfl
  simp only [hranges, Bool.or_eq_true, Bool.and_eq_true, decide_eq_true_eq, ge_iff_le,
    UInt32.le_iff_toNat_le]
  rfl

theorem isAlpha_of_toLower {c : Char} (h : c.toLower.isAlpha = true) : c.isAlpha = true := by
  refine Classical.byContradiction fun hno => hno ?_
  have hsame : c.toLower = c := dif_neg fun hu => hno (isAlpha_iff_toNat.2 (.inl hu))
  rwa [hsame] at h

/-- A character that no reader takes for an indicator, wherever it stands. -/
def isLetter (c : Char) : Bool := c.isAlphanum || c == '_'

section Letters

variable {c : Char} (hc : isLetter c = true)
include hc

theorem ne_of_isLetter {d : Char} (hd : isLetter d = false) : c ≠ d := by
  rintro rfl
  simp [hc] at hd

theorem not_mem_of_isLetter {ds : List Char} (hds : ds.all (!isLetter ·) = true) : c ∉ ds := by
  intro hm
  have hd := List.all_eq_true.1 hds c hm
  simp [hc] at hd

theorem isBlank_of_isLetter : isBlank c = false := by
  simp [isBlank, ne_of_isLetter hc (d := ' ') rfl, ne_of_isLetter hc (d := '\t') rfl]

theorem isBreak_of_isLetter : isBreak c = false := by
  simp [isBreak, ne_of_isLetter hc (d := '\n') rfl, ne_of_isLetter hc (d := '\u2028') rfl,
    ne_of_isLetter hc (d := '\u2029') rfl]

theorem isFlowIndicator_of_isLetter : isFlowIndicator c = false := by
  simp [isFlowIndicator, ne_of_isLetter hc (d := ',') rfl, ne_of_isLetter hc (d := '[') rfl,
    ne_of_isLetter hc (d := ']') rfl, ne_of_isLetter hc (d := '\x7b') rfl,
    ne_of_isLetter hc (d := '\x7d') rfl]

theorem isMarker_of_isLetter (rest : List Char) : isMarker (c :: rest) = false := by
  have hh := ne_of_isLetter hc (d := '-') rfl
  have hp := ne_of_isLetter hc (d := '.') rfl
  unfold isMarker
  split
  · rename_i h; exact absurd (List.cons.inj h).1 hh
  · rename_i h; exact absurd (List.cons.inj h).1 hp
  · rfl

theorem startsPlain_of_isLetter (inFlow : Bool) (rest : List Char) :
    startsPlain inFlow (c :: rest) = true := by
  have hreserved : c ∉ reserved := not_mem_of_isLetter hc (by decide)
  simp [startsPlain, isSpace, isBlank_of_isLetter hc, isBreak_of_isLetter hc, hreserved,
    ne_of_isLetter hc (d := '-') rfl, ne_of_isLetter hc (d := '?') rfl,
    ne_of_isLetter hc (d := ':') rfl]

theorem isAllowed_of_isLetter : isAllowed c = true := by
  have hrange : ' ' ≤ c ∧ c ≤ '~' := by
    simp only [isLetter, Char.isAlphanum, Bool.or_eq_true, isAlpha_iff_toNat,
      Char.isDigit_iff_toNat, beq_iff_eq] at hc
    simp only [Char.le_def, UInt32.le_iff_toNat_le]
    obtain hc | rfl := hc
    · simp at hc ⊢
      omega
    · decide
  simp [isAllowed, hrange]

theorem after_of_isLetter (p : Place) : p.after c = p.right 1 := by
  simp [Place.after, Place.right, isBreak_of_isLetter hc]

end Letters

/-- A word that is one plain scalar wherever it stands. -/
structure Bare (w : List Char) : Prop where
  ne_nil : w ≠ []
  isLetter : ∀ c ∈ w, isLetter c = true

theorem bare_iff {w : List Char} : Bare w ↔ (!w.isEmpty && w.all isLetter) = true := by
  rw [Bool.and_eq_true, Bool.not_eq_true', List.isEmpty_eq_false_iff, List.all_eq_true]
  exact ⟨fun h => ⟨h.ne_nil, h.isLetter⟩, fun ⟨hne, hl⟩ => ⟨hne, hl⟩⟩

/-! ## Numbers -/

theorem digit?_of_isDigit {c : Char} (hc : c.isDigit = true) :
    Hex.digit? c = some (c.toNat - '0'.toNat) := by
  obtain ⟨hlow, hhigh⟩ := Char.isDigit_iff_toNat.1 hc
  have hrange : '0' ≤ c ∧ c ≤ '9' := by
    simp only [Char.le_def, UInt32.le_iff_toNat_le]
    exact ⟨hlow, hhigh⟩
  rw [Hex.digit?, if_pos hrange]

theorem digits?_of_isDigit {cs : List Char} (hne : cs ≠ []) (hcs : ∀ c ∈ cs, c.isDigit = true) :
    digits? 10 cs = some (Nat.ofDigitChars 10 cs 0) := by
  have hfold : ∀ n : Nat, cs.foldlM (fun n c => do
      let d ← Hex.digit? c
      if d < 10 then some (10 * n + d) else none) n = some (Nat.ofDigitChars 10 cs n) := by
    clear hne
    induction cs with
    | nil => exact fun n => rfl
    | cons c cs ih =>
      intro n
      have hc := hcs c List.mem_cons_self
      have hlt : c.toNat - '0'.toNat < 10 := by
        have h := Char.isDigit_iff_toNat.1 hc
        simp at h ⊢
        omega
      rw [List.foldlM_cons, digit?_of_isDigit hc, Nat.ofDigitChars_cons]
      simp only [Option.bind_eq_bind, Option.bind_some, if_pos hlt]
      exact ih (fun d hd => hcs d (.tail c hd)) _
  cases cs with
  | nil => exact absurd rfl hne
  | cons c cs => exact hfold 0

/-- Only zero itself is written with a zero first. -/
theorem head?_toDigits_ne {n : Nat} (hn : 0 < n) : (Nat.toDigits 10 n).head? ≠ some '0' := by
  induction n using Nat.strongRecOn with
  | ind n ih =>
    rw [Nat.toDigits_eq_if (by omega)]
    split
    · have hdigit : n.digitChar ≠ '0' := by
        obtain rfl | rfl | rfl | rfl | rfl | rfl | rfl | rfl | rfl :
            n = 1 ∨ n = 2 ∨ n = 3 ∨ n = 4 ∨ n = 5 ∨ n = 6 ∨ n = 7 ∨ n = 8 ∨ n = 9 := by omega
        all_goals decide
      simpa using hdigit
    · have hhead := ih (n / 10) (by omega) (by omega)
      cases hd : Nat.toDigits 10 (n / 10) with
      | nil => exact absurd hd Nat.toDigits_ne_nil
      | cons c cs => simpa [hd] using hhead

theorem hasIdleZero_toDigits (n : Nat) : hasIdleZero (Nat.toDigits 10 n) = false := by
  obtain rfl | hn := Nat.eq_zero_or_pos n
  · rfl
  · have h := head?_toDigits_ne hn
    unfold hasIdleZero
    split
    · rename_i heq
      exact absurd (by rw [heq]; rfl) h
    · rfl

theorem isDigit_of_mem_toDigits {n : Nat} {c : Char} (hc : c ∈ Nat.toDigits 10 n) :
    c.isDigit = true :=
  Nat.isDigit_of_mem_toDigits (by omega) (by omega) hc

theorem natural?_toDigits (n : Nat) : natural? (Nat.toDigits 10 n) = some n := by
  have hdigits := digits?_of_isDigit Nat.toDigits_ne_nil fun c => isDigit_of_mem_toDigits (n := n)
  rw [Nat.ofDigitChars_ten_toDigits] at hdigits
  -- The marks of other bases are no digits.
  have hmark : ∀ {m : Char} {rest : List Char}, m.isDigit = false →
      Nat.toDigits 10 n ≠ '0' :: m :: rest := fun hm heq => by
    rw [isDigit_of_mem_toDigits (n := n) (by simp [heq])] at hm
    cases hm
  unfold natural?
  split
  · rename_i heq; exact absurd heq (hmark rfl)
  · rename_i heq; exact absurd heq (hmark rfl)
  · rename_i heq; exact absurd heq (hmark rfl)
  · rw [hasIdleZero_toDigits, if_neg (by simp), hdigits]

theorem whole?_cons {c : Char} {cs : List Char} (hm : c ≠ '-') (hp : c ≠ '+') :
    whole? (c :: cs) = (natural? (c :: cs)).bind ofNatural := by
  unfold whole?
  split
  · rename_i heq; exact absurd (List.cons.inj heq).1 hm
  · rename_i heq; exact absurd (List.cons.inj heq).1 hp
  · rfl

/-- A word is none of those whose first characters are of another class. -/
theorem contains_eq_false {p : Char → Bool} {c : Char} {cs : List Char} {s : String}
    (hs : s.toList = c :: cs) (hp : p c = true) {words : List String}
    (hw : words.all (fun w => w.toList.head?.all (!p ·)) = true) : words.contains s = false := by
  rw [List.contains_eq_mem, decide_eq_false_iff_not]
  intro hm
  have h := List.all_eq_true.1 hw s hm
  simp [hs, hp] at h

/-- What is neither nothing nor a flag is a number or text. -/
theorem resolve_eq {s : String} (number? : Option Setting) (hne : s ≠ "")
    (hnull : isNull s = false) (hflag : flag? s = none)
    (hnumber : ((whole? s.toList).orElse fun _ => properDecimal? s.toList) = number?) :
    resolve s = number?.getD (.text s) := by
  simp [resolve, hne, hnull, hflag, ← hnumber]

/-- The digits of a number stand for it. -/
theorem resolve_repr {n : Nat} (hn : n < Decimal.wordCount) : resolve n.repr = .unsigned n := by
  have hlist : n.repr.toList = Nat.toDigits 10 n := Nat.toList_repr
  obtain ⟨c, cs, hcs⟩ := List.exists_cons_of_ne_nil (Nat.toDigits_ne_nil (n := n) (b := 10))
  have hc : c.isDigit = true := isDigit_of_mem_toDigits (n := n) (by simp [hcs])
  have hword : ∀ {words : List String},
      words.all (fun w => w.toList.head?.all (!Char.isDigit ·)) = true →
        words.contains n.repr = false :=
    contains_eq_false (hlist.trans hcs) hc
  have hflag : flag? n.repr = none := by
    rw [flag?, hword (by decide), hword (by decide)]
    rfl
  have hwhole : whole? n.repr.toList = some (.unsigned n) := by
    have hm : c ≠ '-' := by rintro rfl; cases hc
    have hp : c ≠ '+' := by rintro rfl; cases hc
    rw [hlist, hcs, whole?_cons hm hp, ← hcs, natural?_toDigits, Option.bind_some, ofNatural,
      if_pos hn]
  exact resolve_eq (some (.unsigned n)) Nat.repr_ne_empty (hword (by decide)) hflag
    (by rw [hwhole]; rfl)

theorem bare_repr (n : Nat) : Bare n.repr.toList := by
  rw [Nat.toList_repr]
  exact ⟨Nat.toDigits_ne_nil, fun c hc => by
    simp [isLetter, Char.isAlphanum, isDigit_of_mem_toDigits hc]⟩

/-! ## Flags -/

theorem resolve_flag (b : Bool) : resolve (toString b) = .flag b := by
  cases b <;> rfl

theorem bare_flag (b : Bool) : Bare (toString b).toList := by
  rw [bare_iff]
  cases b <;> rfl

/-! ## Text -/

section Text

variable {c : Char} (hc : c.isAlpha = true) (cs : List Char)
include hc

theorem ne_of_isAlpha {d : Char} (hd : d.isAlpha = false) : c ≠ d := by
  rintro rfl
  simp [hc] at hd

theorem isDigit_of_isAlpha : c.isDigit = false := by
  rw [isAlpha_iff_toNat] at hc
  rw [← Bool.not_eq_true, Char.isDigit_iff_toNat]
  simp at hc ⊢
  omega

theorem hasIdleZero_of_isAlpha : hasIdleZero (c :: cs) = false := by
  unfold hasIdleZero
  split
  · rename_i heq; exact absurd (List.cons.inj heq).1 (ne_of_isAlpha hc rfl)
  · rfl

/-- Some letters are digits of other bases, but none is one of base ten. -/
theorem digits?_of_isAlpha : digits? 10 (c :: cs) = none := by
  have hlarge : ∀ d, Hex.digit? c = some d → ¬ d < 10 := by
    intro d hd
    have hno : ¬ ('0' ≤ c ∧ c ≤ '9') := fun h => by
      have hdigit := isDigit_of_isAlpha hc
      rw [Char.isDigit_iff_toNat.2 h] at hdigit
      cases hdigit
    rw [Hex.digit?, if_neg hno] at hd
    split at hd
    · cases hd; omega
    · split at hd
      · cases hd; omega
      · cases hd
  rw [digits?, List.foldlM_cons]
  · cases hd : Hex.digit? c with
    | none => rfl
    | some d =>
      simp only [Option.bind_eq_bind, Option.bind_some, if_neg (hlarge d hd)]
      rfl
  · simp

theorem natural?_of_isAlpha : natural? (c :: cs) = none := by
  have hzero := ne_of_isAlpha hc (d := '0') rfl
  unfold natural?
  split
  · rename_i heq; exact absurd (List.cons.inj heq).1 hzero
  · rename_i heq; exact absurd (List.cons.inj heq).1 hzero
  · rename_i heq; exact absurd (List.cons.inj heq).1 hzero
  · rw [hasIdleZero_of_isAlpha hc, if_neg (by simp), digits?_of_isAlpha hc]

theorem sign_of_isAlpha : Decimal.sign (c :: cs) = (false, c :: cs) := by
  unfold Decimal.sign
  split
  · rename_i heq; exact absurd (List.cons.inj heq).1 (ne_of_isAlpha hc rfl)
  · rename_i heq; exact absurd (List.cons.inj heq).1 (ne_of_isAlpha hc rfl)
  · rfl

theorem double?_of_isAlpha : Decimal.double? (c :: cs) = none := by
  have hdigits : Decimal.digits (c :: cs) = ([], c :: cs) := by
    simp [Decimal.digits, isDigit_of_isAlpha hc]
  have hfraction : Decimal.fraction (c :: cs) = ([], c :: cs) := by
    unfold Decimal.fraction
    split
    · rename_i heq; exact absurd (List.cons.inj heq).1 (ne_of_isAlpha hc rfl)
    · rfl
  simp [Decimal.double?, sign_of_isAlpha hc, hdigits, hfraction]

theorem properDecimal?_of_isAlpha : properDecimal? (c :: cs) = none := by
  have hword : ∀ {words : List String},
      words.all (fun w => w.toList.head?.all (!Char.isAlpha ·)) = true →
        words.contains (String.ofList (c :: cs)) = false :=
    contains_eq_false String.toList_ofList hc
  have hinfinity : infinity.contains (String.ofList (c :: cs)) = false := hword (by decide)
  have hnumber : notANumber.contains (String.ofList (c :: cs)) = false := hword (by decide)
  have hfinite : finite? (c :: cs) = none := by simp [finite?, double?_of_isAlpha hc]
  rw [properDecimal?, sign_of_isAlpha hc, hasIdleZero_of_isAlpha hc, if_neg (by simp), decimal?,
    sign_of_isAlpha hc]
  simp only [hinfinity, hnumber, hfinite]
  rfl

end Text

/-- A word that begins with a letter of the alphabet is text unless it is one of the few that
stand for something else. -/
theorem resolve_text {s : String} {c : Char} {cs : List Char} (hs : s.toList = c :: cs)
    (hc : c.isAlpha = true) (hnull : isNull s = false) (hflag : flag? s = none) :
    resolve s = .text s := by
  have hwhole : whole? (c :: cs) = none := by
    rw [whole?_cons (ne_of_isAlpha hc rfl) (ne_of_isAlpha hc rfl), natural?_of_isAlpha hc,
      Option.bind_none]
  have hne : s ≠ "" := by
    rintro rfl
    cases hs
  have hnumber : ((whole? s.toList).orElse fun _ => properDecimal? s.toList) = none := by
    rw [hs, hwhole, properDecimal?_of_isAlpha hc]
    rfl
  exact resolve_eq none hne hnull hflag hnumber

end ContextHub.Yaml
