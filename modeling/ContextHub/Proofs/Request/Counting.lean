import ContextHub.Request.ErrorCode
import Mathlib.Algebra.BigOperators.Group.List.Basic
import Mathlib.Algebra.GroupWithZero.Nat
import Mathlib.Algebra.Order.BigOperators.Group.List
import Mathlib.Algebra.Order.Group.Nat
import Mathlib.Data.List.Induction
/-!
# What the counters of completion codes hold

Whatever bytes were recorded, the counter of a code holds how often its byte was among them, up to
the top of 32 bits, and bytes of no code leave no trace (`count_recorded`, `recorded_filter`). The
counters stop there one by one, but their sum does not: 32 bits hold it exactly as long as the codes
would fit into one counter together, or only one of them was ever seen (`sum_recorded_le_iff`).
Past that, counters that are all right have no total (`total?_two_codes`).
-/

namespace ContextHub

/-! ## Codes and their bytes -/

namespace ErrorCode

theorem mem_all (c : ErrorCode) : c ∈ all := by cases c <;> decide

theorem raw_getElem : ∀ i : Fin all.length, (all[i]).raw = i := by decide

theorem ofRaw?_eq_some_iff {r : Nat} {c : ErrorCode} : ofRaw? r = some c ↔ r = c.raw := by
  constructor
  · intro h
    obtain ⟨hr, rfl⟩ := List.getElem?_eq_some_iff.1 h
    exact (raw_getElem ⟨r, hr⟩).symm
  · rintro rfl
    exact ofRaw?_raw c

/-- The codes that bytes stand for; a byte of no code stands for nothing. -/
def known (raws : List Nat) : List ErrorCode := raws.filterMap ofRaw?

theorem count_known (raws : List Nat) (c : ErrorCode) :
    (known raws).count c = raws.count c.raw := by
  rw [known, List.count_filterMap, List.count]
  refine List.countP_congr fun r _ => ?_
  simp [ofRaw?_eq_some_iff]

/-- Each code of a list is counted under one of the codes that there are. -/
theorem sum_count (codes : List ErrorCode) : (all.map (codes.count ·)).sum = codes.length := by
  induction codes with
  | nil => rfl
  | cons d codes ih =>
    have hd : (all.map fun c => if d == c then 1 else 0).sum = 1 := by cases d <;> rfl
    simp only [List.count_cons, List.sum_map_add, hd, ih, List.length_cons]

end ErrorCode

namespace Histogram

open ErrorCode (all known)

/-! ## One byte -/

theorem count_bump (h : Histogram) (d c : ErrorCode) :
    (h.bump d).count c = if d = c then min (h.count c + 1) ceiling else h.count c := by
  have hindex : (d.index : Nat) = c.index ↔ d = c := by
    cases d <;> cases c <;> decide
  simp only [count, bump, Fin.getElem_fin, Vector.getElem_set, hindex]
  split
  · rename_i heq
    rw [heq]
  · rfl

/-! ## Many bytes -/

/-- What the counters hold after some bytes. -/
def recorded (raws : List Nat) : Histogram := raws.foldl record {}

/-- Only the codes that bytes stand for are counted. -/
theorem foldl_record (h : Histogram) (raws : List Nat) :
    raws.foldl record h = (known raws).foldl bump h := by
  induction raws generalizing h with
  | nil => rfl
  | cons r raws ih =>
    rw [List.foldl_cons, ih, record]
    cases hr : ErrorCode.ofRaw? r with
    | none => simp [known, hr]
    | some c => simp [known, hr]

theorem recorded_eq (raws : List Nat) : recorded raws = (known raws).foldl bump {} :=
  foldl_record {} raws

theorem recorded_filter (raws : List Nat) :
    recorded (raws.filter fun r => (ErrorCode.ofRaw? r).isSome) = recorded raws := by
  rw [recorded_eq, recorded_eq, known, known, List.filterMap_filter]
  congr 1
  refine List.filterMap_congr fun r _ => ?_
  cases ErrorCode.ofRaw? r <;> rfl

theorem count_foldl_bump (codes : List ErrorCode) (c : ErrorCode) :
    (codes.foldl bump {}).count c = min (codes.count c) ceiling := by
  induction codes using List.reverseRecOn with
  | nil => simp [count]
  | append_singleton codes d ih =>
    rw [List.foldl_concat, count_bump, ih, List.count_append, List.count_singleton]
    simp only [beq_iff_eq]
    split <;> omega

theorem count_recorded (raws : List Nat) (c : ErrorCode) :
    (recorded raws).count c = min (raws.count c.raw) ceiling := by
  rw [recorded_eq, count_foldl_bump, ErrorCode.count_known]

/-! ## The sum -/

theorem toList_counts (h : Histogram) : h.counts.toList = all.map h.count := by
  refine List.ext_getElem (by simp [all]) fun i _ hi => ?_
  rw [List.length_map] at hi
  simp only [List.getElem_map, count, Fin.getElem_fin, Vector.getElem_toList]
  congr 1
  exact (ErrorCode.raw_getElem ⟨i, hi⟩).symm

theorem sum_eq (h : Histogram) : h.sum = (all.map h.count).sum := by
  rw [sum, toList_counts, List.sum_eq_foldl]

/-- If one counter had to stop and the sum still fits, nothing else was counted. -/
theorem eq_of_sum_le {codes : List ErrorCode} {c d : ErrorCode}
    (hle : (all.map fun c => min (codes.count c) ceiling).sum ≤ ceiling)
    (hc : ceiling < codes.count c) (hd : d ∈ codes) : d = c := by
  by_contra hne
  have hmem : d ∈ all.erase c := (List.mem_erase_of_ne hne).2 (ErrorCode.mem_all d)
  have hrest := List.single_le_sum (fun _ _ => Nat.zero_le _) _
    (List.mem_map_of_mem (f := fun c => min (codes.count c) ceiling) hmem)
  have hsplit := List.sum_map_erase (fun c => min (codes.count c) ceiling) (ErrorCode.mem_all c)
  have hpos := List.count_pos_iff.2 hd
  simp only [ceiling] at *
  omega

theorem sum_min_count_of_forall_eq {codes : List ErrorCode} {c : ErrorCode}
    (hc : ∀ d ∈ codes, d = c) :
    (all.map fun c => min (codes.count c) ceiling).sum = min (codes.count c) ceiling := by
  have hrest : ((all.erase c).map fun d => min (codes.count d) ceiling).sum = 0 := by
    refine List.sum_eq_zero_iff.2 fun n hn => ?_
    obtain ⟨d, hd, rfl⟩ := List.mem_map.1 hn
    have hne : d ≠ c := by
      rintro rfl
      exact absurd hd (by cases d <;> decide)
    rw [List.count_eq_zero.2 fun hmem => hne (hc d hmem), Nat.zero_min]
  rw [← List.sum_map_erase _ (ErrorCode.mem_all c), hrest, Nat.add_zero]

/-- Counters that stop at the top add up to no more than the top only if none of them had to stop,
or if one of them holds all there is. -/
theorem sum_min_count_le_iff (codes : List ErrorCode) :
    (all.map fun c => min (codes.count c) ceiling).sum ≤ ceiling ↔
      codes.length ≤ ceiling ∨ ∃ c, ∀ d ∈ codes, d = c := by
  constructor
  · intro hle
    by_cases hall : ∀ c, codes.count c ≤ ceiling
    · left
      simpa only [Nat.min_eq_left (hall _), ErrorCode.sum_count] using hle
    · obtain ⟨c, hc⟩ := not_forall.1 hall
      exact .inr ⟨c, fun d => eq_of_sum_le hle (Nat.lt_of_not_le hc)⟩
  · rintro (hle | ⟨c, hc⟩)
    · calc (all.map fun c => min (codes.count c) ceiling).sum
          ≤ (all.map (codes.count ·)).sum := List.sum_le_sum fun c _ => Nat.min_le_left _ _
        _ = codes.length := ErrorCode.sum_count codes
        _ ≤ ceiling := hle
    · rw [sum_min_count_of_forall_eq hc]
      exact Nat.min_le_right _ _

theorem sum_recorded_le_iff (raws : List Nat) :
    (recorded raws).sum ≤ ceiling ↔
      (known raws).length ≤ ceiling ∨ ∃ c, ∀ d ∈ known raws, d = c := by
  have hcount : (recorded raws).count = fun c => min ((known raws).count c) ceiling := by
    funext c
    rw [recorded_eq, count_foldl_bump]
  rw [← sum_min_count_le_iff, sum_eq, hcount]

theorem total?_eq_some_iff {h : Histogram} {n : Nat} :
    h.total? = some n ↔ h.sum ≤ ceiling ∧ n = h.sum := by
  rw [total?]
  split <;> simp_all [eq_comm]

/-- Past one full counter, another code is too much for the total. -/
theorem total?_two_codes {c d : ErrorCode} (hne : d ≠ c) {n : Nat} (hn : ceiling ≤ n) :
    (recorded (List.replicate n c.raw ++ [d.raw])).total? = none := by
  have hknown : known (List.replicate n c.raw ++ [d.raw]) = List.replicate n c ++ [d] := by
    simp [known, ErrorCode.ofRaw?_raw]
  have hpos : n ≠ 0 := by
    rintro rfl
    exact absurd hn (by decide)
  rw [total?, if_neg]
  rw [sum_recorded_le_iff, hknown]
  rintro (hlen | ⟨e, he⟩)
  · rw [List.length_append, List.length_replicate, List.length_singleton] at hlen
    omega
  · have hc : c = e := he c (by simp [hpos])
    have hd : d = e := he d (by simp)
    exact hne (hd.trans hc.symm)

/-- After any bytes every counter is right, but there is a total only as long as the codes that were
seen would fit into one counter together, or are all the same. -/
theorem recorded_codes_are_counted (raws : List Nat) :
    (∀ c : ErrorCode, (recorded raws).count c = min (raws.count c.raw) ceiling) ∧
    recorded (raws.filter fun r => (ErrorCode.ofRaw? r).isSome) = recorded raws ∧
    ∀ n, (recorded raws).total? = some n ↔
      n = (all.map (recorded raws).count).sum ∧
        ((known raws).length ≤ ceiling ∨ ∃ c, ∀ d ∈ known raws, d = c) := by
  refine ⟨count_recorded raws, recorded_filter raws, fun n => ?_⟩
  rw [total?_eq_some_iff, sum_recorded_le_iff, sum_eq, and_comm]

/-- A counter at the top and a single count beside it have no total. -/
theorem full_counter_and_one_more :
    let h := recorded (List.replicate 4294967295 0 ++ [1])
    h.count .none = 4294967295 ∧ h.count .error = 1 ∧ h.total? = none := by
  refine ⟨?_, ?_, total?_two_codes (c := .none) (d := .error) (by decide) (Nat.le_refl _)⟩
  · rw [count_recorded, List.count_append, List.count_replicate]
    rfl
  · rw [count_recorded, List.count_append, List.count_replicate]
    rfl

end Histogram

end ContextHub
