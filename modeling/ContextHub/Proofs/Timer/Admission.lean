import ContextHub.Config.Validate
import ContextHub.Proofs.Timer.History
import Mathlib.Data.Finset.Card
import Mathlib.Data.Finset.Range
/-!
# Who gets a timer

Admission looks at three numbers: how many timers the owner holds, how many the nanoapps hold, and
how many there are. `WithinLimits` is what it keeps of them in every run, and `set_below_floor` says
what a nanoapp below its floor gets.

Two things come out short of what the limits are there for. The floor is one reserve for all: it
holds against one greedy nanoapp, but enough modest ones use it up. And the size of the pool bounds
what nanoapps take and not what the system takes, so both together can hold more.
-/

namespace ContextHub

namespace TimerLimits

/-- The limits nest. -/
theorem nested_of_valid {l : TimerLimits} (h : l.faults = []) :
    l.nanoapp ≤ l.requests ∧ l.reserved < l.requests ∧ l.floor ≤ l.nanoapp ∧
      1 ≤ l.nanoapp ∧ l.requests ≤ 4096 := by
  unfold faults ConfigFault.orWhole at h
  split at h
  · cases h
  · rename_i hno
    obtain ⟨hn, hr⟩ := List.append_eq_nil_iff.1 h
    have hn' : isWithin 1 4096 l.nanoapp = true := by
      by_contra hne
      simp [ConfigFault.ofRange, hne] at hn
    have hr' : isWithin 2 4096 l.requests = true := by
      by_contra hne
      simp [ConfigFault.ofRange, hne] at hr
    have hm : l.misfit? = none := by
      rw [Option.eq_none_iff_forall_ne_some]
      exact fun code => hno code h
    simp only [isWithin, decide_eq_true_eq] at hn' hr'
    unfold misfit? at hm
    split_ifs at hm
    omega

end TimerLimits

/-- A request for a timer that makes sense, whatever the state of the pool. -/
structure TimerSpec.WellFormed (s : TimerSpec) : Prop where
  owned : s.owner.isSystem = s.purpose.isSome
  periodic : s.oneShot = false → 0 < s.duration

theorem TimerSpec.WellFormed.advances {s : TimerSpec} (hs : s.WellFormed) :
    (!s.oneShot && Nanos.clamp s.duration == 0) = false := by
  rw [Bool.and_eq_false_iff]
  cases ho : s.oneShot with
  | true => exact .inl rfl
  | false =>
    right
    have hd := hs.periodic ho
    have hl : 0 < Nanos.last := by decide
    rw [beq_eq_false_iff_ne, Nanos.clamp]
    omega

namespace TimerPool

/-! ## Free handles -/

theorem freeHandle?_eq_none {p : TimerPool} {n : Nat} {h : TimerHandle}
    (hf : p.freeHandle? h n = none) {i : Nat} (hi : i < n) :
    (⟨(h.val + 1 + i) % 4294967296⟩ : TimerHandle).isValid = false ∨
      p.key? ⟨(h.val + 1 + i) % 4294967296⟩ ≠ none := by
  induction n generalizing h i with
  | zero => cases hi
  | succ n ih =>
    simp only [freeHandle?] at hf
    split at hf
    · cases hf
    · rename_i hg
      cases i with
      | zero =>
        rw [Bool.and_eq_true, not_and_or, Bool.not_eq_true, Option.isNone_iff_eq_none] at hg
        exact hg
      | succ i =>
        have he : (h.succ.val + 1 + i) % 4294967296 = (h.val + 1 + (i + 1)) % 4294967296 := by
          simp only [TimerHandle.succ]
          omega
        rw [← he]
        exact ih hf (Nat.lt_of_succ_lt_succ hi)

/-- Among `n` handles in a row all but one are valid, so that many requests cannot use them up. -/
theorem freeHandle?_isSome {p : TimerPool} (hp : p.Coherent) {n : Nat} (hn : n ≤ 4294967296)
    (hs : p.size + 1 < n) (h : TimerHandle) : (p.freeHandle? h n).isSome = true := by
  by_contra hne
  rw [Option.not_isSome_iff_eq_none] at hne
  -- every handle looked at is the invalid one or in use
  let taken : List Nat := 4294967295 :: p.requests.map (·.handle.val)
  have hsub : (Finset.range n).image (fun i => (h.val + 1 + i) % 4294967296) ⊆
      taken.toFinset := by
    intro v hv
    obtain ⟨i, hi, rfl⟩ := Finset.mem_image.1 hv
    rw [List.mem_toFinset, List.mem_cons]
    rcases freeHandle?_eq_none hne (Finset.mem_range.1 hi) with hbad | hused
    · have := mt isValid_iff.2 (Bool.eq_false_iff.1 hbad)
      exact .inl (not_not.1 this)
    · obtain ⟨k, hk⟩ := Option.ne_none_iff_exists'.1 hused
      obtain ⟨r, hr, hh, -⟩ := (hp.indexed _ _).1 hk
      exact .inr (List.mem_map.2 ⟨r, hr, congrArg TimerHandle.val hh⟩)
  have hinj : Set.InjOn (fun i => (h.val + 1 + i) % 4294967296) (Finset.range n) := by
    intro i hi j hj hij
    have hi' := Finset.mem_range.1 (Finset.mem_coe.1 hi)
    have hj' := Finset.mem_range.1 (Finset.mem_coe.1 hj)
    simp only at hij
    omega
  have hcard := Finset.card_le_card hsub
  rw [Finset.card_image_of_injOn hinj, Finset.card_range] at hcard
  have hlen := List.toFinset_card_le taken
  rw [List.length_cons, List.length_map, ← size] at hlen
  omega

theorem newHandle?_isSome {p : TimerPool} (hp : p.Coherent) (hs : p.size < 4294967294) :
    p.newHandle?.isSome = true := by
  unfold newHandle?
  split
  · rw [Option.isSome_map]
    exact freeHandle?_isSome hp (by omega) (by omega) _
  · rfl

/-! ## What owners hold -/

/-- How many timers the owners of a kind hold together. -/
def heldWhere (p : TimerPool) (who : InstanceId → Bool) : Nat :=
  (p.requests.filter (who ·.owner)).length

section

variable {p q : TimerPool}

theorem heldBy_eq (owner : InstanceId) : p.heldBy owner = p.heldWhere (· == owner) := rfl

theorem Coherent.nanoappCount_eq (hp : p.Coherent) : p.nanoappCount = p.heldWhere (!·.isSystem) :=
  hp.counted

theorem Coherent.systemCount_eq_heldWhere (hp : p.Coherent) :
    p.systemCount = p.heldWhere (·.isSystem) :=
  hp.systemCount_eq

theorem Coherent.size_eq (hp : p.Coherent) : p.size = p.nanoappCount + p.systemCount := by
  have h := List.length_filter_le (fun r : TimerRequest => !r.owner.isSystem) p.requests
  rw [← hp.counted] at h
  unfold systemCount size
  omega

theorem heldWhere_mono {who who' : InstanceId → Bool} (h : ∀ o, who o = true → who' o = true) :
    p.heldWhere who ≤ p.heldWhere who' :=
  (List.monotone_filter_right p.requests fun r hr => h r.owner hr).length_le

/-- What is held by two kinds of owners together. -/
theorem heldWhere_le_add {who who₁ who₂ : InstanceId → Bool}
    (h : ∀ o, who o = true → who₁ o = true ∨ who₂ o = true) :
    p.heldWhere who ≤ p.heldWhere who₁ + p.heldWhere who₂ := by
  unfold heldWhere
  induction p.requests with
  | nil => exact Nat.le_refl 0
  | cons r l ih =>
    have hr := h r.owner
    simp only [List.filter_cons]
    split_ifs <;> simp_all <;> omega

/-- An admission gives its owner one timer more and nobody else any. -/
theorem Admits.heldWhere {now : Nat} {s : TimerSpec} {h : TimerHandle} (ha : p.Admits now s h q)
    (who : InstanceId → Bool) :
    q.heldWhere who = p.heldWhere who + if who s.owner = true then 1 else 0 := by
  have hq := ((place_perm (p.newRequest now s h) p.requests).filter (who ·.owner)).length_eq
  rw [← ha.requests, List.filter_cons] at hq
  have ho : (p.newRequest now s h).owner = s.owner := rfl
  rw [ho] at hq
  unfold TimerPool.heldWhere
  rw [hq]
  split <;> rfl

theorem Admits.counts (hp : p.Coherent) {now : Nat} {s : TimerSpec} {h : TimerHandle}
    (ha : p.Admits now s h q) :
    q.nanoappCount = p.nanoappCount + (if s.owner.isSystem then 0 else 1) ∧
      q.systemCount = p.systemCount + (if s.owner.isSystem then 1 else 0) := by
  rw [ha.coherent.nanoappCount_eq, ha.coherent.systemCount_eq_heldWhere, ha.heldWhere,
    ha.heldWhere, hp.nanoappCount_eq, hp.systemCount_eq_heldWhere]
  cases s.owner.isSystem <;> exact ⟨rfl, rfl⟩

theorem Admits.heldBy_self {now : Nat} {s : TimerSpec} {h : TimerHandle}
    (ha : p.Admits now s h q) : q.heldBy s.owner = p.heldBy s.owner + 1 := by
  have hq := ha.heldWhere (· == s.owner)
  rwa [beq_self_eq_true, if_pos rfl] at hq

theorem Admits.heldBy_of_ne {now : Nat} {s : TimerSpec} {h : TimerHandle}
    (ha : p.Admits now s h q) {owner : InstanceId} (hne : s.owner ≠ owner) :
    q.heldBy owner = p.heldBy owner := by
  have hq := ha.heldWhere (· == owner)
  rwa [beq_eq_false_iff_ne.2 hne, if_neg Bool.false_ne_true] at hq

theorem Sheds.heldWhere_le {out : TimerRequest → Bool} (h : Sheds p out q)
    (who : InstanceId → Bool) : q.heldWhere who ≤ p.heldWhere who := by
  unfold TimerPool.heldWhere
  rw [h.requests]
  exact (List.filter_sublist.filter _).length_le

/-- One request of a tick takes a timer from its owner if it was the last of that timer. -/
theorem renew_heldWhere (hp : p.Coherent) {r : TimerRequest} {rest : List TimerRequest}
    (hl : p.requests = r :: rest) (who : InstanceId → Bool) :
    ((p.without r).renew r).heldWhere who + (if r.oneShot && who r.owner then 1 else 0) =
      p.heldWhere who := by
  unfold TimerPool.heldWhere
  rw [((renew_perm hp hl).filter _).length_eq, hl]
  have ho : (r.renewed p.nextSeq).owner = r.owner := rfl
  cases r.oneShot with
  | true =>
    simp only [↓reduceIte, Bool.true_and, List.filter_cons]
    split <;> rfl
  | false =>
    simp only [Bool.false_eq_true, ↓reduceIte, Bool.false_and, List.filter_cons, ho]
    split <;> rfl

/-- A tick takes from everybody the timers that fired for the last time, and no others. -/
theorem Serves.heldWhere {now : Nat} {fired : List TimerRequest} (h : Serves now p fired q)
    (who : InstanceId → Bool) :
    q.heldWhere who + fired.countP (fun r => r.oneShot && who r.owner) = p.heldWhere who := by
  induction h with
  | rest _ _ => rfl
  | @serve p q r rest fired hp hl _ _ ih =>
    rw [← renew_heldWhere hp hl who, ← ih, List.countP_cons, Nat.add_assoc]

theorem Serves.heldWhere_le {now : Nat} {fired : List TimerRequest} (h : Serves now p fired q)
    (who : InstanceId → Bool) : q.heldWhere who ≤ p.heldWhere who :=
  Nat.le.intro (h.heldWhere who)

end

/-! ## Admission -/

section

variable {p : TimerPool} {owner : InstanceId}

theorem refusal?_system_eq_none (ho : owner.isSystem = true) :
    p.refusal? owner = none ↔ p.systemCount < p.limits.system := by
  unfold refusal?
  rw [if_pos ho]
  split
  · rename_i h
    simp [Nat.not_lt.2 h]
  · rename_i h
    simp [Nat.not_le.1 h]

theorem refusal?_nanoapp_eq_none (ho : owner.isSystem = false) :
    p.refusal? owner = none ↔
      p.nanoappCount < p.limits.nanoapp ∧ p.size < p.limits.requests ∧
        (p.heldBy owner < p.limits.floor ∨
          p.nanoappCount + 1 + p.limits.floor ≤ p.limits.nanoapp) := by
  unfold refusal?
  rw [if_neg (by simp [ho])]
  split_ifs <;> simp only [true_iff, false_iff] <;> omega

end

/-- Whoever is not refused gets a timer. -/
theorem exists_set_eq_ok {p : TimerPool} {s : TimerSpec} (hp : p.Coherent)
    (hsize : p.size < 4294967294) (hs : s.WellFormed) (hr : p.refusal? s.owner = none) (now : Nat) :
    ∃ h q, p.set now s = .ok (h, q) := by
  obtain ⟨⟨h, wrapped⟩, hn⟩ := Option.isSome_iff_exists.1 (newHandle?_isSome hp hsize)
  unfold set
  simp only
  rw [if_neg (not_not.2 hs.owned), hs.advances, if_neg Bool.false_ne_true, hr]
  simp only [hn]
  exact ⟨h, _, rfl⟩

/-! ## What every run keeps -/

/-- What admission keeps of the numbers it looks at. -/
structure WithinLimits (limits : TimerLimits) (p : TimerPool) : Prop where
  same : p.limits = limits
  nanoapps : p.heldWhere (!·.isSystem) ≤ limits.nanoapp
  system : p.heldWhere (·.isSystem) ≤ limits.system
  each : ∀ owner, owner.isSystem = false →
    p.heldBy owner ≤ max limits.floor (limits.nanoapp - limits.floor)

section

variable {limits : TimerLimits} {p q : TimerPool}

theorem WithinLimits.fewer (hw : WithinLimits limits p) (hl : q.limits = p.limits)
    (h : ∀ who, q.heldWhere who ≤ p.heldWhere who) : WithinLimits limits q :=
  ⟨hl.trans hw.same, (h _).trans hw.nanoapps, (h _).trans hw.system,
    fun owner ho => (h (· == owner)).trans (hw.each owner ho)⟩

/-- One admission stays within the limits. -/
theorem WithinLimits.admit (hw : WithinLimits limits p) (hp : p.Coherent) {now : Nat}
    {s : TimerSpec} {h : TimerHandle} (ha : p.Admits now s h q) : WithinLimits limits q := by
  have hallowed := ha.allowed
  cases hs : s.owner.isSystem with
  | true =>
    rw [refusal?_system_eq_none hs, hp.systemCount_eq_heldWhere, hw.same] at hallowed
    refine ⟨ha.limits.trans hw.same, ?_, ?_, ?_⟩
    · simpa [ha.heldWhere, hs] using hw.nanoapps
    · simpa [ha.heldWhere, hs] using Nat.succ_le_of_lt hallowed
    · intro owner ho
      have hne : s.owner ≠ owner := by
        rintro rfl
        simp [hs] at ho
      rw [ha.heldBy_of_ne hne]
      exact hw.each owner ho
  | false =>
    rw [refusal?_nanoapp_eq_none hs, hp.nanoappCount_eq, hw.same] at hallowed
    obtain ⟨hn, -, hshare⟩ := hallowed
    refine ⟨ha.limits.trans hw.same, ?_, ?_, ?_⟩
    · simpa [ha.heldWhere, hs] using Nat.succ_le_of_lt hn
    · simpa [ha.heldWhere, hs] using hw.system
    · intro owner ho
      by_cases he : s.owner = owner
      · subst he
        have hle : p.heldWhere (· == s.owner) ≤ p.heldWhere (!·.isSystem) :=
          heldWhere_mono fun o h => by rw [eq_of_beq h, hs]; rfl
        rw [← heldBy_eq] at hle
        rw [ha.heldBy_self]
        omega
      · rw [ha.heldBy_of_ne he]
        exact hw.each owner ho

/-- Whatever is done to a pool stays within the limits. -/
theorem Reachable.withinLimits (hr : Reachable limits p) : WithinLimits limits p := by
  induction hr with
  | start => exact ⟨rfl, Nat.zero_le _, Nat.zero_le _, fun _ _ => Nat.zero_le _⟩
  | set hr hs ih => exact ih.admit hr.coherent (set_eq_ok hr.coherent hs)
  | cancel hr hc ih =>
    have hq := (cancel?_eq_some hr.coherent hc).2
    exact ih.fewer hq.kept.limits hq.heldWhere_le
  | cancelAll now owner hr ih =>
    have hq := (cancelAllOwnedBy_sheds hr.coherent now owner).2
    exact ih.fewer hq.kept.limits hq.heldWhere_le
  | tick hr ht ih =>
    obtain ⟨q, hserve, rfl⟩ := tick?_eq_some hr.coherent ht
    exact ih.fewer hserve.kept.1 hserve.heldWhere_le
  | hush _ _ _ ih => exact ih.fewer rfl fun _ => Nat.le_refl _
  | skip _ _ _ _ ih => exact ih.fewer rfl fun _ => Nat.le_refl _

theorem Reachable.nanoappCount_le (hr : Reachable limits p) : p.nanoappCount ≤ limits.nanoapp :=
  hr.coherent.nanoappCount_eq ▸ hr.withinLimits.nanoapps

theorem Reachable.systemCount_le (hr : Reachable limits p) : p.systemCount ≤ limits.system :=
  hr.coherent.systemCount_eq_heldWhere ▸ hr.withinLimits.system

/-- Valid limits leave handles enough. -/
theorem Reachable.size_lt (hv : limits.faults = []) (hr : Reachable limits p) :
    p.size < 4294967294 := by
  have hn := hr.nanoappCount_le
  have hs := hr.systemCount_le
  have hvalid := TimerLimits.nested_of_valid hv
  rw [hr.coherent.size_eq]
  unfold TimerLimits.system at hs
  omega

/-- Every run stays within the limits. -/
theorem Run.withinLimits {past : List Happening} {now : Nat} (hr : Run limits past now p) :
    WithinLimits limits p :=
  hr.reachable.withinLimits

theorem Run.nanoappCount_le {past : List Happening} {now : Nat} (hr : Run limits past now p) :
    p.nanoappCount ≤ limits.nanoapp :=
  hr.reachable.nanoappCount_le

theorem Run.systemCount_le {past : List Happening} {now : Nat} (hr : Run limits past now p) :
    p.systemCount ≤ limits.system :=
  hr.reachable.systemCount_le

/-- Whether a request at `now` gets a timer. -/
def Grants (p : TimerPool) (now : Nat) (s : TimerSpec) : Prop := ∃ h q, p.set now s = .ok (h, q)

/-- Under valid limits admission alone decides. -/
theorem Run.grants_iff (hv : limits.faults = []) {past : List Happening} {now : Nat}
    (hr : Run limits past now p) {s : TimerSpec} (hs : s.WellFormed) :
    p.Grants now s ↔ p.refusal? s.owner = none := by
  constructor
  · rintro ⟨h, q, hq⟩
    exact (set_eq_ok hr.coherent hq).allowed
  · intro hallowed
    exact exists_set_eq_ok hr.coherent (hr.reachable.size_lt hv) hs hallowed now

/-- A request that is not refused is granted in the next step of a run. -/
theorem Run.admit (hv : limits.faults = []) {past : List Happening} {now : Nat}
    (hr : Run limits past now p) {s : TimerSpec} (hs : s.WellFormed)
    (hallowed : p.refusal? s.owner = none) :
    ∃ past' h q, Run limits past' now q ∧ p.Admits now s h q := by
  obtain ⟨h, q, hq⟩ := (hr.grants_iff hv hs).2 hallowed
  exact ⟨_, h, q, hr.set hq, set_eq_ok hr.coherent hq⟩

/-- One nanoapp cannot take all slots for nanoapps, as long as the others hold less than a floor. -/
theorem Run.nanoappCount_lt {past : List Happening} {now : Nat} (hr : Run limits past now p)
    {greedy : InstanceId} (hg : greedy.isSystem = false)
    (ho : p.heldWhere (fun o => !o.isSystem && o != greedy) <
      min limits.floor (limits.nanoapp - limits.floor)) : p.nanoappCount < limits.nanoapp := by
  have hsplit : p.heldWhere (!·.isSystem) ≤
      p.heldWhere (· == greedy) + p.heldWhere (fun o => !o.isSystem && o != greedy) := by
    refine heldWhere_le_add fun o h => ?_
    cases he : o == greedy with
    | true => exact .inl rfl
    | false => exact .inr (by simp [h, bne, he])
  rw [← heldBy_eq] at hsplit
  have heach := hr.withinLimits.each greedy hg
  rw [hr.coherent.nanoappCount_eq]
  omega

end

/-- The pool after requests that are all granted at `now`. -/
def setAll? (now : Nat) : List TimerSpec → TimerPool → Option TimerPool
  | [], p => some p
  | s :: rest, p =>
    match p.set now s with
    | .error _ => none
    | .ok (_, q) => setAll? now rest q

theorem Run.setAll {limits : TimerLimits} {past : List Happening} {now : Nat} {p q : TimerPool}
    {specs : List TimerSpec} (hr : Run limits past now p) (h : p.setAll? now specs = some q) :
    ∃ past', Run limits past' now q := by
  induction specs generalizing past p with
  | nil => exact ⟨past, Option.some.inj h ▸ hr⟩
  | cons s rest ih =>
    unfold setAll? at h
    split at h
    · cases h
    · exact ih (hr.set ‹_›) h

theorem Reachable.setAll {limits : TimerLimits} {now : Nat} {p q : TimerPool}
    {specs : List TimerSpec} (hr : Reachable limits p) (h : p.setAll? now specs = some q) :
    Reachable limits q := by
  induction specs generalizing p with
  | nil => exact Option.some.inj h ▸ hr
  | cons s rest ih =>
    unfold setAll? at h
    split at h
    · cases h
    · exact ih (hr.set ‹_›) h

/-! ## The crowd -/

section

variable {limits : TimerLimits} (hv : limits.faults = [])

include hv

/-- As many nanoapps as there are slots for nanoapps may hold one timer each. -/
theorem exists_crowd {n : Nat} (hn : n ≤ limits.nanoapp) :
    ∃ past p, Run limits past 0 p ∧ p.nanoappCount = n ∧ p.systemCount = 0 ∧
      ∀ i, n < i → p.heldBy ⟨i⟩ = 0 := by
  induction n with
  | zero => exact ⟨[], _, .start (Nat.zero_le _), rfl, rfl, fun _ _ => rfl⟩
  | succ n ih =>
    obtain ⟨past, p, hr, hcount, hsys, hnone⟩ := ih (Nat.le_of_succ_le hn)
    let s : TimerSpec := { owner := ⟨n + 1⟩, duration := 0 }
    have ho : s.owner.isSystem = false := by
      rw [InstanceId.isSystem, beq_eq_false_iff_ne]
      simp [s, InstanceId.system]
    have hlim := hr.withinLimits.same
    have hnest := TimerLimits.nested_of_valid hv
    have hfree := hnone (n + 1) (Nat.lt_succ_self n)
    have hallowed : p.refusal? s.owner = none := by
      rw [refusal?_nanoapp_eq_none ho, hr.coherent.size_eq, hlim, hcount, hsys, hfree]
      omega
    obtain ⟨past', h, q, hq, ha⟩ := hr.admit hv ⟨ho, by simp [s]⟩ hallowed
    obtain ⟨hn', hs'⟩ := ha.counts hr.coherent
    refine ⟨past', q, hq, ?_, ?_, ?_⟩
    · rw [hn', hcount, ho]
      rfl
    · rw [hs', hsys, ho]
      rfl
    · intro i hi
      have hne : s.owner ≠ ⟨i⟩ := by
        rintro ⟨⟩
        omega
      rw [ha.heldBy_of_ne hne]
      exact hnone i (Nat.lt_of_succ_lt hi)

/-- After the crowd the system may still take all slots that are its own. -/
theorem exists_full {m : Nat} (hm : m ≤ limits.system) :
    ∃ past p, Run limits past 0 p ∧ p.nanoappCount = limits.nanoapp ∧ p.systemCount = m := by
  induction m with
  | zero =>
    obtain ⟨past, p, hr, hcount, hsys, -⟩ := exists_crowd hv (Nat.le_refl limits.nanoapp)
    exact ⟨past, p, hr, hcount, hsys⟩
  | succ m ih =>
    obtain ⟨past, p, hr, hcount, hsys⟩ := ih (Nat.le_of_succ_le hm)
    let s : TimerSpec := { owner := .system, duration := 0, purpose := some .wifiScanRetry }
    have hallowed : p.refusal? s.owner = none := by
      rw [refusal?_system_eq_none rfl, hr.withinLimits.same, hsys]
      exact hm
    obtain ⟨past', h, q, hq, ha⟩ := hr.admit hv ⟨rfl, by simp [s]⟩ hallowed
    obtain ⟨hn', hs'⟩ := ha.counts hr.coherent
    refine ⟨past', q, hq, ?_, ?_⟩
    · rw [hn', hcount]
      rfl
    · rw [hs', hsys]
      rfl

end

/-! ## The floor -/

/-- A nanoapp below its floor gets a timer exactly if the nanoapps together have a slot left and so
has the pool. One greedy nanoapp cannot bring it about that they have none, as long as all others
hold less than a floor; but only a floor of none is safe from a crowd. -/
theorem grants_below_floor {limits : TimerLimits} (hv : limits.faults = []) :
    (∀ past now p, Run limits past now p → ∀ s : TimerSpec, s.WellFormed →
      s.owner.isSystem = false → p.heldBy s.owner < limits.floor →
        (p.Grants now s ↔ p.nanoappCount < limits.nanoapp ∧ p.size < limits.requests) ∧
        ∀ greedy, greedy.isSystem = false →
          p.heldWhere (fun o => !o.isSystem && o != greedy) <
            min limits.floor (limits.nanoapp - limits.floor) →
          limits.nanoapp ≤ limits.reserved ∨ p.size < limits.requests → p.Grants now s) ∧
    ((∀ past now p, Run limits past now p → ∀ s : TimerSpec, s.WellFormed →
      s.owner.isSystem = false → p.heldBy s.owner < limits.floor → p.Grants now s) ↔
        limits.floor = 0) := by
  have hiff : ∀ past now p, Run limits past now p → ∀ s : TimerSpec, s.WellFormed →
      s.owner.isSystem = false → p.heldBy s.owner < limits.floor →
        (p.Grants now s ↔ p.nanoappCount < limits.nanoapp ∧ p.size < limits.requests) := by
    intro past now p hr s hs ho hf
    rw [hr.grants_iff hv hs, refusal?_nanoapp_eq_none ho, hr.withinLimits.same]
    exact ⟨fun h => ⟨h.1, h.2.1⟩, fun h => ⟨h.1, h.2, .inl hf⟩⟩
  refine ⟨fun past now p hr s hs ho hf => ⟨hiff past now p hr s hs ho hf, ?_⟩, ?_, ?_⟩
  · intro greedy hg hothers hslot
    have hn := hr.nanoappCount_lt hg hothers
    refine (hiff past now p hr s hs ho hf).2 ⟨hn, hslot.elim (fun hle => ?_) id⟩
    have hsys := hr.systemCount_le
    have hnest := TimerLimits.nested_of_valid hv
    rw [hr.coherent.size_eq]
    unfold TimerLimits.system at hsys
    omega
  · intro hall
    by_contra hfloor
    obtain ⟨past, p, hr, hcount, -, hnone⟩ := exists_crowd hv (Nat.le_refl limits.nanoapp)
    let s : TimerSpec := { owner := ⟨limits.nanoapp + 1⟩, duration := 0 }
    have hs : s.owner.isSystem = false := by
      rw [InstanceId.isSystem, beq_eq_false_iff_ne]
      simp [s, InstanceId.system]
    have hf : p.heldBy s.owner < limits.floor := by
      rw [hnone _ (Nat.lt_succ_self _)]
      omega
    have hg := hall past 0 p hr s ⟨hs, by simp [s]⟩ hs hf
    have := ((hiff past 0 p hr s ⟨hs, by simp [s]⟩ hs hf).1 hg).1
    omega
  · intro hfloor past now p _ s _ _ hf
    omega

/-- A nanoapp that was refused the seventh of eight slots leaves two to the next one. -/
theorem greedy_leaves_floor :
    ∃ past p, Run ⟨64, 8, 8, 2⟩ past 0 p ∧ p.heldBy ⟨1⟩ = 6 ∧
      p.set 0 { owner := ⟨1⟩, duration := 1 } = .error (.fairnessFloor ⟨1⟩ 6) ∧
      p.Grants 0 { owner := ⟨2⟩, duration := 1 } := by
  obtain ⟨p, hset, h₁, hothers, h₂, href⟩ : ∃ p, (empty ⟨64, 8, 8, 2⟩).setAll? 0
        (List.replicate 6 { owner := ⟨1⟩, duration := 1 }) = some p ∧
      p.heldBy ⟨1⟩ = 6 ∧ p.heldWhere (fun o => !o.isSystem && o != ⟨1⟩) = 0 ∧ p.heldBy ⟨2⟩ = 0 ∧
      p.set 0 { owner := ⟨1⟩, duration := 1 } = .error (.fairnessFloor ⟨1⟩ 6) :=
    ⟨_, rfl, rfl, rfl, rfl, rfl⟩
  obtain ⟨past, hr⟩ := (Run.start (Nat.zero_le _)).setAll hset
  refine ⟨past, p, hr, h₁, href, ?_⟩
  exact ((grants_below_floor (by decide)).1 past 0 p hr { owner := ⟨2⟩, duration := 1 }
    ⟨rfl, by decide⟩ rfl (by rw [h₂]; decide)).2 ⟨1⟩ rfl (by rw [hothers]; decide)
    (.inl (by decide))

/-- One nanoapp takes what it gets, the next one its floor, and the third gets nothing. -/
theorem third_nanoapp_refused :
    ¬ ∀ limits : TimerLimits, limits.faults = [] → ∀ past now p, Run limits past now p →
      ∀ s : TimerSpec, s.WellFormed → s.owner.isSystem = false →
        p.heldBy s.owner < limits.floor → p.Grants now s := by
  intro h
  obtain ⟨p, hset, h₃, href⟩ : ∃ p, (empty ⟨64, 8, 8, 2⟩).setAll? 0
        (List.replicate 6 { owner := ⟨1⟩, duration := 1 } ++
          List.replicate 2 { owner := ⟨2⟩, duration := 1 }) = some p ∧
      p.heldBy ⟨3⟩ = 0 ∧
      p.set 0 { owner := ⟨3⟩, duration := 1 } = .error (.nanoappLimitReached 8) :=
    ⟨_, rfl, rfl, rfl⟩
  obtain ⟨past, hr⟩ := (Run.start (Nat.zero_le _)).setAll hset
  obtain ⟨handle, q, hq⟩ := h ⟨64, 8, 8, 2⟩ (by decide) past 0 p hr { owner := ⟨3⟩, duration := 1 }
    ⟨rfl, by decide⟩ rfl (by rw [h₃]; decide)
  rw [href] at hq
  cases hq

/-! ## The ceiling -/

/-- Together the timers of nanoapps and of the system never exceed what each kind may take, and they
reach it; so the size of the pool is a ceiling for both exactly if the slots reserved for nanoapps
are as many as nanoapps may take. -/
theorem size_le_requests_iff {limits : TimerLimits} (hv : limits.faults = []) :
    (∀ past now p, Run limits past now p → p.nanoappCount ≤ limits.nanoapp ∧
      p.systemCount ≤ limits.system ∧ p.size = p.nanoappCount + p.systemCount) ∧
    (∃ past now p, Run limits past now p ∧ p.size = limits.nanoapp + limits.system) ∧
    ((∀ past now p, Run limits past now p → p.size ≤ limits.requests) ↔
      limits.nanoapp ≤ limits.reserved) := by
  have hparts : ∀ past now p, Run limits past now p → p.nanoappCount ≤ limits.nanoapp ∧
      p.systemCount ≤ limits.system ∧ p.size = p.nanoappCount + p.systemCount :=
    fun _ _ _ hr => ⟨hr.nanoappCount_le, hr.systemCount_le, hr.coherent.size_eq⟩
  obtain ⟨past, p, hr, hcount, hsys⟩ := exists_full hv (Nat.le_refl limits.system)
  have hfull : p.size = limits.nanoapp + limits.system := by
    rw [hr.coherent.size_eq, hcount, hsys]
  have hnest := TimerLimits.nested_of_valid hv
  refine ⟨hparts, ⟨past, 0, p, hr, hfull⟩, ?_, ?_⟩
  · intro hall
    have hle := hall past 0 p hr
    rw [hfull, TimerLimits.system] at hle
    omega
  · intro hle past now p hr
    obtain ⟨hn, hs, he⟩ := hparts past now p hr
    rw [TimerLimits.system] at hs
    omega

/-- The limits that hold if none are given keep both kinds of timers below the size of the pool. -/
theorem default_pool_fills : ({} : TimerLimits).faults = [] ∧
    ∃ past now p, Run {} past now p ∧ p.size = 64 ∧ p.size ≤ ({} : TimerLimits).requests := by
  obtain ⟨-, ⟨past, now, p, hr, hfull⟩, hceiling⟩ := @size_le_requests_iff {} (by decide)
  exact ⟨by decide, past, now, p, hr, hfull, hceiling.2 (by decide) past now p hr⟩

/-- Two nanoapps fill a pool of two, and the system still gets the slot that is not reserved. -/
theorem third_timer_of_two :
    ¬ ∀ limits : TimerLimits, limits.faults = [] → ∀ past now p, Run limits past now p →
      p.size ≤ limits.requests := by
  intro h
  obtain ⟨p, hset, hsize⟩ : ∃ p, (empty ⟨2, 2, 1, 1⟩).setAll? 0
        [{ owner := ⟨1⟩, duration := 1 }, { owner := ⟨2⟩, duration := 1 },
          { owner := .system, duration := 1, purpose := some .wifiScanRetry }] = some p ∧
      p.size = 3 :=
    ⟨_, rfl, rfl⟩
  obtain ⟨past, hr⟩ := (Run.start (Nat.zero_le _)).setAll hset
  have hle := h ⟨2, 2, 1, 1⟩ (by decide) past 0 p hr
  rw [hsize] at hle
  exact absurd hle (by decide)

end TimerPool

end ContextHub
