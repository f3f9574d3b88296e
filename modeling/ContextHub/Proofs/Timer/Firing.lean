import ContextHub.Hub.Timers
import ContextHub.Proofs.Timer.Operations
/-!
# What a tick fires

`Serves now p fired q` is a tick seen one request at a time: the front is taken out while it is due,
and a recurring one comes back a period after the time it was due, behind its equals. From it follow
the order of what is fired, the exact times at which every request fires, and what is left
afterwards. `FiresExactly` puts these together, and `tick?_firesExactly` says that a tick before the
end of time always gets there.
-/

namespace ContextHub

namespace TimerRequest

/-- The request one period later, with a new number. -/
def renewed (r : TimerRequest) (seq : Nat) : TimerRequest :=
  { r with expiration := Nanos.after r.expiration r.duration, seq }

end TimerRequest

namespace TimerPool

/-- The times up to `now` at which a request falls due. -/
def dueTimes (now : Nat) (r : TimerRequest) : List Nat :=
  (List.range (TimerRequest.timesDue now r)).map fun k => r.expiration + k * r.duration

/-- What the recurring requests among those fired come back as, numbered from `n` on. -/
def renewals : Nat → List TimerRequest → List TimerRequest
  | _, [] => []
  | n, r :: fired =>
    if r.oneShot then renewals n fired else r.renewed n :: renewals (n + 1) fired

/-- The times at which the timer `h` fired. -/
def timesOf (h : TimerHandle) (fired : List TimerRequest) : List Nat :=
  (fired.filter (·.handle == h)).map (·.expiration)

theorem timesOf_cons (h : TimerHandle) (r : TimerRequest) (fired : List TimerRequest) :
    timesOf h (r :: fired) =
      if r.handle = h then r.expiration :: timesOf h fired else timesOf h fired := by
  unfold timesOf
  split
  · rename_i e
    rw [List.filter_cons_of_pos (by simp [e]), List.map_cons]
  · rename_i e
    rw [List.filter_cons_of_neg (by simp [e])]

theorem timesOf_eq_nil {h : TimerHandle} {fired : List TimerRequest}
    (hne : ∀ f ∈ fired, f.handle ≠ h) : timesOf h fired = [] := by
  rw [timesOf, List.filter_eq_nil_iff.2, List.map_nil]
  intro f hf
  simp [hne f hf]

/-! ## How often a request falls due -/

section

variable {now : Nat} {r : TimerRequest}

theorem timesDue_of_lt (h : now < r.expiration) : TimerRequest.timesDue now r = 0 := by
  rw [TimerRequest.timesDue, if_pos h]

theorem timesDue_oneShot (h : r.expiration ≤ now) (ho : r.oneShot = true) :
    TimerRequest.timesDue now r = 1 := by
  rw [TimerRequest.timesDue, if_neg (Nat.not_lt.2 h), if_pos ho]

theorem timesDue_recurring (h : r.expiration ≤ now) (ho : r.oneShot = false) :
    TimerRequest.timesDue now r = (now - r.expiration) / r.duration + 1 := by
  rw [TimerRequest.timesDue, if_neg (Nat.not_lt.2 h), ho, if_neg Bool.false_ne_true]

/-- Before the end of time, one renewal is one firing less. -/
theorem timesDue_renewed (hnow : now < Nanos.last) (h : r.expiration ≤ now)
    (ho : r.oneShot = false) (hd : 0 < r.duration) (n : Nat) :
    TimerRequest.timesDue now r = TimerRequest.timesDue now (r.renewed n) + 1 := by
  rw [timesDue_recurring h ho]
  by_cases hlt : now < (r.renewed n).expiration
  · rw [timesDue_of_lt hlt]
    have hlt' : now < r.expiration + r.duration :=
      Nat.lt_of_lt_of_le hlt (Nat.min_le_left _ _)
    rw [Nat.div_eq_of_lt (by omega)]
  · rw [timesDue_recurring (Nat.not_lt.1 hlt) (by exact ho)]
    have he : (r.renewed n).expiration = r.expiration + r.duration := by
      simp only [TimerRequest.renewed, Nanos.after] at hlt ⊢
      omega
    have hle : r.duration ≤ now - r.expiration := by omega
    have hs : now - (r.renewed n).expiration = now - r.expiration - r.duration := by omega
    rw [hs, Nat.div_eq_sub_div hd hle]
    rfl

theorem dueTimes_renewed (hnow : now < Nanos.last) (h : r.expiration ≤ now)
    (ho : r.oneShot = false) (hd : 0 < r.duration) (n : Nat) :
    dueTimes now r = r.expiration :: dueTimes now (r.renewed n) := by
  unfold dueTimes
  rw [timesDue_renewed hnow h ho hd n, List.range_succ_eq_map, List.map_cons, Nat.zero_mul,
    Nat.add_zero, List.map_map]
  refine congrArg _ (List.map_congr_left fun k hk => ?_)
  have hk' := List.mem_range.1 hk
  have hle : (r.renewed n).expiration ≤ now := by
    by_contra hlt
    rw [timesDue_of_lt (Nat.not_le.1 hlt)] at hk'
    exact Nat.not_lt_zero k hk'
  have he : (r.renewed n).expiration = r.expiration + r.duration := by
    simp only [TimerRequest.renewed, Nanos.after] at hle ⊢
    omega
  have hd' : (r.renewed n).duration = r.duration := rfl
  simp only [Function.comp_apply, he, hd', Nat.succ_mul]
  omega

theorem mem_dueTimes (hd : r.oneShot = false → 0 < r.duration) {t : Nat} :
    t ∈ dueTimes now r ↔
      t ≤ now ∧ ∃ k, (r.oneShot = true → k = 0) ∧ t = r.expiration + k * r.duration := by
  simp only [dueTimes, List.mem_map, List.mem_range]
  by_cases hlt : now < r.expiration
  · rw [timesDue_of_lt hlt]
    constructor
    · rintro ⟨k, hk, -⟩
      exact absurd hk (Nat.not_lt_zero k)
    · rintro ⟨ht, k, -, rfl⟩
      omega
  · have hle := Nat.not_lt.1 hlt
    cases ho : r.oneShot with
    | true =>
      rw [timesDue_oneShot hle ho]
      constructor
      · rintro ⟨k, hk, rfl⟩
        obtain rfl : k = 0 := by omega
        exact ⟨by omega, 0, fun _ => rfl, rfl⟩
      · rintro ⟨-, k, hk, rfl⟩
        exact ⟨0, Nat.one_pos, by rw [hk rfl]⟩
    | false =>
      rw [timesDue_recurring hle ho]
      have hiff (k : Nat) : k < (now - r.expiration) / r.duration + 1 ↔
          r.expiration + k * r.duration ≤ now := by
        rw [Nat.lt_succ_iff, Nat.le_div_iff_mul_le (hd ho)]
        omega
      constructor
      · rintro ⟨k, hk, rfl⟩
        exact ⟨(hiff k).1 hk, k, by simp, rfl⟩
      · rintro ⟨ht, k, -, rfl⟩
        exact ⟨k, (hiff k).2 ht, rfl⟩

theorem dueTimes_increasing (hd : r.oneShot = false → 0 < r.duration) :
    (dueTimes now r).Pairwise (· < ·) := by
  rw [dueTimes, List.pairwise_map]
  cases ho : r.oneShot with
  | true =>
    have hle : TimerRequest.timesDue now r ≤ 1 := by
      unfold TimerRequest.timesDue
      rw [ho]
      split <;> simp
    refine List.Pairwise.imp_of_mem ?_ List.pairwise_lt_range
    intro a b _ hb hab
    have := List.mem_range.1 hb
    omega
  | false =>
    refine List.pairwise_lt_range.imp fun hab => ?_
    exact Nat.add_lt_add_left (Nat.mul_lt_mul_of_pos_right hab (hd ho)) _

end

/-! ## One request at a time -/

theorem renew_nextSeq (p : TimerPool) (r : TimerRequest) :
    (p.renew r).nextSeq = if r.oneShot then p.nextSeq else p.nextSeq + 1 := by
  unfold renew
  cases r.oneShot <;> rfl

section

variable {p : TimerPool} {r : TimerRequest} {rest : List TimerRequest} (hp : p.Coherent)
  (hl : p.requests = r :: rest)

include hp hl

theorem mem_renew {a : TimerRequest} :
    a ∈ ((p.without r).renew r).requests ↔
      a ∈ rest ∨ r.oneShot = false ∧ a = r.renewed p.nextSeq := by
  unfold renew
  cases ho : r.oneShot with
  | true => simp [without_front hp hl]
  | false =>
    simp only [Bool.false_eq_true, ↓reduceIte, mem_insert, without_front hp hl, true_and]
    exact or_comm

theorem renew_perm :
    ((p.without r).renew r).requests.Perm
      (if r.oneShot then rest else r.renewed p.nextSeq :: rest) := by
  unfold renew
  cases ho : r.oneShot with
  | true => simp only [↓reduceIte, without_front hp hl]; exact .refl _
  | false =>
    have h := insert_perm (p.without r)
      { r with expiration := Nanos.after r.expiration r.duration }
    rw [without_front hp hl] at h
    exact h

theorem renew_coherent : ((p.without r).renew r).Coherent := by
  have hr : r ∈ p.requests := hl ▸ List.mem_cons_self
  unfold renew
  split
  · exact hp.without hr
  · refine (hp.without hr).insert ⟨hp.valid r hr, ?_, hp.periodic r hr, Nanos.after_le_last _ _,
      hp.owned r hr, fun hw => hp.below hw r hr⟩
    exact fun a ha => (mem_without.1 ha).2

theorem handle_ne_of_mem_rest {a : TimerRequest} (ha : a ∈ rest) : a.handle ≠ r.handle := by
  intro e
  have := hp.eq_of_handle (hl ▸ List.mem_cons_of_mem r ha) (hl ▸ List.mem_cons_self) e
  exact (List.nodup_cons.1 (hl ▸ hp.nodup)).1 (this ▸ ha)

/-- A one-shot timer does not come back, and no other has its handle. -/
theorem handle_ne_of_mem_renew (ho : r.oneShot = true) {a : TimerRequest}
    (ha : a ∈ ((p.without r).renew r).requests) : a.handle ≠ r.handle := by
  rcases (mem_renew hp hl).1 ha with ha | ⟨hf, -⟩
  · exact handle_ne_of_mem_rest hp hl ha
  · rw [ho] at hf
    cases hf

end

/-- A tick at `now`, one request at a time. -/
inductive Serves (now : Nat) : TimerPool → List TimerRequest → TimerPool → Prop
  | rest {p : TimerPool} (hp : p.Coherent) (h : ∀ r ∈ p.requests, now < r.expiration) :
      Serves now p [] p
  | serve {p q : TimerPool} {r : TimerRequest} {rest fired : List TimerRequest}
      (hp : p.Coherent) (hl : p.requests = r :: rest) (hd : r.expiration ≤ now)
      (h : Serves now ((p.without r).renew r) fired q) : Serves now p (r :: fired) q

theorem serves_of_collect {now fuel : Nat} {p q : TimerPool} {fired : List TimerRequest}
    (hp : p.Coherent) (h : collect now fuel p = some (fired, q)) : Serves now p fired q := by
  induction fuel generalizing p fired with
  | zero => cases h
  | succ fuel ih =>
    simp only [collect] at h
    split at h
    · rename_i hn
      obtain ⟨rfl, rfl⟩ := Prod.mk.inj (Option.some.inj h)
      exact .rest hp ((popDue?_eq_none_iff hp).1 hn)
    · rename_i r rest hs
      obtain ⟨hd, ⟨tail, hl⟩, rfl⟩ := popDue?_eq_some hp hs
      obtain ⟨c, hc, he⟩ := Option.map_eq_some_iff.1 h
      obtain ⟨rfl, rfl⟩ := Prod.mk.inj he
      exact .serve hp hl hd (ih (renew_coherent hp hl) hc)

namespace Serves

variable {now : Nat} {p q : TimerPool} {fired : List TimerRequest}

theorem coherent (h : Serves now p fired q) : q.Coherent := by
  induction h with
  | rest hp _ => exact hp
  | serve _ _ _ _ ih => exact ih

theorem kept (h : Serves now p fired q) :
    q.limits = p.limits ∧ q.lastHandle = p.lastHandle ∧ q.wrapped = p.wrapped := by
  induction h with
  | rest _ _ => exact ⟨rfl, rfl, rfl⟩
  | serve _ _ _ _ ih =>
    refine ⟨ih.1.trans ?_, ih.2.1.trans ?_, ih.2.2.trans ?_⟩ <;>
      (unfold renew; split <;> rfl)

theorem remaining (h : Serves now p fired q) : ∀ r ∈ q.requests, now < r.expiration := by
  induction h with
  | rest _ hr => exact hr
  | serve _ _ _ _ ih => exact ih

/-- Whatever fires was held by the pool and due. -/
theorem origin (h : Serves now p fired q) : ∀ f ∈ fired,
    ∃ r ∈ p.requests, r.handle = f.handle ∧ r.toTimerSpec = f.toTimerSpec ∧
      r.expiration ≤ now := by
  induction h with
  | rest _ _ => simp
  | @serve p q r rest fired hp hl hd _ ih =>
    intro f hf
    rcases List.mem_cons.1 hf with rfl | hf
    · exact ⟨f, hl ▸ List.mem_cons_self, rfl, rfl, hd⟩
    · obtain ⟨a, ha, hh, hs, hle⟩ := ih f hf
      rcases (mem_renew hp hl).1 ha with ha | ⟨-, rfl⟩
      · exact ⟨a, hl ▸ List.mem_cons_of_mem _ ha, hh, hs, hle⟩
      · exact ⟨r, hl ▸ List.mem_cons_self, hh, hs, hd⟩

/-- Nothing is left of a timer that the pool did not hold. -/
theorem remains (h : Serves now p fired q) : ∀ a ∈ q.requests,
    ∃ r ∈ p.requests, r.handle = a.handle ∧ r.toTimerSpec = a.toTimerSpec := by
  induction h with
  | rest _ _ => exact fun a ha => ⟨a, ha, rfl, rfl⟩
  | @serve p q r rest fired hp hl _ _ ih =>
    intro f hf
    obtain ⟨a, ha, hh, hs⟩ := ih f hf
    rcases (mem_renew hp hl).1 ha with ha | ⟨-, rfl⟩
    · exact ⟨a, hl ▸ List.mem_cons_of_mem _ ha, hh, hs⟩
    · exact ⟨r, hl ▸ List.mem_cons_self, hh, hs⟩

/-- What comes before all that is waiting comes before all that fires. -/
theorem before_all (h : Serves now p fired q) {b : TimerRequest}
    (hb : ∀ r ∈ p.requests, b.Before r) : ∀ f ∈ fired, b.Before f := by
  induction h with
  | rest _ _ => simp
  | @serve p q r rest fired hp hl _ _ ih =>
    have hr : b.Before r := hb r (hl ▸ List.mem_cons_self)
    have hseq := hp.numbered r (hl ▸ List.mem_cons_self)
    have hex := Nanos.le_after (hp.timely r (hl ▸ List.mem_cons_self)) r.duration
    intro f hf
    rcases List.mem_cons.1 hf with rfl | hf
    · exact hr
    · refine ih ?_ f hf
      intro a ha
      rcases (mem_renew hp hl).1 ha with ha | ⟨-, rfl⟩
      · exact hb a (hl ▸ List.mem_cons_of_mem r ha)
      · refine hr.trans ?_
        simp only [TimerRequest.Before, TimerRequest.renewed]
        omega

theorem ordered (h : Serves now p fired q) : fired.Pairwise TimerRequest.Before := by
  induction h with
  | rest _ _ => exact .nil
  | @serve p q r rest fired hp hl _ h ih =>
    refine List.pairwise_cons.2 ⟨h.before_all ?_, ih⟩
    have hseq := hp.numbered r (hl ▸ List.mem_cons_self)
    have hex := Nanos.le_after (hp.timely r (hl ▸ List.mem_cons_self)) r.duration
    intro a ha
    rcases (mem_renew hp hl).1 ha with ha | ⟨-, rfl⟩
    · exact List.rel_of_pairwise_cons (hl ▸ hp.ordered) ha
    · simp only [TimerRequest.Before, TimerRequest.renewed]
      omega

/-- What was waiting and what came back is what fired and what is left. -/
theorem perm (h : Serves now p fired q) :
    (p.requests ++ renewals p.nextSeq fired).Perm (fired ++ q.requests) := by
  induction h with
  | rest _ _ => simp [renewals]
  | @serve p q r rest fired hp hl _ _ ih =>
    rw [hl, List.cons_append, List.cons_append]
    refine .cons r (.trans ?_ ih)
    refine .trans ?_ ((renew_perm hp hl).symm.append_right _)
    have hn : (p.without r).nextSeq = p.nextSeq := rfl
    rw [renew_nextSeq, hn, renewals]
    cases r.oneShot with
    | true => exact .refl _
    | false =>
      simp only [Bool.false_eq_true, ↓reduceIte, List.cons_append]
      exact List.perm_middle

/-- Before the end of time, a request fires at the times at which it falls due. -/
theorem timesOf_eq (h : Serves now p fired q) (hnow : now < Nanos.last) {r : TimerRequest}
    (hr : r ∈ p.requests) : timesOf r.handle fired = dueTimes now r := by
  induction h generalizing r with
  | rest _ hlt =>
    rw [dueTimes, timesDue_of_lt (hlt r hr)]
    rfl
  | @serve p q a rest fired hp hl hd h ih =>
    rw [timesOf_cons]
    rcases List.mem_cons.1 (hl ▸ hr) with rfl | hrest
    · rw [if_pos rfl]
      cases ho : r.oneShot with
      | true =>
        have hgone : ∀ f ∈ fired, f.handle ≠ r.handle := by
          intro f hf e
          obtain ⟨b, hb, hh, -⟩ := h.origin f hf
          exact handle_ne_of_mem_renew hp hl ho hb (hh.trans e)
        rw [timesOf_eq_nil hgone, dueTimes, timesDue_oneShot hd ho]
        simp
      | false =>
        have hm := (mem_renew hp hl).2 (.inr ⟨ho, rfl⟩)
        rw [dueTimes_renewed hnow hd ho (hp.periodic r hr ho) p.nextSeq, ← ih hm]
        rfl
    · rw [if_neg (handle_ne_of_mem_rest hp hl hrest).symm]
      exact ih ((mem_renew hp hl).2 (.inl hrest))

/-- What is not yet due stays as it is. -/
theorem untouched (h : Serves now p fired q) {r : TimerRequest} (hr : r ∈ p.requests)
    (hlt : now < r.expiration) : r ∈ q.requests := by
  induction h with
  | rest _ _ => exact hr
  | @serve p q a rest fired hp hl hd h ih =>
    rcases List.mem_cons.1 (hl ▸ hr) with rfl | hrest
    · omega
    · exact ih ((mem_renew hp hl).2 (.inl hrest))

/-- A one-shot timer that is due is used up. -/
theorem gone (h : Serves now p fired q) {r : TimerRequest} (hr : r ∈ p.requests)
    (hd : r.expiration ≤ now) (ho : r.oneShot = true) : ∀ a ∈ q.requests, a.handle ≠ r.handle := by
  induction h with
  | rest _ hlt => exact absurd (hlt r hr) (Nat.not_lt.2 hd)
  | @serve p q b rest fired hp hl _ h ih =>
    rcases List.mem_cons.1 (hl ▸ hr) with rfl | hrest
    · intro a ha e
      obtain ⟨c, hc, hh, -⟩ := h.remains a ha
      exact handle_ne_of_mem_renew hp hl ho hc (hh.trans e)
    · exact ih ((mem_renew hp hl).2 (.inl hrest))

/-- A one-shot timer that is left was there before, and is not yet due. -/
theorem mem_of_oneShot (h : Serves now p fired q) {a : TimerRequest} (ha : a ∈ q.requests)
    (ho : a.oneShot = true) : a ∈ p.requests := by
  obtain ⟨r, hr, hh, hspec⟩ := h.remains a ha
  have hlt : now < r.expiration := by
    by_contra hd
    exact h.gone hr (Nat.not_lt.1 hd) (by rw [hspec]; exact ho) a ha hh.symm
  exact h.coherent.eq_of_handle ha (h.untouched hr hlt) hh.symm ▸ hr

/-- A one-shot timer fires at most once. -/
theorem nodup_oneShot (h : Serves now p fired q) :
    ((fired.filter (·.oneShot)).map (·.handle)).Nodup := by
  induction h with
  | rest _ _ => exact .nil
  | @serve p q r rest fired hp hl hd h ih =>
    cases ho : r.oneShot with
    | false => rwa [List.filter_cons_of_neg (by simp [ho])]
    | true =>
      rw [List.filter_cons_of_pos (by simp [ho]), List.map_cons]
      refine List.nodup_cons.2 ⟨fun hm => ?_, ih⟩
      obtain ⟨f, hf, he⟩ := List.mem_map.1 hm
      obtain ⟨a, ha, hh, -⟩ := h.origin f (List.mem_filter.1 hf).1
      exact handle_ne_of_mem_renew hp hl ho ha (hh.trans he)

/-- What is due fires. -/
theorem fires (h : Serves now p fired q) {r : TimerRequest} (hr : r ∈ p.requests)
    (hd : r.expiration ≤ now) :
    ∃ f ∈ fired, f.handle = r.handle ∧ f.toTimerSpec = r.toTimerSpec := by
  induction h with
  | rest _ hlt => exact absurd (hlt r hr) (Nat.not_lt.2 hd)
  | @serve p q a rest fired hp hl _ h ih =>
    rcases List.mem_cons.1 (hl ▸ hr) with rfl | hrest
    · exact ⟨r, List.mem_cons_self, rfl, rfl⟩
    · obtain ⟨f, hf, he⟩ := ih ((mem_renew hp hl).2 (.inl hrest))
      exact ⟨f, List.mem_cons_of_mem a hf, he⟩

/-- A recurring timer stays, and time has not ended. -/
theorem recurs (h : Serves now p fired q) {r : TimerRequest} (hr : r ∈ p.requests)
    (ho : r.oneShot = false) :
    now < Nanos.last ∧ ∃ a ∈ q.requests, a.handle = r.handle := by
  induction h generalizing r with
  | rest hp hlt => exact ⟨Nat.lt_of_lt_of_le (hlt r hr) (hp.timely r hr), r, hr, rfl⟩
  | @serve p q b rest fired hp hl _ h ih =>
    rcases List.mem_cons.1 (hl ▸ hr) with rfl | hrest
    · exact ih (r := r.renewed p.nextSeq) ((mem_renew hp hl).2 (.inr ⟨ho, rfl⟩)) ho
    · exact ih ((mem_renew hp hl).2 (.inl hrest)) ho

theorem after_after (t a b : Nat) : Nanos.after (Nanos.after t a) b = Nanos.after t (a + b) := by
  simp only [Nanos.after]
  omega

/-- A recurring timer stays, moved on by as many periods as it fired. -/
theorem moved (h : Serves now p fired q) {r : TimerRequest} (hr : r ∈ p.requests)
    (ho : r.oneShot = false) :
    ∃ a ∈ q.requests, a.handle = r.handle ∧ a.toTimerSpec = r.toTimerSpec ∧
      a.expiration =
        Nanos.after r.expiration (TimerRequest.timesDue now r * r.duration) := by
  induction h generalizing r with
  | rest hp hlt =>
    refine ⟨r, hr, rfl, rfl, ?_⟩
    have := hp.timely r hr
    rw [timesDue_of_lt (hlt r hr), Nat.zero_mul, Nanos.after]
    omega
  | @serve p q b rest fired hp hl hd h ih =>
    rcases List.mem_cons.1 (hl ▸ hr) with rfl | hrest
    · have hm := (mem_renew hp hl).2 (.inr ⟨ho, rfl⟩)
      obtain ⟨hnow, -⟩ := h.recurs hm ho
      obtain ⟨a, ha, hh, hs, he⟩ := ih hm ho
      refine ⟨a, ha, hh, hs, he.trans ?_⟩
      rw [timesDue_renewed hnow hd ho (hp.periodic r hr ho) p.nextSeq, Nat.succ_mul, Nat.add_comm]
      exact after_after _ _ _
    · exact ih ((mem_renew hp hl).2 (.inl hrest)) ho

end Serves

/-! ## The whole tick -/

/-- A tick at `now` turns `p` into `q` and fires exactly what it should. -/
structure FiresExactly (now : Nat) (p : TimerPool) (fired : List TimerRequest) (q : TimerPool) :
    Prop where
  /-- In the order of the times, and at equal times in the order of insertion. -/
  ordered : fired.Pairwise TimerRequest.Before
  /-- Every recurring request that fires is inserted anew, numbered in the order of firing. -/
  conserved : (p.requests ++ renewals p.nextSeq fired).Perm (fired ++ q.requests)
  origin : ∀ f ∈ fired, ∃ r ∈ p.requests, r.handle = f.handle ∧ r.toTimerSpec = f.toTimerSpec ∧
    r.expiration ≤ now
  once : ∀ r ∈ p.requests, (timesOf r.handle fired).Pairwise (· < ·)
  times : ∀ r ∈ p.requests, ∀ t, t ∈ timesOf r.handle fired ↔
    t ≤ now ∧ ∃ k, (r.oneShot = true → k = 0) ∧ t = r.expiration + k * r.duration
  untouched : ∀ r ∈ p.requests, now < r.expiration → r ∈ q.requests
  gone : ∀ r ∈ p.requests, r.expiration ≤ now → r.oneShot = true →
    ∀ a ∈ q.requests, a.handle ≠ r.handle
  moved : ∀ r ∈ p.requests, r.expiration ≤ now → r.oneShot = false →
    ∃ a ∈ q.requests, a.handle = r.handle ∧ a.toTimerSpec = r.toTimerSpec ∧
      ∃ k, (∀ j, now < r.expiration + j * r.duration ↔ k ≤ j) ∧
        a.expiration = min (r.expiration + k * r.duration) Nanos.last
  remains : ∀ a ∈ q.requests, ∃ r ∈ p.requests, r.handle = a.handle ∧ r.toTimerSpec = a.toTimerSpec

/-- The number of firings is the least number of periods that lead past `now`. -/
theorem lt_iff_timesDue_le {now : Nat} {r : TimerRequest} (ho : r.oneShot = false)
    (hd : 0 < r.duration) (h : r.expiration ≤ now) (j : Nat) :
    now < r.expiration + j * r.duration ↔ TimerRequest.timesDue now r ≤ j := by
  rw [timesDue_recurring h ho, Nat.succ_le_iff, Nat.div_lt_iff_lt_mul hd]
  omega

theorem Serves.firesExactly {now : Nat} {p q : TimerPool} {fired : List TimerRequest}
    (hp : p.Coherent) (hnow : now < Nanos.last) (h : Serves now p fired q) :
    FiresExactly now p fired q where
  ordered := h.ordered
  conserved := h.perm
  origin := h.origin
  once r hr := h.timesOf_eq hnow hr ▸ dueTimes_increasing (hp.periodic r hr)
  times r hr t := by
    rw [h.timesOf_eq hnow hr]
    exact mem_dueTimes (hp.periodic r hr)
  untouched r hr hlt := h.untouched hr hlt
  gone r hr hd ho := h.gone hr hd ho
  moved := by
    intro r hr hd ho
    obtain ⟨a, ha, hh, hs, he⟩ := h.moved hr ho
    exact ⟨a, ha, hh, hs, TimerRequest.timesDue now r,
      lt_iff_timesDue_le ho (hp.periodic r hr ho) hd, he⟩
  remains := h.remains

/-! ## That a tick ends -/

/-- How often anything falls due up to `now`. -/
def work (p : TimerPool) (now : Nat) : Nat :=
  (p.requests.map (TimerRequest.timesDue now)).foldr (· + ·) 0

theorem tickFuel_eq (p : TimerPool) (now : Nat) : p.tickFuel now = p.work now + 1 := by
  have h (l : List Nat) (n : Nat) : l.foldl (· + ·) n = n + l.foldr (· + ·) 0 := by
    induction l generalizing n with
    | nil => rfl
    | cons a l ih => rw [List.foldl_cons, ih, List.foldr_cons, Nat.add_assoc]
  rw [tickFuel, h, work, Nat.add_comm]

/-- Nothing can fall due for ever: time has not come to its end, or no request recurs. -/
def Exhaustible (p : TimerPool) (now : Nat) : Prop :=
  now < Nanos.last ∨ ∀ r ∈ p.requests, r.oneShot = true

section

variable {p : TimerPool} (hp : p.Coherent) {now : Nat} {r : TimerRequest}
  {rest : List TimerRequest} (hl : p.requests = r :: rest)

include hp hl

theorem Exhaustible.renew (he : p.Exhaustible now) :
    ((p.without r).renew r).Exhaustible now := by
  refine he.imp_right fun hall a ha => ?_
  rcases (mem_renew hp hl).1 ha with ha | ⟨ho, -⟩
  · exact hall a (hl ▸ List.mem_cons_of_mem r ha)
  · exact absurd ((hall r (hl ▸ List.mem_cons_self)).symm.trans ho) (by decide)

/-- Serving the front is one firing less to do. -/
theorem work_renew (he : p.Exhaustible now) (hd : r.expiration ≤ now) :
    p.work now = ((p.without r).renew r).work now + 1 := by
  have hr : r ∈ p.requests := hl ▸ List.mem_cons_self
  have hperm := ((renew_perm hp hl).map (TimerRequest.timesDue now)).foldr_eq' (f := (· + ·))
    (fun a _ b _ n => Nat.add_left_comm b a n) 0
  rw [work, work, hl, hperm, List.map_cons, List.foldr_cons]
  cases ho : r.oneShot with
  | true =>
    rw [timesDue_oneShot hd ho, if_pos rfl, Nat.add_comm]
  | false =>
    have hnow : now < Nanos.last :=
      he.resolve_right fun hall => absurd ((hall r hr).symm.trans ho) (by decide)
    rw [timesDue_renewed hnow hd ho (hp.periodic r hr ho) p.nextSeq]
    simp only [Bool.false_eq_true, ↓reduceIte, List.map_cons, List.foldr_cons]
    omega

end

theorem collect_isSome {now fuel : Nat} {p : TimerPool} (hp : p.Coherent)
    (he : p.Exhaustible now) (hf : p.work now < fuel) :
    (collect now fuel p).isSome = true := by
  induction fuel generalizing p with
  | zero => exact absurd hf (Nat.not_lt_zero _)
  | succ fuel ih =>
    simp only [collect]
    split
    · rfl
    · rename_i r rest hs
      obtain ⟨hd, ⟨tail, hl⟩, rfl⟩ := popDue?_eq_some hp hs
      have := work_renew hp hl he hd
      rw [Option.isSome_map]
      exact ih (renew_coherent hp hl) (he.renew hp hl) (by omega)

/-- What a tick that ends does. -/
theorem tick?_eq_some {now : Nat} {p q : TimerPool} {fired : List TimerRequest} (hp : p.Coherent)
    (h : p.tick? now = some (fired, q)) :
    ∃ q', Serves now p fired q' ∧ q = q'.rearm now := by
  obtain ⟨c, hc, he⟩ := Option.map_eq_some_iff.1 h
  obtain ⟨rfl, rfl⟩ := Prod.mk.inj he
  exact ⟨c.2, serves_of_collect hp hc, rfl⟩

/-- Before the end of time every tick ends, and fires exactly what it should. -/
theorem tick?_firesExactly {now : Nat} {p : TimerPool} (hp : p.Coherent)
    (hnow : now < Nanos.last) :
    ∃ fired q, p.tick? now = some (fired, q) ∧ FiresExactly now p fired q := by
  have hf : p.work now < p.tickFuel now := by rw [tickFuel_eq]; omega
  obtain ⟨⟨fired, q⟩, hc⟩ := Option.isSome_iff_exists.1 (collect_isSome hp (.inl hnow) hf)
  have h := (serves_of_collect hp hc).firesExactly hp hnow
  refine ⟨fired, q.rearm now, by rw [tick?, hc]; rfl, ?_⟩
  exact ⟨h.1, h.2, h.3, h.4, h.5, h.6, h.7, h.8, h.9⟩

end TimerPool

end ContextHub
