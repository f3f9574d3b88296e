import ContextHub.Proofs.Timer.Operations
/-!
# Where the alarm stands

`Covers now p`: an alarm that is set stands no earlier than the first expiration and no later than
that or now, whichever is later. `Unattended p`: no alarm is set although something could fall due.
Setting and cancelling keep the first and do not lead to the second; the alarm may be left as it is
when the front keeps its handle, because a handle leads to one request only.
-/

namespace ContextHub.TimerPool

/-- An alarm that is set is for the first request. -/
def Covers (now : Nat) (p : TimerPool) : Prop :=
  ∀ t, p.alarm = some t → ∃ f, p.nextExpiration? = some f ∧ f ≠ Nanos.last ∧ f ≤ t ∧ t ≤ max f now

/-- There is something to wait for, and no alarm to wait with. -/
def Unattended (p : TimerPool) : Prop :=
  p.alarm = none ∧ ∃ f, p.nextExpiration? = some f ∧ f ≠ Nanos.last

theorem nextExpiration?_eq {p q : TimerPool} (h : q.front? = p.front?) :
    q.nextExpiration? = p.nextExpiration? := by
  rw [nextExpiration?, h, nextExpiration?]

/-! ## An alarm that is set anew -/

theorem alarm_rearm (p : TimerPool) (now : Nat) :
    (p.rearm now).alarm = match p.nextExpiration? with
      | none => none
      | some f => if f = Nanos.last then none else some (Nanos.after now (f - now)) := by
  unfold TimerPool.rearm TimerPool.alarm nextExpiration?
  cases p.front? with
  | none => rfl
  | some r =>
    dsimp only [Option.map_some]
    rw [apply_ite Alarm.deadline?, Alarm.deadline?_off, Alarm.deadline?_set]

theorem covers_rearm {p : TimerPool} (hp : p.Coherent) (now : Nat) :
    (p.rearm now).Covers now := by
  intro t ht
  rw [alarm_rearm] at ht
  split at ht
  · cases ht
  · rename_i f hf
    split at ht
    · cases ht
    · rename_i hlast
      obtain ⟨r, hr, rfl⟩ := Option.map_eq_some_iff.1 hf
      have hmem : r ∈ p.requests := List.mem_of_head? hr
      have htimely := hp.timely r hmem
      have heq : Nanos.after now (r.expiration - now) = t := Option.some.inj ht
      have hfront : (p.rearm now).nextExpiration? = some r.expiration := hf
      refine ⟨r.expiration, hfront, hlast, ?_, ?_⟩
      · unfold Nanos.after at heq
        omega
      · unfold Nanos.after at heq
        omega

theorem attended_rearm (p : TimerPool) (now : Nat) : ¬ (p.rearm now).Unattended := by
  rintro ⟨hnone, f, hf, hlast⟩
  have hf' : p.nextExpiration? = some f := hf
  rw [alarm_rearm, hf'] at hnone
  simp only [if_neg hlast] at hnone
  cases hnone

/-! ## An alarm that is left as it is -/

theorem Covers.later {p : TimerPool} {now now' : Nat} (hc : p.Covers now) (hle : now ≤ now') :
    p.Covers now' := by
  intro t ht
  obtain ⟨f, hf, hlast, hlow, hhigh⟩ := hc t ht
  exact ⟨f, hf, hlast, hlow, by omega⟩

theorem Covers.same {p q : TimerPool} {now : Nat} (hc : p.Covers now) (ha : q.alarm = p.alarm)
    (hf : q.nextExpiration? = p.nextExpiration?) : q.Covers now := by
  intro t ht
  rw [hf]
  exact hc t (ha ▸ ht)

theorem Unattended.same {p q : TimerPool} (hu : q.Unattended) (ha : q.alarm = p.alarm)
    (hf : q.nextExpiration? = p.nextExpiration?) : p.Unattended := by
  obtain ⟨hnone, hnext⟩ := hu
  rw [ha] at hnone
  rw [hf] at hnext
  exact ⟨hnone, hnext⟩

/-- What an operation does to the alarm: it is still right, and missing only if it was before. -/
structure Minds (now : Nat) (p q : TimerPool) : Prop where
  covers : p.Covers now → q.Covers now
  attended : q.Unattended → p.Unattended

theorem Minds.rearmed {p q : TimerPool} (hq : q.Coherent) (now : Nat) :
    p.Minds now (q.rearm now) where
  covers _ := covers_rearm hq now
  attended hu := absurd hu (attended_rearm q now)

theorem Minds.kept {p q : TimerPool} {now : Nat} (ha : q.alarm = p.alarm)
    (hf : q.nextExpiration? = p.nextExpiration?) : p.Minds now q where
  covers hc := hc.same ha hf
  attended hu := hu.same ha hf

/-- Looking at the front's handle is enough if it leads to the same request as before. -/
theorem Minds.rearmIfMoved {p q : TimerPool} {now : Nat} (hq : q.Coherent)
    (ha : q.alarm = p.alarm)
    (hfront : ∀ a b, q.front? = some a → p.front? = some b → a.handle = b.handle → a = b) :
    p.Minds now (q.rearmIfMoved p.frontHandle? now) := by
  unfold TimerPool.rearmIfMoved
  split
  · rename_i hsame
    refine .kept ha (nextExpiration?_eq ?_)
    unfold frontHandle? at hsame
    cases hqf : q.front? with
    | none =>
      rw [hqf] at hsame
      cases hpf : p.front? with
      | none => rfl
      | some b =>
        rw [hpf] at hsame
        cases hsame
    | some a =>
      rw [hqf] at hsame
      cases hpf : p.front? with
      | none =>
        rw [hpf] at hsame
        cases hsame
      | some b =>
        rw [hpf] at hsame
        rw [hfront a b hqf hpf (Option.some.inj hsame)]
  · exact .rearmed hq now

/-! ## Setting and cancelling -/

/-- What comes to the front by an admission is the new request, or was there before. -/
theorem front?_place {r a : TimerRequest} {l : List TimerRequest}
    (h : (place r l).head? = some a) : a = r ∨ l.head? = some a := by
  cases l with
  | nil => exact .inl (Option.some.inj h).symm
  | cons x l =>
    simp only [place] at h
    split at h
    · exact .inl (Option.some.inj h).symm
    · exact .inr h

theorem set_minds {p q : TimerPool} (hp : p.Coherent) {now : Nat} {s : TimerSpec} {x : TimerHandle}
    (hs : p.set now s = .ok (x, q)) : p.Minds now q := by
  have hadm := set_eq_ok hp hs
  have hshape : ∃ q' : TimerPool, q = q'.rearmIfMoved p.frontHandle? now ∧ q'.alarm = p.alarm := by
    unfold set at hs
    simp only at hs
    split at hs
    · cases hs
    split at hs
    · cases hs
    split at hs
    · cases hs
    split at hs
    · cases hs
    obtain ⟨-, rfl⟩ := Prod.mk.inj (Except.ok.inj hs)
    exact ⟨_, rfl, rfl⟩
  obtain ⟨q', rfl, halarm⟩ := hshape
  have hreq : q'.requests = place (p.newRequest now s x) p.requests := by
    have hr := hadm.requests
    unfold TimerPool.rearmIfMoved at hr
    split at hr <;> exact hr
  have hq' : q'.Coherent := by
    have hc := hadm.coherent
    unfold TimerPool.rearmIfMoved at hc
    split at hc
    · exact hc
    · exact ⟨hc.1, hc.2, hc.3, hc.4, hc.5, hc.6, hc.7, hc.8, hc.9, hc.10⟩
  refine .rearmIfMoved hq' halarm fun a b ha hb heq => ?_
  unfold front? at ha hb
  rw [hreq] at ha
  rcases front?_place ha with rfl | hold
  · -- a new handle is nobody's, so the front that has it is not the old one
    have hfresh := hadm.fresh b (List.mem_of_head? hb)
    exact absurd heq.symm hfresh
  · rw [hold] at hb
    exact Option.some.inj hb

theorem alarm_remove (p : TimerPool) (x : TimerHandle) : (p.remove x).alarm = p.alarm := by
  unfold remove remove?
  cases p.find? x <;> rfl

theorem alarm_foldl_remove (xs : List TimerHandle) (p : TimerPool) :
    (xs.foldl remove p).alarm = p.alarm := by
  induction xs generalizing p with
  | nil => rfl
  | cons x xs ih => exact (ih (p.remove x)).trans (alarm_remove p x)

theorem cancel?_minds {p q : TimerPool} (hp : p.Coherent) {now : Nat} {owner : InstanceId}
    {x : TimerHandle} (hc : p.cancel? now owner x = some q) :
    p.Minds now q := by
  have hsheds := remove_sheds hp x
  unfold cancel? at hc
  split at hc
  · split at hc
    · cases hc
    · split at hc
      · split at hc
        · obtain rfl := Option.some.inj hc
          exact .rearmed hsheds.coherent now
        · rename_i hfront
          obtain rfl := Option.some.inj hc
          refine .kept (alarm_remove p x) (nextExpiration?_eq ?_)
          unfold front?
          rw [hsheds.requests]
          cases hl : p.requests with
          | nil => rfl
          | cons r rest =>
            have hne : r.handle ≠ x := by
              intro heq
              refine hfront ?_
              rw [frontHandle?, front?, hl, List.head?_cons, Option.map_some, heq]
            rw [List.filter_cons_of_pos (by simpa using hne)]
            rfl
      · cases hc
  · cases hc

theorem cancelAllOwnedBy_minds {p : TimerPool} (hp : p.Coherent) (now : Nat)
    (owner : InstanceId) :
    p.Minds now (p.cancelAllOwnedBy now owner).2 := by
  have hsheds := foldl_remove_sheds hp ((p.ownedBy owner).map (·.handle))
  refine .rearmIfMoved hsheds.coherent (alarm_foldl_remove _ p) fun a b ha hb heq => ?_
  have hmem := (hsheds.mem.1 (List.mem_of_head? ha)).1
  exact hp.eq_of_handle hmem (List.mem_of_head? hb) heq

end ContextHub.TimerPool
