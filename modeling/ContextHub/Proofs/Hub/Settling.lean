import ContextHub.Proofs.Hub.Aside
import ContextHub.Proofs.Hub.Tracking
/-!
# The managers settle

Between two tasks a hub is settled: timers of the system and requests in flight correspond, and a
scan has a retry timer only while a retry is scheduled. Every operation of the request managers
leaves a settled hub settled. As a settled hub has less than six timers of the system whenever a
manager asks for one more, setting it can only fail where fewer than six slots are kept for the
system, or where handles have run out.
-/

namespace ContextHub

open TimerPool

namespace Hub

namespace Core

/-- Timers and requests correspond, and a scan has a retry timer only while a retry is
scheduled. -/
structure Settled (c : Core) : Prop extends Tracked [] [] c where
  idle : ∀ p, c.scan = some p → p.kind.phase ≠ .retryScheduled → p.kind.retryTimer = .invalid

/-- A settled core with handles left, of whose timers the system may have `n`. -/
structure Good (n : Nat) (c : Core) : Prop where
  coherent : c.timers.Coherent
  handlesLeft : c.timers.HandlesLeft
  system : c.timers.limits.system = n
  settled : c.Settled

/-- The same while the expiry `e`, taken from the queue, is being served. -/
structure Serving (n : Nat) (e : TimerHandle × TimerPurpose) (c : Core) : Prop where
  coherent : c.timers.Coherent
  handlesLeft : c.timers.HandlesLeft
  system : c.timers.limits.system = n
  tracked : Tracked [e] [] c
  idle : ∀ p, c.scan = some p → p.kind.phase ≠ .retryScheduled → p.kind.retryTimer = .invalid

theorem Good.same {n : Nat} {c c' : Core} (h : Good n c) (htimers : c'.timers = c.timers)
    (hqueued : c'.queued = c.queued) (hscan : c'.scan = c.scan)
    (hawaited : ∀ u, c'.awaited u = c.awaited u) : Good n c' where
  coherent := htimers ▸ h.coherent
  handlesLeft := htimers ▸ h.handlesLeft
  system := htimers ▸ h.system
  settled := ⟨h.settled.same htimers hqueued hawaited,
    fun p hs => h.settled.idle p (hscan ▸ hs)⟩

/-- An expiry that nobody awaits is stale. -/
theorem Serving.stale {n : Nat} {e : TimerHandle × TimerPurpose} {c : Core} (h : Serving n e c)
    (hno : c.awaited e.2 ≠ some e.1) : Good n c :=
  ⟨h.coherent, h.handlesLeft, h.system, h.tracked.dealt hno, h.idle⟩

/-- A slot whose timeout has expired is emptied. -/
theorem Serving.expire {n : Nat} {e : TimerHandle × TimerPurpose} {c c' : Core}
    (h : Serving n e c) (hx : c.awaited e.2 = some e.1) (htimers : c'.timers = c.timers)
    (hqueued : c'.queued = c.queued) (hscan : c'.scan = c.scan)
    (hawaited : ∀ u, c'.awaited u = if u = e.2 then none else c.awaited u) : Good n c' where
  coherent := htimers ▸ h.coherent
  handlesLeft := htimers ▸ h.handlesLeft
  system := htimers ▸ h.system
  settled := ⟨h.tracked.expire h.coherent hx htimers hqueued hawaited,
    fun p hs => h.idle p (hscan ▸ hs)⟩

/-- The slot of a session. -/
def session (c : Core) : SessionKind → Slot SessionChange
  | .location => c.location
  | .measurement => c.measurement

def withSession (c : Core) (k : SessionKind) (s : Slot SessionChange) : Core :=
  match k with
  | .location => { c with location := s }
  | .measurement => { c with measurement := s }

theorem awaited_withSession (c : Core) (k : SessionKind) (s : Slot SessionChange)
    (u : TimerPurpose) :
    (c.withSession k s).awaited u = if u = k.purpose then s.map (·.timer) else c.awaited u := by
  cases k <;> cases u <;> rfl

theorem awaited_session (c : Core) (k : SessionKind) :
    c.awaited k.purpose = (c.session k).map (·.timer) := by
  cases k <;> rfl

/-! ## Emptying the scan slot -/

/-- Whether a request is a timer of the system that belongs to a scan. -/
def ofScan (p : Pending ScanJob) (r : TimerRequest) : Bool :=
  r.owner.isSystem &&
    (r.handle == p.timer || p.kind.retryTimer.isValid && r.handle == p.kind.retryTimer)

theorem not_ofScan {p : Pending ScanJob} {r : TimerRequest} (hr : ofScan p r = false)
    (ho : r.owner.isSystem = true) (hv : r.handle.isValid = true) :
    r.handle ≠ p.timer ∧ r.handle ≠ p.kind.retryTimer := by
  rw [ofScan, ho, Bool.true_and, Bool.or_eq_false_iff, beq_eq_false_iff_ne] at hr
  refine ⟨hr.1, fun e => ?_⟩
  rw [← e, hv] at hr
  simp at hr

variable {served : List (TimerHandle × TimerPurpose)} {c : Core} {p : Pending ScanJob}
  {q : TimerPool}

theorem awaited_scan_none {c : Core} {p : Pending ScanJob} (hs : c.scan = some p)
    (hph : p.kind.phase ≠ .retryScheduled) (u : TimerPurpose) :
    ({ c with scan := none } : Core).awaited u =
      if u = .wifiScanTimeout then none else c.awaited u := by
  cases u <;> simp [awaited, hs, hph]

/-- A scan for which no retry is scheduled. -/
def unscheduled (p : Pending ScanJob) (phase : ScanPhase) (retryTimer : TimerHandle) :
    Pending ScanJob :=
  { p with kind := { p.kind with phase, retryTimer } }

/-- A scan for which the retry is no longer scheduled leaves the retry timer loose. -/
theorem Tracked.unschedule {loose : List TimerHandle} (ht : Tracked served loose c)
    (hp : c.timers.Coherent) (hs : c.scan = some p) (hph : p.kind.phase = .retryScheduled)
    (phase : ScanPhase) (hph' : phase ≠ .retryScheduled) (retryTimer : TimerHandle) :
    Tracked served (p.kind.retryTimer :: loose)
      { c with scan := some (unscheduled p phase retryTimer) } := by
  have hr : c.awaited .wifiScanRetry = some p.kind.retryTimer := by simp [awaited, hs, hph]
  refine ht.vacate hp hr rfl rfl fun u => ?_
  cases u <;> simp [awaited, hs, unscheduled, hph']

/-- The timeout of a scan becomes loose, and so does its retry timer if it awaits one. -/
theorem Tracked.loosenScan (ht : Tracked served [] c) (hp : c.timers.Coherent)
    (hs : c.scan = some p) :
    ∃ loose, Tracked served loose { c with scan := none } ∧ ∀ h, h ∈ loose ↔
      h = p.timer ∨ p.kind.phase = .retryScheduled ∧ h = p.kind.retryTimer := by
  by_cases hph : p.kind.phase = .retryScheduled
  · let p₁ := unscheduled p .awaitingResponse .invalid
    let c₁ : Core := { c with scan := some p₁ }
    have h₁ : Tracked served [p.kind.retryTimer] c₁ := ht.unschedule hp hs hph _ (by decide) _
    have hs₁ : c₁.scan = some p₁ := rfl
    have hph₁ : p₁.kind.phase ≠ .retryScheduled := by simp [p₁, unscheduled]
    have h₂ : Tracked served [p.timer, p.kind.retryTimer] { c with scan := none } :=
      h₁.vacate hp rfl rfl rfl (awaited_scan_none hs₁ hph₁)
    exact ⟨_, h₂, by simp [hph]⟩
  · have h₁ : Tracked served [p.timer] { c with scan := none } :=
      ht.vacate hp (by rw [awaited, hs]; rfl) rfl rfl (awaited_scan_none hs hph)
    exact ⟨_, h₁, by simp [hph]⟩

/-- Nothing is loose if nothing loose is set. -/
theorem Tracked.tighten {loose : List TimerHandle} (ht : Tracked served loose c)
    (hno : ∀ r ∈ c.timers.requests, r.purpose.isSome = true → r.handle ∉ loose) :
    Tracked served [] c := by
  induction loose with
  | nil => exact ht
  | cons h loose ih =>
    refine ih (ht.tight fun r hr hu e => ?_) fun r hr hu hm => ?_
    · exact hno r hr hu (e ▸ List.mem_cons_self)
    · exact hno r hr hu (List.mem_cons_of_mem h hm)

/-- The scan slot is emptied and the timers of the scan are cancelled. -/
theorem Tracked.vacateScan (ht : Tracked served [] c) (hp : c.timers.Coherent)
    (hs : c.scan = some p)
    (hidle : p.kind.phase ≠ .retryScheduled → p.kind.retryTimer = .invalid)
    (hq : Sheds c.timers (ofScan p) q) :
    Tracked served [] { c with scan := none, timers := q } := by
  obtain ⟨loose, hl, hmem⟩ := ht.loosenScan hp hs
  have hshed : Tracked served loose { c with scan := none, timers := q } := by
    refine hl.shed hq fun r hr hout _ => (hmem r.handle).2 ?_
    simp only [ofScan, Bool.and_eq_true, Bool.or_eq_true, beq_iff_eq] at hout
    refine hout.2.imp_right fun hr' => ⟨?_, hr'.2⟩
    by_contra hph
    rw [hidle hph] at hr'
    exact absurd hr'.1 (by decide)
  refine hshed.tighten fun r hr hu hm => ?_
  obtain ⟨hr, hout⟩ := hq.mem.1 hr
  have ho : r.owner.isSystem = true := (hp.owned r hr).trans hu
  obtain ⟨h₁, h₂⟩ := not_ofScan hout ho (hp.valid r hr)
  rcases (hmem r.handle).1 hm with e | ⟨-, e⟩
  · exact h₁ e
  · exact h₂ e

/-- A slot is emptied and its timer cancelled. -/
theorem Tracked.abandon {c' : Core} {x : TimerHandle} {purpose : TimerPurpose}
    (ht : Tracked [] [] c) (hp : c.timers.Coherent) (hx : c.awaited purpose = some x)
    (hq : Sheds c.timers (fun r => r.owner.isSystem && r.handle == x) c'.timers)
    (hqueued : c'.queued = c.queued)
    (hawaited : ∀ u, c'.awaited u = if u = purpose then none else c.awaited u) :
    Tracked [] [] c' := by
  have h₁ : Tracked [] [x] { c' with timers := c.timers } :=
    ht.vacate hp hx rfl hqueued fun u => by rw [← hawaited]; cases u <;> rfl
  have h₂ : Tracked [] [x] c' := by
    refine h₁.shed hq fun r hr hout _ => ?_
    rw [Bool.and_eq_true] at hout
    exact List.mem_singleton.2 (eq_of_beq hout.2)
  refine h₂.tight fun r hr hu e => ?_
  obtain ⟨hr, hout⟩ := hq.mem.1 hr
  rw [(hp.owned r hr).trans hu, e] at hout
  simp at hout

end Core

variable {A R α β : Type} [Radio R]

/-! ## Steps from a settled hub -/

/-- From a good hub the step leads to a settled one, and it does not halt for want of a timer if the
system may have six. -/
def Settles (m : HubM A R α) : Prop :=
  ∀ n h, h.core.Good n →
    Ends m h (fun _ h' => h'.core.Settled) (fun e _ => 6 ≤ n → Mild R e)

section

variable {n : Nat} {h : Hub A R} {Q : β → Hub A R → Prop}

/-- A quiet step, and then another. -/
theorem Ends.quietly {m : HubM A R α} {f : α → HubM A R β} (hm : Obeys quiet m)
    (hf : ∀ a h', h'.core = h.core →
      Ends (f a) h' Q (fun e _ => 6 ≤ n → Mild R e)) :
    Ends (m >>= f) h Q (fun e _ => 6 ≤ n → Mild R e) :=
  ends_bind.2 ((hm h).mono hf fun _ _ he _ => he.2)

/-- From a good hub the step leads to a good one: it settles and sets no timer. -/
def Keeps (m : HubM A R α) : Prop :=
  ∀ n h, h.core.Good n →
    Ends m h (fun _ h' => h'.core.Good n) (fun e _ => 6 ≤ n → Mild R e)

theorem Keeps.of_quiet {m : HubM A R α} (hm : Obeys quiet m) : Keeps m :=
  fun _ h hg => (hm h).mono (fun _ _ hc => hc ▸ hg) fun _ _ he _ => he.2

theorem Keeps.settles {m : HubM A R α} (hm : Keeps m) : Settles m :=
  fun n h hg => (hm n h hg).mono (fun _ _ hg => hg.settled) fun _ _ he => he

theorem Settles.of_quiet {m : HubM A R α} (hm : Obeys quiet m) : Settles m :=
  (Keeps.of_quiet hm).settles

/-- A step that keeps the hub good, and then another. -/
theorem Settles.after {m : HubM A R α} {f : α → HubM A R β} (hm : Keeps m)
    (hf : ∀ a, Settles (f a)) : Settles (m >>= f) :=
  fun n h hg => (hm n h hg).bind fun a h' hg' => hf a n h' hg'

theorem Settles.quiet_bind {m : HubM A R α} {f : α → HubM A R β} (hm : Obeys quiet m)
    (hf : ∀ a, Settles (f a)) : Settles (m >>= f) :=
  .after (.of_quiet hm) hf

theorem Settles.get_bind {f : Hub A R → HubM A R β} (hf : ∀ s, Settles (f s)) :
    Settles (get >>= f) := fun n h hg => hf h n h hg

theorem Settles.ite {c : Prop} [Decidable c] {m m' : HubM A R α} (hm : c → Settles m)
    (hm' : ¬ c → Settles m') : Settles (if c then m else m') := by
  split
  · rename_i hc
    exact hm hc
  · rename_i hc
    exact hm' hc

theorem Settles.pure (a : α) : Settles (Pure.pure a : HubM A R α) := fun _ _ hg => hg.settled

/-- A timer for a purpose for which nothing is awaited can be set. It remains to await it. -/
theorem occupy_ends {c : Core} (hg : c.Good n) (hc : h.timers = c.timers) (duration : Nat)
    {purpose : TimerPurpose} (hnone : c.awaited purpose = none) {f : TimerHandle → HubM A R β}
    (hf : ∀ x h' q, h'.core = { h.core with timers := q } →
      (∀ c' : Core, c'.timers = q → c'.queued = c.queued →
        (∀ u, c'.awaited u = if u = purpose then some x else c.awaited u) → c'.Tracked [] []) →
      Ends (f x) h' Q (fun e _ => 6 ≤ n → Mild R e)) :
    Ends (setSystemTimer duration purpose >>= f) h Q (fun e _ => 6 ≤ n → Mild R e) := by
  refine ends_bind.2 ((setSystemTimer_ends duration purpose h).mono (fun x h' hx => ?_)
    fun e h' he hn => ?_)
  · obtain ⟨q, hq, hc'⟩ := hx
    rw [hc] at hq
    have ha := set_eq_ok hg.coherent hq
    obtain ⟨-, hval, hissued⟩ := ha.unwrapped (set_unwrapped hg.handlesLeft hq)
    have ht := hg.settled.set ha hval hissued
    have harmed : Core.Armed { c with timers := q } x purpose :=
      ⟨_, ha.mem.2 (.inl rfl), rfl, rfl⟩
    exact hf x h' q hc' fun c' h₁ h₂ h₃ => ht.fill ha.coherent hnone harmed h₁ h₂ h₃
  · obtain ⟨err, herr⟩ := he.2
    rw [hc] at herr
    have hlt := hg.settled.systemCount_lt hg.coherent hnone
    rcases set_system_eq_error herr with hfull | hl
    · have := hg.system
      omega
    · exact absurd hg.handlesLeft hl

/-- Once a slot is empty, cancelling its timer makes the hub good again. -/
theorem abandon_ends {c : Core} {x : TimerHandle} {purpose : TimerPurpose} (hg : c.Good n)
    (hx : c.awaited purpose = some x) (htimers : h.timers = c.timers)
    (hqueued : h.core.queued = c.queued) (hscan : h.core.scan = c.scan)
    (hawaited : ∀ u, h.core.awaited u = if u = purpose then none else c.awaited u) :
    Ends (cancelSystemTimer x) h (fun _ h' => h'.core.Good n)
      (fun e _ => 6 ≤ n → Mild R e) := by
  have hp : h.timers.Coherent := htimers ▸ hg.coherent
  refine (cancelSystemTimer_ends x h hp).mono (fun _ h' hc => ?_) fun _ _ => False.elim
  obtain ⟨q, hq, hc⟩ := hc
  rw [htimers] at hq
  rw [hc]
  refine ⟨hq.coherent, hq.kept.handlesLeft.2 hg.handlesLeft, hq.kept.limits ▸ hg.system, ?_, ?_⟩
  · refine hg.settled.abandon hg.coherent hx hq hqueued fun u => ?_
    rw [← hawaited]
    cases u <;> rfl
  · intro p hs
    exact hg.settled.idle p (hscan ▸ hs)

end

end Hub

end ContextHub
