import ContextHub.Proofs.Hub.Quiet
import ContextHub.Proofs.Timer.History
/-!
# Timers of the system and the requests that they bound

Every timer of the system is awaited by a request in flight: the timeout of its slot, or the pause
before a scan is tried again (`awaited`). `Tracked served loose c` says that timers and requests
correspond in the core `c`, up to what a step is in the middle of: `served` are the expiries that it
has taken from the queue, `loose` the timers that are set but awaited by nobody. Each change that
the managers make to timers and slots is one lemma here; the managers put them together.
-/

namespace ContextHub

open TimerPool

/-- The system timer that a task says has expired. -/
def Task.expired? : Task → Option (TimerHandle × TimerPurpose)
  | .deferred (.timerExpired h purpose) => some (h, purpose)
  | _ => none

namespace Hub.Core

/-- The timer that a request awaits for a purpose. -/
def awaited (c : Core) : TimerPurpose → Option TimerHandle
  | .wifiScanRetry => c.scan.bind fun p =>
    if p.kind.phase = .retryScheduled then some p.kind.retryTimer else none
  | .wifiScanTimeout => c.scan.map (·.timer)
  | .wifiRangingTimeout => c.ranging.map (·.timer)
  | .wwanCellInfoTimeout => c.cell.map (·.timer)
  | .gnssLocationTimeout => c.location.map (·.timer)
  | .gnssMeasurementTimeout => c.measurement.map (·.timer)

/-- The system timers whose expiry is still queued. -/
def queued (c : Core) : List (TimerHandle × TimerPurpose) := c.expiries.filterMap Task.expired?

/-- Whether a timer is set for a purpose. -/
def Armed (c : Core) (h : TimerHandle) (purpose : TimerPurpose) : Prop :=
  ∃ r ∈ c.timers.requests, r.handle = h ∧ r.purpose = some purpose

/-- Timers of the system and requests in flight correspond. -/
structure Tracked (served : List (TimerHandle × TimerPurpose)) (loose : List TimerHandle)
    (c : Core) : Prop where
  oneShot : ∀ r ∈ c.timers.requests, r.purpose.isSome = true → r.oneShot = true
  /-- A timer that is set is awaited. -/
  sound : ∀ h purpose, c.Armed h purpose → c.awaited purpose = some h ∨ h ∈ loose
  /-- A timer that is awaited is set or has expired. -/
  complete : ∀ h purpose, c.awaited purpose = some h →
    c.Armed h purpose ∨ (h, purpose) ∈ served ++ c.queued
  once : ((served ++ c.queued).map Prod.fst).Nodup
  /-- What has expired is set no more. -/
  spent : ∀ e ∈ served ++ c.queued,
    e.1.val < c.timers.issued ∧ ∀ r ∈ c.timers.requests, r.handle ≠ e.1
  unawaited : ∀ h ∈ loose, ∀ purpose, c.awaited purpose ≠ some h

section

variable {served : List (TimerHandle × TimerPurpose)} {loose : List TimerHandle} {c c' : Core}
  {h : TimerHandle} {purpose : TimerPurpose}

theorem Armed.of_timers (hc : c.timers.requests = c'.timers.requests) (ha : c.Armed h purpose) :
    c'.Armed h purpose := by
  unfold Armed at *
  rwa [← hc]

/-- No two purposes share a timer. -/
theorem Tracked.awaited_inj (ht : Tracked served loose c) (hp : c.timers.Coherent)
    {purpose' : TimerPurpose} (h₁ : c.awaited purpose = some h)
    (h₂ : c.awaited purpose' = some h) : purpose = purpose' := by
  rcases ht.complete h purpose h₁ with ⟨r, hr, hh, hu⟩ | hm
  · rcases ht.complete h purpose' h₂ with ⟨r', hr', hh', hu'⟩ | hm'
    · obtain rfl := hp.eq_of_handle hr hr' (hh.trans hh'.symm)
      exact Option.some.inj (hu.symm.trans hu')
    · exact absurd hh ((ht.spent _ hm').2 r hr)
  · rcases ht.complete h purpose' h₂ with ⟨r', hr', hh', -⟩ | hm'
    · exact absurd hh' ((ht.spent _ hm).2 r' hr')
    · exact (Prod.mk.inj (List.inj_on_of_nodup_map ht.once hm hm' rfl)).2

/-- A step that changes nothing but what else there is in the core. -/
theorem Tracked.same (ht : Tracked served loose c) (htimers : c'.timers = c.timers)
    (hqueued : c'.queued = c.queued)
    (hawaited : ∀ purpose, c'.awaited purpose = c.awaited purpose) :
    Tracked served loose c' where
  oneShot := by rw [htimers]; exact ht.oneShot
  sound h purpose ha := by
    rw [hawaited]
    exact ht.sound h purpose (ha.of_timers (by rw [htimers]))
  complete h purpose ha := by
    rw [hawaited] at ha
    rw [hqueued]
    exact (ht.complete h purpose ha).imp_left fun ha => ha.of_timers (by rw [htimers])
  once := by rw [hqueued]; exact ht.once
  spent := by rw [hqueued, htimers]; exact ht.spent
  unawaited h hh purpose := by rw [hawaited]; exact ht.unawaited h hh purpose

/-! ## Setting and cancelling -/

/-- A new timer is loose at first. -/
theorem Tracked.set (ht : Tracked served loose c) {now duration : Nat} {q : TimerPool}
    (ha : c.timers.Admits now { owner := .system, duration, purpose := some purpose } h q)
    (hval : h.val = c.timers.issued) (hissued : q.issued = c.timers.issued + 1) :
    Tracked served (h :: loose) { c with timers := q } where
  oneShot := by
    intro r hr hs
    rcases ha.mem.1 hr with rfl | hr
    · rfl
    · exact ht.oneShot r hr hs
  sound := by
    rintro x u ⟨r, hr, rfl, hu⟩
    rcases ha.mem.1 hr with rfl | hr
    · exact .inr List.mem_cons_self
    · exact (ht.sound _ u ⟨r, hr, rfl, hu⟩).imp_right (List.mem_cons_of_mem h)
  complete := by
    intro x u hx
    refine (ht.complete x u hx).imp_left ?_
    rintro ⟨r, hr, hh, hu⟩
    exact ⟨r, ha.mem.2 (.inr hr), hh, hu⟩
  once := ht.once
  spent := by
    intro e he
    obtain ⟨hlt, hne⟩ := ht.spent e he
    refine ⟨by simp only [hissued]; omega, ?_⟩
    intro r hr
    rcases ha.mem.1 hr with rfl | hr
    · rintro rfl
      have : e.1.val = c.timers.issued := hval
      omega
    · exact hne r hr
  unawaited := by
    intro x hx u hu
    rcases List.mem_cons.1 hx with rfl | hx
    · rcases ht.complete x u hu with ⟨r, hr, hh, -⟩ | hm
      · exact ha.fresh r hr hh
      · have := (ht.spent _ hm).1
        simp only at this
        omega
    · exact ht.unawaited x hx u hu

/-- A loose timer that is not in the pool is no longer a concern. -/
theorem Tracked.tight (ht : Tracked served (h :: loose) c)
    (hno : ∀ r ∈ c.timers.requests, r.purpose.isSome = true → r.handle ≠ h) :
    Tracked served loose c := by
  refine { ht with
    sound := ?_
    unawaited := fun x hx => ht.unawaited x (List.mem_cons_of_mem h hx) }
  rintro x u ⟨r, hr, rfl, hu⟩
  refine (ht.sound _ u ⟨r, hr, rfl, hu⟩).imp_right fun hm => ?_
  exact (List.mem_cons.1 hm).resolve_left (hno r hr (by rw [hu]; rfl))

/-- Loose timers may go. -/
theorem Tracked.shed (ht : Tracked served loose c) {q : TimerPool} {out : TimerRequest → Bool}
    (hs : c.timers.Sheds out q)
    (hout : ∀ r ∈ c.timers.requests, out r = true → r.purpose.isSome = true → r.handle ∈ loose) :
    Tracked served loose { c with timers := q } where
  oneShot r hr := ht.oneShot r (hs.mem.1 hr).1
  sound := by
    rintro x u ⟨r, hr, hh, hu⟩
    exact ht.sound x u ⟨r, (hs.mem.1 hr).1, hh, hu⟩
  complete := by
    intro x u hx
    refine (ht.complete x u hx).imp_left ?_
    rintro ⟨r, hr, rfl, hu⟩
    refine ⟨r, hs.mem.2 ⟨hr, ?_⟩, rfl, hu⟩
    by_contra hr'
    exact ht.unawaited r.handle (hout r hr (by simpa using hr') (by rw [hu]; rfl)) u hx
  once := ht.once
  spent e he := by
    refine ⟨?_, fun r hr => (ht.spent e he).2 r (hs.mem.1 hr).1⟩
    have := (ht.spent e he).1
    simp only [hs.kept.issued]
    exact this
  unawaited := ht.unawaited

/-! ## Filling and emptying slots -/

/-- A slot that is emptied leaves its timer loose. -/
theorem Tracked.vacate (ht : Tracked served loose c) (hp : c.timers.Coherent)
    (hh : c.awaited purpose = some h) (htimers : c'.timers = c.timers)
    (hqueued : c'.queued = c.queued)
    (hawaited : ∀ u, c'.awaited u = if u = purpose then none else c.awaited u) :
    Tracked served (h :: loose) c' where
  oneShot := by rw [htimers]; exact ht.oneShot
  sound := by
    intro x u ha
    rw [hawaited]
    rcases ht.sound x u (ha.of_timers (by rw [htimers])) with hx | hx
    · split
      · rename_i e
        subst e
        exact .inr (Option.some.inj (hh.symm.trans hx) ▸ List.mem_cons_self)
      · exact .inl hx
    · exact .inr (List.mem_cons_of_mem h hx)
  complete := by
    intro x u hx
    rw [hawaited] at hx
    split at hx
    · cases hx
    · rw [hqueued]
      exact (ht.complete x u hx).imp_left fun ha => ha.of_timers (by rw [htimers])
  once := by rw [hqueued]; exact ht.once
  spent := by rw [hqueued, htimers]; exact ht.spent
  unawaited := by
    intro x hx u hu
    rw [hawaited] at hu
    split at hu
    · cases hu
    · rename_i hne
      rcases List.mem_cons.1 hx with rfl | hx
      · exact hne (ht.awaited_inj hp hu hh)
      · exact ht.unawaited x hx u hu

/-- A slot that is filled awaits a loose timer. -/
theorem Tracked.fill (ht : Tracked served [h] c) (hp : c.timers.Coherent)
    (hnone : c.awaited purpose = none) (harmed : c.Armed h purpose)
    (htimers : c'.timers = c.timers) (hqueued : c'.queued = c.queued)
    (hawaited : ∀ u, c'.awaited u = if u = purpose then some h else c.awaited u) :
    Tracked served [] c' where
  oneShot := by rw [htimers]; exact ht.oneShot
  sound := by
    intro x u ha
    left
    rw [hawaited]
    have ha' : c.Armed x u := ha.of_timers (by rw [htimers])
    rcases ht.sound x u ha' with hx | hx
    · split
      · rename_i e
        subst e
        rw [hnone] at hx
        cases hx
      · exact hx
    · obtain rfl := List.mem_singleton.1 hx
      obtain ⟨r, hr, hh, hu⟩ := ha'
      obtain ⟨r', hr', hh', hu'⟩ := harmed
      obtain rfl := hp.eq_of_handle hr hr' (hh.trans hh'.symm)
      rw [if_pos (Option.some.inj (hu.symm.trans hu'))]
  complete := by
    intro x u hx
    rw [hawaited] at hx
    rw [hqueued]
    split at hx
    · rename_i e
      subst e
      obtain rfl := Option.some.inj hx
      exact .inl (harmed.of_timers (by rw [htimers]))
    · exact (ht.complete x u hx).imp_left fun ha => ha.of_timers (by rw [htimers])
  once := by rw [hqueued]; exact ht.once
  spent := by rw [hqueued, htimers]; exact ht.spent
  unawaited := by simp

/-! ## Serving an expiry -/

/-- An expiry is taken from the queue. -/
theorem Tracked.take (ht : Tracked [] loose c) (htimers : c'.timers = c.timers)
    (hqueued : c.queued = (h, purpose) :: c'.queued)
    (hawaited : ∀ u, c'.awaited u = c.awaited u) : Tracked [(h, purpose)] loose c' where
  oneShot := by rw [htimers]; exact ht.oneShot
  sound x u ha := by
    rw [hawaited]
    exact ht.sound x u (ha.of_timers (by rw [htimers]))
  complete x u ha := by
    rw [hawaited] at ha
    rw [List.singleton_append, ← hqueued]
    exact (ht.complete x u ha).imp_left fun ha => ha.of_timers (by rw [htimers])
  once := by rw [List.singleton_append, ← hqueued]; exact ht.once
  spent := by rw [List.singleton_append, ← hqueued, htimers]; exact ht.spent
  unawaited x hx u := by rw [hawaited]; exact ht.unawaited x hx u

/-- An expiry is dealt with once nobody awaits it. -/
theorem Tracked.dealt (ht : Tracked [(h, purpose)] loose c) (hno : c.awaited purpose ≠ some h) :
    Tracked [] loose c where
  oneShot := ht.oneShot
  sound := ht.sound
  complete := by
    intro x u hx
    refine (ht.complete x u hx).imp_right fun hm => ?_
    rcases List.mem_cons.1 hm with he | hm
    · cases he
      exact absurd hx hno
    · exact hm
  once := (List.nodup_cons.1 ht.once).2
  spent e he := ht.spent e (List.mem_cons_of_mem _ he)
  unawaited := ht.unawaited

/-- A slot whose timer has expired is emptied, and the expiry is dealt with. -/
theorem Tracked.expire (ht : Tracked [(h, purpose)] [] c) (hp : c.timers.Coherent)
    (hh : c.awaited purpose = some h) (htimers : c'.timers = c.timers)
    (hqueued : c'.queued = c.queued)
    (hawaited : ∀ u, c'.awaited u = if u = purpose then none else c.awaited u) :
    Tracked [] [] c' := by
  have hv := ht.vacate hp hh htimers hqueued hawaited
  refine (hv.dealt ?_).tight fun r hr _ => ?_
  · rw [hawaited, if_pos rfl]
    simp
  · exact (hv.spent _ List.mem_cons_self).2 r hr

/-! ## How many there are -/

/-- The requests of the system. -/
def systemRequests (c : Core) : List TimerRequest := c.timers.requests.filter (·.owner.isSystem)

theorem mem_systemRequests (hp : c.timers.Coherent) {r : TimerRequest} (hr : r ∈ c.systemRequests) :
    r ∈ c.timers.requests ∧ ∃ u, r.purpose = some u := by
  obtain ⟨hr, hs⟩ := List.mem_filter.1 hr
  exact ⟨hr, Option.isSome_iff_exists.1 ((hp.owned r hr).symm.trans hs)⟩

/-- All purposes. -/
def purposes : List TimerPurpose :=
  [.wifiScanRetry, .wifiScanTimeout, .wifiRangingTimeout, .wwanCellInfoTimeout,
    .gnssLocationTimeout, .gnssMeasurementTimeout]

theorem mem_purposes (u : TimerPurpose) : u ∈ purposes := by cases u <;> decide

/-- No two timers are set for one purpose. -/
theorem Tracked.purposes_nodup (ht : Tracked served [] c) (hp : c.timers.Coherent) :
    (c.systemRequests.map (·.purpose)).Nodup := by
  refine List.Nodup.map_on ?_ (hp.nodup.filter _)
  intro a ha b hb he
  obtain ⟨ha, u, hu⟩ := mem_systemRequests hp ha
  obtain ⟨hb, -⟩ := mem_systemRequests hp hb
  have h₁ := (ht.sound a.handle u ⟨a, ha, rfl, hu⟩).resolve_right List.not_mem_nil
  have h₂ := (ht.sound b.handle u ⟨b, hb, rfl, he ▸ hu⟩).resolve_right List.not_mem_nil
  exact hp.eq_of_handle ha hb (Option.some.inj (h₁.symm.trans h₂))

/-- At most six timers of the system are set, and fewer if something is not awaited. -/
theorem Tracked.length_le (ht : Tracked served [] c) (hp : c.timers.Coherent)
    {l : List TimerPurpose} (hl : ∀ u, (c.awaited u).isSome = true → u ∈ l) :
    c.systemRequests.length ≤ l.length := by
  have hsub : c.systemRequests.map (·.purpose) ⊆ l.map some := by
    intro o ho
    obtain ⟨r, hr, rfl⟩ := List.mem_map.1 ho
    obtain ⟨hr, u, hu⟩ := mem_systemRequests hp hr
    have h := (ht.sound r.handle u ⟨r, hr, rfl, hu⟩).resolve_right List.not_mem_nil
    exact List.mem_map.2 ⟨u, hl u (by rw [h]; rfl), hu.symm⟩
  have := (List.subperm_of_subset (ht.purposes_nodup hp) hsub).length_le
  rwa [List.length_map, List.length_map] at this

theorem Tracked.systemCount_le (ht : Tracked served [] c) (hp : c.timers.Coherent) :
    c.timers.systemCount ≤ 6 := by
  rw [hp.systemCount_eq]
  exact ht.length_le hp fun u _ => mem_purposes u

theorem Tracked.systemCount_lt (ht : Tracked served [] c) (hp : c.timers.Coherent)
    (hnone : c.awaited purpose = none) : c.timers.systemCount < 6 := by
  rw [hp.systemCount_eq]
  have hl : (purposes.erase purpose).length < 6 := by cases purpose <;> decide
  refine Nat.lt_of_le_of_lt (ht.length_le hp fun u hu => ?_) hl
  refine (List.mem_erase_of_ne ?_).2 (mem_purposes u)
  rintro rfl
  rw [hnone] at hu
  cases hu

/-! ## What nanoapps and ticks do -/

/-- Nanoapps may set timers under new handles and cancel their own. -/
theorem Tracked.others (ht : Tracked served loose c) {q : TimerPool}
    (hsystem : ∀ r, r.purpose.isSome = true → (r ∈ q.requests ↔ r ∈ c.timers.requests))
    (hnew : ∀ r ∈ q.requests, r ∈ c.timers.requests ∨ r.handle.val = c.timers.issued)
    (hissued : c.timers.issued ≤ q.issued) : Tracked served loose { c with timers := q } where
  oneShot r hr hs := ht.oneShot r ((hsystem r hs).1 hr) hs
  sound := by
    rintro x u ⟨r, hr, hh, hu⟩
    exact ht.sound x u ⟨r, (hsystem r (by rw [hu]; rfl)).1 hr, hh, hu⟩
  complete := by
    intro x u hx
    refine (ht.complete x u hx).imp_left ?_
    rintro ⟨r, hr, hh, hu⟩
    exact ⟨r, (hsystem r (by rw [hu]; rfl)).2 hr, hh, hu⟩
  once := ht.once
  spent := by
    intro e he
    obtain ⟨hlt, hne⟩ := ht.spent e he
    refine ⟨Nat.lt_of_lt_of_le hlt hissued, ?_⟩
    intro r hr
    rcases hnew r hr with hr | hv
    · exact hne r hr
    · intro he'
      rw [he'] at hv
      omega
  unawaited := ht.unawaited

/-- The expiry that a fired request of the system is told as. -/
def told? (r : TimerRequest) : Option (TimerHandle × TimerPurpose) :=
  r.purpose.map fun u => (r.handle, u)

theorem told?_eq_some {r : TimerRequest} {e : TimerHandle × TimerPurpose} :
    told? r = some e ↔ r.handle = e.1 ∧ r.purpose = some e.2 := by
  obtain ⟨x, u⟩ := e
  simp only [told?, Option.map_eq_some_iff, Prod.mk.injEq]
  constructor
  · rintro ⟨v, hv, hx, rfl⟩
    exact ⟨hx, hv⟩
  · rintro ⟨hx, hu⟩
    exact ⟨u, hu, hx, rfl⟩

theorem map_fst_told (fired : List TimerRequest) :
    (fired.filterMap told?).map Prod.fst =
      (fired.filter (·.purpose.isSome)).map (·.handle) := by
  induction fired with
  | nil => rfl
  | cons r fired ih =>
    cases hu : r.purpose with
    | none => rw [List.filterMap_cons_none (by rw [told?, hu]; rfl), ih,
        List.filter_cons_of_neg (by simp [hu])]
    | some u => rw [List.filterMap_cons_some (b := (r.handle, u)) (by rw [told?, hu]; rfl),
        List.map_cons, ih, List.filter_cons_of_pos (by simp [hu]), List.map_cons]

section

variable {now : Nat} {fired : List TimerRequest} {q : TimerPool}

theorem Tracked.fired_oneShot (ht : Tracked served loose c) (hs : Serves now c.timers fired q)
    {f : TimerRequest} (hf : f ∈ fired) (hu : f.purpose.isSome = true) : f.oneShot = true := by
  obtain ⟨r, hr, -, hspec, -⟩ := hs.origin f hf
  have ho := ht.oneShot r hr (by rw [hspec]; exact hu)
  rwa [hspec] at ho

/-- A timer of the system that a tick leaves was set before. -/
theorem Tracked.mem_of_left (ht : Tracked served loose c) (hs : Serves now c.timers fired q)
    {a : TimerRequest} (ha : a ∈ q.requests) (hu : a.purpose.isSome = true) :
    a ∈ c.timers.requests := by
  obtain ⟨r, hr, -, hspec⟩ := hs.remains a ha
  have ho := ht.oneShot r hr (by rw [hspec]; exact hu)
  exact hs.mem_of_oneShot ha (by rwa [hspec] at ho)

/-- What a tick tells of was set and due. -/
theorem set_of_mem_told (hs : Serves now c.timers fired q) {e : TimerHandle × TimerPurpose}
    (he : e ∈ fired.filterMap told?) : ∃ r ∈ c.timers.requests,
      r.handle = e.1 ∧ r.purpose = some e.2 ∧ r.expiration ≤ now := by
  obtain ⟨f, hf, he⟩ := List.mem_filterMap.1 he
  obtain ⟨hh, hu⟩ := told?_eq_some.1 he
  obtain ⟨r, hr, hrh, hspec, hd⟩ := hs.origin f hf
  exact ⟨r, hr, hrh.trans hh, by rw [hspec]; exact hu, hd⟩

/-- It tells of no timer twice. -/
theorem Tracked.told_nodup (ht : Tracked served loose c) (hs : Serves now c.timers fired q) :
    ((fired.filterMap told?).map Prod.fst).Nodup := by
  rw [map_fst_told]
  have hf : fired.filter (·.purpose.isSome) =
      (fired.filter (·.oneShot)).filter (·.purpose.isSome) := by
    rw [List.filter_filter]
    refine List.filter_congr fun f hf => ?_
    cases hu : f.purpose.isSome with
    | false => exact (Bool.false_and _).symm
    | true => rw [ht.fired_oneShot hs hf hu, Bool.and_self]
  rw [hf]
  exact hs.nodup_oneShot.sublist ((List.filter_sublist).map _)

/-- What a tick takes from the timers goes into the queue. -/
theorem Tracked.tick (ht : Tracked [] [] c) (hp : c.timers.Coherent)
    (hs : Serves now c.timers fired q) (hrequests : c'.timers.requests = q.requests)
    (hissued : c'.timers.issued = q.issued)
    (hqueued : c'.queued = c.queued ++ fired.filterMap told?)
    (hawaited : ∀ u, c'.awaited u = c.awaited u) (hw : c.timers.wrapped = false) :
    Tracked [] [] c' where
  oneShot := by
    rw [hrequests]
    exact fun r hr hu => ht.oneShot r (ht.mem_of_left hs hr hu) hu
  sound := by
    rintro x u ⟨r, hr, hh, hu⟩
    rw [hawaited]
    exact ht.sound x u ⟨r, ht.mem_of_left hs (hrequests ▸ hr) (by rw [hu]; rfl), hh, hu⟩
  complete := by
    intro x u hx
    rw [hawaited] at hx
    rw [List.nil_append, hqueued, List.mem_append]
    rcases ht.complete x u hx with ⟨r, hr, rfl, hu⟩ | hm
    · by_cases hd : r.expiration ≤ now
      · obtain ⟨f, hf, hh, hspec⟩ := hs.fires hr hd
        refine .inr (.inr (List.mem_filterMap.2 ⟨f, hf, told?_eq_some.2 ⟨hh, ?_⟩⟩))
        rw [hspec]
        exact hu
      · exact .inl ⟨r, hrequests ▸ hs.untouched hr (Nat.not_le.1 hd), rfl, hu⟩
    · exact .inr (.inl hm)
  once := by
    rw [List.nil_append, hqueued, List.map_append]
    refine List.nodup_append.2 ⟨ht.once, ht.told_nodup hs, ?_⟩
    intro x hx y hy hxy
    obtain ⟨e, he, rfl⟩ := List.mem_map.1 hx
    obtain ⟨e', he', rfl⟩ := List.mem_map.1 hy
    obtain ⟨r, hr, hh, -⟩ := set_of_mem_told hs he'
    exact (ht.spent e he).2 r hr (hh.trans hxy.symm)
  spent := by
    intro e he
    rw [List.nil_append, hqueued, List.mem_append] at he
    have hq : q.issued = c.timers.issued := by rw [issued, issued, hs.kept.2.1]
    rw [hissued, hq, hrequests]
    rcases he with he | he
    · refine ⟨(ht.spent e he).1, fun a ha hh => ?_⟩
      obtain ⟨r, hr, hrh, -⟩ := hs.remains a ha
      exact (ht.spent e he).2 r hr (hrh.trans hh)
    · obtain ⟨r, hr, hh, hu, hd⟩ := set_of_mem_told hs he
      rw [← hh]
      exact ⟨hp.below hw r hr, hs.gone hr hd (ht.oneShot r hr (by rw [hu]; rfl))⟩
  unawaited := by simp

end

end

end Hub.Core

end ContextHub
