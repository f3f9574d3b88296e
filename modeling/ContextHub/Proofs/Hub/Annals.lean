import ContextHub.Proofs.Hub.Expiries
import Mathlib.Data.List.Pairwise
/-!
# What becomes of the timers of nanoapps

The past of a hub, as far as timers of nanoapps go, is a list of `Happening`s, latest last.
`Faithful past` says that every delivery was fired before and every firing was asked for. `Tells
past c` says how the timers that are set and the expiries that are queued come from the past. Each
thing that can happen keeps both.
-/

namespace ContextHub

open TimerPool

/-- What a task tells the nanoapp `id` of: a timer and its cookie. -/
def Task.noticeTo? (id : InstanceId) : Task → Option (TimerHandle × Cookie)
  | .event e =>
    if e.target.isAt id then
      match e.payload with
      | .timer x cookie => some (x, cookie)
      | _ => none
    else none
  | .deferred _ => none

/-- What a firing tells the nanoapp `id` of. -/
def TimerRequest.firingOf? (id : InstanceId) (r : TimerRequest) : Option (TimerHandle × Cookie) :=
  if r.owner = id then some (r.handle, r.cookie) else none

namespace Hub

inductive Happening where
  | set (id : InstanceId) (x : TimerHandle) (cookie : Cookie) (oneShot : Bool)
  | cancelled (id : InstanceId) (x : TimerHandle) (result : Bool)
  /-- Timers of nanoapps expired in a tick. -/
  | fired (requests : List TimerRequest)
  | delivered (id : InstanceId) (x : TimerHandle) (cookie : Cookie)
  /-- Everything that a nanoapp held was reclaimed. -/
  | reclaimed (id : InstanceId)

namespace Happening

def setHandle? : Happening → Option TimerHandle
  | set _ x _ _ => some x
  | _ => none

def firings : Happening → List TimerRequest
  | fired requests => requests
  | _ => []

def deliveryTo? (id : InstanceId) : Happening → Option (TimerHandle × Cookie)
  | delivered i x cookie => if i = id then some (x, cookie) else none
  | _ => none

end Happening

/-! ## Looking back -/

def firings (past : List Happening) : List TimerRequest := past.flatMap Happening.firings

/-- The firings of timers of `id`, in order. -/
def firingsOf (id : InstanceId) (past : List Happening) : List (TimerHandle × Cookie) :=
  (firings past).filterMap (TimerRequest.firingOf? id)

/-- The expiries that were delivered to `id`, in order. -/
def deliveriesTo (id : InstanceId) (past : List Happening) : List (TimerHandle × Cookie) :=
  past.filterMap (Happening.deliveryTo? id)

/-- The expiries that are queued for `id`, in order. -/
def Core.noticesTo (id : InstanceId) (c : Core) : List (TimerHandle × Cookie) :=
  c.notices.filterMap (Task.noticeTo? id)

/-- `id` set the timer `x`, and since then has neither cancelled it nor been unloaded. -/
def Since (past : List Happening) (id : InstanceId) (x : TimerHandle) (cookie : Cookie)
    (oneShot : Bool) : Prop :=
  ∃ before after, past = before ++ .set id x cookie oneShot :: after ∧
    ∀ e ∈ after, e ≠ .reclaimed id ∧ ∀ result, e ≠ .cancelled id x result

/-- Deliveries come from firings, and firings from timers that were set. -/
structure Faithful (past : List Happening) : Prop where
  matched : ∀ before after, past = before ++ after →
    ∀ id, (deliveriesTo id before).Sublist (firingsOf id before)
  caused : ∀ before id x cookie after, past = before ++ .delivered id x cookie :: after →
    ∃ oneShot, Since before id x cookie oneShot
  asked : ∀ before requests after, past = before ++ .fired requests :: after →
    ∀ f ∈ requests, Since before f.owner f.handle f.cookie f.oneShot
  /-- No handle is given twice. -/
  once : (past.filterMap Happening.setHandle?).Nodup
  /-- No timer for one expiry fires twice. -/
  single : (((firings past).filter (·.oneShot)).map (·.handle)).Nodup

/-- What is set and what is queued in `c` comes from the past. -/
structure Tells (past : List Happening) (c : Core) : Prop where
  issued : ∀ id x cookie oneShot, .set id x cookie oneShot ∈ past → x.val < c.timers.issued
  held : ∀ r ∈ c.nanoappRequests, Since past r.owner r.handle r.cookie r.oneShot
  /-- A timer for one expiry that is set has not fired. -/
  unspent : ∀ r ∈ c.nanoappRequests, r.oneShot = true → ∀ f ∈ firings past, f.handle ≠ r.handle
  pending : ∀ id x cookie, (x, cookie) ∈ c.noticesTo id → ∃ oneShot, Since past id x cookie oneShot
  queued : ∀ id, (deliveriesTo id past ++ c.noticesTo id).Sublist (firingsOf id past)

section

variable {past : List Happening} {id : InstanceId} {x : TimerHandle} {cookie : Cookie}
  {oneShot : Bool} {e : Happening} {c c' : Core}

theorem Since.mem (h : Since past id x cookie oneShot) : .set id x cookie oneShot ∈ past := by
  obtain ⟨before, after, rfl, -⟩ := h
  exact List.mem_append_right _ List.mem_cons_self

theorem Since.snoc (h : Since past id x cookie oneShot) (hr : e ≠ .reclaimed id)
    (hc : ∀ result, e ≠ .cancelled id x result) : Since (past ++ [e]) id x cookie oneShot := by
  obtain ⟨before, after, rfl, hno⟩ := h
  refine ⟨before, after ++ [e], by rw [List.append_assoc, List.cons_append], fun e' he => ?_⟩
  rcases List.mem_append.1 he with he | he
  · exact hno e' he
  · rw [List.mem_singleton.1 he]
    exact ⟨hr, hc⟩

theorem since_set (past : List Happening) (id : InstanceId) (x : TimerHandle) (cookie : Cookie)
    (oneShot : Bool) : Since (past ++ [.set id x cookie oneShot]) id x cookie oneShot :=
  ⟨past, [], rfl, by simp⟩

/-- What was set and not cancelled since was set after it was cancelled. -/
theorem Since.after_cancel {after : List Happening} {result : Bool}
    (h : Since (past ++ .cancelled id x result :: after) id x cookie oneShot) :
    Since after id x cookie oneShot := by
  obtain ⟨before, later, hsplit, hno⟩ := h
  rcases List.append_eq_append_iff.1 hsplit with ⟨middle, -, hm⟩ | ⟨middle, -, hm⟩
  · cases middle with
    | nil => cases hm
    | cons e middle => exact ⟨middle, later, (List.cons.inj hm).2, hno⟩
  · cases middle with
    | nil => cases hm
    | cons e middle =>
      have hmem : .cancelled id x result ∈ later := by
        rw [(List.cons.inj hm).2]
        exact List.mem_append_right _ List.mem_cons_self
      exact absurd rfl ((hno _ hmem).2 result)

theorem firings_snoc (past : List Happening) (e : Happening) :
    firings (past ++ [e]) = firings past ++ e.firings := by
  rw [firings, List.flatMap_append, List.flatMap_singleton, ← firings]

theorem firingsOf_snoc (id : InstanceId) (past : List Happening) (e : Happening) :
    firingsOf id (past ++ [e]) =
      firingsOf id past ++ e.firings.filterMap (TimerRequest.firingOf? id) := by
  rw [firingsOf, firings_snoc, List.filterMap_append, ← firingsOf]

theorem deliveriesTo_snoc (id : InstanceId) (past : List Happening) (e : Happening) :
    deliveriesTo id (past ++ [e]) = deliveriesTo id past ++ (e.deliveryTo? id).toList := by
  rw [deliveriesTo, List.filterMap_append, ← deliveriesTo]
  cases h : e.deliveryTo? id <;> simp [h]

theorem faithful_nil : Faithful [] := by
  refine ⟨?_, ?_, ?_, .nil, .nil⟩
  · intro before after hsplit id
    rw [(List.append_eq_nil_iff.1 hsplit.symm).1]
    exact .slnil
  · intro before id x cookie after hsplit
    simp at hsplit
  · intro before requests after hsplit
    simp at hsplit

/-- What fired was set before. -/
theorem Faithful.set_of_firing (h : Faithful past) {f : TimerRequest} (hf : f ∈ firings past) :
    .set f.owner f.handle f.cookie f.oneShot ∈ past := by
  obtain ⟨e, he, hm⟩ := List.mem_flatMap.1 hf
  cases e with
  | fired requests =>
    obtain ⟨before, after, rfl⟩ := List.append_of_mem he
    exact List.mem_append_left _ (h.asked before requests after rfl f hm).mem
  | _ => cases hm

theorem Faithful.eq_of_set (h : Faithful past) {i : InstanceId} {k : Cookie} {o : Bool}
    (he : .set id x cookie oneShot ∈ past) (he' : .set i x k o ∈ past) :
    i = id ∧ k = cookie ∧ o = oneShot := by
  have hsymm : Std.Symm fun e e' : Happening => ∀ y, e.setHandle? = some y →
      ∀ y', e'.setHandle? = some y' → y ≠ y' :=
    ⟨fun _ _ hne y hy y' hy' => (hne y' hy' y hy).symm⟩
  by_contra hne
  have hne : Happening.set id x cookie oneShot ≠ .set i x k o := by
    intro e
    cases e
    exact hne ⟨rfl, rfl, rfl⟩
  exact (List.pairwise_filterMap.1 h.once).forall he he' hne x rfl x rfl rfl

/-- A timer for one expiry is delivered at most once. -/
theorem Faithful.count_oneShot_le (h : Faithful past) (he : .set id x cookie true ∈ past) :
    ((deliveriesTo id past).map (·.1)).count x ≤ 1 := by
  have hsub := (h.matched past [] (List.append_nil past).symm id).map (·.1)
  have honce := List.nodup_iff_count_le_one.1 h.single x
  refine Nat.le_trans (Nat.le_trans (hsub.count_le x) ?_) honce
  have hmap : (firingsOf id past).map (·.1) =
      ((firings past).filter (·.owner = id)).map (·.handle) := by
    rw [firingsOf, List.map_filterMap, ← List.filterMap_eq_map, List.filterMap_filter]
    refine List.filterMap_congr fun f _ => ?_
    by_cases ho : f.owner = id
    · simp [TimerRequest.firingOf?, ho]
    · simp [TimerRequest.firingOf?, ho]
  rw [hmap, List.count_eq_countP, List.count_eq_countP, List.countP_map, List.countP_map,
    List.countP_filter, List.countP_filter]
  refine List.countP_mono_left fun f hf hfx => ?_
  rw [Bool.and_eq_true] at hfx ⊢
  have hx : f.handle = x := eq_of_beq hfx.1
  exact ⟨hfx.1, (h.eq_of_set he (hx ▸ h.set_of_firing hf)).2.2⟩

/-- One more thing happens. -/
theorem Faithful.snoc (h : Faithful past) (ht : Tells (past ++ [e]) c')
    (hcaused : ∀ id x cookie, e = .delivered id x cookie →
      ∃ oneShot, Since past id x cookie oneShot)
    (hasked : ∀ f ∈ e.firings, Since past f.owner f.handle f.cookie f.oneShot)
    (honce : ∀ x, e.setHandle? = some x → x ∉ past.filterMap Happening.setHandle?)
    (hsingle : (((firings (past ++ [e])).filter (·.oneShot)).map (·.handle)).Nodup) :
    Faithful (past ++ [e]) where
  matched := by
    intro before after hsplit id
    rcases List.eq_nil_or_concat after with rfl | ⟨rest, y, rfl⟩
    · rw [List.append_nil] at hsplit
      exact hsplit ▸ (List.sublist_append_left _ _).trans (ht.queued id)
    · rw [List.concat_eq_append, ← List.append_assoc] at hsplit
      exact h.matched before rest (List.append_inj' hsplit rfl).1 id
  caused := by
    intro before id x cookie after hsplit
    rcases snoc_eq_split hsplit with ⟨-, rfl, he⟩ | ⟨rest, -, hrest⟩
    · exact hcaused id x cookie he
    · exact h.caused before id x cookie rest hrest
  asked := by
    intro before requests after hsplit f hf
    rcases snoc_eq_split hsplit with ⟨-, rfl, rfl⟩ | ⟨rest, -, hrest⟩
    · exact hasked f hf
    · exact h.asked before requests rest hrest f hf
  once := by
    rw [List.filterMap_append, List.nodup_append]
    refine ⟨h.once, ?_, ?_⟩
    · cases he : e.setHandle? <;> simp [he]
    · intro a ha b hb
      obtain ⟨e', he', hb⟩ := List.mem_filterMap.1 hb
      rw [List.mem_singleton.1 he'] at hb
      rintro rfl
      exact honce a hb ha
  single := hsingle

/-- What is neither set, nor fired, nor delivered leaves the past faithful. -/
theorem Faithful.idle (h : Faithful past) (ht : Tells (past ++ [e]) c') (hset : e.setHandle? = none)
    (hfired : e.firings = []) (hdelivered : ∀ id, e.deliveryTo? id = none) :
    Faithful (past ++ [e]) := by
  refine h.snoc ht ?_ ?_ ?_ ?_
  · rintro i x k rfl
    have := hdelivered i
    simp [Happening.deliveryTo?] at this
  · rw [hfired]
    simp
  · rw [hset]
    simp
  · rw [firings_snoc, hfired, List.append_nil]
    exact h.single

/-! ## What leaves the timers of nanoapps alone -/

theorem Tells.aside (ht : Tells past c) (ha : c.Aside c') (hl : c'.timers.HandlesLeft) :
    Tells past c' where
  issued id x cookie oneShot hm :=
    Nat.lt_of_lt_of_le (ht.issued id x cookie oneShot hm) (ha.handles hl).2
  held := by rw [ha.requests]; exact ht.held
  unspent := by rw [ha.requests]; exact ht.unspent
  pending id := by rw [Core.noticesTo, ha.notices]; exact ht.pending id
  queued id := by rw [Core.noticesTo, ha.notices]; exact ht.queued id

/-- An expiry is taken from the queue and delivered to nobody. -/
theorem Tells.drop (ht : Tells past c) {t : Task} (htimers : c'.timers = c.timers)
    (hexpiries : c.expiries = t :: c'.expiries) : Tells past c' := by
  have hsub (id : InstanceId) : (c'.noticesTo id).Sublist (c.noticesTo id) := by
    rw [Core.noticesTo, Core.noticesTo, Core.notices, Core.notices, hexpiries]
    exact ((List.sublist_cons_self t _).filter _).filterMap _
  have hrequests : c'.nanoappRequests = c.nanoappRequests := by
    rw [Core.nanoappRequests, htimers, Core.nanoappRequests]
  refine ⟨?_, ?_, ?_, ?_, ?_⟩
  · rw [htimers]
    exact ht.issued
  · rw [hrequests]
    exact ht.held
  · rw [hrequests]
    exact ht.unspent
  · exact fun id x cookie hm => ht.pending id x cookie ((hsub id).subset hm)
  · exact fun id => ((hsub id).append_left _).trans (ht.queued id)

/-! ## Setting and cancelling -/

/-- A nanoapp sets a timer, under a handle that nobody had before. -/
theorem Tells.set (ht : Tells past c) (h : Faithful past) {now : Nat} {s : TimerSpec}
    {q : TimerPool} (ha : c.timers.Admits now s x q) (hval : x.val = c.timers.issued)
    (hissued : q.issued = c.timers.issued + 1) (hc : c' = { c with timers := q }) :
    Tells (past ++ [.set s.owner x s.cookie s.oneShot]) c' := by
  subst hc
  have hfirings : firings (past ++ [.set s.owner x s.cookie s.oneShot]) = firings past := by
    rw [firings_snoc]
    exact List.append_nil _
  have hrequests : ∀ r ∈ ({ c with timers := q } : Core).nanoappRequests,
      r = c.timers.newRequest now s x ∨ r ∈ c.nanoappRequests := by
    intro r hr
    obtain ⟨hr, ho⟩ := List.mem_filter.1 hr
    exact (ha.mem.1 hr).imp_right fun hr => List.mem_filter.2 ⟨hr, ho⟩
  refine ⟨?_, ?_, ?_, ?_, ?_⟩
  · intro i y k o hm
    simp only [hissued]
    rcases List.mem_append.1 hm with hm | hm
    · exact Nat.lt_succ_of_lt (ht.issued i y k o hm)
    · cases List.mem_singleton.1 hm
      omega
  · intro r hr
    rcases hrequests r hr with rfl | hr
    · exact since_set _ _ _ _ _
    · exact (ht.held r hr).snoc (by simp) (by simp)
  · intro r hr ho f hf
    rw [hfirings] at hf
    rcases hrequests r hr with rfl | hr
    · intro e
      have hlt := ht.issued _ _ _ _ (h.set_of_firing hf)
      rw [e, show (c.timers.newRequest now s x).handle = x from rfl] at hlt
      omega
    · exact ht.unspent r hr ho f hf
  · intro i y k hm
    obtain ⟨o, ho⟩ := ht.pending i y k hm
    exact ⟨o, ho.snoc (by simp) (by simp)⟩
  · intro i
    rw [deliveriesTo_snoc, firingsOf, hfirings]
    exact (List.append_nil _).symm ▸ ht.queued i

theorem Faithful.set (h : Faithful past) (ht : Tells past c) (hval : x.val = c.timers.issued)
    (ht' : Tells (past ++ [.set id x cookie oneShot]) c') :
    Faithful (past ++ [.set id x cookie oneShot]) := by
  refine h.snoc ht' (by simp) (by simp [Happening.firings]) ?_ ?_
  · rintro y hy hm
    obtain ⟨e, he, hy'⟩ := List.mem_filterMap.1 hm
    cases e with
    | set i z k o =>
      have h₁ := ht.issued i z k o he
      obtain rfl : z = y := Option.some.inj hy'
      obtain rfl : x = z := Option.some.inj hy
      omega
    | _ => cases hy'
  · rw [firings_snoc]
    exact (List.append_nil (firings past)).symm ▸ h.single

/-- Timers go that were cancelled, and expiries with them. -/
theorem Tells.fewer (ht : Tells past c) (hset : e.setHandle? = none) (hfired : e.firings = [])
    (hdelivered : ∀ i, e.deliveryTo? i = none) (hissued : c.timers.issued ≤ c'.timers.issued)
    (hrequests : ∀ r ∈ c'.nanoappRequests, r ∈ c.nanoappRequests ∧ e ≠ .reclaimed r.owner ∧
      ∀ result, e ≠ .cancelled r.owner r.handle result)
    (hsub : ∀ i, (c'.noticesTo i).Sublist (c.noticesTo i))
    (hnotices : ∀ i y k, (y, k) ∈ c'.noticesTo i →
      e ≠ .reclaimed i ∧ ∀ result, e ≠ .cancelled i y result) : Tells (past ++ [e]) c' where
  issued i y k o hm := by
    rcases List.mem_append.1 hm with hm | hm
    · exact Nat.lt_of_lt_of_le (ht.issued i y k o hm) hissued
    · rw [← List.mem_singleton.1 hm] at hset
      cases hset
  held r hr :=
    have ⟨hr, hne, hne'⟩ := hrequests r hr
    (ht.held r hr).snoc hne hne'
  unspent r hr ho f hf := by
    rw [firings_snoc, hfired, List.append_nil] at hf
    exact ht.unspent r (hrequests r hr).1 ho f hf
  pending i y k hm := by
    obtain ⟨o, ho⟩ := ht.pending i y k ((hsub i).subset hm)
    obtain ⟨hne, hne'⟩ := hnotices i y k hm
    exact ⟨o, ho.snoc hne hne'⟩
  queued i := by
    rw [deliveriesTo_snoc, hdelivered, Option.toList_none, List.append_nil, firingsOf, firings_snoc,
      hfired, List.append_nil]
    exact ((hsub i).append_left _).trans (ht.queued i)

theorem mem_noticesTo {y : TimerHandle} : (y, cookie) ∈ c.noticesTo id ↔
    ∃ e : Event, .event e ∈ c.expiries ∧ e.target = .nanoapp id ∧ e.payload = .timer y cookie := by
  unfold Core.noticesTo Core.notices
  rw [List.mem_filterMap]
  constructor
  · rintro ⟨t, hm, ht⟩
    cases t with
    | event e =>
      by_cases htarget : e.target = .nanoapp id
      · simp only [Task.noticeTo?, Target.isAt, htarget, beq_self_eq_true, ↓reduceIte] at ht
        cases hpayload : e.payload with
        | timer z k =>
          rw [hpayload] at ht
          cases ht
          exact ⟨e, (List.mem_filter.1 hm).1, htarget, hpayload⟩
        | _ =>
          rw [hpayload] at ht
          cases ht
      · simp [Task.noticeTo?, Target.isAt, htarget] at ht
    | deferred => cases ht
  · rintro ⟨e, hm, htarget, hpayload⟩
    refine ⟨.event e, List.mem_filter.2 ⟨hm, rfl⟩, ?_⟩
    simp [Task.noticeTo?, Target.isAt, htarget, hpayload]

/-- A nanoapp cancels a timer together with its expiries. -/
theorem Tells.cancel (ht : Tells past c) {q : TimerPool}
    (hs : Sheds c.timers (fun r => r.handle == x && r.owner == id) q) (result : Bool)
    (htype : ∀ e, .event e ∈ c.expiries → e.type = EventType.timer)
    (hc : c' = { c with timers := q, expiries := Queue.others (·.isExpiryOf x id) c.expiries }) :
    Tells (past ++ [.cancelled id x result]) c' := by
  subst hc
  have hissued := Nat.le_of_eq hs.kept.issued.symm
  refine ht.fewer rfl rfl (fun _ => rfl) hissued (fun r hr => ?_) (fun i => ?_) fun i y k hm => ?_
  · obtain ⟨hr, ho⟩ := List.mem_filter.1 hr
    obtain ⟨hr, hout⟩ := hs.mem.1 hr
    refine ⟨List.mem_filter.2 ⟨hr, ho⟩, by simp, fun b e => ?_⟩
    cases e
    simp at hout
  · exact ((List.filter_sublist).filter _).filterMap _
  · refine ⟨by simp, fun b e => ?_⟩
    cases e
    obtain ⟨e, hm, htarget, hpayload⟩ := mem_noticesTo.1 hm
    obtain ⟨hm, hno⟩ := List.mem_filter.1 hm
    simp [Event.isExpiryOf, htype e hm, htarget, hpayload, Target.isAt] at hno

/-- Everything that a nanoapp holds is reclaimed. -/
theorem Tells.reclaim (ht : Tells past c) (hissued : c.timers.issued ≤ c'.timers.issued)
    (hrequests : c'.nanoappRequests = c.nanoappRequests.filter (·.owner != id))
    (hnotices : c'.notices = Queue.others (·.target.isAt id) c.notices) :
    Tells (past ++ [.reclaimed id]) c' := by
  have hsub (i : InstanceId) : (c'.noticesTo i).Sublist (c.noticesTo i) := by
    rw [Core.noticesTo, hnotices]
    exact (List.filter_sublist).filterMap _
  refine ht.fewer rfl rfl (fun _ => rfl) hissued (fun r hr => ?_) hsub fun i y k hm => ?_
  · rw [hrequests] at hr
    obtain ⟨hr, ho⟩ := List.mem_filter.1 hr
    refine ⟨hr, fun e => ?_, by simp⟩
    cases e
    simp at ho
  · refine ⟨fun e => ?_, by simp⟩
    cases e
    obtain ⟨t, hm, ht'⟩ := List.mem_filterMap.1 hm
    rw [hnotices] at hm
    obtain ⟨-, hno⟩ := List.mem_filter.1 hm
    cases t with
    | event e =>
      rw [Bool.not_eq_true'] at hno
      simp [Task.noticeTo?, hno] at ht'
    | deferred => cases ht'

/-! ## Firing and delivering -/

/-- The timers of nanoapps among those that fired. -/
def ofNanoapps (fired : List TimerRequest) : List TimerRequest :=
  fired.filter (!·.owner.isSystem)

theorem noticeTo?_notice {r : TimerRequest} (ho : r.owner.isSystem = r.purpose.isSome) :
    (if r.notice.isEvent then r.notice.noticeTo? id else none) =
      if !r.owner.isSystem then r.firingOf? id else none := by
  rw [ho]
  cases hu : r.purpose with
  | some u => simp [TimerRequest.notice, hu, Task.isEvent]
  | none =>
    simp [TimerRequest.notice, hu, Task.isEvent, Task.noticeTo?, TimerRequest.firingOf?,
      Event.toOne, Target.isAt]

/-- What a tick queues for a nanoapp comes behind what is queued already. -/
theorem noticesTo_tick {kept : List TimerRequest}
    (howned : ∀ r ∈ kept, r.owner.isSystem = r.purpose.isSome)
    (hexpiries : c'.expiries = c.expiries ++ kept.map (·.notice)) (id : InstanceId) :
    c'.noticesTo id =
      c.noticesTo id ++ (ofNanoapps kept).filterMap (TimerRequest.firingOf? id) := by
  rw [Core.noticesTo, Core.noticesTo, Core.notices, Core.notices, hexpiries, List.filter_append,
    List.filterMap_append]
  congr 1
  rw [ofNanoapps, List.filterMap_filter, List.filterMap_filter, List.filterMap_map]
  exact List.filterMap_congr fun r hr => noticeTo?_notice (howned r hr)

section

variable {now lost : Nat} {q : TimerPool} {fired kept : List TimerRequest}

theorem nanoapp_origin (hs : Serves now c.timers fired q) : ∀ f ∈ ofNanoapps fired,
    ∃ r ∈ c.nanoappRequests, r.handle = f.handle ∧ r.toTimerSpec = f.toTimerSpec ∧
      r.expiration ≤ now := by
  intro f hf
  obtain ⟨hf, ho⟩ := List.mem_filter.1 hf
  obtain ⟨r, hr, hh, hspec, hd⟩ := hs.origin f hf
  exact ⟨r, List.mem_filter.2 ⟨hr, by rwa [hspec]⟩, hh, hspec, hd⟩

theorem nanoapp_remains (hs : Serves now c.timers fired q)
    (htimers : c'.timers = { q.rearm now with lost }) : ∀ a ∈ c'.nanoappRequests,
    ∃ r ∈ c.nanoappRequests, r.handle = a.handle ∧ r.toTimerSpec = a.toTimerSpec := by
  intro a ha
  obtain ⟨ha, ho⟩ := List.mem_filter.1 ha
  rw [htimers] at ha
  obtain ⟨r, hr, hh, hspec⟩ := hs.remains a ha
  exact ⟨r, List.mem_filter.2 ⟨hr, by rwa [hspec]⟩, hh, hspec⟩

/-- What fires was set, and has been neither cancelled nor reclaimed. -/
theorem Tells.asked (ht : Tells past c) (hs : Serves now c.timers fired q) :
    ∀ f ∈ ofNanoapps fired, Since past f.owner f.handle f.cookie f.oneShot := by
  intro f hf
  obtain ⟨r, hr, hh, hspec, -⟩ := nanoapp_origin hs f hf
  have := ht.held r hr
  rwa [hh, hspec] at this

/-- A timer without a purpose has a nanoapp for its owner. -/
theorem owned_of_fired (hp : c.timers.Coherent) (hs : Serves now c.timers fired q)
    (hsub : kept.Sublist fired) : ∀ r ∈ kept, r.owner.isSystem = r.purpose.isSome := by
  intro f hf
  obtain ⟨r, hr, -, hspec, -⟩ := hs.origin f (hsub.subset hf)
  have := hp.owned r hr
  rwa [hspec] at this

theorem Tells.tick_queued (ht : Tells past c) (hp : c.timers.Coherent)
    (hs : Serves now c.timers fired q) (hsub : kept.Sublist fired)
    (hexpiries : c'.expiries = c.expiries ++ kept.map (·.notice)) (id : InstanceId) :
    (deliveriesTo id (past ++ [.fired (ofNanoapps fired)]) ++ c'.noticesTo id).Sublist
      (firingsOf id (past ++ [.fired (ofNanoapps fired)])) := by
  rw [noticesTo_tick (owned_of_fired hp hs hsub) hexpiries, firingsOf_snoc, deliveriesTo_snoc,
    ← List.append_assoc]
  exact List.Sublist.append ((List.append_nil (deliveriesTo id past)).symm ▸ ht.queued id)
    ((hsub.filter _).filterMap _)

/-- A tick collects what is due and queues what finds room. -/
theorem Tells.tick (ht : Tells past c) (hp : c.timers.Coherent)
    (hs : Serves now c.timers fired q) (hsub : kept.Sublist fired)
    (htimers : c'.timers = { q.rearm now with lost })
    (hexpiries : c'.expiries = c.expiries ++ kept.map (·.notice)) :
    Tells (past ++ [.fired (ofNanoapps fired)]) c' where
  issued i y k o hm := by
    rcases List.mem_append.1 hm with hm | hm
    · have := ht.issued i y k o hm
      rw [htimers]
      rwa [TimerPool.issued, ← hs.kept.2.1] at this
    · cases List.mem_singleton.1 hm
  held a ha := by
    obtain ⟨r, hr, hh, hspec⟩ := nanoapp_remains hs htimers a ha
    have := ht.held r hr
    rw [hh, hspec] at this
    exact this.snoc (by simp) (by simp)
  unspent a ha ho f hf := by
    obtain ⟨r, hr, hh, hspec⟩ := nanoapp_remains hs htimers a ha
    rw [firings_snoc, List.mem_append] at hf
    rcases hf with hf | hf
    · rw [← hh]
      exact ht.unspent r hr (by rwa [hspec]) f hf
    · obtain ⟨r', hr', hh', -, hd⟩ := nanoapp_origin hs f hf
      intro e
      obtain rfl := hp.eq_of_handle (List.mem_filter.1 hr').1 (List.mem_filter.1 hr).1
        (hh'.trans (e.trans hh.symm))
      have ha' := (List.mem_filter.1 ha).1
      rw [htimers] at ha'
      exact hs.gone (List.mem_filter.1 hr').1 hd (by rwa [hspec]) a ha' hh.symm
  pending i y k hm := by
    rw [noticesTo_tick (owned_of_fired hp hs hsub) hexpiries, List.mem_append] at hm
    rcases hm with hm | hm
    · obtain ⟨o, ho⟩ := ht.pending i y k hm
      exact ⟨o, ho.snoc (by simp) (by simp)⟩
    · obtain ⟨r, hr, he⟩ := List.mem_filterMap.1 hm
      have hfired := (hsub.filter _).subset hr
      unfold TimerRequest.firingOf? at he
      split at he
      · rename_i ho
        cases he
        exact ⟨r.oneShot, ho ▸ (ht.asked hs r hfired).snoc (by simp) (by simp)⟩
      · cases he
  queued := ht.tick_queued hp hs hsub hexpiries

theorem Faithful.tick (h : Faithful past) (ht : Tells past c) (hs : Serves now c.timers fired q)
    (ht' : Tells (past ++ [.fired (ofNanoapps fired)]) c') :
    Faithful (past ++ [.fired (ofNanoapps fired)]) := by
  refine h.snoc ht' (by simp) (ht.asked hs) (by simp [Happening.setHandle?]) ?_
  rw [firings_snoc, List.filter_append, List.map_append, List.nodup_append]
  refine ⟨h.single, ?_, ?_⟩
  · exact hs.nodup_oneShot.sublist (((List.filter_sublist).filter _).map _)
  · intro x hx y hy e
    obtain ⟨f, hf, rfl⟩ := List.mem_map.1 hx
    obtain ⟨f', hf', rfl⟩ := List.mem_map.1 hy
    obtain ⟨hf', ho⟩ := List.mem_filter.1 hf'
    obtain ⟨r, hr, hh, hspec, -⟩ := nanoapp_origin hs f' hf'
    exact ht.unspent r hr (by rwa [hspec]) f (List.mem_filter.1 hf).1 (e.trans hh.symm)

end

/-- The first expiry in the queue is delivered. -/
theorem noticesTo_deliver
    (hexpiries : c.expiries = .event (.toOne EventType.timer (.timer x cookie) id) :: c'.expiries)
    (i : InstanceId) :
    c.noticesTo i = (if id = i then [(x, cookie)] else []) ++ c'.noticesTo i := by
  have hnotice : Task.noticeTo? i (.event (.toOne EventType.timer (.timer x cookie) id)) =
      if id = i then some (x, cookie) else none := by
    simp [Task.noticeTo?, Event.toOne, Target.isAt]
  rw [Core.noticesTo, Core.noticesTo, Core.notices, Core.notices, hexpiries,
    List.filter_cons_of_pos rfl, List.filterMap_cons, hnotice]
  by_cases e : id = i
  · rw [if_pos e, if_pos e, List.singleton_append]
  · rw [if_neg e, if_neg e, List.nil_append]

theorem Tells.deliver_queued (ht : Tells past c)
    (hexpiries : c.expiries = .event (.toOne EventType.timer (.timer x cookie) id) :: c'.expiries)
    (i : InstanceId) :
    (deliveriesTo i (past ++ [.delivered id x cookie]) ++ c'.noticesTo i).Sublist
      (firingsOf i (past ++ [.delivered id x cookie])) := by
  have hq := ht.queued i
  rw [noticesTo_deliver hexpiries, ← List.append_assoc] at hq
  rw [deliveriesTo_snoc, firingsOf_snoc]
  simp only [Happening.deliveryTo?, Happening.firings, List.filterMap_nil, List.append_nil]
  split at hq
  · rename_i e
    rwa [if_pos e]
  · rename_i e
    rwa [if_neg e]

theorem Tells.deliver (ht : Tells past c) (htimers : c'.timers = c.timers)
    (hexpiries : c.expiries =
      .event (.toOne EventType.timer (.timer x cookie) id) :: c'.expiries) :
    Tells (past ++ [.delivered id x cookie]) c' := by
  have hrequests : c'.nanoappRequests = c.nanoappRequests := by
    rw [Core.nanoappRequests, htimers, Core.nanoappRequests]
  have hdrop := ht.drop htimers hexpiries
  refine ⟨?_, ?_, ?_, ?_, ht.deliver_queued hexpiries⟩
  · intro i y k o hm
    rcases List.mem_append.1 hm with hm | hm
    · exact hdrop.issued i y k o hm
    · cases List.mem_singleton.1 hm
  · exact fun r hr => (hdrop.held r hr).snoc (by simp) (by simp)
  · intro r hr ho f hf
    rw [firings_snoc] at hf
    exact hdrop.unspent r hr ho f ((List.append_nil (firings past)) ▸ hf)
  · intro i y k hm
    obtain ⟨o, ho⟩ := hdrop.pending i y k hm
    exact ⟨o, ho.snoc (by simp) (by simp)⟩

theorem Faithful.deliver (h : Faithful past) (ht : Tells past c)
    (hm : (x, cookie) ∈ c.noticesTo id) (ht' : Tells (past ++ [.delivered id x cookie]) c') :
    Faithful (past ++ [.delivered id x cookie]) := by
  refine h.snoc ht' ?_ (by simp [Happening.firings]) (by simp [Happening.setHandle?]) ?_
  · intro i y k e
    cases e
    exact ht.pending id x cookie hm
  · rw [firings_snoc]
    exact (List.append_nil (firings past)).symm ▸ h.single

end

end Hub

end ContextHub
