import ContextHub.Proofs.Hub.BoundedQueue
import ContextHub.Proofs.Hub.Permissions
import ContextHub.Proofs.Hub.Procession
/-!
# What becomes of a queued result

A result waits in the queue behind others. Moves tell where it is: it comes forward as those ahead
of it are taken or discarded, it is discarded with the nanoapp that it is for, and once it is taken
there are those who have been told (`Stage`). On a procession this account is right
(`Procession.located`), whoever is a recipient when the result is taken is told exactly once
(`Takes.stage`), and a result that waits behind other results only can be taken
(`Procession.takes`).
-/

namespace ContextHub

/-- Where a result is that was queued. -/
inductive Stage where
  /-- It waits behind these. -/
  | queued (ahead : List Event)
  | discarded
  /-- It was taken, and these were told; `current` until something else is taken. -/
  | taken (told : List InstanceId) (current : Bool)

namespace Stage

/-- Where `e` is after a move. -/
def next (e : Event) : Stage → Move → Stage
  | queued ahead, .taken x =>
    if x.type.isResult then
      match ahead with
      | [] => taken [] true
      | _ :: ahead => queued ahead
    else queued ahead
  | queued ahead, .left id =>
    if e.target.isAt id then discarded else queued (ahead.filter (!·.target.isAt id))
  | taken told current, .delivered d => taken (if current then told ++ [d.id] else told) current
  | taken told _, .taken _ => taken told false
  | s, _ => s

/-- Where `e` is after moves, if it waited behind `ahead` before. -/
def after (e : Event) (ahead : List Event) (ms : List Move) : Stage :=
  ms.foldl (next e) (queued ahead)

/-- Who got the result. -/
def told : Stage → List InstanceId
  | taken told _ => told
  | _ => []

def isQueued : Stage → Bool
  | queued _ => true
  | _ => false

theorem after_append (e : Event) (ahead : List Event) (ms ms' : List Move) :
    after e ahead (ms ++ ms') = ms'.foldl (next e) (after e ahead ms) := List.foldl_append

end Stage

/-- What a move does to the results that are queued. -/
theorem Front.Step.queued {F F' : Front} {o o' : Option Dispatch} {m : Move}
    (hs : F.Step o m F' o') (ht : ∀ x, m ≠ .taken x) (hl : ∀ id, m ≠ .left id) :
    ∃ new, F'.queued = F.queued ++ new := by
  cases hs with
  | worked => exact ⟨_, rfl⟩
  | left => exact absurd rfl (hl _)
  | taken => exact absurd rfl (ht _)
  | _ => exact ⟨[], (List.append_nil _).symm⟩

theorem Front.Step.queued_left {F F' : Front} {o o' : Option Dispatch} {id : InstanceId}
    (hs : F.Step o (.left id) F' o') : F'.queued = F.queued.filter (!·.target.isAt id) := by
  cases hs with
  | worked hm => cases hm
  | left hl =>
    obtain ⟨-, hasked⟩ := hl.forgotten
    rw [Front.after_asked _ hasked]
    rfl

namespace Hub

variable {A R : Type} [Radio R]

/-- On the procession from `h₀` by `ms` to `h` the result `e`, which was queued behind `ahead`, is
taken at `t`. -/
def Takes (h₀ : Hub A R) (e : Event) (ahead : List Event) (ms : List Move) (t h : Hub A R)
    (o : Option Dispatch) : Prop :=
  ∃ before after q, ms = before ++ .taken e :: after ∧ Procession h₀ none before t none ∧
    Stage.after e ahead before = .queued [] ∧ t.queue.next? = some (.event e, q) ∧
    Procession { t with queue := q } (some ⟨e, t.registry.recipients e⟩) after h o

/-- What the stage of a result says of the hub. -/
def Located (h₀ : Hub A R) (e : Event) (ahead : List Event) (ms : List Move) (h : Hub A R)
    (o : Option Dispatch) : Stage → Prop
  | .queued ahead' => ∃ rest, h.front.queued = ahead' ++ e :: rest
  | .discarded => ∃ id, e.target = .nanoapp id ∧ .left id ∈ ms
  | .taken _ _ => ∃ t, Takes h₀ e ahead ms t h o

section

variable {h₀ t h h' : Hub A R} {e : Event} {ahead rest : List Event} {ms : List Move} {m : Move}
  {o o' : Option Dispatch}

theorem Takes.extend {ms' : List Move} (ht : Takes h₀ e ahead ms t h o)
    (hp : Procession h o ms' h' o') : Takes h₀ e ahead (ms ++ ms') t h' o' := by
  obtain ⟨before, after, q, rfl, hbefore, hstage, hq, hafter⟩ := ht
  exact ⟨before, after ++ ms', q, by simp, hbefore, hstage, hq, hafter.append hp⟩

theorem Takes.procession (ht : Takes h₀ e ahead ms t h o) : Procession h₀ none ms h o := by
  obtain ⟨before, after, q, rfl, hbefore, -, hq, hafter⟩ := ht
  exact hbefore.append ((Procession.start.taken hq).append hafter)

/-- A move on the way, other than taking. -/
theorem Located.step {s : Stage} {u u' : Option Dispatch} (hs : Located h₀ e ahead ms h o s)
    (hp : Procession h o [m] h' o') (hm : h.front.Step u m h'.front u') (ht : ∀ x, m ≠ .taken x) :
    Located h₀ e ahead (ms ++ [m]) h' o' (s.next e m) := by
  cases s with
  | queued ahead' =>
    obtain ⟨rest, hq⟩ := hs
    by_cases hl : ∃ id, m = .left id
    · obtain ⟨id, rfl⟩ := hl
      have hleft := hm.queued_left
      rw [hq, List.filter_append] at hleft
      simp only [Stage.next]
      split
      · rename_i hat
        exact ⟨id, beq_iff_eq.1 hat, by simp⟩
      · rename_i hat
        exact ⟨_, by rw [hleft, List.filter_cons_of_pos (by simpa using hat)]⟩
    · have hl : ∀ id, m ≠ .left id := fun id he => hl ⟨id, he⟩
      obtain ⟨new, hnew⟩ := hm.queued ht hl
      have hsame : Stage.next e (.queued ahead') m = .queued ahead' := by
        cases m with
        | taken x => exact absurd rfl (ht x)
        | left id => exact absurd rfl (hl id)
        | _ => rfl
      rw [hsame]
      exact ⟨rest ++ new, by rw [hnew, hq, List.append_assoc, List.cons_append]⟩
  | discarded =>
    obtain ⟨id, he, hl⟩ := hs
    exact ⟨id, he, List.mem_append_left _ hl⟩
  | taken told current =>
    obtain ⟨t, htakes⟩ := hs
    cases m <;> exact ⟨t, htakes.extend hp⟩

/-- Something is taken from the queue. -/
theorem Located.taken {s : Stage} {x : Event} {q : Queue} (hr : Procession h₀ none ms h none)
    (hstage : s = Stage.after e ahead ms) (hs : Located h₀ e ahead ms h none s)
    (hq : h.queue.next? = some (.event x, q)) :
    Located h₀ e ahead (ms ++ [.taken x]) { h with queue := q }
      (some ⟨x, h.registry.recipients x⟩) (s.next e (.taken x)) := by
  have hp : Procession h none [.taken x] { h with queue := q }
    (some ⟨x, h.registry.recipients x⟩) := Procession.start.taken hq
  cases s with
  | queued ahead' =>
    obtain ⟨rest, hqueued⟩ := hs
    have hfront : h.front.queued = (Task.result? (.event x)).toList ++
        (front { h with queue := q }).queued := by
      rw [front, next?_tasks hq, List.filterMap_cons]
      cases Task.result? (.event x) <;> rfl
    rw [hqueued, Task.result?] at hfront
    simp only [Stage.next]
    split
    · rename_i hx
      rw [if_pos hx] at hfront
      cases ahead' with
      | nil =>
        obtain ⟨rfl, -⟩ := List.cons.inj hfront
        exact ⟨h, ms, [], q, rfl, hr, hstage.symm, hq, .start⟩
      | cons y ahead' => exact ⟨rest, (List.cons.inj hfront).2.symm⟩
    · rename_i hx
      rw [if_neg hx] at hfront
      exact ⟨rest, hfront.symm⟩
  | discarded =>
    obtain ⟨id, he, hl⟩ := hs
    exact ⟨id, he, List.mem_append_left _ hl⟩
  | taken told current =>
    obtain ⟨t, ht⟩ := hs
    exact ⟨t, ht.extend hp⟩

/-- The account of where a result is is right. -/
theorem Procession.located (hq : h₀.front.queued = ahead ++ e :: rest)
    (hp : Procession h₀ none ms h o) :
    Located h₀ e ahead ms h o (Stage.after e ahead ms) := by
  induction hp with
  | start => exact ⟨rest, hq⟩
  | inner _ hm hi ih =>
    rw [Stage.after_append]
    exact ih.step (.inner .start hm hi) hm.front fun x hx => by
      rw [hx] at hi
      cases hi
  | between _ hm ih =>
    rw [Stage.after_append]
    exact ih.step (.between .start hm) hm.front fun x hx => by
      subst hx
      cases hm
  | taken hp hq ih =>
    rw [Stage.after_append]
    exact ih.taken hp rfl hq
  | @delivered ms h₁ x id ids hp watched time ih =>
    rw [Stage.after_append]
    have hm := Moves.deliver (h := h₁) (D := ⟨x, id :: ids⟩) List.mem_cons_self watched time
    exact ih.step (.delivered .start watched time) hm.front fun _ hx => by cases hx
  | @ended ms h₁ _ hp ih =>
    generalize Stage.after e ahead ms = s at ih
    cases s with
    | taken told current =>
      obtain ⟨t, ht⟩ := ih
      exact ⟨t, List.append_nil ms ▸ ht.extend (.ended .start)⟩
    | _ => exact ih

/-- While an event is current, those who are told are those who were to be told. -/
theorem Procession.serves {ids : List InstanceId} (hp : Procession h₀ (some ⟨e, ids⟩) ms h o)
    (told₀ : List InstanceId) :
    ∃ told current, ms.foldl (Stage.next e) (.taken told₀ true) = .taken told current ∧
      ((∃ rest, o = some ⟨e, rest⟩ ∧ current = true ∧ told ++ rest = told₀ ++ ids) ∨
        told = told₀ ++ ids ∧ (current = true → o = none)) := by
  induction hp with
  | start => exact ⟨told₀, true, rfl, .inl ⟨ids, rfl, rfl, rfl⟩⟩
  | @inner ms m _ _ _ _ _ hi ih =>
    obtain ⟨told, current, hs, ih⟩ := ih
    refine ⟨told, current, ?_, ih⟩
    rw [List.foldl_append, hs]
    cases m <;> first | rfl | cases hi
  | between _ hm ih =>
    obtain ⟨told, current, hs, ih⟩ := ih
    refine ⟨told, current, ?_, ih⟩
    rw [List.foldl_append, hs]
    cases hm <;> rfl
  | taken _ _ ih =>
    obtain ⟨told, current, hs, ih⟩ := ih
    refine ⟨told, false, ?_, .inr ⟨?_, fun hc => by cases hc⟩⟩
    · rw [List.foldl_append, hs]
      rfl
    · rcases ih with ⟨_, ho, -⟩ | ⟨htold, -⟩
      · cases ho
      · exact htold
  | @delivered ms _ x id rest _ _ _ ih =>
    obtain ⟨told, current, hs, ih⟩ := ih
    rcases ih with ⟨_, ho, rfl, hrest⟩ | ⟨htold, hc⟩
    · cases ho
      refine ⟨told ++ [id], true, ?_, .inl ⟨rest, rfl, rfl, ?_⟩⟩
      · rw [List.foldl_append, hs]
        rfl
      · rw [List.append_assoc, List.singleton_append, hrest]
    · cases current with
      | true => cases hc rfl
      | false =>
        refine ⟨told, false, ?_, .inr ⟨htold, fun hc => by cases hc⟩⟩
        rw [List.foldl_append, hs]
        rfl
  | ended _ ih =>
    obtain ⟨told, current, hs, ih⟩ := ih
    refine ⟨told, current, hs, .inr ⟨?_, fun _ => rfl⟩⟩
    rcases ih with ⟨_, ho, -, hrest⟩ | ⟨htold, -⟩
    · cases ho
      rwa [List.append_nil] at hrest
    · exact htold

/-- The recipients of a result that is taken are told, once each. -/
theorem Takes.stage (hresult : e.type.isResult = true) (ht : Takes h₀ e ahead ms t h none) :
    ∃ current, Stage.after e ahead ms = .taken (t.registry.recipients e) current := by
  obtain ⟨before, after, q, rfl, -, hstage, -, hafter⟩ := ht
  obtain ⟨told, current, hs, ho⟩ := hafter.serves []
  have htaken : Stage.next e (.queued []) (.taken e) = .taken [] true := if_pos hresult
  rw [Stage.after_append, hstage, List.foldl_cons, htaken, hs]
  rcases ho with ⟨_, ho, -⟩ | ⟨rfl, -⟩
  · cases ho
  · exact ⟨current, rfl⟩

/-- A result that is queued no more was taken, unless the nanoapp that it was for has left. -/
theorem Procession.settled (hq : h₀.front.queued = ahead ++ e :: rest)
    (hp : Procession h₀ none ms h none) (hs : (Stage.after e ahead ms).isQueued = false) :
    (∃ t, Takes h₀ e ahead ms t h none) ∨
      (Stage.after e ahead ms).told = [] ∧ ∃ id, e.target = .nanoapp id ∧ .left id ∈ ms := by
  have hl := hp.located hq
  generalize Stage.after e ahead ms = s at hs hl ⊢
  cases s with
  | queued => cases hs
  | discarded => exact .inr ⟨rfl, hl⟩
  | taken told current => exact .inl hl

/-! ## What can be dispatched -/

omit [Radio R] in
theorem next?_of_tasks {q : Queue} {x : Task} {ts : List Task} (ht : q.tasks = x :: ts) :
    ∃ q', q.next? = some (x, q') ∧ q'.tasks = ts := by
  have hn := q.next?_refines
  rw [ht] at hn
  obtain ⟨⟨y, q'⟩, hnext, he⟩ := Option.map_eq_some_iff.1 hn
  cases he
  exact ⟨q', hnext, rfl⟩

/-- The moves by which an event goes to some nanoapps. -/
def tour (e : Event) (ids : List InstanceId) : List Move :=
  ids.map fun id => .delivered ⟨id, e.sender, e.type, e.payload⟩

theorem Procession.completes (h : Hub A R) (e : Event) (ids : List InstanceId) :
    ∃ h', Procession h (some ⟨e, ids⟩) (tour e ids) h' none ∧ h'.queue = h.queue ∧
      h'.wifi = h.wifi := by
  induction ids generalizing h with
  | nil => exact ⟨h, .ended .start, rfl, rfl⟩
  | cons id ids ih =>
    obtain ⟨h', hp, hq, hw⟩ := ih { h with
      journal := .delivered false ⟨id, e.sender, e.type, e.payload⟩ h.now :: h.journal }
    exact ⟨h', (Procession.start.delivered false h.now).append hp, hq, hw⟩

omit [Radio R] in
theorem foldl_tour (e x : Event) (ids : List InstanceId) :
    (tour x ids).foldl (Stage.next e) (.queued ahead) = .queued ahead := by
  induction ids with
  | nil => rfl
  | cons id ids ih => exact ih

/-- A result that waits only behind other results can be taken after these. -/
theorem Procession.takes {waiting : List Event} {ts : List Task} (hp : Procession h₀ none ms h none)
    (hs : Stage.after e ahead ms = .queued waiting) (hw : ∀ x ∈ waiting, x.type.isResult = true)
    (ht : h.queue.tasks = waiting.map .event ++ .event e :: ts) :
    ∃ ms' t h', Takes h₀ e ahead (ms ++ ms') t h' none ∧ t.wifi = h.wifi ∧
      ∀ m ∈ ms', (∃ x, m = .taken x) ∨ ∃ d, m = .delivered d := by
  have htour (x : Event) (ids : List InstanceId) :
      ∀ m ∈ tour x ids, (∃ x, m = .taken x) ∨ ∃ d, m = .delivered d := fun m hm => by
    obtain ⟨id, -, rfl⟩ := List.mem_map.1 hm
    exact .inr ⟨_, rfl⟩
  induction waiting generalizing h ms with
  | nil =>
    obtain ⟨q, hn, -⟩ := next?_of_tasks ht
    obtain ⟨h', hp', -⟩ := completes { h with queue := q } e (h.registry.recipients e)
    refine ⟨.taken e :: _, h, h', ⟨ms, _, q, rfl, hp, hs, hn, hp'⟩, rfl, ?_⟩
    exact List.forall_mem_cons.2 ⟨.inl ⟨e, rfl⟩, htour _ _⟩
  | cons x waiting ih =>
    obtain ⟨q, hn, hq⟩ := next?_of_tasks ht
    obtain ⟨h₁, hp₁, hq₁, hw₁⟩ := completes { h with queue := q } x (h.registry.recipients x)
    have hturn : Procession h none (.taken x :: tour x (h.registry.recipients x)) h₁ none :=
      (Procession.start.taken hn).append hp₁
    rw [List.forall_mem_cons] at hw
    have hstage : Stage.after e ahead (ms ++ (.taken x :: tour x (h.registry.recipients x))) =
        .queued waiting := by
      have hnext : Stage.next e (.queued (x :: waiting)) (.taken x) = .queued waiting := if_pos hw.1
      rw [Stage.after_append, hs, List.foldl_cons, hnext, foldl_tour]
    obtain ⟨ms', t, h', ht', hw', hms'⟩ := ih (hp.append hturn) hstage hw.2 (hq₁ ▸ hq)
    refine ⟨_, t, h', List.append_assoc _ _ _ ▸ ht', hw'.trans hw₁, ?_⟩
    rw [List.forall_mem_append, List.forall_mem_cons]
    exact ⟨⟨.inl ⟨x, rfl⟩, htour _ _⟩, hms'⟩

end

end Hub

end ContextHub
