import ContextHub.Proofs.Hub.Aside
import ContextHub.Proofs.Hub.Tracking
/-!
# Expiries on their way

What fires in a tick is told by a task in the queue (`TimerRequest.notice`): an event for a nanoapp,
work for the hub itself. Events that find no room are lost, and the others keep their order. From
the queue they are taken to be delivered or served, or because their timer is cancelled.
-/

namespace ContextHub

open TimerPool

/-- The task that tells of an expired timer. -/
def TimerRequest.notice (r : TimerRequest) : Task :=
  match r.purpose with
  | some purpose => .deferred (.timerExpired r.handle purpose)
  | none => .event (.toOne EventType.timer (.timer r.handle r.cookie) r.owner)

namespace Hub

variable {A R : Type}

/-! ## Discarding -/

theorem others_filter (p : Event → Bool) (f : Task → Bool) (ts : List Task) :
    (Queue.others p ts).filter f = Queue.others p (ts.filter f) := by
  rw [Queue.others, Queue.others, List.filter_filter, List.filter_filter]
  exact List.filter_congr fun _ _ => Bool.and_comm _ _

theorem discard_tasks (q : Queue) (p : Event → Bool) :
    (q.discard p).2.tasks = Queue.others p q.tasks := List.append_nil _

theorem releaseAll_ends (out : List Event) (h : Hub A R) :
    Ends (out.forM fun e => do
        countDropped
        release e) h
      (fun _ h' => h'.queue = h.queue ∧ h'.core = h.core) (fun _ _ => False) := by
  induction out generalizing h with
  | nil => exact ⟨rfl, rfl⟩
  | cons e out ih => exact ih _

/-- The events in question are taken out, and all else stays in order. -/
theorem discard_ends (p : Event → Bool) (h : Hub A R) :
    Ends (discard p) h
      (fun out h' => out = Queue.matching p h.queue.tasks ∧
        h'.queue.tasks = Queue.others p h.queue.tasks ∧
        h'.core = { h.core with expiries := Queue.others p h.core.expiries })
      (fun _ _ => False) := by
  unfold discard
  rw [ends_bind, ends_get]
  refine ends_bind.2 (ends_set.2 (ends_bind.2 ?_))
  refine (releaseAll_ends _ _).mono (fun _ h' hr => ?_) fun _ _ => id
  obtain ⟨hq, hc⟩ := hr
  have ht : (h.queue.discard p).2.tasks.filter Task.isExpiry =
      Queue.others p (h.queue.tasks.filter Task.isExpiry) := by
    rw [discard_tasks, others_filter]
  refine ⟨rfl, ?_, ?_⟩
  · exact (congrArg Queue.tasks hq).trans (discard_tasks h.queue p)
  · exact hc.trans (congrArg (fun l => { h.core with expiries := l }) ht)

/-! ## Posting -/

variable [Radio R]

/-- Each expiry is told at the end of the queue; only one of a nanoapp may be lost instead. -/
theorem postExpiry_ends (r : TimerRequest) (h : Hub A R) :
    Ends (postExpiry r) h
      (fun _ h' => h'.core = { h.core with expiries := h.core.expiries ++ [r.notice] } ∨
        r.purpose = none ∧ ∃ lost, h'.core = { h.core with timers := { h.timers with lost } })
      (fun e h' => h'.core = h.core ∧ Mild R e) := by
  unfold postExpiry
  split
  · rename_i purpose hu
    have hn : r.notice = .deferred (.timerExpired r.handle purpose) := by
      rw [TimerRequest.notice, hu]
    rw [hn]
    refine ends_bind.2 ((defer_ends _ h).mono (fun b h₁ hb => ?_) fun _ _ => False.elim)
    cases b with
    | true => exact .inl hb
    | false => exact ⟨hb, .defer _⟩
  · rename_i hu
    have hn : r.notice = .event (.toOne EventType.timer (.timer r.handle r.cookie) r.owner) := by
      rw [TimerRequest.notice, hu]
    rw [hn]
    have hpost : Ends (post (.toOne EventType.timer (.timer r.handle r.cookie) r.owner)) h
        (fun b h' => h'.core = if b = true then { h.core with
          expiries := h.core.expiries ++
            [.event (.toOne EventType.timer (.timer r.handle r.cookie) r.owner)] } else h.core)
        (fun e h' => h'.core = h.core ∧ Mild R e) := by
      refine ends_bind.2 ((tryPost_ends _ h).mono (fun b h₁ hb => ?_) fun _ _ => False.elim)
      split at hb
      · exact hb
      · exact hb
    refine ends_bind.2 (hpost.mono (fun b h₁ hb => ?_) fun _ _ he => he)
    cases b with
    | true => exact .inl hb
    | false =>
      refine .inr ⟨hu, h₁.timers.lost + 1, ?_⟩
      have ht : h₁.timers = h.timers := congrArg Core.timers hb
      rw [← ht]
      exact congrArg
        (fun c : Core => { c with timers := { h₁.timers with lost := h₁.timers.lost + 1 } }) hb

/-- What fired is told in order, but for some expiries of nanoapps. -/
theorem postAll_ends (fired : List TimerRequest) (h : Hub A R) :
    Ends (fired.forM postExpiry) h
      (fun _ h' => ∃ (kept : List TimerRequest) (lost : Nat), kept.Sublist fired ∧
        kept.filter (·.purpose.isSome) = fired.filter (·.purpose.isSome) ∧
        h'.core = { h.core with
          timers := { h.timers with lost }
          expiries := h.core.expiries ++ kept.map (·.notice) })
      (fun e h' => Mild R e ∧ h'.core.told = h.core.told) := by
  induction fired generalizing h with
  | nil => exact ⟨[], h.timers.lost, .slnil, rfl, by simp [core]⟩
  | cons r fired ih =>
    refine ends_bind.2 ((postExpiry_ends r h).mono (fun _ h₁ hr => ?_) fun e h₁ he => ?_)
    · rcases hr with hc | ⟨hu, lost₁, hc⟩
      · have ht : h₁.timers = h.timers := congrArg Core.timers hc
        refine (ih h₁).mono (fun _ h₂ h => ?_) fun e h₂ h => ?_
        · obtain ⟨kept, lost, hsub, hsome, hc'⟩ := h
          refine ⟨r :: kept, lost, hsub.cons_cons r, ?_, ?_⟩
          · rw [List.filter_cons, List.filter_cons, hsome]
          · rw [hc', ht, hc, List.map_cons, List.append_assoc]
            rfl
        · exact ⟨h.1, by rw [h.2, hc]⟩
      · have ht : h₁.timers = { h.timers with lost := lost₁ } := congrArg Core.timers hc
        refine (ih h₁).mono (fun _ h₂ h => ?_) fun e h₂ h => ?_
        · obtain ⟨kept, lost, hsub, hsome, hc'⟩ := h
          refine ⟨kept, lost, hsub.cons r, ?_, ?_⟩
          · rw [hsome, List.filter_cons_of_neg (by simp [hu])]
          · rw [hc', ht, hc]
        · exact ⟨h.1, by rw [h.2, hc]⟩
    · exact ⟨he.2, by rw [he.1]⟩

/-- What a tick collects. -/
def dueNow (h : Hub A R) : List TimerRequest :=
  match h.timers.tick? h.now with
  | none => []
  | some (fired, _) => fired

/-- A tick serves what is due and tells of it. -/
theorem tick_ends (h : Hub A R) (hp : h.timers.Coherent) :
    Ends tick h
      (fun _ h' => ∃ (kept : List TimerRequest) (q : TimerPool) (lost : Nat),
        Serves h.now h.timers h.dueNow q ∧ kept.Sublist h.dueNow ∧
        kept.filter (·.purpose.isSome) = h.dueNow.filter (·.purpose.isSome) ∧
        h'.core = { h.core with
          timers := { q.rearm h.now with lost }
          expiries := h.core.expiries ++ kept.map (·.notice) })
      (fun e h' => Mild R e ∧ h'.core.told = h.core.told) := by
  unfold tick
  rw [ends_bind, ends_get]
  split
  · exact ⟨.endless, rfl⟩
  · rename_i fired pool ht
    have hfired : h.dueNow = fired := by
      unfold dueNow
      rw [ht]
    obtain ⟨q, hs, rfl⟩ := tick?_eq_some hp ht
    rw [hfired]
    refine ends_bind.2 (ends_modify.2 (ends_bind.2 ((postAll_ends fired _).mono ?_ ?_)))
    · rintro _ h₁ ⟨kept, lost, hsub, hsome, hc⟩
      exact ⟨kept, q, lost, hs, hsub, hsome, hc⟩
    · rintro e h₁ ⟨he, hc⟩
      exact ⟨he, hc⟩

end Hub

end ContextHub
