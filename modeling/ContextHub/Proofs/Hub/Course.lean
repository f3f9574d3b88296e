import ContextHub.Proofs.Hub.DeskWork
import ContextHub.Proofs.Hub.Hosting
/-!
# The course of a hub

`Moves h o m h' o'` is a step of a hub as its front sees it: a nanoapp makes a call, a radio's
report or an expired timer of the system is served, nanoapps come and go, and an event is taken from
the queue and delivered. From there on it is a `Dispatch`, whose recipients stay fixed. A `Course`
is a sequence of moves. Whatever a host does is one, up to where it halts.
-/

namespace ContextHub

/-- An event that is being dispatched, and for whom. -/
structure Dispatch where
  event : Event
  recipients : List InstanceId

def Dispatch.deliveryTo (D : Dispatch) (id : InstanceId) : Delivery :=
  ⟨id, D.event.sender, D.event.type, D.event.payload⟩

/-- The front without a nanoapp and what was queued for it. -/
def Front.without (F : Front) (id : InstanceId) : Front :=
  { F with
    crew := F.crew.filter (·.id != id)
    queued := F.queued.filter (!·.target.isAt id) }

/-- Whether the hub works at its desks. -/
def Move.isWork : Move → Bool
  | called _ _ => true
  | reported _ => true
  | expired _ _ => true
  | _ => false

def Move.delivery? : Move → Option Delivery
  | delivered d => some d
  | _ => none

namespace Front

/-- Whom an event is for. -/
def recipients (F : Front) (e : Event) : List InstanceId :=
  match e.target with
  | .nanoapp id => if F.crew.any (·.id == id) then [id] else []
  | .broadcast => (F.crew.filter (·.subscriptions.contains e.type)).map (·.id)

/-- What moves do to the front. -/
inductive Step : Front → Option Dispatch → Move → Front → Option Dispatch → Prop
  | worked {F : Front} {o : Option Dispatch} {m : Move} {d : Desks} {fx : List Effect}
      (hm : m.isWork = true) (hr : Desks.DeskRule m F.desks fx d)
      (hp : ∀ id c p, m = .called id c → c.permission? = some p →
        fx = [] ∧ d = F.desks ∨ F.holds id p) :
      Step F o m (({ F with desks := d }).after fx) o
  | left {F : Front} {o : Option Dispatch} {id : InstanceId} {d : Desks} {fx : List Effect}
      (hl : F.desks.Leaves id fx d) :
      Step F o (.left id) ((({ F with desks := d }).after fx).without id) none
  | joined {F : Front} {o : Option Dispatch} {id : InstanceId} {permissions : Permissions}
      {crew : List Member} (hfresh : ∀ m ∈ F.crew, m.id ≠ id)
      (hcrew : ∀ m, m ∈ crew ↔ m = ⟨id, permissions, []⟩ ∨ m ∈ F.crew) :
      Step F o (.joined id permissions) { F with crew } none
  | taken {F : Front} {o : Option Dispatch} {e : Event} {queued : List Event}
      (hq : F.queued = (Task.result? (.event e)).toList ++ queued) :
      Step F o (.taken e) { F with queued } (some ⟨e, F.recipients e⟩)
  | delivered {F : Front} {D : Dispatch} {id : InstanceId} (hid : id ∈ D.recipients)
      (watched : Bool) (time : Nat) :
      Step F (some D) (.delivered (D.deliveryTo id))
        { F with notes := .delivered watched (D.deliveryTo id) time :: F.notes } (some D)
  | other {F : Front} {o : Option Dispatch} : Step F o .other F o

theorem Step.deliveries {F F' : Front} {o o' : Option Dispatch} {m : Move} (hs : F.Step o m F' o') :
    F'.notes.filterMap Entry.delivery? =
      m.delivery?.toList ++ F.notes.filterMap Entry.delivery? := by
  cases hs with
  | worked hm =>
    rw [after_deliveries]
    cases m <;> first | rfl | cases hm
  | left => exact after_deliveries _ _
  | _ => rfl

end Front

namespace Hub

open Desks

variable {A R α β : Type} [Radio R]

/-! ## Unloading -/

/-- More work of a hub that has changed already. -/
theorem Changed.andThen {h h₁ : Hub A R} {d : Desks} {fx : List Effect} (hc : h.Changed d fx h₁)
    {m : HubM A R α} {f : α → HubM A R β} {P : α → Desks → List Effect → Prop}
    {Q : β → Hub A R → Prop} (hm : Yields m h₁ P)
    (hf : ∀ a d' fx' h₂, P a d' fx' → h.Changed d' (fx ++ fx') h₂ → Ends (f a) h₂ Q h.Quits) :
    Ends (m >>= f) h₁ Q h.Quits := by
  refine ends_bind.2 (Ends.mono hm ?_ fun e h₂ he => ⟨he.1.trans hc.deliveries, he.2⟩)
  rintro a h₂ ⟨d', fx', hP, hc'⟩
  exact hf a d' fx' h₂ hP (hc.trans hc')

theorem Changed.still {h h₁ : Hub A R} {d : Desks} {fx : List Effect} (hc : h.Changed d fx h₁)
    {m : HubM A R α} {f : α → HubM A R β} {Q : β → Hub A R → Prop} (hm : Obeys still m)
    (hf : ∀ a h₂, h.Changed d fx h₂ → Ends (f a) h₂ Q h.Quits) :
    Ends (m >>= f) h₁ Q h.Quits := by
  refine hc.andThen (.of_still hm) fun a d' fx' h₂ hP hc' => hf a h₂ ?_
  obtain ⟨rfl, rfl⟩ := hP
  rwa [hc.desks, List.append_nil] at hc'

theorem purge_front (id : InstanceId) (timers : Nat) (h : Hub A R) :
    Ends (purge id timers) h (fun _ h' => h'.front = h.front.without id) h.Quits := by
  refine ends_bind.2 ((discard_front _ h).mono (fun _ h₁ hf => ?_) fun _ _ he => he)
  have hd (h' : Hub A R) (hf' : h'.front = h₁.front) : h'.deliveries = h.deliveries := by
    rw [deliveries_eq, deliveries_eq, hf', hf]
  refine ends_bind.2 ((countMetric_still _ h₁).mono (fun _ h₂ hf₂ => ?_) fun e h₂ he => ?_)
  · refine ends_bind.2 (ends_modify.2 ?_)
    refine (emit_still _ _ _ _).mono (fun _ h₃ hf₃ => ?_) fun e h₃ he => ?_
    · have hcrew : (h₂.registry.remove id).apps.map Nanoapp.member =
          h₂.front.crew.filter (·.id != id) := by
        simp only [Registry.remove, front, List.filter_map]
        rfl
      refine Eq.trans hf₃ ?_
      refine Eq.trans (congrArg (fun l => { h₂.front with crew := l }) hcrew) ?_
      rw [show h₂.front = h₁.front from hf₂, hf]
      rfl
    · exact ⟨he.1.trans (hd h₂ hf₂), he.2⟩
  · exact ⟨he.1.trans (hd h₁ rfl), he.2⟩

theorem forgetGnss_yields (id : InstanceId) (h : Hub A R) :
    Yields (forgetGnss id) h fun _ d fx => ∃ d₁ fx₁ fx₂, fx = fx₁ ++ fx₂ ∧
      SessionRealigned .location (h.desks.forgetSession .location id) fx₁ d₁ ∧
      SessionRealigned .measurement (d₁.forgetSession .measurement id) fx₂ d := by
  refine .bind (forgetSession_yields .location id h) fun _ d₁ fx₁ h₁ hl hd₁ => ?_
  refine (forgetSession_yields .measurement id h₁).mono fun _ d fx₂ hm => ?_
  exact ⟨d₁, fx₁, fx₂, rfl, hl, hd₁ ▸ hm⟩

/-- A nanoapp gives up its part at the desks, and then it is gone. -/
theorem releaseResources_front (id : InstanceId) (h : Hub A R) :
    Ends (releaseResources id) h (fun _ h' => ∃ d fx, h.desks.Leaves id fx d ∧
      h'.front = (({ h.front with desks := d }).after fx).without id) h.Quits := by
  refine (Changed.of_front rfl).still (cancelTimersOf_still id) fun timers h₁ hc₁ => ?_
  have hrest (h₂ : Hub A R) (hc₂ : h.Changed h.desks [] h₂) : Ends (do
      updateHeapGauge
      forgetWifi id
      forgetWwan id
      forgetGnss id
      purge id timers) h₂ (fun _ h' => ∃ d fx, h.desks.Leaves id fx d ∧
        h'.front = (({ h.front with desks := d }).after fx).without id) h.Quits := by
    refine hc₂.still updateHeapGauge_still fun _ h₃ hc₃ => ?_
    refine hc₃.andThen (forgetWifi_yields id h₃) fun _ d₁ fx₁ h₄ hw hc₄ => ?_
    refine hc₄.andThen (forgetWwan_yields id h₄) fun _ d₂ fx₂ h₅ hcell hc₅ => ?_
    refine hc₅.andThen (forgetGnss_yields id h₅) fun _ d fx h₆ hgnss hc₆ => ?_
    rw [hc₃.desks] at hw
    obtain ⟨rfl, rfl⟩ := hcell
    rw [hc₅.desks, hc₄.desks] at hgnss
    obtain ⟨d₂, fx₂, fx₃, rfl, hl, hm⟩ := hgnss
    refine (purge_front id timers h₆).mono (fun _ h' hf => ⟨d, _, .intro hw hl hm, ?_⟩) ?_
    · rw [hf, hc₆, List.nil_append, List.append_nil]
    · exact fun e h' he => ⟨he.1.trans hc₆.deliveries, he.2⟩
  rw [ends_bind, ends_get]
  refine ends_bind.2 (ends_set.2 ?_)
  have hheap (heap : Heap) : h.Changed h.desks [] { h₁ with heap } := hc₁
  split
  · exact (hheap _).still (emit_still _ _ _) fun _ => hrest
  · exact hrest _ (hheap _)

/-! ## Moves -/

/-- The steps of a hub. What its front does not see may happen at any time. -/
inductive Moves : Hub A R → Option Dispatch → Move → Hub A R → Option Dispatch → Prop
  | call {h h' : Hub A R} {o : Option Dispatch} {id : InstanceId} {c : Call} {reply : c.Reply}
      (hr : perform id c h = .ok reply h') : Moves h o (.called id c) h' o
  | report {h h' : Hub A R} {o : Option Dispatch} {r : Report}
      (hr : handleReport r h = .ok () h') : Moves h o (.reported r) h' o
  | expiry {h h' : Hub A R} {o : Option Dispatch} {x : TimerHandle} {u : TimerPurpose}
      (hr : handleSystemTimer x u h = .ok () h') : Moves h o (.expired x u) h' o
  | leave {h h' : Hub A R} {o : Option Dispatch} {id : InstanceId}
      (hr : releaseResources id h = .ok () h') : Moves h o (.left id) h' none
  | join {h : Hub A R} {o : Option Dispatch} {app : AppId} {permissions : Permissions}
      {behaviour : A} {id : InstanceId} {registry : Registry A}
      (hr : h.registry.register app permissions behaviour = .ok (id, registry)) :
      Moves h o (.joined id permissions) { h with registry } none
  | take {h : Hub A R} {o : Option Dispatch} {e : Event} {q : Queue}
      (hq : h.queue.next? = some (.event e, q)) :
      Moves h o (.taken e) { h with queue := q } (some ⟨e, h.registry.recipients e⟩)
  | deliver {h : Hub A R} {D : Dispatch} {id : InstanceId} (hid : id ∈ D.recipients)
      (watched : Bool) (time : Nat) : Moves h (some D) (.delivered (D.deliveryTo id))
        { h with journal := .delivered watched (D.deliveryTo id) time :: h.journal } (some D)
  | other {h h' : Hub A R} {o : Option Dispatch} (hf : h'.front = h.front) : Moves h o .other h' o

omit [Radio R] in
theorem mem_place {n x : Nanoapp A} {l : List (Nanoapp A)} :
    x ∈ Registry.place n l ↔ x = n ∨ x ∈ l := by
  induction l with
  | nil => simp [Registry.place]
  | cons y l ih =>
    simp only [Registry.place]
    split
    · exact List.mem_cons
    · rw [List.mem_cons, ih, List.mem_cons]
      exact or_left_comm

omit [Radio R] in
theorem contains_of_freeId? {r : Registry A} {n tries next : Nat} {id : InstanceId}
    (h : r.freeId? n tries = some (id, next)) : r.contains id = false := by
  induction tries generalizing n with
  | zero => cases h
  | succ tries ih =>
    simp only [Registry.freeId?] at h
    split at h
    · exact ih h
    · obtain ⟨rfl, -⟩ := Prod.mk.inj (Option.some.inj h)
      exact Bool.eq_false_iff.2 ‹_›

omit [Radio R] in
theorem contains_eq_any (h : Hub A R) (id : InstanceId) :
    h.registry.contains id = h.front.crew.any (·.id == id) := by
  rw [Registry.contains, Registry.find?, List.isSome_find?, front, List.any_map]
  rfl

omit [Radio R] in
theorem recipients_eq (h : Hub A R) (e : Event) :
    h.registry.recipients e = h.front.recipients e := by
  unfold Registry.recipients Front.recipients
  cases e.target with
  | nanoapp id => simp only [contains_eq_any]
  | broadcast =>
    simp only [front, List.filter_map, List.map_map]
    rfl

omit [Radio R] in
/-- Who joins was not there before. -/
theorem register_step {h : Hub A R} {o : Option Dispatch} {app : AppId} {permissions : Permissions}
    {behaviour : A} {id : InstanceId} {registry : Registry A}
    (hr : h.registry.register app permissions behaviour = .ok (id, registry)) :
    h.front.Step o (.joined id permissions) (front { h with registry }) none := by
  unfold Registry.register at hr
  split at hr
  · cases hr
  · split at hr
    · cases hr
    · rename_i id' next hfree
      obtain ⟨rfl, rfl⟩ := Prod.mk.inj (Except.ok.inj hr)
      have hnone := contains_of_freeId? hfree
      rw [contains_eq_any, List.any_eq_false] at hnone
      refine Front.Step.joined (F := h.front) (fun m hm he => hnone m hm (beq_iff_eq.2 he)) ?_
      intro m
      simp only [List.mem_map, mem_place, or_and_right, exists_or, exists_eq_left]
      exact or_congr eq_comm List.mem_map.symm

theorem Moves.front {h h' : Hub A R} {o o' : Option Dispatch} {m : Move} (hm : Moves h o m h' o') :
    h.front.Step o m h'.front o' := by
  cases hm with
  | call hr =>
    obtain ⟨d, fx, ⟨hrule, -, hp⟩, hc⟩ := (perform_yields _ _ h).ok hr
    rw [hc]
    refine .worked rfl hrule fun id c p hm hc => ?_
    cases hm
    exact hp p hc
  | report hr =>
    obtain ⟨d, fx, hrule, hc⟩ := (handleReport_yields _ h).ok hr
    rw [hc]
    exact .worked rfl hrule fun _ _ _ hm => by cases hm
  | expiry hr =>
    obtain ⟨d, fx, hrule, hc⟩ := (handleSystemTimer_yields _ _ h).ok hr
    rw [hc]
    exact .worked rfl hrule fun _ _ _ hm => by cases hm
  | leave hr =>
    obtain ⟨d, fx, hl, hf⟩ := (releaseResources_front _ h).ok hr
    rw [hf]
    exact .left hl
  | join hr => exact register_step hr
  | take hq =>
    rw [recipients_eq]
    refine Front.Step.taken (F := h.front) ?_
    rw [Hub.front, next?_tasks hq, List.filterMap_cons]
    cases Task.result? _ <;> rfl
  | deliver hid => exact .delivered hid _ _
  | other hf =>
    rw [hf]
    exact .other

/-- Moves lead from `h` to a hub, and `P` holds of each of them. -/
inductive Course (P : Hub A R → Move → Hub A R → Prop) (h : Hub A R) (o : Option Dispatch) :
    List Move → Hub A R → Option Dispatch → Prop
  | stay : Course P h o [] h o
  | snoc {ms : List Move} {m : Move} {h₁ h₂ : Hub A R} {o₁ o₂ : Option Dispatch}
      (hc : Course P h o ms h₁ o₁) (hm : Moves h₁ o₁ m h₂ o₂) (hP : P h₁ m h₂) :
      Course P h o (ms ++ [m]) h₂ o₂

/-- Nothing is asked of the moves. -/
def Free (_ : Hub A R) (_ : Move) (_ : Hub A R) : Prop := True

namespace Course

variable {P : Hub A R → Move → Hub A R → Prop} {h h₁ h₂ : Hub A R} {o o₁ o₂ : Option Dispatch}
  {ms ms' : List Move}

theorem append (hc : Course P h o ms h₁ o₁) (hc' : Course P h₁ o₁ ms' h₂ o₂) :
    Course P h o (ms ++ ms') h₂ o₂ := by
  induction hc' with
  | stay => rwa [List.append_nil]
  | snoc _ hm hP ih =>
    rw [← List.append_assoc]
    exact ih.snoc hm hP

theorem of_move {m : Move} (hm : Moves h o m h₁ o₁) : Course Free h o [m] h₁ o₁ :=
  stay.snoc hm trivial

theorem split {before after : List Move} {m : Move} (hc : Course P h o ms h₂ o₂)
    (hs : ms = before ++ m :: after) : ∃ h₁ h₁' o₁ o₁', Course P h o before h₁ o₁ ∧
      Moves h₁ o₁ m h₁' o₁' ∧ P h₁ m h₁' ∧ Course P h₁' o₁' after h₂ o₂ := by
  induction hc generalizing after with
  | stay => cases before <;> cases hs
  | snoc hc hm hP ih =>
    rcases List.eq_nil_or_concat after with rfl | ⟨rest, x, rfl⟩
    · obtain ⟨rfl, hx⟩ := List.append_inj' hs rfl
      cases hx
      exact ⟨_, _, _, _, hc, hm, hP, .stay⟩
    · rw [List.concat_eq_append, ← List.cons_append, ← List.append_assoc] at hs
      obtain ⟨rfl, hx⟩ := List.append_inj' hs rfl
      cases hx
      obtain ⟨g, g', u, u', hbefore, hm', hP', hafter⟩ := ih rfl
      exact ⟨g, g', u, u', hbefore, hm', hP', List.concat_eq_append ▸ hafter.snoc hm hP⟩

/-- What was delivered on the way, latest first. -/
theorem deliveries (hc : Course P h o ms h₁ o₁) :
    h₁.deliveries = (ms.filterMap Move.delivery?).reverse ++ h.deliveries := by
  induction hc with
  | stay => rfl
  | @snoc ms m _ _ _ _ _ hm _ ih =>
    rw [deliveries_eq, hm.front.deliveries, ← deliveries_eq, ih, List.filterMap_append,
      List.reverse_append, List.append_assoc]
    cases hd : m.delivery? <;> simp [hd]

end Course

/-! ## Laws of courses -/

/-- What is related is so, and a halt comes with nothing delivered in between. -/
def quitting (rel : Hub A R → Hub A R → Prop) (hrefl : ∀ h, rel h h)
    (htrans : ∀ {h h₁ h₂}, rel h h₁ → rel h₁ h₂ → rel h h₂) : Law A R where
  rel := rel
  halts h e h' := ∃ h₁, rel h h₁ ∧ h₁.Quits e h'
  refl := hrefl
  trans := htrans
  halts_of_rel hr hq := have ⟨h₁, hr', hq⟩ := hq; ⟨h₁, htrans hr hr', hq⟩

/-- Moves that leave a dispatch as it is, whichever it is. -/
def keeping : Law A R :=
  quitting (fun h h' => ∀ o, ∃ ms, Course Free h o ms h' o) (fun _ _ => ⟨[], .stay⟩)
    fun hr hr' o =>
      have ⟨ms, hc⟩ := hr o
      have ⟨ms', hc'⟩ := hr' o
      ⟨ms ++ ms', hc.append hc'⟩

/-- Moves that leave the dispatch `D` as it is. -/
def dispatching (D : Dispatch) : Law A R :=
  quitting (fun h h' => ∃ ms, Course Free h (some D) ms h' (some D)) (fun _ => ⟨[], .stay⟩)
    fun hr hr' =>
      have ⟨ms, hc⟩ := hr
      have ⟨ms', hc'⟩ := hr'
      ⟨ms ++ ms', hc.append hc'⟩

/-- Any moves. -/
def coursing : Law A R :=
  quitting (fun h h' => ∀ o, ∃ ms o', Course Free h o ms h' o') (fun _ o => ⟨[], o, .stay⟩)
    fun hr hr' o =>
      have ⟨ms, o₁, hc⟩ := hr o
      have ⟨ms', o₂, hc'⟩ := hr' o₁
      ⟨ms ++ ms', o₂, hc.append hc'⟩

theorem keeping_dispatching (D : Dispatch) : (keeping : Law A R).Within (dispatching D) where
  rel hr := hr (some D)
  halts hq := have ⟨h₁, hr, hq⟩ := hq; ⟨h₁, hr (some D), hq⟩

theorem keeping_coursing : (keeping : Law A R).Within coursing where
  rel hr o := have ⟨ms, hc⟩ := hr o; ⟨ms, o, hc⟩
  halts hq := have ⟨h₁, hr, hq⟩ := hq; ⟨h₁, fun o => have ⟨ms, hc⟩ := hr o; ⟨ms, o, hc⟩, hq⟩

theorem still_keeping : (still : Law A R).Within keeping where
  rel hf _ := ⟨_, .of_move (.other hf)⟩
  halts {h _ _} hq := ⟨h, fun _ => ⟨[], .stay⟩, hq⟩

theorem still_coursing : (still : Law A R).Within coursing where
  rel hf := keeping_coursing.rel (still_keeping.rel hf)
  halts hq := keeping_coursing.halts (still_keeping.halts hq)

/-- A step that is a move. -/
theorem keeping_of_move {m : HubM A R α} {move : Move}
    {P : α → Hub A R → Desks → List Effect → Prop}
    (hm : ∀ h, Yields m h fun a d fx => P a h d fx)
    (hmove : ∀ h a h' o, m h = .ok a h' → Moves h o move h' o) : Obeys keeping m := by
  intro h
  have hm := hm h
  unfold Yields Ends at *
  split
  · exact fun o => ⟨_, .of_move (hmove h _ _ o ‹_›)⟩
  · rename_i e h' hr
    rw [hr] at hm
    exact ⟨h, fun _ => ⟨[], .stay⟩, hm⟩

/-! ## Nanoapps -/

theorem perform_keeping (id : InstanceId) (c : Call) :
    Obeys keeping (perform id c : HubM A R c.Reply) :=
  keeping_of_move (perform_yields id c) fun _ _ _ _ => .call

theorem execute_keeping (id : InstanceId) (p : Program α) :
    Obeys keeping (execute id p : HubM A R α) := by
  induction p with
  | done a => exact .pure a
  | call c next ih => exact .bind (perform_keeping id c) fun reply => ih reply

omit [Radio R] in
/-- The front does not see whether an entry point of a nanoapp runs. -/
theorem front_update (h : Hub A R) {id : InstanceId} {f : Nanoapp A → Nanoapp A}
    (hf : ∀ n, (f n).member = n.member) :
    front { h with registry := h.registry.update id f } = h.front := by
  have hcrew : (h.registry.update id f).apps.map Nanoapp.member =
      h.registry.apps.map Nanoapp.member := by
    rw [Registry.update, List.map_map]
    refine List.map_congr_left fun n _ => ?_
    rw [Function.comp_apply]
    split
    · exact hf n
    · rfl
  exact congrArg (fun l => { h.front with crew := l }) hcrew

theorem withBehaviour_keeping (id : InstanceId) (run : A → Program (α × A)) :
    Obeys keeping (withBehaviour id run : HubM A R (Option α)) := by
  intro h
  unfold withBehaviour
  rw [ends_bind, ends_get]
  split
  · exact keeping.refl h
  · rename_i a _
    have hout : keeping.rel h { h with registry := h.registry.takeOut id } :=
      still_keeping.rel (front_update h fun _ => rfl)
    have hback (a : A) : Obeys keeping
        (modify fun h => { h with registry := h.registry.putBack id a } : HubM A R Unit) :=
      Obeys.within (.modify fun h => front_update h (f := fun n => { n with behaviour := some a })
        fun _ => rfl) still_keeping
    refine ends_bind.2 (ends_set.2 (Obeys.after ?_ hout))
    exact .bind (execute_keeping id (run a)) fun x => .bind (hback x.2) fun _ => .pure _

variable [Behaviour A]

theorem runHandler_keeping (d : Delivery) (id : InstanceId) : Obeys keeping (do
    let done ← withBehaviour id fun (a : A) => do return ((), ← Behaviour.handle d a)
    if done.isNone then
      emit .error "Nanoapp handler unavailable during dispatch" [("instance_id", toString id)] :
    HubM A R Unit) :=
  .bind (withBehaviour_keeping _ _) fun _ =>
    .ite (fun _ => (emit_still _ _ _).within still_keeping) fun _ => .pure _

theorem deliverTo_dispatching {D : Dispatch} {id : InstanceId} (hid : id ∈ D.recipients) :
    Obeys (dispatching D) (deliverTo D.event id : HubM A R Unit) := by
  have hrun := (runHandler_keeping (A := A) (R := R) (D.deliveryTo id) id).within
    (keeping_dispatching D)
  intro h
  unfold deliverTo
  rw [ends_bind, ends_get]
  dsimp only
  split
  · exact hrun h
  · exact ends_bind.2 (ends_modify.2 (hrun.after ⟨_, .of_move (.deliver hid _ _)⟩))

omit [Behaviour A] in
theorem dropUndelivered_still (e : Event) : Obeys still (dropUndelivered e : HubM A R Unit) := by
  unfold dropUndelivered
  split
  · exact release_still e
  · refine .bind (emit_still _ _ _) fun _ => .bind countDropped_still fun _ => ?_
    exact .bind (countMetric_still _) fun _ => release_still e

/-- An event is taken from the queue and dispatched. -/
theorem deliver_course {h : Hub A R} {e : Event} {q : Queue}
    (hq : h.queue.next? = some (.event e, q)) :
    Ends (deliver e) { h with queue := q } (fun _ => coursing.rel h) (coursing.halts h) := by
  have htake (o : Option Dispatch) : Course Free h o [.taken e] { h with queue := q }
      (some ⟨e, h.registry.recipients e⟩) := .of_move (.take hq)
  have hdispatch {m : HubM A R Unit} (hm : Obeys (dispatching ⟨e, h.registry.recipients e⟩) m) :
      Ends m { h with queue := q } (fun _ => coursing.rel h) (coursing.halts h) := by
    refine (hm _).mono ?_ ?_
    · rintro _ h' ⟨ms, hc⟩ o
      exact ⟨_, _, (htake o).append hc⟩
    · rintro er h' ⟨h₁, ⟨ms, hc⟩, hquits⟩
      exact ⟨h₁, fun o => ⟨_, _, (htake o).append hc⟩, hquits⟩
  have hstill {m : HubM A R Unit} (hm : Obeys still m) :
      Obeys (dispatching ⟨e, h.registry.recipients e⟩) m :=
    (hm.within still_keeping).within (keeping_dispatching _)
  unfold deliver
  rw [ends_bind, ends_get]
  dsimp only
  split
  · exact hdispatch (hstill (dropUndelivered_still e))
  · refine hdispatch (.bind (.forM fun id hid => deliverTo_dispatching hid) fun _ => ?_)
    refine .bind (hstill (modifyStats_still _)) fun _ => .bind (hstill (countMetric_still _)) ?_
    exact fun _ => hstill (release_still e)

theorem runStop_keeping (id : InstanceId) : Obeys keeping (runStop id : HubM A R Unit) := by
  have hrun : Obeys keeping (do
      let _ ← withBehaviour id fun (a : A) => do return ((), ← Behaviour.stop id a) :
      HubM A R Unit) :=
    .bind (withBehaviour_keeping _ _) fun _ => .pure _
  unfold runStop
  refine .get_bind fun h => ?_
  dsimp only
  split
  · exact hrun
  · exact .bind ((note_still rfl).within still_keeping) fun _ => hrun

/-! ## Loading and unloading -/

omit [Behaviour A] in
theorem releaseResources_coursing (id : InstanceId) :
    Obeys coursing (releaseResources id : HubM A R Unit) := by
  intro h
  have hquits := releaseResources_front id h
  unfold Ends at *
  split
  · exact fun o => ⟨_, _, .of_move (.leave ‹_›)⟩
  · rename_i e h' hr
    rw [hr] at hquits
    exact ⟨h, fun o => ⟨[], o, .stay⟩, hquits⟩

omit [Behaviour A] in
theorem logLifecycle_coursing (app : AppId) (id : InstanceId) :
    Obeys coursing (logLifecycle app id : HubM A R Unit) :=
  Obeys.within (emit_still _ _ _) still_coursing

omit [Behaviour A] in
theorem announce_coursing {type : EventType} (ht : type.isResult = false) (payload : Payload) :
    Obeys coursing (post (.toAll type payload) : HubM A R Bool) :=
  (post_still (e := .toAll type payload) ht).within still_coursing

theorem load_coursing (app : AppId) (permissions : Permissions) (behaviour : A) :
    Obeys coursing (load app permissions behaviour : HubM A R (Except LoadError InstanceId)) := by
  intro h
  unfold load
  rw [ends_bind, ends_get]
  split
  · exact coursing.refl h
  · rename_i id registry hr
    have hjoin : coursing.rel h { h with registry } := fun o => ⟨_, _, .of_move (.join hr)⟩
    refine ends_bind.2 (ends_set.2 (Obeys.after (.bind ?_ ?_) hjoin))
    · exact (withBehaviour_keeping _ _).within keeping_coursing
    refine fun started => .ite (fun _ => ?_) fun _ => ?_
    · refine .bind (logLifecycle_coursing _ _) fun _ => ?_
      exact .bind (announce_coursing rfl _) fun _ => .pure _
    · refine .bind ((emit_still _ _ _).within still_coursing) fun _ => ?_
      exact .bind (releaseResources_coursing id) fun _ =>
        .bind (logLifecycle_coursing _ _) fun _ => .pure _

theorem unload_coursing (id : InstanceId) :
    Obeys coursing (unload id : HubM A R (Except LoadError Unit)) := by
  unfold unload
  refine .get_bind fun _ => ?_
  split
  · exact .pure _
  · refine .bind ((runStop_keeping id).within keeping_coursing) fun _ => ?_
    refine .bind (releaseResources_coursing id) fun _ => ?_
    refine .bind (logLifecycle_coursing _ _) fun _ => ?_
    exact .bind (announce_coursing rfl _) fun _ => .pure _

theorem shutdown_coursing : Obeys coursing (shutdown : HubM A R Unit) := by
  unfold shutdown
  refine .get_bind fun _ => .bind (.forM fun id _ => .bind (unload_coursing id) fun r => ?_) ?_
  · split
    · exact .pure _
    · exact (emit_still _ _ _).within still_coursing
  · exact fun _ => still_powers.closeRadios_obeys.within still_coursing

/-! ## Tasks and turns -/

theorem runCallback_coursing (c : Callback) : Obeys coursing (runCallback c : HubM A R Unit) := by
  cases c with
  | timerTick =>
    exact Obeys.within (.bind tick_still fun _ => countMetric_still _) still_coursing
  | timerExpired x u =>
    exact (keeping_of_move (handleSystemTimer_yields x u) fun _ _ _ _ => .expiry).within
      keeping_coursing
  | report r =>
    exact (keeping_of_move (handleReport_yields r) fun _ _ _ _ => .report).within
      keeping_coursing
  | unload id =>
    refine .bind (unload_coursing id) fun r => ?_
    split
    · exact .pure _
    · exact (emit_still _ _ _).within still_coursing

omit [Radio R] [Behaviour A] in
/-- Work of the hub itself is taken from the queue. -/
theorem front_deferred {h : Hub A R} {c : Callback} {q : Queue}
    (hq : h.queue.next? = some (.deferred c, q)) : front { h with queue := q } = h.front := by
  have hqueued : q.tasks.filterMap Task.result? = h.front.queued := by
    rw [front, next?_tasks hq]
    rfl
  exact congrArg (fun l => { h.front with queued := l }) hqueued

/-- The head of the queue is taken from it and processed. -/
theorem process_coursing {h : Hub A R} {t : Task} {q : Queue} (hq : h.queue.next? = some (t, q)) :
    Ends (process t) { h with queue := q } (fun _ => coursing.rel h) (coursing.halts h) := by
  have hcount (started : Nat) : Obeys coursing (do
      let ended := (← get).now
      countMetric (·.observeLatency (ended - started)) : HubM A R Unit) :=
    .get_bind fun _ => (countMetric_still _).within still_coursing
  unfold process
  rw [ends_bind, ends_get]
  cases t with
  | event e => exact .obeying (deliver_course hq) fun _ => hcount _
  | deferred c =>
    refine Obeys.after ?_ (still_coursing.rel (front_deferred hq))
    refine .bind ((modifyStats_still _).within still_coursing) fun _ => ?_
    refine .bind ((countMetric_still _).within still_coursing) fun _ => ?_
    refine .bind ((emit_still _ _ _).within still_coursing) fun _ => ?_
    exact .bind (runCallback_coursing c) fun _ => hcount _

theorem runOnce_coursing : Obeys coursing (runOnce : HubM A R Bool) := by
  intro h
  unfold runOnce
  rw [ends_bind, ends_get]
  split
  · exact coursing.refl h
  · rename_i t q hq
    exact ends_bind.2 (ends_set.2 ((process_coursing hq).obeying fun _ => .pure _))

omit [Behaviour A] in
theorem fireIfDue_still : Obeys still (fireIfDue : HubM A R Bool) := by
  intro h
  unfold fireIfDue
  rw [ends_bind, ends_get]
  split
  · exact still.refl h
  · refine ends_bind.2 (ends_modify.2 (Obeys.after ?_ rfl))
    exact .bind (deferOrDie_still _) fun _ => .pure _

omit [Behaviour A] in
theorem takeStop_still : Obeys still (takeStop : HubM A R Bool) := by
  intro h
  unfold takeStop
  rw [ends_bind, ends_get, ends_ite]
  split
  · exact rfl
  · exact still.refl h

/-- A host posts no events of the types that are reserved. -/
def Turn.Honest : Turn A R → Prop
  | post e _ => EventType.firstUser ≤ e.type
  | _ => True

theorem Turn.coursing {t : Turn A R} (ht : t.Honest) : Obeys Hub.coursing t.run := by
  have hstill {m : HubM A R Unit} (hm : Obeys still m) : Obeys Hub.coursing m :=
    hm.within still_coursing
  cases t with
  | load => exact .bind (load_coursing _ _ _) fun _ => .pure _
  | unload => exact .bind (unload_coursing _) fun _ => .pure _
  | shutdown => exact shutdown_coursing
  | runOnce => exact .bind runOnce_coursing fun _ => .pure _
  | post e => exact hstill (.bind (post_still (isResult_of_user ht)) fun _ => .pure _)
  | requestUnload => exact hstill (.bind (requestUnload_still _) fun _ => .pure _)
  | report => exact hstill (deferOrDie_still _)
  | stop => exact hstill stopLoop_still
  | takeStop => exact hstill (.bind takeStop_still fun _ => .pure _)
  | fireIfDue => exact hstill (.bind fireIfDue_still fun _ => .pure _)
  | advanceClock => exact hstill (.modify fun _ => rfl)
  | advanceClockTo => exact hstill (.modify fun _ => rfl)
  | radios => exact hstill (.modify fun _ => rfl)

/-- Honest turns lead from a new hub to `h`. -/
inductive Hosted (config : Config) : Hub A R → Prop
  | start {now : Nat} {radios : R} {metrics : Option Metrics} {h : Hub A R}
      (hr : initialise (blank config now radios metrics) = .ok () h) : Hosted config h
  | turn {h h' : Hub A R} {t : Turn A R} (hh : Hosted config h) (ht : t.Honest)
      (hr : t.run h = .ok () h') : Hosted config h'

theorem Hosted.turns {config : Config} {h : Hub A R} (hh : Hosted config h)
    {turns : List (Turn A R)} (ht : ∀ t ∈ turns, t.Honest) {P : Hub A R → Prop}
    (hP : Ends (turns.forM Turn.run) h (fun _ => P) (fun _ _ => False)) :
    ∃ h', Hosted config h' ∧ P h' := by
  induction turns generalizing h with
  | nil => exact ⟨h, hh, hP⟩
  | cons t turns ih =>
    obtain ⟨_, h', hr, hP⟩ := (ends_bind.1 hP).exists_ok
    exact ih (.turn hh (ht t List.mem_cons_self) hr) (fun t h => ht t (List.mem_cons_of_mem _ h)) hP

/-- What honest turns lead to from a new hub is hosted. -/
theorem hosted_of_ends (config : Config) (now : Nat) (radios : R) (metrics : Option Metrics)
    (turns : List (Turn A R)) (ht : ∀ t ∈ turns, t.Honest) {P : Hub A R → Prop}
    (hP : Ends (do initialise; turns.forM Turn.run) (blank config now radios metrics)
      (fun _ => P) (fun _ _ => False)) : ∃ h, Hosted config h ∧ P h := by
  obtain ⟨_, h, hr, hP⟩ := (ends_bind.1 hP).exists_ok
  exact (Hosted.start hr).turns ht hP

theorem Hosted.reached {config : Config} {h : Hub A R} (hh : Hosted config h) :
    Reached config h := by
  induction hh with
  | start hr => exact .start hr
  | turn _ _ hr ih => exact .turn _ ih hr

/-- Every hub lies on a course from its beginning. -/
theorem Hosted.course {config : Config} {h : Hub A R} (hh : Hosted config h) :
    ∃ now radios metrics ms o,
      Course Free (blank config now radios metrics : Hub A R) none ms h o := by
  induction hh with
  | start hr =>
    obtain ⟨ms, o, hc⟩ := (Obeys.within still_powers.initialise_obeys still_coursing _).ok hr none
    exact ⟨_, _, _, ms, o, hc⟩
  | turn _ ht hr ih =>
    obtain ⟨now, radios, metrics, ms, o, hc⟩ := ih
    obtain ⟨ms', o', hc'⟩ := (Turn.coursing ht _).ok hr o
    exact ⟨now, radios, metrics, _, o', hc.append hc'⟩

/-- So does a hub that halts, as far as deliveries are concerned. -/
theorem Hosted.course_of_halt {config : Config} {h h' : Hub A R} {t : Turn A R} {e : Halt}
    (hh : Hosted config h) (ht : t.Honest) (hr : t.run h = .error e h') :
    e.Sound R ∧ ∃ now radios metrics ms h₁ o,
      Course Free (blank config now radios metrics : Hub A R) none ms h₁ o ∧
        h'.deliveries = h₁.deliveries := by
  obtain ⟨now, radios, metrics, ms, o, hc⟩ := hh.course
  obtain ⟨h₁, hc', hd, he⟩ := (Turn.coursing ht _).error hr
  obtain ⟨ms', o', hc'⟩ := hc' o
  exact ⟨he, now, radios, metrics, _, h₁, o', hc.append hc', hd⟩

end Hub

end ContextHub
