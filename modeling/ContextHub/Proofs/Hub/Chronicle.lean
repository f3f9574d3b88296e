import ContextHub.Proofs.Hub.Release
/-!
# Who comes, acts and goes

A `Record` of a hub lists its `Deed`s: nanoapps join and leave, their entry points begin to run, and
the journal tells of what they do. Each deed is a step of its own; between them the hub does its own
work, and the nanoapps that run make calls. After every step all that is held is held by a loaded
nanoapp (`Orderly`), nanoapps act only while they are loaded, and the journal tells of them what the
record does. Every operation of a host is a stretch of such steps, also if it halts.
-/

namespace ContextHub.Hub

variable {A R α : Type}

inductive Deed where
  | joined (id : InstanceId)
  | left (id : InstanceId)
  /-- An entry point of the nanoapp begins to run. -/
  | entered (id : InstanceId)
  /-- The journal tells of something that a nanoapp does. -/
  | noted (e : Entry)

namespace Deed

/-- Which nanoapp acts. -/
def actor? : Deed → Option InstanceId
  | joined _ => none
  | left _ => none
  | entered id => some id
  | noted e => e.actor?

def entry? : Deed → Option Entry
  | noted e => some e
  | _ => none

end Deed

/-- A run of `m` from `h` gets to `h'`, and ends or halts there. -/
def Leads (m : HubM A R α) (h h' : Hub A R) : Prop :=
  (∃ a, m h = .ok a h') ∨ ∃ e, m h = .error e h'

theorem Leads.of_ends {m : HubM A R α} {h h' : Hub A R} {P : Hub A R → Prop} (hl : Leads m h h')
    (hm : Ends m h (fun _ => P) fun _ => P) : P h' := by
  rcases hl with ⟨a, hr⟩ | ⟨e, hr⟩
  · exact hm.ok hr
  · exact hm.error hr

theorem ends_leads (m : HubM A R α) (h : Hub A R) :
    Ends m h (fun _ => Leads m h) fun _ => Leads m h := by
  unfold Ends
  split
  · rename_i a h' hr
    exact .inl ⟨a, hr⟩
  · rename_i e h' hr
    exact .inr ⟨e, hr⟩

/-- Whether a nanoapp is not loaded. -/
def strangers (h : Hub A R) (id : InstanceId) : Bool := !h.registry.ids.contains id

theorem strangers_eq_false {h : Hub A R} {id : InstanceId} :
    h.strangers id = false ↔ id ∈ h.registry.ids := by simp [strangers]

/-- All that is held is held by loaded nanoapps, and the system is none of them. -/
structure Orderly (h : Hub A R) : Prop where
  free : h.FreeOf h.strangers
  nextId : h.registry.nextId ≠ 0
  system : .system ∉ h.registry.ids

/-- The entries of the journal that tell of nanoapps, latest first. -/
def acts (h : Hub A R) : List Entry := h.journal.filter (·.actor?.isSome)

theorem Orderly.work {h h' : Hub A R} (ho : h.Orderly) (hf : h'.FreeOf h.strangers)
    (hc : h.SameCrew h') : h'.Orderly where
  free := by
    have hs : h'.strangers = h.strangers := funext fun id => by rw [strangers, hc.ids, strangers]
    rw [hs]
    exact hf
  nextId := hc.nextId ▸ ho.nextId
  system := hc.ids ▸ ho.system

theorem mem_ids_remove {r : Registry A} {id x : InstanceId} :
    x ∈ (r.remove id).ids ↔ x ∈ r.ids ∧ x ≠ id := by
  unfold Registry.ids Registry.remove
  rw [List.mem_map, List.mem_map]
  constructor
  · rintro ⟨n, hn, rfl⟩
    obtain ⟨hn, hne⟩ := List.mem_filter.1 hn
    exact ⟨⟨n, hn, rfl⟩, by simpa using hne⟩
  · rintro ⟨⟨n, hn, rfl⟩, hne⟩
    exact ⟨n, List.mem_filter.2 ⟨hn, by simpa using hne⟩, rfl⟩

section

variable [Radio R]

/-! ## Steps -/

/-- The steps of a hub. -/
inductive Does : Hub A R → Option Deed → Hub A R → Prop
  /-- The hub's own work lets nobody come to hold anything who held nothing. -/
  | work {h h' : Hub A R} (hw : ∀ out, (excluding out).rel h h') : Does h none h'
  | call {h h' : Hub A R} {id : InstanceId} {c : Call} (hid : id ∈ h.registry.ids)
      (hr : Leads (perform id c) h h') : Does h ((c.entry? id).map .noted) h'
  | enter {h : Hub A R} {id : InstanceId} {a : A} (ha : h.registry.behaviour? id = some a) :
      Does h (some (.entered id)) { h with registry := h.registry.takeOut id }
  | note {h : Hub A R} {e : Entry} {id : InstanceId} (he : e.actor? = some id)
      (hid : id ∈ h.registry.ids) : Does h (some (.noted e)) { h with journal := e :: h.journal }
  | join {h : Hub A R} {app : AppId} {permissions : Permissions} {behaviour : A}
      {id : InstanceId} {registry : Registry A}
      (hr : h.registry.register app permissions behaviour = .ok (id, registry)) :
      Does h (some (.joined id)) { h with registry }
  | leave {h h' : Hub A R} {id : InstanceId} (hr : releaseResources id h = .ok () h') :
      Does h (some (.left id)) h'

/-- What a step means for the crew and the journal. -/
structure Follows (h : Hub A R) (d : Option Deed) (h' : Hub A R) : Prop where
  orderly : h'.Orderly
  acts : h'.acts = (d.bind Deed.entry?).toList ++ h.acts
  ids : ∀ id ∈ h'.registry.ids, id ∈ h.registry.ids ∨ d = some (.joined id)
  stays : ∀ id ∈ h.registry.ids, id ∈ h'.registry.ids ∨ d = some (.left id)
  actor : ∀ id, d.bind Deed.actor? = some id → id ∈ h.registry.ids
  gone : ∀ id, d = some (.left id) → id ∉ h'.registry.ids

omit [Radio R] in
/-- Nobody joins, acts or leaves. -/
theorem Follows.work {h h' : Hub A R} (ho : h.Orderly)
    (hw : (excluding h.strangers).rel h h') : Follows h none h' := by
  obtain ⟨hf, hc⟩ := hw ho.free
  refine ⟨ho.work hf hc, hc.acts, fun id hid => .inl (hc.ids ▸ hid),
    fun id hid => .inl (hc.ids ▸ hid), ?_, ?_⟩
  · rintro id ⟨⟩
  · rintro id ⟨⟩

omit [Radio R] in
/-- A loaded nanoapp acts, and that is told of or not. -/
theorem Follows.act {h h' : Hub A R} (ho : h.Orderly) {d : Deed} {id : InstanceId}
    (hid : id ∈ h.registry.ids) (hd : d.actor? = some id) (hf : h'.FreeOf h.strangers)
    (hids : h'.registry.ids = h.registry.ids) (hnext : h'.registry.nextId = h.registry.nextId)
    (hacts : h'.acts = d.entry?.toList ++ h.acts) : Follows h (some d) h' where
  orderly := by
    have hs : h'.strangers = h.strangers := funext fun id => by rw [strangers, hids, strangers]
    exact ⟨hs ▸ hf, hnext ▸ ho.nextId, hids ▸ ho.system⟩
  acts := hacts
  ids x hx := .inl (hids ▸ hx)
  stays x hx := .inl (hids ▸ hx)
  actor x hx := by
    have hsame : x = id := Option.some.inj (hx.symm.trans hd)
    rw [hsame]
    exact hid
  gone x hx := by
    cases Option.some.inj hx
    cases hd

omit [Radio R] in
theorem Follows.note {h : Hub A R} (ho : h.Orderly) {e : Entry} {id : InstanceId}
    (he : e.actor? = some id) (hid : id ∈ h.registry.ids) :
    Follows h (some (.noted e)) { h with journal := e :: h.journal } :=
  .act ho hid he (ho.free.of_same rfl rfl rfl rfl rfl) rfl rfl
    (List.filter_cons_of_pos (by simp [he]))

/-- Only a call to note down an act is told of. -/
theorem Follows.call {h h' : Hub A R} (ho : h.Orderly) {id : InstanceId} {c : Call}
    (hid : id ∈ h.registry.ids) (hr : Leads (perform id c) h h') :
    Follows h ((c.entry? id).map .noted) h' := by
  cases hc : c.entry? id with
  | none => exact .work ho (hr.of_ends (perform_excluding (strangers_eq_false.2 hid) hc h))
  | some e =>
    obtain ⟨act, outcome, rfl⟩ : ∃ act outcome, c = .note act outcome := by
      cases c with
      | note act outcome => exact ⟨act, outcome, rfl⟩
      | _ => cases hc
    cases hc
    have hnote : Ends (perform id (.note act outcome)) h
        (fun _ h' => h' = { h with journal := .acted id act outcome :: h.journal })
        (fun _ h' => h' = { h with journal := .acted id act outcome :: h.journal }) := rfl
    rw [hr.of_ends hnote]
    exact .note ho rfl hid

omit [Radio R] in
theorem Follows.join {h : Hub A R} (ho : h.Orderly) {app : AppId} {permissions : Permissions}
    {behaviour : A} {id : InstanceId} {registry : Registry A}
    (hr : h.registry.register app permissions behaviour = .ok (id, registry)) :
    Follows h (some (.joined id)) { h with registry } := by
  obtain ⟨hids, hnext⟩ := register_eq_ok hr
  obtain ⟨hid, hnext⟩ := hnext ho.nextId
  have hf : FreeOf h.strangers { h with registry } := ho.free.of_same rfl rfl rfl rfl rfl
  refine ⟨⟨hf.both hf fun x hx _ => ?_, hnext, fun hs => ?_⟩, rfl, fun x hx => ?_,
    fun x hx => .inl ((hids x).2 (.inr hx)), ?_, ?_⟩
  · exact strangers_eq_false.2 ((hids x).2 (.inr (strangers_eq_false.1 hx)))
  · rcases (hids _).1 hs with hs | hs
    · exact hid hs.symm
    · exact ho.system hs
  · rcases (hids x).1 hx with rfl | hx
    · exact .inr rfl
    · exact .inl hx
  · rintro x ⟨⟩
  · rintro x ⟨⟩

/-- Who leaves holds nothing any more. -/
theorem Follows.leave {h h' : Hub A R} (ho : h.Orderly) {id : InstanceId}
    (hr : releaseResources id h = .ok () h') : Follows h (some (.left id)) h' := by
  obtain ⟨h₁, hr₁, hr₂⟩ := (releaseResources_excluding id h).ok hr
  have hreleased :=
    (releaseResources_released id ho.free.timers.coherent ho.free.heap.exact).ok hr
  obtain ⟨hf₁, hc₁⟩ := hr₁ ho.free
  obtain ⟨hf', hc'⟩ := hr₂ (hf₁.of_same rfl rfl rfl rfl rfl)
  have hids (x : InstanceId) : x ∈ h'.registry.ids ↔ x ∈ h.registry.ids ∧ x ≠ id := by
    rw [hreleased.registry, mem_ids_remove]
  refine ⟨⟨?_, ?_, fun hs => ho.system ((hids _).1 hs).1⟩, ?_, fun x hx => .inl ((hids x).1 hx).1,
    fun x hx => ?_, ?_, ?_⟩
  · refine hf'.both (freeOf_of_holdings hf' hreleased.own) fun x hx hx' => ?_
    refine strangers_eq_false.2 ((hids x).2 ⟨strangers_eq_false.1 hx, ?_⟩)
    simpa using hx'
  · rw [hreleased.registry]
    exact ho.nextId
  · exact hc'.acts.trans hc₁.acts
  · by_cases hne : x = id
    · exact .inr (by rw [hne])
    · exact .inl ((hids x).2 ⟨hx, hne⟩)
  · rintro x ⟨⟩
  · rintro x ⟨⟩ hx
    exact ((hids _).1 hx).2 rfl

theorem Does.follows {h h' : Hub A R} {d : Option Deed} (ho : h.Orderly) (hd : Does h d h') :
    Follows h d h' := by
  cases hd with
  | work hw => exact .work ho (hw _)
  | call hid hr => exact .call ho hid hr
  | enter ha =>
    exact .act ho (mem_ids_of_behaviour? ha) rfl (ho.free.of_same rfl rfl rfl rfl rfl)
      (update_ids _ _ fun _ => rfl) rfl rfl
  | note he hid => exact .note ho he hid
  | join hr => exact .join ho hr
  | leave hr => exact .leave ho hr

/-! ## Runs -/

/-- A run from `h` on, with the deeds in the order in which they happened. -/
inductive Record (h : Hub A R) : List Deed → Hub A R → Prop
  | start : Record h [] h
  | snoc {deeds : List Deed} {d : Option Deed} {h₁ h₂ : Hub A R} (hr : Record h deeds h₁)
      (hd : Does h₁ d h₂) : Record h (deeds ++ d.toList) h₂

namespace Record

variable {h h₁ h₂ : Hub A R} {deeds deeds' : List Deed}

theorem of_does {d : Option Deed} (hd : Does h d h₁) : Record h d.toList h₁ :=
  List.nil_append d.toList ▸ start.snoc hd

theorem append (hr : Record h deeds h₁) (hr' : Record h₁ deeds' h₂) :
    Record h (deeds ++ deeds') h₂ := by
  induction hr' with
  | start => rwa [List.append_nil]
  | snoc _ hd ih =>
    rw [← List.append_assoc]
    exact ih.snoc hd

theorem orderly (ho : h.Orderly) (hr : Record h deeds h₁) : h₁.Orderly := by
  induction hr with
  | start => exact ho
  | snoc _ hd ih => exact (hd.follows ih).orderly

/-- The journal tells of nanoapps what the record does. -/
theorem acts_eq (ho : h.Orderly) (hr : Record h deeds h₁) :
    h₁.acts = (deeds.filterMap Deed.entry?).reverse ++ h.acts := by
  induction hr with
  | start => rfl
  | @snoc deeds d _ _ hr hd ih =>
    rw [(hd.follows (hr.orderly ho)).acts, ih, List.filterMap_append, List.reverse_append,
      List.append_assoc]
    cases d with
    | none => rfl
    | some d => cases he : d.entry? <;> simp [he]

/-- Who is not loaded does nothing before joining. -/
theorem absent (ho : h.Orderly) (hr : Record h deeds h₁) {id : InstanceId}
    (hid : id ∉ h.registry.ids) (hno : .joined id ∉ deeds) :
    id ∉ h₁.registry.ids ∧ ∀ d ∈ deeds, d.actor? ≠ some id := by
  induction hr with
  | start => exact ⟨hid, fun d hd => by cases hd⟩
  | @snoc deeds d _ _ hr hd ih =>
    rw [List.mem_append, not_or] at hno
    obtain ⟨hout, hquiet⟩ := ih hno.1
    have hf := hd.follows (hr.orderly ho)
    refine ⟨fun hin => ?_, fun e he => ?_⟩
    · rcases hf.ids id hin with hin | rfl
      · exact hout hin
      · exact hno.2 List.mem_cons_self
    · rcases List.mem_append.1 he with he | he
      · exact hquiet e he
      · cases Option.mem_toList.1 he
        exact fun hact => hout (hf.actor id hact)

theorem split {d : Deed} {before after : List Deed} (hr : Record h deeds h₁)
    (hs : deeds = before ++ d :: after) :
    ∃ h₂ h₃, Record h before h₂ ∧ Does h₂ (some d) h₃ ∧ Record h₃ after h₁ := by
  induction hr generalizing after with
  | start => cases before <;> cases hs
  | @snoc deeds e h₂ h₃ hr hd ih =>
    cases e with
    | none =>
      obtain ⟨g, g', hg, hg', hrest⟩ := ih ((List.append_nil deeds).symm.trans hs)
      exact ⟨g, g', hg, hg', List.append_nil after ▸ hrest.snoc hd⟩
    | some e =>
      rcases List.eq_nil_or_concat after with rfl | ⟨rest, x, rfl⟩
      · obtain ⟨rfl, he⟩ := List.append_inj' hs rfl
        cases he
        exact ⟨h₂, h₃, hr, hd, .start⟩
      · rw [List.concat_eq_append, ← List.cons_append, ← List.append_assoc] at hs
        obtain ⟨rfl, he⟩ := List.append_inj' hs rfl
        cases he
        obtain ⟨g, g', hg, hg', hrest⟩ := ih rfl
        exact ⟨g, g', hg, hg', List.concat_eq_append ▸ hrest.snoc hd⟩

/-- A nanoapp that has left does nothing more, unless the id is given out again. -/
theorem silent (ho : h.Orderly) (hr : Record h deeds h₁) {before after : List Deed}
    {id : InstanceId} (hs : deeds = before ++ .left id :: after) (hno : .joined id ∉ after) :
    ∀ d ∈ after, d.actor? ≠ some id := by
  obtain ⟨h₂, h₃, hbefore, hleft, hafter⟩ := hr.split hs
  have hf := hleft.follows (hbefore.orderly ho)
  exact (hafter.absent hf.orderly (hf.gone id rfl) hno).2

end Record

/-! ## What is done is recorded -/

/-- Whatever is done can be recorded, also up to where it halts. -/
def recording : Law A R where
  rel h h' := h.Orderly → ∃ deeds, Record h deeds h'
  halts h _ h' := h.Orderly → ∃ deeds, Record h deeds h'
  refl _ _ := ⟨[], .start⟩
  trans hr hr' ho :=
    have ⟨deeds, hd⟩ := hr ho
    have ⟨deeds', hd'⟩ := hr' (hd.orderly ho)
    ⟨deeds ++ deeds', hd.append hd'⟩
  halts_of_rel hr hr' ho :=
    have ⟨deeds, hd⟩ := hr ho
    have ⟨deeds', hd'⟩ := hr' (hd.orderly ho)
    ⟨deeds ++ deeds', hd.append hd'⟩

theorem Does.recording {h h' : Hub A R} {d : Option Deed} (hd : Does h d h') :
    recording.rel h h' := fun _ => ⟨_, .of_does hd⟩

theorem recording_of_work {h h' : Hub A R} (hw : ∀ out, (excluding out).rel h h') :
    recording.rel h h' := (Does.work hw).recording

/-- What excludes everyone is the hub's own work. -/
theorem recorded {m : HubM A R α} (hm : ∀ out, Obeys (excluding out) m) : Obeys recording m := by
  intro h
  have hall := fun out => hm out h
  unfold Ends at *
  split
  all_goals
    rename_i h' hr
    refine recording_of_work fun out => ?_
    have hout := hall out
    rw [hr] at hout
    exact hout

/-! ### Nanoapps -/

/-- A nanoapp that is loaded makes calls, and stays loaded. -/
def calling (id : InstanceId) : Law A R where
  rel h h' := id ∈ h.registry.ids → h.Orderly →
    (∃ deeds, Record h deeds h') ∧ id ∈ h'.registry.ids
  halts h _ h' := id ∈ h.registry.ids → h.Orderly →
    (∃ deeds, Record h deeds h') ∧ id ∈ h'.registry.ids
  refl _ hid _ := ⟨⟨[], .start⟩, hid⟩
  trans hr hr' hid ho :=
    have ⟨⟨deeds, hd⟩, hid'⟩ := hr hid ho
    have ⟨⟨deeds', hd'⟩, hid''⟩ := hr' hid' (hd.orderly ho)
    ⟨⟨deeds ++ deeds', hd.append hd'⟩, hid''⟩
  halts_of_rel hr hr' hid ho :=
    have ⟨⟨deeds, hd⟩, hid'⟩ := hr hid ho
    have ⟨⟨deeds', hd'⟩, hid''⟩ := hr' hid' (hd.orderly ho)
    ⟨⟨deeds ++ deeds', hd.append hd'⟩, hid''⟩

theorem perform_calling (id : InstanceId) (c : Call) :
    Obeys (calling id) (perform id c : HubM A R c.Reply) := by
  intro h
  have hcall {h' : Hub A R} (hl : Leads (perform id c) h h') : (calling id).rel h h' := by
    intro hid ho
    have hd := Does.call hid hl
    refine ⟨⟨_, .of_does hd⟩, ((hd.follows ho).stays id hid).resolve_right fun hleft => ?_⟩
    cases hc : c.entry? id <;> rw [hc] at hleft <;> cases hleft
  exact (ends_leads _ h).mono (fun _ _ hl => hcall hl) fun _ _ hl => hcall hl

theorem execute_calling (id : InstanceId) (p : Program α) :
    Obeys (calling id) (execute id p : HubM A R α) := by
  induction p with
  | done a => exact .pure a
  | call c next ih => exact .bind (perform_calling id c) fun reply => ih reply

theorem withBehaviour_recording (id : InstanceId) (run : A → Program (α × A)) :
    Obeys recording (withBehaviour id run : HubM A R (Option α)) := by
  intro h
  unfold withBehaviour
  rw [ends_bind, ends_get]
  split
  · exact recording.refl h
  · rename_i a ha
    have hids : (h.registry.takeOut id).ids = h.registry.ids := update_ids _ _ fun _ => rfl
    have hin : id ∈ (h.registry.takeOut id).ids := hids ▸ mem_ids_of_behaviour? ha
    have henter := (Does.enter (R := R) (h := h) ha).recording
    have hback (a : A) : Obeys recording
        (modify fun h => { h with registry := h.registry.putBack id a } : HubM A R Unit) :=
      recorded fun _ => .modify fun _ => setRegistry_excluding (update_ids _ _ fun _ => rfl) rfl
    refine ends_bind.2 (ends_set.2 (Ends.obeying ?_ fun x => .bind (hback x.2) fun _ => .pure _))
    refine (execute_calling id (run a) _).mono (fun _ h₂ hr => ?_) fun _ h₂ hr => ?_
    · exact recording.trans henter fun ho => (hr hin ho).1
    · exact recording.trans henter fun ho => (hr hin ho).1

variable [Behaviour A]

theorem runHandler_recording (d : Delivery) (id : InstanceId) : Obeys recording (do
    let done ← withBehaviour id fun (a : A) => do return ((), ← Behaviour.handle d a)
    if done.isNone then
      emit .error "Nanoapp handler unavailable during dispatch" [("instance_id", toString id)] :
    HubM A R Unit) :=
  .bind (withBehaviour_recording _ _) fun _ =>
    .ite (fun _ => recorded fun _ => emit_excluding _ _ _) fun _ => .pure _

theorem deliverTo_recording (e : Event) (id : InstanceId) :
    Obeys recording (deliverTo e id : HubM A R Unit) := by
  intro h
  unfold deliverTo
  rw [ends_bind, ends_get]
  dsimp only
  split
  · exact runHandler_recording _ _ h
  · rename_i a ha
    refine ends_bind.2 (ends_modify.2 ((runHandler_recording _ _).after ?_))
    exact (Does.note rfl (mem_ids_of_behaviour? ha)).recording

theorem deliver_recording (e : Event) : Obeys recording (deliver e : HubM A R Unit) := by
  have hrelease : Obeys recording (release e : HubM A R Unit) :=
    recorded fun _ => release_excluding e
  have hmetric (f : Metrics → Metrics) : Obeys recording (countMetric f : HubM A R Unit) :=
    recorded fun _ => countMetric_excluding f
  have hstats (f : LoopStats → LoopStats) : Obeys recording (modifyStats f : HubM A R Unit) :=
    recorded fun _ => modifyStats_excluding f
  unfold deliver
  refine .get_bind fun _ => .ite (fun _ => ?_) fun _ => ?_
  · unfold dropUndelivered
    split
    · exact hrelease
    · refine .bind (recorded fun _ => emit_excluding _ _ _) fun _ => .bind (hstats _) fun _ => ?_
      exact .bind (hmetric _) fun _ => hrelease
  · refine .bind (.forM fun id _ => deliverTo_recording e id) fun _ => .bind (hstats _) fun _ => ?_
    exact .bind (hmetric _) fun _ => hrelease

theorem runStop_recording (id : InstanceId) : Obeys recording (runStop id : HubM A R Unit) := by
  have hrun : Obeys recording (do
      let _ ← withBehaviour id fun (a : A) => do return ((), ← Behaviour.stop id a) :
      HubM A R Unit) :=
    .bind (withBehaviour_recording _ _) fun _ => .pure _
  intro h
  unfold runStop
  rw [ends_bind, ends_get]
  dsimp only
  split
  · exact hrun h
  · rename_i a ha
    refine ends_bind.2 (ends_modify.2 (hrun.after ?_))
    exact (Does.note rfl (mem_ids_of_behaviour? ha)).recording

/-! ### Loading and unloading -/

omit [Behaviour A] in
theorem releaseResources_recording (id : InstanceId) :
    Obeys recording (releaseResources id : HubM A R Unit) := by
  intro h
  have hhalts {e : Halt} {h' : Hub A R} (hr : releaseResources id h = .error e h')
      (out : InstanceId → Bool) : (excluding out).rel h h' :=
    (releaseResources_excluding id h).error hr
  unfold Ends
  split
  · rename_i hr
    exact (Does.leave hr).recording
  · rename_i hr
    exact recording_of_work (hhalts hr)

omit [Behaviour A] in
theorem logLifecycle_recording (app : AppId) (id : InstanceId) :
    Obeys recording (logLifecycle app id : HubM A R Unit) := recorded fun _ => emit_excluding _ _ _

omit [Behaviour A] in
theorem post_recording (e : Event) : Obeys recording (post e : HubM A R Bool) :=
  recorded fun _ => post_excluding e

theorem load_recording (app : AppId) (permissions : Permissions) (behaviour : A) :
    Obeys recording (load app permissions behaviour : HubM A R (Except LoadError InstanceId)) := by
  intro h
  unfold load
  rw [ends_bind, ends_get]
  split
  · exact recording.refl h
  · rename_i id registry hr
    have hjoin := (Does.join (R := R) (h := h) hr).recording
    refine ends_bind.2 (ends_set.2 (Obeys.after (.bind (withBehaviour_recording _ _) ?_) hjoin))
    refine fun started => .ite (fun _ => ?_) fun _ => ?_
    · exact .bind (logLifecycle_recording _ _) fun _ => .bind (post_recording _) fun _ => .pure _
    · refine .bind (recorded fun _ => emit_excluding _ _ _) fun _ => ?_
      exact .bind (releaseResources_recording id) fun _ =>
        .bind (logLifecycle_recording _ _) fun _ => .pure _

theorem unload_recording (id : InstanceId) :
    Obeys recording (unload id : HubM A R (Except LoadError Unit)) := by
  unfold unload
  refine .get_bind fun _ => ?_
  split
  · exact .pure _
  · refine .bind (runStop_recording id) fun _ => .bind (releaseResources_recording id) fun _ => ?_
    exact .bind (logLifecycle_recording _ _) fun _ => .bind (post_recording _) fun _ => .pure _

theorem shutdown_recording : Obeys recording (shutdown : HubM A R Unit) := by
  unfold shutdown
  refine .get_bind fun _ => .bind (.forM fun id _ => .bind (unload_recording id) fun r => ?_) ?_
  · split
    · exact .pure _
    · exact recorded fun _ => emit_excluding _ _ _
  · exact fun _ => recorded fun _ => excluding_powers.closeRadios_obeys

/-! ### Tasks and turns -/

theorem runCallback_recording (c : Callback) : Obeys recording (runCallback c : HubM A R Unit) := by
  cases c with
  | timerTick =>
    exact .bind (recorded fun _ => tick_excluding) fun _ =>
      recorded fun _ => countMetric_excluding _
  | timerExpired x purpose =>
    exact recorded fun _ => excluding_serves.handleSystemTimer_obeys x purpose
  | report r => exact recorded fun _ => excluding_serves.handleReport_obeys r
  | unload id =>
    refine .bind (unload_recording id) fun r => ?_
    split
    · exact .pure _
    · exact recorded fun _ => emit_excluding _ _ _

theorem process_recording (t : Task) : Obeys recording (process t : HubM A R Unit) := by
  have hlatency (started : Nat) : Obeys recording (do
      let ended := (← get).now
      countMetric (·.observeLatency (ended - started)) : HubM A R Unit) :=
    .get_bind fun _ => recorded fun _ => countMetric_excluding _
  unfold process
  refine .get_bind fun _ => ?_
  cases t with
  | event e => exact .bind (deliver_recording e) fun _ => hlatency _
  | deferred c =>
    refine .bind (recorded fun _ => modifyStats_excluding _) fun _ => ?_
    refine .bind (recorded fun _ => countMetric_excluding _) fun _ => ?_
    refine .bind (recorded fun _ => emit_excluding _ _ _) fun _ => ?_
    exact .bind (runCallback_recording c) fun _ => hlatency _

theorem runOnce_recording : Obeys recording (runOnce : HubM A R Bool) := by
  intro h
  unfold runOnce
  rw [ends_bind, ends_get]
  split
  · exact recording.refl h
  · rename_i t q _
    have hset : recording.rel h { h with queue := q } :=
      recording_of_work fun _ => excluding_of_same rfl rfl rfl rfl rfl ⟨rfl, rfl, rfl⟩
    refine ends_bind.2 (ends_set.2 (Obeys.after ?_ hset))
    exact .bind (process_recording t) fun _ => .pure _

omit [Behaviour A] in
theorem fireIfDue_recording : Obeys recording (fireIfDue : HubM A R Bool) := by
  refine recorded fun _ h => ?_
  unfold fireIfDue
  rw [ends_bind, ends_get]
  split
  · exact (excluding _).refl h
  · rename_i pool hpool
    obtain rfl := TimerPool.takeAlarm?_eq_some hpool
    refine ends_bind.2 (ends_modify.2 (Obeys.after ?_
      (setTimers_excluding fun hp => hp.hush .off h.timers.lost)))
    exact .bind (deferOrDie_excluding _) fun _ => .pure _

omit [Behaviour A] in
theorem takeStop_recording : Obeys recording (takeStop : HubM A R Bool) := by
  refine recorded fun _ h => ?_
  unfold takeStop
  rw [ends_bind, ends_get, ends_ite]
  split
  · exact excluding_of_same rfl rfl rfl rfl rfl ⟨rfl, rfl, rfl⟩
  · exact (excluding _).refl h

theorem Turn.recording (t : Turn A R) : Obeys recording t.run := by
  have hidle {f : Hub A R → Hub A R} (hf : ∀ out h, (excluding out).rel h (f h)) :
      Obeys Hub.recording (modify f : HubM A R Unit) := recorded fun out => .modify (hf out)
  cases t with
  | load => exact .bind (load_recording _ _ _) fun _ => .pure _
  | unload => exact .bind (unload_recording _) fun _ => .pure _
  | shutdown => exact shutdown_recording
  | runOnce => exact .bind runOnce_recording fun _ => .pure _
  | post e => exact .bind (post_recording e) fun _ => .pure _
  | requestUnload => exact .bind (recorded fun _ => defer_excluding _) fun _ => .pure _
  | report => exact recorded fun _ => deferOrDie_excluding _
  | stop => exact hidle fun _ _ => excluding_of_same rfl rfl rfl rfl rfl ⟨rfl, rfl, rfl⟩
  | takeStop => exact .bind takeStop_recording fun _ => .pure _
  | fireIfDue => exact .bind fireIfDue_recording fun _ => .pure _
  | advanceClock => exact hidle fun _ _ => excluding_of_same rfl rfl rfl rfl rfl ⟨rfl, rfl, rfl⟩
  | advanceClockTo => exact hidle fun _ _ => excluding_of_same rfl rfl rfl rfl rfl ⟨rfl, rfl, rfl⟩
  | radios => exact hidle fun _ _ => excluding_of_same rfl rfl rfl rfl rfl ⟨rfl, rfl, rfl⟩

end

end ContextHub.Hub
