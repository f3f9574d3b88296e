import ContextHub.Proofs.Hub.Driving
import ContextHub.Proofs.Hub.Sharers
/-!
# Lists and subscriptions

A `Walk` is a run of a hub as far as desks and nanoapps are concerned: each step is a move, and all
else leaves them alone. Whatever hosts do is a walk. On a walk on which no nanoapp registers or
unregisters a type past its desk, the list and the subscriptions to this type agree in every hub
(`lists_and_subscriptions_agree`).
-/

namespace ContextHub

/-! ## On a walk -/

namespace Hub

variable {A R α : Type} {h h₁ h₂ : Hub A R} {m : Move} {ms ms' : List Move} {s : Sharing}

def sharers (h : Hub A R) : Sharing → List InstanceId
  | .scans => h.wifi.monitors
  | .session k => (h.gnss.session k).requests.map (·.id)

theorem desks_sharers (h : Hub A R) (s : Sharing) : h.desks.sharers s = h.sharers s := by
  cases s <;> rfl

variable [Radio R]

/-- A move, or something that concerns neither the nanoapps nor the desks. -/
inductive Strides (h : Hub A R) : Move → Hub A R → Prop
  | move {o o' : Option Dispatch} {m : Move} {h' : Hub A R} (hm : Moves h o m h' o') :
    Strides h m h'
  | aside {h' : Hub A R} (hcrew : h'.front.crew = h.front.crew) (hdesks : h'.desks = h.desks) :
    Strides h .other h'

/-- Strides lead from `h` to a hub. -/
inductive Walk (h : Hub A R) : List Move → Hub A R → Prop
  | stay : Walk h [] h
  | snoc {ms : List Move} {m : Move} {h₁ h₂ : Hub A R} (hw : Walk h ms h₁)
      (hs : Strides h₁ m h₂) : Walk h (ms ++ [m]) h₂

theorem Walk.append (hw : Walk h ms h₁) (hw' : Walk h₁ ms' h₂) : Walk h (ms ++ ms') h₂ := by
  induction hw' with
  | stay => rwa [List.append_nil]
  | snoc _ hs ih =>
    rw [← List.append_assoc]
    exact ih.snoc hs

theorem Strides.vouches (hs : Strides h m h₁) (hv : h.front.Vouches) : h₁.front.Vouches := by
  cases hs with
  | move hm => exact hv.step hm.front
  | aside hcrew hdesks => exact hv.congr hcrew hdesks

theorem Strides.agrees (hs : Strides h m h₁) (hv : h.front.Vouches) (ha : h.front.Agrees s)
    (hm : m.registers s.type = false) : h₁.front.Agrees s := by
  cases hs with
  | move hmoves => exact ha.step hv hmoves.front hm
  | aside hcrew hdesks => exact ha.congr hcrew hdesks

theorem Walk.vouches (hw : Walk h ms h₁) (hv : h.front.Vouches) : h₁.front.Vouches := by
  induction hw with
  | stay => exact hv
  | snoc _ hs ih => exact hs.vouches ih

theorem Walk.agrees (hw : Walk h ms h₁) (hv : h.front.Vouches) (ha : h.front.Agrees s)
    (hm : ∀ m ∈ ms, m.registers s.type = false) : h₁.front.Agrees s := by
  induction hw with
  | stay => exact ha
  | snoc hw hs ih =>
    rw [List.forall_mem_append] at hm
    exact hs.agrees (hw.vouches hv) (ih hm.1) (hm.2 _ (List.mem_singleton_self _))

/-! ### What hosts do -/

/-- The law that leads from hub to hub on a walk with certain calls. -/
def walking (C : Call → Prop) : Law A R where
  rel h h' := ∃ ms, Walk h ms h' ∧ ∀ id c, .called id c ∈ ms → C c
  halts _ _ _ := True
  refl _ := ⟨[], .stay, fun _ _ hc => by cases hc⟩
  trans := fun ⟨ms, hw, hC⟩ ⟨ms', hw', hC'⟩ => ⟨ms ++ ms', hw.append hw', fun id c hc =>
    (List.mem_append.1 hc).elim (hC id c) (hC' id c)⟩
  halts_of_rel _ _ := trivial

theorem Strides.walking {C : Call → Prop} (hs : Strides h m h₁)
    (hC : ∀ id c, m = .called id c → C c) : (walking C).rel h h₁ :=
  ⟨[m], .snoc .stay hs, fun id c hc => hC id c (List.mem_singleton.1 hc).symm⟩

theorem walking_aside {C : Call → Prop} (hcrew : h₁.front.crew = h.front.crew)
    (hdesks : h₁.desks = h.desks) : (walking C).rel h h₁ :=
  (Strides.aside hcrew hdesks).walking fun _ _ hm => by cases hm

omit [Radio R] in
theorem tryPost_aside (e : Event) (h : Hub A R) :
    Ends (tryPost e) h (fun _ h' => h'.front.crew = h.front.crew ∧ h'.desks = h.desks)
      (fun _ _ => True) := by
  unfold tryPost
  rw [ends_bind, ends_get]
  split <;> exact ⟨rfl, rfl⟩

theorem obeys_walking {C : Call → Prop} {p : HubM A R α}
    (hp : ∀ h a h', p h = .ok a h' → ∃ m, Strides h m h' ∧ ∀ id c, m = .called id c → C c) :
    Obeys (walking C) p := by
  intro h
  unfold Ends
  split
  · rename_i a h' hr
    obtain ⟨m, hs, hC⟩ := hp h a h' hr
    exact hs.walking hC
  · trivial

theorem walking_drives (C : Call → Prop) : (walking C : Law A R).Drives C where
  halt _ _ _ := trivial
  aside ha := walking_aside (congrArg Account.crew ha) (congrArg Account.desks ha)
  tryPost_obeys e h := (tryPost_aside e h).mono (fun _ _ ⟨hcrew, hdesks⟩ =>
    walking_aside hcrew hdesks) fun _ _ he => he
  perform_obeys id c hc := obeys_walking fun _ _ _ hr =>
    ⟨_, .move (o := none) (.call hr), fun _ _ hm => by cases hm; exact hc⟩
  releaseResources_obeys id := obeys_walking fun _ _ _ hr =>
    ⟨_, .move (o := none) (.leave hr), fun _ _ hm => by cases hm⟩
  handleReport_obeys r := obeys_walking fun _ _ _ hr =>
    ⟨_, .move (o := none) (.report hr), fun _ _ hm => by cases hm⟩
  handleSystemTimer_obeys x u := obeys_walking fun _ _ _ hr =>
    ⟨_, .move (o := none) (.expiry hr), fun _ _ hm => by cases hm⟩
  register hr := (Strides.move (o := none) (.join hr)).walking fun _ _ hm => by cases hm
  dispatched _ := walking_aside rfl rfl
  deferred _ := walking_aside rfl rfl
  undelivered _ := walking_aside rfl rfl

/-- Whatever hosts do is a walk, and its calls are calls that the nanoapps make. On a walk on which
nobody registers or unregisters the type of what is shared, every hub lists loaded nanoapps, each
once, and exactly these are subscribed to the type. -/
theorem lists_and_subscriptions_agree [Behaviour A] :
    (∀ C : Call → Prop, Behaviour.Only A C → ∀ g h : Hub A R, Driven g h →
      ∃ ms, Walk g ms h ∧ ∀ id c, .called id c ∈ ms → C c) ∧
    ∀ config now radios metrics ms (h : Hub A R),
      Walk (blank config now radios metrics) ms h →
        ∀ s : Sharing, (∀ id c, .called id c ∈ ms → c.registers s.type = false) →
          (h.sharers s).Nodup ∧ (∀ id ∈ h.sharers s, id ∈ h.registry.ids) ∧
            ∀ n ∈ h.registry.apps, s.type ∈ n.subscriptions ↔ n.id ∈ h.sharers s := by
  refine ⟨fun C hA g h hd => (walking_drives C).driven hA hd, ?_⟩
  intro config now radios metrics ms h hw s hcalls
  have hm : ∀ m ∈ ms, m.registers s.type = false := fun m hin => by
    cases m with
    | called id c => exact hcalls id c hin
    | _ => rfl
  obtain ⟨honce, hloaded, hsubscribed⟩ := hw.agrees (blank_vouches config now radios metrics)
    (blank_agrees config now radios metrics s) hm
  rw [front_ids] at hloaded
  have hlist : h.front.desks.sharers s = h.sharers s := desks_sharers h s
  rw [hlist] at honce hloaded hsubscribed
  exact ⟨honce, hloaded, fun n hn => hsubscribed n.member (List.mem_map_of_mem hn)⟩

end Hub

/-- Nanoapps that ask for all that is shared when they start, and for nothing else. -/
inductive Sharer where
  | sharer
  deriving DecidableEq, Repr

instance : Behaviour Sharer where
  start _ a := .call (.scanMonitor true ⟨1⟩) fun _ => .call (.location 1 1 ⟨2⟩) fun _ =>
    .call (.measurement 1 ⟨3⟩) fun _ => .done (true, a)
  handle _ a := .done a
  stop _ a := .done a
  watched _ := false

namespace Hub

/-- Of two nanoapps that ask for scans and sessions only one has the permissions. Once the radios
have agreed it is listed everywhere, and it alone is subscribed. -/
theorem permitted_sharer_is_subscribed : ∃ h : Hub Sharer Stations,
    Driven (blank {} 0 Stations.scripted none) h ∧ h.registry.ids = [⟨1⟩, ⟨2⟩] ∧
      ∀ s : Sharing, h.sharers s = [⟨1⟩] ∧
        ∀ n ∈ h.registry.apps, s.type ∈ n.subscriptions ↔ n.id = ⟨1⟩ := by
  obtain ⟨h, hd, hids, hscans, hlocation, hmeasurement⟩ := driven_of_ends (A := Sharer)
    (blank {} 0 Stations.scripted none)
    [.load ⟨1⟩ { wifi := true, gnss := true } .sharer, .load ⟨2⟩ {} .sharer,
      .report (.wifi (.monitorStatus true 0)), .report (.gnss (.locationStatus true 0)),
      .report (.gnss (.measurementStatus true 0)), .runOnce, .runOnce, .runOnce, .runOnce, .runOnce]
    (P := fun h => h.registry.ids = [⟨1⟩, ⟨2⟩] ∧ h.sharers .scans = [⟨1⟩] ∧
      h.sharers (.session .location) = [⟨1⟩] ∧ h.sharers (.session .measurement) = [⟨1⟩])
    (by decide +kernel)
  obtain ⟨hwalks, hagree⟩ := lists_and_subscriptions_agree (A := Sharer) (R := Stations)
  have hlisted (s : Sharing) : h.sharers s = [⟨1⟩] := by
    rcases s with _ | _ | _ <;> assumption
  refine ⟨h, hd, hids, fun s => ⟨hlisted s, ?_⟩⟩
  have honly : Behaviour.Only Sharer fun c => c.registers s.type = false :=
    ⟨fun _ _ => ⟨rfl, fun _ => ⟨rfl, fun _ => ⟨rfl, fun _ => trivial⟩⟩⟩, fun _ _ => trivial,
      fun _ _ => trivial⟩
  obtain ⟨ms, hw, hcalls⟩ := hwalks _ honly _ h hd
  obtain ⟨-, -, hsubscribed⟩ := hagree {} 0 Stations.scripted none ms h hw s hcalls
  intro n hn
  rw [hsubscribed n hn, hlisted s, List.mem_singleton]

end Hub

end ContextHub
