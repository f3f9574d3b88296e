import ContextHub.Proofs.Hub.Permissions
import Mathlib.Data.List.Nodup
/-!
# The crew

Moves tell who is loaded: whoever joins is one more, whoever leaves is gone, and nobody else comes
or goes (`Step.ids`). So nobody is loaded twice, and whoever does not leave stays.
-/

namespace ContextHub

namespace Front

variable {F F' : Front} {o o' : Option Dispatch} {m : Move} {id : InstanceId}

def ids (F : Front) : List InstanceId := F.crew.map (·.id)

theorem mem_ids : id ∈ F.ids ↔ ∃ x ∈ F.crew, x.id = id := List.mem_map

theorem mem_ids_of_holds {p : Permission} (hp : F.holds id p) : id ∈ F.ids := by
  obtain ⟨x, hx, hid, -⟩ := hp
  exact mem_ids.2 ⟨x, hx, hid⟩

theorem ids_after (F : Front) (fx : List Effect) : (F.after fx).ids = F.ids := by
  rw [ids, after, List.map_map]
  exact List.map_congr_left fun x _ => (onMember_fold fx x).1

theorem ids_without (F : Front) (id : InstanceId) :
    (F.without id).ids = F.ids.filter (· != id) :=
  (List.filter_map (f := Member.id) (p := (· != id)) (l := F.crew)).symm

/-- Who is loaded after a move. -/
theorem Step.ids (hs : F.Step o m F' o') : match m with
    | .joined id _ => ∀ x, x ∈ F'.ids ↔ x = id ∨ x ∈ F.ids
    | .left id => F'.ids = F.ids.filter (· != id)
    | _ => F'.ids = F.ids := by
  cases hs with
  | @worked _ _ d fx hm =>
    have hids : ((({ F with desks := d } : Front).after fx).ids) = F.ids := ids_after _ fx
    cases m <;> first | exact hids | cases hm
  | left => exact (ids_without _ _).trans (congrArg (List.filter _) (ids_after _ _))
  | @joined _ id permissions crew _ hcrew =>
    intro x
    simp only [mem_ids, hcrew, or_and_right, exists_or, exists_eq_left]
    exact or_congr_left eq_comm
  | _ => rfl

/-- Nobody else is gone. -/
theorem Step.stays (hs : F.Step o m F' o') (hm : m ≠ .left id) (hid : id ∈ F.ids) :
    id ∈ F'.ids := by
  have hids := hs.ids
  cases m with
  | joined => exact (hids id).2 (.inr hid)
  | left x =>
    refine hids ▸ List.mem_filter.2 ⟨hid, bne_iff_ne.2 fun he => hm ?_⟩
    rw [he]
  | _ => exact hids ▸ hid

end Front

namespace Hub

variable {A R : Type} {h h' : Hub A R} {o o' : Option Dispatch} {ms : List Move}
  {id : InstanceId}

theorem front_ids (h : Hub A R) : h.front.ids = h.registry.ids := by
  rw [Front.ids, front, List.map_map]
  rfl

theorem place_perm (n : Nanoapp A) (l : List (Nanoapp A)) :
    (Registry.place n l).Perm (n :: l) := by
  induction l with
  | nil => exact .refl _
  | cons x l ih =>
    simp only [Registry.place]
    split
    · exact .refl _
    · exact (ih.cons x).trans (.swap n x l)

theorem register_nodup {r r' : Registry A} {app : AppId} {permissions : Permissions} {behaviour : A}
    (hr : r.register app permissions behaviour = .ok (id, r')) (hn : r.ids.Nodup) :
    r'.ids.Nodup := by
  unfold Registry.register at hr
  split at hr
  · cases hr
  · split at hr
    · cases hr
    · rename_i hfree
      obtain ⟨rfl, rfl⟩ := Prod.mk.inj (Except.ok.inj hr)
      have hnone := contains_of_freeId? hfree
      refine ((place_perm _ r.apps).map Nanoapp.id).nodup_iff.2 ?_
      refine List.nodup_cons.2 ⟨fun hin => ?_, hn⟩
      obtain ⟨n, hn, hid⟩ := List.mem_map.1 hin
      rw [Registry.contains, Registry.find?, List.isSome_find?, List.any_eq_false] at hnone
      exact hnone n hn (beq_iff_eq.2 hid)

variable [Radio R]

/-- Nobody is loaded twice. -/
theorem Moves.nodup {m : Move} (hm : Moves h o m h' o') (hn : h.registry.ids.Nodup) :
    h'.registry.ids.Nodup := by
  have hids := hm.front.ids
  rw [← front_ids] at hn ⊢
  cases m with
  | joined =>
    cases hm with
    | join hr =>
      rw [front_ids] at hn ⊢
      exact register_nodup hr hn
  | left => exact hids ▸ hn.filter _
  | _ => exact hids ▸ hn

namespace Course

variable {P : Hub A R → Move → Hub A R → Prop}

theorem nodup (hc : Course P h o ms h' o') (hn : h.registry.ids.Nodup) :
    h'.registry.ids.Nodup := by
  induction hc with
  | stay => exact hn
  | snoc _ hm _ ih => exact hm.nodup ih

theorem stays (hc : Course P h o ms h' o') (hid : id ∈ h.registry.ids) (hl : .left id ∉ ms) :
    id ∈ h'.registry.ids := by
  induction hc with
  | stay => exact hid
  | snoc _ hm _ ih =>
    rw [List.mem_append, not_or] at hl
    rw [← front_ids]
    refine hm.front.stays (fun he => hl.2 ?_) (front_ids _ ▸ ih hl.1)
    rw [he]
    exact List.mem_singleton_self _

end Course

end Hub

end ContextHub
