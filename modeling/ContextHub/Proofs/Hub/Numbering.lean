import ContextHub.Proofs.Hub.Handling
/-!
# The numbering of nanoapps

Instance ids go round in a cycle, `1 … 65534`, and the registry's counter walks it: a new nanoapp
gets the first id from there on that is not in use (`FirstFree`), and the counter moves past it. One
round sees every id once, so a search that finds nothing means that there is nothing (`Full`), which
takes as many nanoapps as there are ids (`Sound.full_iff`). Whatever is registered and removed, a
registry stays `Sound`, and then ids and apps lead to each other.
-/

namespace ContextHub.Registry

variable {A : Type}

/-! ## The cycle of ids -/

/-- A nanoapp can have this number: it is neither the system's nor the broadcast id. -/
def IsId (n : Nat) : Prop := 1 ≤ n ∧ n ≤ lastId

/-- The id `k` places after `n` in the cycle. -/
def idAfter (n k : Nat) : Nat := (n - 1 + k) % lastId + 1

theorem IsId.ne_reserved {id : InstanceId} (hid : IsId id.val) :
    id ≠ .system ∧ id ≠ .broadcast := by
  unfold IsId lastId at hid
  constructor <;> rintro rfl
  · exact absurd hid.1 (by decide)
  · exact absurd hid.2 (by decide)

theorem isId_idAfter (n k : Nat) : IsId (idAfter n k) := by
  unfold IsId idAfter lastId
  omega

theorem isId_rollover (n : Nat) : IsId (rollover n) := by
  unfold IsId rollover lastId
  split <;> omega

theorem idAfter_zero {n : Nat} (hn : IsId n) : idAfter n 0 = n := by
  unfold IsId lastId at hn
  unfold idAfter lastId
  omega

theorem idAfter_rollover {n : Nat} (hn : IsId n) (k : Nat) :
    idAfter (rollover n) k = idAfter n (k + 1) := by
  unfold IsId lastId at hn
  unfold idAfter rollover lastId
  split <;> omega

/-- One round comes to every id. -/
theorem exists_idAfter_eq {n i : Nat} (hn : IsId n) (hi : IsId i) :
    ∃ k < lastId, idAfter n k = i := by
  unfold IsId lastId at hn hi
  refine ⟨(i + lastId - n) % lastId, Nat.mod_lt _ (by decide), ?_⟩
  unfold idAfter lastId
  omega

/-! ## The search -/

theorem contains_iff_mem_ids {r : Registry A} {id : InstanceId} :
    r.contains id = true ↔ id ∈ r.ids := by
  rw [contains, find?, List.isSome_find?, List.any_eq_true, ids, List.mem_map]
  simp only [beq_iff_eq]

/-- The search stops at the first id that is not in use, or it has seen that all it tried are. -/
theorem freeId?_spec (r : Registry A) {n : Nat} (hn : IsId n) (tries : Nat) :
    match r.freeId? n tries with
    | some (id, next) => next = rollover id.val ∧ id ∉ r.ids ∧
        ∃ k < tries, id = ⟨idAfter n k⟩ ∧ ∀ j < k, ⟨idAfter n j⟩ ∈ r.ids
    | none => ∀ k < tries, ⟨idAfter n k⟩ ∈ r.ids := by
  induction tries generalizing n with
  | zero => exact fun _ hk => absurd hk (Nat.not_lt_zero _)
  | succ tries ih =>
    have hzero : (⟨idAfter n 0⟩ : InstanceId) = ⟨n⟩ := congrArg InstanceId.mk (idAfter_zero hn)
    by_cases hused : r.contains ⟨n⟩ = true
    · have hfirst : ⟨idAfter n 0⟩ ∈ r.ids := hzero ▸ contains_iff_mem_ids.1 hused
      have ih := ih (isId_rollover n)
      rw [freeId?, if_pos hused]
      split at ih
      · obtain ⟨hnext, hfree, k, hk, rfl, hbefore⟩ := ih
        refine ⟨hnext, hfree, k + 1, Nat.succ_lt_succ hk, ?_, fun j hj => ?_⟩
        · rw [idAfter_rollover hn]
        · cases j with
          | zero => exact hfirst
          | succ j =>
            rw [← idAfter_rollover hn]
            exact hbefore j (Nat.lt_of_succ_lt_succ hj)
      · intro k hk
        cases k with
        | zero => exact hfirst
        | succ k =>
          rw [← idAfter_rollover hn]
          exact ih k (Nat.lt_of_succ_lt_succ hk)
    · rw [freeId?, if_neg hused]
      exact ⟨rfl, mt contains_iff_mem_ids.2 hused, 0, Nat.succ_pos _, hzero.symm,
        fun _ hj => absurd hj (Nat.not_lt_zero _)⟩

/-- Past the last id the search goes on with the first, and over those in use. -/
example : freeId? (A := Unit)
    { apps := [⟨⟨1⟩, ⟨7⟩, {}, [], none⟩, ⟨⟨65534⟩, ⟨8⟩, {}, [], none⟩], nextId := 65534 }
    65534 65534 = some (⟨2⟩, 3) := by decide

/-- Every id is in use. -/
def Full (r : Registry A) : Prop := ∀ n, IsId n → ⟨n⟩ ∈ r.ids

/-- The first id that is not in use, from the counter on and once around. -/
def FirstFree (r : Registry A) (id : InstanceId) : Prop :=
  id ∉ r.ids ∧ ∃ k < lastId, id = ⟨idAfter r.nextId k⟩ ∧ ∀ j < k, ⟨idAfter r.nextId j⟩ ∈ r.ids

theorem FirstFree.not_full {r : Registry A} {id : InstanceId} (hf : r.FirstFree id) : ¬ r.Full := by
  obtain ⟨hfree, k, -, rfl, -⟩ := hf
  exact fun hfull => hfree (hfull _ (isId_idAfter _ _))

theorem FirstFree.unique {r : Registry A} {id id' : InstanceId} (hf : r.FirstFree id)
    (hf' : r.FirstFree id') : id = id' := by
  obtain ⟨hfree, k, -, rfl, hbefore⟩ := hf
  obtain ⟨hfree', k', -, rfl, hbefore'⟩ := hf'
  rcases Nat.lt_trichotomy k k' with hlt | rfl | hlt
  · exact absurd (hbefore' k hlt) hfree
  · rfl
  · exact absurd (hbefore k' hlt) hfree'

/-! ## Sound registries -/

/-- Ids are distinct, in order and in range, no app is loaded twice, and the counter stands at an
id. -/
structure Sound (r : Registry A) : Prop where
  ascending : r.Ascending
  ranged : ∀ id ∈ r.ids, IsId id.val
  single : (r.apps.map (·.app)).Nodup
  counter : IsId r.nextId

/-- No two of the loaded have the same. -/
theorem find?_of_nodup_map {α β : Type} [DecidableEq β] {key : α → β} {l : List α}
    (hl : (l.map key).Nodup) {x : α} (hx : x ∈ l) : l.find? (key · == key x) = some x := by
  cases hf : l.find? (key · == key x) with
  | none => exact absurd (List.find?_eq_none.1 hf x hx) (by simp)
  | some y =>
    have hkey : key y = key x := by simpa using List.find?_some hf
    rw [List.inj_on_of_nodup_map hl (List.mem_of_find?_eq_some hf) hx hkey]

namespace Sound

variable {r r' : Registry A}

theorem empty : Sound ({} : Registry A) where
  ascending := .nil
  ranged _ hid := absurd hid List.not_mem_nil
  single := .nil
  counter := isId_idAfter 1 0

theorem nodup_ids (hr : r.Sound) : r.ids.Nodup :=
  hr.ascending.imp fun hlt heq => absurd (congrArg InstanceId.val heq) (Nat.ne_of_lt hlt)

theorem find?_id (hr : r.Sound) {n : Nanoapp A} (hn : n ∈ r.apps) : r.find? n.id = some n :=
  find?_of_nodup_map hr.nodup_ids hn

theorem findApp?_app (hr : r.Sound) {n : Nanoapp A} (hn : n ∈ r.apps) :
    r.findApp? n.app = some n :=
  find?_of_nodup_map hr.single hn

/-- Looking up by id and looking up by app are inverse to each other. -/
theorem find?_iff_findApp? (hr : r.Sound) (id : InstanceId) (app : AppId) (n : Nanoapp A) :
    r.find? id = some n ∧ n.app = app ↔ r.findApp? app = some n ∧ n.id = id := by
  constructor
  · rintro ⟨hf, rfl⟩
    exact ⟨hr.findApp?_app (List.mem_of_find?_eq_some hf), by simpa using List.find?_some hf⟩
  · rintro ⟨hf, rfl⟩
    exact ⟨hr.find?_id (List.mem_of_find?_eq_some hf), by simpa using List.find?_some hf⟩

/-- All ids are in use exactly if there are as many nanoapps as ids. -/
theorem full_iff (hr : r.Sound) : r.Full ↔ r.apps.length = lastId := by
  let all : List InstanceId := (List.range' 1 lastId).map InstanceId.mk
  have hall : all.Nodup := (List.nodup_range').map fun _ _ h => congrArg InstanceId.val h
  have hallLength : all.length = lastId := by simp only [all, List.length_map, List.length_range']
  have hmem (id : InstanceId) : id ∈ all ↔ IsId id.val := by
    unfold IsId
    simp only [all, List.mem_map, List.mem_range'_1]
    constructor
    · rintro ⟨n, hn, rfl⟩
      exact ⟨hn.1, Nat.lt_one_add_iff.1 hn.2⟩
    · exact fun hid => ⟨id.val, ⟨hid.1, Nat.lt_one_add_iff.2 hid.2⟩, rfl⟩
  have hlength : r.ids.length = r.apps.length := List.length_map _
  have hsub : r.ids.Subperm all :=
    List.subperm_of_subset hr.nodup_ids fun id hid => (hmem id).2 (hr.ranged id hid)
  rw [← hlength, ← hallLength]
  constructor
  · intro hfull
    refine Nat.le_antisymm hsub.length_le (List.Subperm.length_le ?_)
    exact List.subperm_of_subset hall fun id hid => hfull id.val ((hmem id).1 hid)
  · intro hcount n hn
    exact (hsub.perm_of_length_le (Nat.le_of_eq hcount.symm)).mem_iff.2 ((hmem ⟨n⟩).2 hn)

/-- Registering has one of three answers: the app is there already, or all ids are in use, or the
nanoapp gets the first free id. -/
theorem register (hr : r.Sound) (app : AppId) (permissions : Permissions) (behaviour : A) :
    (∃ n ∈ r.apps, n.app = app) ∧
        r.register app permissions behaviour = .error (.duplicateAppId app) ∨
      (∀ n ∈ r.apps, n.app ≠ app) ∧ r.Full ∧
        r.register app permissions behaviour = .error .instanceIdsExhausted ∨
      (∀ n ∈ r.apps, n.app ≠ app) ∧ ∃ id, r.FirstFree id ∧
        r.register app permissions behaviour = .ok (id,
          { apps := place { id, app, permissions, behaviour := some behaviour } r.apps
            nextId := rollover id.val }) := by
  have hsearch := r.freeId?_spec hr.counter lastId
  unfold Registry.register
  cases hf : r.findApp? app with
  | some n =>
    exact .inl ⟨⟨n, List.mem_of_find?_eq_some hf, by simpa using List.find?_some hf⟩, rfl⟩
  | none =>
    have hnew : ∀ n ∈ r.apps, n.app ≠ app := by simpa using List.find?_eq_none.1 hf
    right
    split at hsearch
    · rename_i id next hfound
      obtain ⟨rfl, hfree⟩ := hsearch
      exact .inr ⟨hnew, id, hfree, by rw [hfound]⟩
    · rename_i hnone
      refine .inl ⟨hnew, fun n hn => ?_, by rw [hnone]⟩
      obtain ⟨k, hk, rfl⟩ := exists_idAfter_eq hr.counter hn
      exact hsearch k hk

section

variable (hr : r.Sound) (app : AppId) (permissions : Permissions) (behaviour : A)

include hr

theorem register_duplicate_iff :
    r.register app permissions behaviour = .error (.duplicateAppId app) ↔
      ∃ n ∈ r.apps, n.app = app := by
  rcases hr.register app permissions behaviour with
    ⟨hold, he⟩ | ⟨hnew, -, he⟩ | ⟨hnew, id, -, hok⟩
  · exact iff_of_true he hold
  · refine iff_of_false ?_ fun ⟨n, hn, happ⟩ => hnew n hn happ
    rw [he]
    exact fun h => by cases h
  · refine iff_of_false ?_ fun ⟨n, hn, happ⟩ => hnew n hn happ
    rw [hok]
    exact fun h => by cases h

theorem register_exhausted_iff :
    r.register app permissions behaviour = .error .instanceIdsExhausted ↔
      (∀ n ∈ r.apps, n.app ≠ app) ∧ r.Full := by
  rcases hr.register app permissions behaviour with
    ⟨⟨n, hn, happ⟩, he⟩ | ⟨hnew, hfull, he⟩ | ⟨-, id, hfree, hok⟩
  · refine iff_of_false ?_ fun h => h.1 n hn happ
    rw [he]
    exact fun h => by cases h
  · exact iff_of_true he ⟨hnew, hfull⟩
  · refine iff_of_false ?_ fun h => hfree.not_full h.2
    rw [hok]
    exact fun h => by cases h

theorem register_ok_iff (id : InstanceId) :
    (∃ r', r.register app permissions behaviour = .ok (id, r')) ↔
      (∀ n ∈ r.apps, n.app ≠ app) ∧ r.FirstFree id := by
  rcases hr.register app permissions behaviour with
    ⟨⟨n, hn, happ⟩, he⟩ | ⟨-, hfull, he⟩ | ⟨hnew, id', hfree, hok⟩
  · refine iff_of_false ?_ fun h => h.1 n hn happ
    rw [he]
    exact fun ⟨_, h⟩ => by cases h
  · refine iff_of_false ?_ fun h => h.2.not_full hfull
    rw [he]
    exact fun ⟨_, h⟩ => by cases h
  · rw [hok]
    constructor
    · rintro ⟨r', h⟩
      obtain ⟨rfl, -⟩ := Prod.mk.inj (Except.ok.inj h)
      exact ⟨hnew, hfree⟩
    · rintro ⟨-, hfree'⟩
      exact ⟨_, by rw [hfree'.unique hfree]⟩

end

/-- A nanoapp that is registered keeps the registry sound. -/
theorem of_register (hr : r.Sound) {app : AppId} {permissions : Permissions} {behaviour : A}
    {id : InstanceId} (hreg : r.register app permissions behaviour = .ok (id, r')) : r'.Sound := by
  rcases hr.register app permissions behaviour with ⟨-, he⟩ | ⟨-, -, he⟩ | ⟨hnew, id', hfree, hok⟩
  · rw [he] at hreg
    cases hreg
  · rw [he] at hreg
    cases hreg
  · have hascending := register_ascending hreg hr.ascending
    rw [hok] at hreg
    obtain ⟨rfl, rfl⟩ := Prod.mk.inj (Except.ok.inj hreg)
    obtain ⟨-, k, -, rfl, -⟩ := hfree
    have hperm := Hub.place_perm
      ⟨⟨idAfter r.nextId k⟩, app, permissions, [], some behaviour⟩ r.apps
    refine ⟨hascending, fun id hid => ?_, ?_, isId_rollover _⟩
    · rcases List.mem_cons.1 ((hperm.map (·.id)).mem_iff.1 hid) with rfl | hid
      · exact isId_idAfter _ _
      · exact hr.ranged id hid
    · refine (hperm.map (·.app)).nodup_iff.2 (List.nodup_cons.2 ⟨fun hin => ?_, hr.single⟩)
      obtain ⟨n, hn, happ⟩ := List.mem_map.1 hin
      exact hnew n hn happ

theorem remove (hr : r.Sound) (id : InstanceId) : (r.remove id).Sound := by
  have hsub : (r.remove id).apps.Sublist r.apps := List.filter_sublist
  exact ⟨hr.ascending.sublist (hsub.map _), fun i hi => hr.ranged i ((hsub.map _).subset hi),
    hr.single.sublist (hsub.map _), hr.counter⟩

/-- It is a matter of the roll only. -/
theorem of_roll (hr : r.Sound) (hroll : r'.roll = r.roll) : r'.Sound := by
  obtain ⟨hmembers, hnext⟩ := Prod.mk.inj hroll
  have hids : r'.ids = r.ids := by
    have h := congrArg (List.map Prod.fst) hmembers
    rwa [List.map_map, List.map_map] at h
  have happs : r'.apps.map (·.app) = r.apps.map (·.app) := by
    have h := congrArg (List.map Prod.snd) hmembers
    rwa [List.map_map, List.map_map] at h
  refine ⟨?_, hids ▸ hr.ranged, happs ▸ hr.single, hnext ▸ hr.counter⟩
  unfold Ascending
  rw [hids]
  exact hr.ascending

end Sound

end ContextHub.Registry
