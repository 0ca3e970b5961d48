import Graft.Json
import Mathlib.Data.List.Basic
import Mathlib.Data.List.Induction

namespace Graft

namespace Keyed

variable {α : Type}

theorem ofList_append (entries : List (String × α)) (m : String × α) :
    ofList (entries ++ [m]) = insert m.1 m.2 (ofList entries) := by
  simp [ofList]

theorem get?_append (key : String) (first second : List (String × α)) :
    get? key (first ++ second) = (get? key first).or (get? key second) := by
  induction first with
  | nil => rfl
  | cons m rest ih =>
    obtain ⟨k, v⟩ := m
    by_cases same : k = key <;> simp [get?_cons, same, ih]

/-- Sorting what is sorted changes nothing, so a canonical value is its own canonical form. -/
theorem Sorted.ofList_eq_self {entries : Keyed α} (h : Sorted entries) : ofList entries = entries := by
  induction entries using List.reverseRecOn with
  | nil => rfl
  | append_singleton front m ih =>
    obtain ⟨key, value⟩ := m
    obtain ⟨frontSorted, _, below⟩ := List.pairwise_append.mp h
    have sorted : Sorted front := frontSorted
    have fresh : get? key front = none := get?_eq_none fun other member same =>
      String.lt_irrefl key (same ▸ below other member (key, value) List.mem_cons_self)
    rw [ofList_append, ih sorted]
    refine (sorted.insert key value).ext h fun other => ?_
    rw [get?_insert, get?_append, get?_cons]
    by_cases same : other = key
    · simp [same, fresh]
    · simp [same, Ne.symm same]

theorem mem_of_get? {key : String} {value : α} {entries : Keyed α} (found : get? key entries = some value) :
    (key, value) ∈ entries := by
  induction entries with
  | nil => cases found
  | cons m rest ih =>
    obtain ⟨k, v⟩ := m
    rw [get?_cons] at found
    split at found
    · rename_i same
      cases found
      exact same ▸ List.mem_cons_self
    · exact List.mem_cons_of_mem _ (ih found)

end Keyed

namespace Json

/-- Every object in the value, at any depth, has its names strictly ascending. -/
def Canonical (value : Json) : Prop := value.canonical = value

instance (value : Json) : Decidable value.Canonical := inferInstanceAs (Decidable (value.canonical = value))

theorem map_eq_self_iff {α : Type} {f : α → α} {values : List α} :
    values.map f = values ↔ ∀ value ∈ values, f value = value := by
  simpa using List.map_inj_left (l := values) (f := f) (g := id)

theorem canonicalItems_eq_map (items : List Json) : canonicalItems items = items.map canonical := by
  induction items with
  | nil => rfl
  | cons item rest ih => simp [canonicalItems, ih]

theorem canonicalMembers_eq_map (members : List (String × Json)) :
    canonicalMembers members = members.map fun m => (m.1, m.2.canonical) := by
  induction members with
  | nil => rfl
  | cons m rest ih => simp [canonicalMembers, ih]

theorem canonical_arr_iff {items : List Json} : (Json.arr items).Canonical ↔ ∀ item ∈ items, item.Canonical := by
  simp only [Canonical, canonical, arr.injEq, canonicalItems_eq_map]
  exact map_eq_self_iff

/-- An object is canonical if its names ascend strictly and each of its values is canonical. -/
theorem canonical_obj_iff {members : Members} :
    (Json.obj members).Canonical ↔ Keyed.Sorted members ∧ ∀ m ∈ members, m.2.Canonical := by
  simp only [Canonical, canonical, obj.injEq, canonicalMembers_eq_map]
  have each : (members.map fun m => (m.1, m.2.canonical)) = members ↔ ∀ m ∈ members, m.2.canonical = m.2 := by
    rw [map_eq_self_iff]
    exact forall₂_congr fun m _ => Prod.ext_iff.trans ⟨And.right, fun h => ⟨rfl, h⟩⟩
  constructor
  · intro same
    have sorted : Keyed.Sorted members := same ▸ Keyed.sorted_ofList _
    have mapped : Keyed.Sorted (members.map fun m => (m.1, m.2.canonical)) := List.pairwise_map.mpr sorted
    rw [mapped.ofList_eq_self] at same
    exact ⟨sorted, each.mp same⟩
  · rintro ⟨sorted, members⟩
    rw [each.mpr members, sorted.ofList_eq_self]

theorem Canonical.sorted {members : Members} (h : (Json.obj members).Canonical) : Keyed.Sorted members :=
  (canonical_obj_iff.mp h).1

theorem Canonical.get? {key : String} {members : Members} {value : Json} (h : (Json.obj members).Canonical)
    (found : Keyed.get? key members = some value) : value.Canonical :=
  (canonical_obj_iff.mp h).2 _ (Keyed.mem_of_get? found)

theorem Canonical.item {items : List Json} (h : (Json.arr items).Canonical) : ∀ item ∈ items, item.Canonical :=
  canonical_arr_iff.mp h

theorem Canonical.insert {key : String} {members : Members} {value : Json} (h : (Json.obj members).Canonical)
    (new : value.Canonical) : (Json.obj (Keyed.insert key value members)).Canonical := by
  obtain ⟨sorted, each⟩ := canonical_obj_iff.mp h
  refine canonical_obj_iff.mpr ⟨sorted.insert key value, ?_⟩
  intro m member
  induction members with
  | nil => simp_all [Keyed.insert]
  | cons first rest ih =>
    obtain ⟨k, v⟩ := first
    have restSorted := (List.pairwise_cons.mp sorted).2
    have restEach : ∀ m ∈ rest, m.2.Canonical := fun m hm => each m (List.mem_cons_of_mem _ hm)
    unfold Keyed.insert at member
    split at member
    · rcases List.mem_cons.mp member with rfl | tail
      · exact new
      · exact restEach m tail
    · split at member
      · rcases List.mem_cons.mp member with rfl | tail
        · exact new
        · exact each m tail
      · rcases List.mem_cons.mp member with rfl | tail
        · exact each _ List.mem_cons_self
        · exact ih (canonical_obj_iff.mpr ⟨restSorted, restEach⟩) restSorted restEach tail

theorem Canonical.erase {members : Members} (h : (Json.obj members).Canonical) (key : String) :
    (Json.obj (Keyed.erase key members)).Canonical := by
  obtain ⟨sorted, each⟩ := canonical_obj_iff.mp h
  exact canonical_obj_iff.mpr ⟨sorted.erase key, fun m member => each m (List.mem_of_mem_filter member)⟩

end Json

end Graft
