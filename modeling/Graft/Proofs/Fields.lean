import Graft.Json.Reader
import Graft.Proofs.Canonical

namespace Graft

namespace Keyed

variable {α : Type}

/-- Entries without a repeated name keep their values when they are sorted. -/
theorem get?_ofList {entries : List (String × α)} (names : (entries.map Prod.fst).Nodup) (key : String) :
    get? key (ofList entries) = get? key entries := by
  induction entries using List.reverseRecOn with
  | nil => rfl
  | append_singleton front m ih =>
    obtain ⟨k, v⟩ := m
    rw [List.map_append, List.nodup_append] at names
    obtain ⟨names, -, apart⟩ := names
    rw [ofList_append, get?_insert, ih names, get?_append]
    by_cases same : key = k
    · have absent : get? k front = none := get?_eq_none fun m member =>
        apart m.1 (List.mem_map_of_mem member) k (by simp)
      simp [same, absent, get?_cons]
    · simp [same, get?_cons, Ne.symm same]

theorem mem_iff_get? {entries : List (String × α)} (names : (entries.map Prod.fst).Nodup) (key : String) (value : α) :
    (key, value) ∈ entries ↔ get? key entries = some value := by
  refine ⟨fun member => ?_, mem_of_get?⟩
  induction entries with
  | nil => cases member
  | cons m rest ih =>
    obtain ⟨apart, others⟩ := List.nodup_cons.mp names
    rw [get?_cons]
    rcases List.mem_cons.mp member with rfl | later
    · rw [if_pos rfl]
    · have ne : m.1 ≠ key := fun is => apart (is ▸ List.mem_map_of_mem (f := Prod.fst) later)
      rw [if_neg ne, ih others later]

/-- The order in which entries are sorted in does not matter, unless a name is repeated; then it decides which of the
values stays. -/
theorem ofList_perm {a b : List (String × α)} (perm : a.Perm b) (names : (a.map Prod.fst).Nodup) :
    ofList a = ofList b := by
  have names' : (b.map Prod.fst).Nodup := (perm.map Prod.fst).nodup_iff.mp names
  refine (sorted_ofList a).ext (sorted_ofList b) fun key => ?_
  rw [get?_ofList names, get?_ofList names']
  refine Option.ext fun value => ?_
  rw [← mem_iff_get? names, ← mem_iff_get? names', perm.mem_iff]

end Keyed

namespace Json

/-- Fields that are there have the names that all fields have, in their order. -/
theorem names_sublist (fields : List (String × Option Json)) :
    ((fields.filterMap fun f => f.2.map fun v => (f.1, v)).map Prod.fst).Sublist (fields.map Prod.fst) := by
  induction fields with
  | nil => exact .refl _
  | cons f rest ih =>
    obtain ⟨name, _ | value⟩ := f
    · exact ih.cons name
    · exact ih.cons_cons name

/-- An object of fields holds under the name of each field its value, if there is one, and nothing else. No two fields
may have one name. -/
theorem get?_ofFields {fields : List (String × Option Json)} (names : (fields.map Prod.fst).Nodup) (key : String) :
    (ofFields fields).get? key = (Keyed.get? key fields).join := by
  refine (Keyed.get?_ofList ((names_sublist fields).nodup names) key).trans ?_
  induction fields with
  | nil => rfl
  | cons f rest ih =>
    obtain ⟨name, value⟩ := f
    obtain ⟨apart, others⟩ := List.nodup_cons.mp names
    rw [Keyed.get?_cons]
    by_cases same : name = key
    · subst same
      cases value with
      | some value => simp [Keyed.get?_cons]
      | none =>
        have absent : Keyed.get? name (rest.filterMap fun f => f.2.map fun v => (f.1, v)) = none :=
          Keyed.get?_eq_none fun m member is =>
            apart (is ▸ (names_sublist rest).subset (List.mem_map_of_mem member))
        simpa using absent
    · cases value <;> simp [Keyed.get?_cons, same, ih others]

end Json

end Graft
