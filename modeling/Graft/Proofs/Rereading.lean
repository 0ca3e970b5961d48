import Graft.Proofs.Canonical
import Graft.Workload

namespace Graft

open Json

namespace Keyed

variable {α : Type}

/-- Gives the entries of a name another value. -/
def replace (key : String) (value : α) (entries : Keyed α) : Keyed α :=
  entries.map fun m => (m.1, if m.1 = key then value else m.2)

theorem replace_cons (key : String) (value : α) (m : String × α) (rest : Keyed α) :
    replace key value (m :: rest) = (m.1, if m.1 = key then value else m.2) :: replace key value rest := rfl

theorem get?_replace (key other : String) (value : α) (entries : Keyed α) :
    get? other (replace key value entries) =
      if other = key then (get? key entries).map fun _ => value else get? other entries := by
  induction entries with
  | nil => simp [replace]
  | cons m rest ih =>
    obtain ⟨k, v⟩ := m
    rw [replace_cons, get?_cons, ih, get?_cons, get?_cons]
    by_cases isOther : k = other
    · subst isOther
      by_cases isKey : k = key <;> simp [isKey]
    · by_cases same : other = key
      · subst same
        simp [isOther]
      · simp [isOther, same]

theorem Sorted.replace {entries : Keyed α} (h : Sorted entries) (key : String) (value : α) :
    Sorted (entries.replace key value) := List.pairwise_map.mpr h

theorem Sorted.insert_eq_replace {entries : Keyed α} (h : Sorted entries) {key : String}
    (has : (get? key entries).isSome) (value : α) : entries.insert key value = entries.replace key value := by
  refine (h.insert key value).ext (h.replace key value) fun other => ?_
  obtain ⟨old, found⟩ := Option.isSome_iff_exists.mp has
  rw [get?_insert, get?_replace, found]
  rfl

theorem replace_insert (key other : String) (value new : α) (entries : Keyed α) :
    replace key value (insert other new entries) =
      insert other (if other = key then value else new) (replace key value entries) := by
  induction entries with
  | nil => rfl
  | cons m rest ih =>
    obtain ⟨k, v⟩ := m
    rw [replace_cons]
    unfold insert
    split
    · rfl
    · split
      · rfl
      · rw [replace_cons, ih]

theorem replace_ofList (key : String) (value : α) (entries : List (String × α)) :
    ofList (replace key value entries) = replace key value (ofList entries) := by
  induction entries using List.reverseRecOn with
  | nil => rfl
  | append_singleton front m ih =>
    have split : replace key value (front ++ [m]) =
        replace key value front ++ [(m.1, if m.1 = key then value else m.2)] := List.map_append
    rw [split, ofList_append, ofList_append, ih, replace_insert]

end Keyed

namespace Json

open Keyed

theorem canonicalMembers_replace (key : String) {value : Json} (canonical : value.Canonical)
    (members : List (String × Json)) :
    canonicalMembers (replace key value members) = replace key value (canonicalMembers members) := by
  rw [canonicalMembers_eq_map, canonicalMembers_eq_map, replace, replace, List.map_map, List.map_map]
  refine List.map_congr_left fun m _ => ?_
  by_cases same : m.1 = key
  · have unchanged : value.canonical = value := canonical
    simp [same, unchanged]
  · simp [same]

theorem Record.takeOpen_replace {schema : Keyed Reader.Check} {key : String} (free : schema.get? key = none)
    (value : Json) (closed : Bool) (seen : Keyed Draft) (others members : List (String × Json)) :
    Record.takeOpen schema closed seen (replace key value others) (draftMembers (replace key value members)) =
      (Record.takeOpen schema closed seen others (draftMembers members)).map
        fun taken => (taken.1, replace key value taken.2) := by
  induction members generalizing seen others with
  | nil =>
    cases closed with
    | false => rfl
    | true => exact congrArg (fun others => Except.ok (seen, others)) List.map_reverse.symm
  | cons m rest ih =>
    obtain ⟨k, v⟩ := m
    rw [replace_cons, draftMembers, draftMembers, Record.takeOpen, Record.takeOpen]
    cases found : schema.get? k with
    | some test =>
      have other : k ≠ key := by
        rintro rfl
        rw [free] at found
        cases found
      simp only [other, if_false]
      split
      · rfl
      · cases test (draft v) with
        | error fault => rfl
        | ok _ => exact ih _ _
    | none =>
      simp only [value?_draft]
      exact ih seen ((k, v) :: others)

end Json

namespace TypeMeta

open Keyed

theorem take_cons (version kind : Option String) (key : String) (value : Json) (rest : List (String × Json)) :
    take version kind ((key, value) :: rest) =
      if key = "apiVersion" then
        match value, version with
        | .str v, none => take (some v) kind rest
        | _, _ => (none, rest)
      else if key = "kind" then
        match value, kind with
        | .str k, none => take version (some k) rest
        | _, _ => (none, rest)
      else ((take version kind rest).1, (key, value) :: (take version kind rest).2) := rfl

theorem take_replace {key : String} (notVersion : key ≠ "apiVersion") (notKind : key ≠ "kind") (value : Json)
    (version kind : Option String) (members : List (String × Json)) :
    take version kind (replace key value members) =
      ((take version kind members).1, replace key value (take version kind members).2) := by
  induction members generalizing version kind with
  | nil => rfl
  | cons m rest ih =>
    obtain ⟨k, v⟩ := m
    rw [replace_cons, take_cons, take_cons]
    by_cases isVersion : k = "apiVersion"
    · have other : k ≠ key := fun same => notVersion (same ▸ isVersion)
      rw [if_pos isVersion, if_pos isVersion, if_neg other]
      cases v with
      | str text =>
        cases version with
        | none => exact ih _ _
        | some _ => rfl
      | _ => rfl
    · rw [if_neg isVersion, if_neg isVersion]
      by_cases isKind : k = "kind"
      · have other : k ≠ key := fun same => notKind (same ▸ isKind)
        rw [if_pos isKind, if_pos isKind, if_neg other]
        cases v with
        | str text =>
          cases kind with
          | none => exact ih _ _
          | some _ => rfl
        | _ => rfl
      · rw [if_neg isKind, if_neg isKind, ih]
        rfl

theorem split_replace {key : String} (notVersion : key ≠ "apiVersion") (notKind : key ≠ "kind") (value : Json)
    (members : List (String × Json)) :
    split (replace key value members) = ((split members).1, replace key value (split members).2) := by
  unfold split
  rw [take_replace notVersion notKind]
  cases take none none members with
  | mk found left =>
    rcases found with _ | ⟨_ | version, _ | kind⟩ <;> rfl

end TypeMeta

namespace Workload

open Keyed TypeMeta

/-- The workload that is read changes with a member that is neither its metadata nor part of its type, and in that
member only. The value passes through as it is, if it is canonical. -/
theorem ofJson?_replace {key : String} (notMetadata : key ≠ "metadata") (notVersion : key ≠ "apiVersion")
    (notKind : key ≠ "kind") {value : Json} (canonical : value.Canonical) (members : Members) :
    ofJson? (.obj (replace key value members)) =
      (ofJson? (.obj members)).map fun w => { w with data := replace key value w.data } := by
  have free : Keyed.get? key [("metadata", Reader.check ObjectMeta.read)] = none := by
    simp [get?_cons, notMetadata.symm]
  have taken := Record.takeOpen_replace free value true [] [] members
  unfold ofJson? read Record.readOpen
  simp only [draft]
  have nil : replace key value ([] : List (String × Json)) = [] := rfl
  rw [nil] at taken
  rw [taken]
  cases Record.takeOpen [("metadata", Reader.check ObjectMeta.read)] true [] [] (draftMembers members) with
  | error fault => rfl
  | ok found =>
    obtain ⟨fields, others⟩ := found
    simp only [Except.map, bind, Except.bind, split_replace notVersion notKind]
    cases Record.orElse ⟨fields, false⟩ "metadata" ObjectMeta.read {} with
    | error fault => rfl
    | ok metadata =>
      simp [pure, Except.pure, Except.toOption, canonicalMembers_replace key canonical, replace_ofList]

/-- So it is when the workload is written. -/
theorem toJson_replace {key : String} (notMetadata : key ≠ "metadata") (notVersion : key ≠ "apiVersion")
    (notKind : key ≠ "kind") (value : Json) (w : Workload) {members : Members} (eq : w.toJson = .obj members) :
    toJson { w with data := replace key value w.data } = .obj (replace key value members) := by
  cases eq
  unfold toJson
  simp only [replace_insert, Ne.symm notMetadata, if_false]
  cases w.types with
  | none => rfl
  | some types => simp only [replace_insert, Ne.symm notVersion, Ne.symm notKind, if_false]

end Workload

end Graft
