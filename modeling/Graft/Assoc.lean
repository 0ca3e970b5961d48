universe u v

namespace Graft

/-- A finite map as a list of entries, oldest entry first. `set` never makes a second entry of a key, so maps built by
it have none twice. -/
abbrev Assoc (κ : Type u) (α : Type v) := List (κ × α)

namespace Assoc

variable {κ : Type u} {α : Type v} [DecidableEq κ]

def get? (key : κ) : Assoc κ α → Option α
  | [] => none
  | (k, v) :: rest => if k = key then some v else get? key rest

/-- Sets an entry in its place, or at the end if it is new. -/
def set (key : κ) (value : α) : Assoc κ α → Assoc κ α
  | [] => [(key, value)]
  | (k, v) :: rest => if k = key then (k, value) :: rest else (k, v) :: set key value rest

def erase (key : κ) (entries : Assoc κ α) : Assoc κ α := entries.filter fun e => e.1 ≠ key

def keys (entries : Assoc κ α) : List κ := entries.map Prod.fst

@[simp] theorem get?_set_self (key : κ) (value : α) (entries : Assoc κ α) :
    get? key (set key value entries) = some value := by
  induction entries with
  | nil => simp [set, get?]
  | cons e rest ih =>
    obtain ⟨k, v⟩ := e
    by_cases h : k = key <;> simp [set, get?, h, ih]

theorem get?_set_of_ne {key other : κ} (h : other ≠ key) (value : α) (entries : Assoc κ α) :
    get? other (set key value entries) = get? other entries := by
  induction entries with
  | nil => simp [set, get?, Ne.symm h]
  | cons e rest ih =>
    obtain ⟨k, v⟩ := e
    by_cases hk : k = key
    · simp [set, get?, hk, Ne.symm h]
    · simp [set, get?, hk, ih]

@[simp] theorem get?_erase_self (key : κ) (entries : Assoc κ α) : get? key (erase key entries) = none := by
  induction entries with
  | nil => rfl
  | cons e rest ih =>
    obtain ⟨k, v⟩ := e
    unfold erase at ih ⊢
    by_cases h : k = key
    · simpa [h] using ih
    · simpa [List.filter_cons, h, get?] using ih

theorem get?_erase_of_ne {key other : κ} (h : other ≠ key) (entries : Assoc κ α) :
    get? other (erase key entries) = get? other entries := by
  induction entries with
  | nil => rfl
  | cons e rest ih =>
    obtain ⟨k, v⟩ := e
    unfold erase at ih ⊢
    by_cases hk : k = key
    · simpa [hk, get?, Ne.symm h] using ih
    · simp only [List.filter_cons, get?]
      split <;> simp_all [get?]

end Assoc

end Graft
