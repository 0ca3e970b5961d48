universe u

namespace Graft

/-- Entries with their names, in ascending order by code point where they make up a map. Entries in that order are known
by what `get?` finds; the laws of `get?` hold of any list. -/
abbrev Keyed (α : Type u) := List (String × α)

namespace Keyed

variable {α : Type u}

/-- The value of the first entry of a name. -/
def get? (key : String) : Keyed α → Option α
  | [] => none
  | (k, v) :: rest => if k = key then some v else get? key rest

/-- Sets an entry, before the first greater name if there is none of its name. -/
def insert (key : String) (value : α) : Keyed α → Keyed α
  | [] => [(key, value)]
  | (k, v) :: rest =>
    if k = key then (key, value) :: rest
    else if key < k then (key, value) :: (k, v) :: rest
    else (k, v) :: insert key value rest

def erase (key : String) (entries : Keyed α) : Keyed α := entries.filter fun m => m.1 ≠ key

def contains (key : String) (entries : Keyed α) : Bool := (get? key entries).isSome

/-- Sorted entries; of several with one name the last counts. -/
def ofList (entries : List (String × α)) : Keyed α :=
  entries.foldl (fun acc m => insert m.1 m.2 acc) []

/-- Names strictly ascend. -/
def Sorted (entries : Keyed α) : Prop := entries.Pairwise fun a b => a.1 < b.1

@[simp] theorem get?_nil (key : String) : get? key ([] : Keyed α) = none := rfl

theorem get?_cons (key k : String) (v : α) (rest : Keyed α) :
    get? key ((k, v) :: rest) = if k = key then some v else get? key rest := rfl

@[simp] theorem get?_insert_self (key : String) (value : α) (entries : Keyed α) :
    get? key (insert key value entries) = some value := by
  induction entries with
  | nil => simp [insert, get?]
  | cons m rest ih =>
    obtain ⟨k, v⟩ := m
    unfold insert
    split
    · simp [get?]
    · rename_i hne
      split
      · simp [get?]
      · simp [get?, hne, ih]

theorem get?_insert_of_ne {key other : String} (h : other ≠ key) (value : α) (entries : Keyed α) :
    get? other (insert key value entries) = get? other entries := by
  induction entries with
  | nil => simp [insert, get?, Ne.symm h]
  | cons m rest ih =>
    obtain ⟨k, v⟩ := m
    unfold insert
    split
    · rename_i hk
      simp [get?, hk, Ne.symm h]
    · split
      · simp [get?, Ne.symm h]
      · simp [get?, ih]

@[simp] theorem get?_erase_self (key : String) (entries : Keyed α) : get? key (erase key entries) = none := by
  induction entries with
  | nil => rfl
  | cons m rest ih =>
    obtain ⟨k, v⟩ := m
    unfold erase at ih ⊢
    by_cases h : k = key
    · simpa [h] using ih
    · simpa [List.filter_cons, h, get?] using ih

theorem get?_erase_of_ne {key other : String} (h : other ≠ key) (entries : Keyed α) :
    get? other (erase key entries) = get? other entries := by
  induction entries with
  | nil => rfl
  | cons m rest ih =>
    obtain ⟨k, v⟩ := m
    unfold erase at ih ⊢
    by_cases hk : k = key
    · simpa [hk, get?, Ne.symm h] using ih
    · simp only [List.filter_cons, get?]
      split <;> simp_all [get?]

theorem fst_mem_of_mem_insert {key : String} {value : α} {entries : Keyed α} {m : String × α}
    (h : m ∈ insert key value entries) : m.1 = key ∨ m ∈ entries := by
  induction entries with
  | nil => exact .inl (by simp_all [insert])
  | cons first rest ih =>
    obtain ⟨k, v⟩ := first
    unfold insert at h
    split at h
    · rcases List.mem_cons.mp h with rfl | tail
      · exact .inl rfl
      · exact .inr (List.mem_cons_of_mem _ tail)
    · split at h
      · rcases List.mem_cons.mp h with rfl | tail
        · exact .inl rfl
        · exact .inr tail
      · rcases List.mem_cons.mp h with rfl | tail
        · exact .inr List.mem_cons_self
        · exact (ih tail).imp_right (List.mem_cons_of_mem _)

/-- Of two different names one is the smaller. -/
theorem lt_of_not_lt {a b : String} (ne : a ≠ b) (h : ¬ b < a) : a < b :=
  Decidable.byContradiction fun not_lt => ne (String.le_antisymm (String.not_lt.mp h) (String.not_lt.mp not_lt))

theorem Sorted.insert {entries : Keyed α} (h : Sorted entries) (key : String) (value : α) :
    Sorted (entries.insert key value) := by
  induction entries with
  | nil => simp [Keyed.insert, Sorted]
  | cons first rest ih =>
    obtain ⟨k, v⟩ := first
    obtain ⟨smaller, sorted⟩ := List.pairwise_cons.mp h
    unfold Keyed.insert
    split
    · rename_i eq
      exact List.pairwise_cons.mpr ⟨fun m hm => eq ▸ smaller m hm, sorted⟩
    · rename_i ne
      split
      · rename_i lt
        refine List.pairwise_cons.mpr ⟨fun m hm => ?_, h⟩
        rcases List.mem_cons.mp hm with rfl | tail
        · exact lt
        · exact String.lt_trans lt (smaller m tail)
      · rename_i not_lt
        refine List.pairwise_cons.mpr ⟨fun m hm => ?_, ih sorted⟩
        rcases fst_mem_of_mem_insert hm with eq | tail
        · exact eq ▸ lt_of_not_lt ne not_lt
        · exact smaller m tail

theorem Sorted.erase {entries : Keyed α} (h : Sorted entries) (key : String) : Sorted (entries.erase key) :=
  List.Pairwise.filter _ h

theorem sorted_ofList (entries : List (String × α)) : Sorted (ofList entries) := by
  have step (acc : Keyed α) (h : Sorted acc) :
      Sorted (entries.foldl (fun acc m => Keyed.insert m.1 m.2 acc) acc) := by
    induction entries generalizing acc with
    | nil => exact h
    | cons m rest ih => exact ih _ (h.insert m.1 m.2)
  exact step [] List.Pairwise.nil

theorem get?_eq_none {key : String} {entries : Keyed α} (h : ∀ m ∈ entries, m.1 ≠ key) : get? key entries = none := by
  induction entries with
  | nil => rfl
  | cons first rest ih =>
    obtain ⟨k, v⟩ := first
    rw [get?_cons, if_neg (h (k, v) List.mem_cons_self), ih fun m hm => h m (List.mem_cons_of_mem _ hm)]

/-- Sorted entries are known by the values of their names. -/
theorem Sorted.ext {a b : Keyed α} (ha : Sorted a) (hb : Sorted b) (h : ∀ key, get? key a = get? key b) : a = b := by
  induction a generalizing b with
  | nil =>
    cases b with
    | nil => rfl
    | cons first rest =>
      have := h first.1
      rw [get?_cons, if_pos rfl] at this
      cases this
  | cons first rest ih =>
    obtain ⟨k, v⟩ := first
    obtain ⟨smaller, sorted⟩ := List.pairwise_cons.mp ha
    cases b with
    | nil => simpa [get?_cons] using h k
    | cons first' rest' =>
      obtain ⟨l, w⟩ := first'
      obtain ⟨smaller', sorted'⟩ := List.pairwise_cons.mp hb
      have absent : get? k rest = none := get?_eq_none fun m hm eq => String.lt_irrefl k (eq ▸ smaller m hm)
      have absent' : get? l rest' = none := get?_eq_none fun m hm eq => String.lt_irrefl l (eq ▸ smaller' m hm)
      have same : k = l := Decidable.byContradiction fun ne => by
        have inRest' : get? k rest' = some v := by simpa [get?_cons, Ne.symm ne] using (h k).symm
        have inRest : get? l rest = some w := by simpa [get?_cons, ne] using h l
        by_cases lt : l < k
        · have missing : get? l rest = none := get?_eq_none fun m hm is => String.lt_asymm lt (is ▸ smaller m hm)
          rw [missing] at inRest
          cases inRest
        · have missing : get? k rest' = none := get?_eq_none fun m hm is => lt (is ▸ smaller' m hm)
          rw [missing] at inRest'
          cases inRest'
      subst same
      have values : v = w := by simpa [get?_cons] using h k
      subst values
      rw [ih sorted sorted' fun key => ?_]
      by_cases eq : key = k
      · rw [eq, absent, absent']
      · simpa [get?_cons, Ne.symm eq] using h key

theorem get?_insert (key other : String) (value : α) (entries : Keyed α) :
    get? other (insert key value entries) = if other = key then some value else get? other entries := by
  split
  · rename_i eq
    rw [eq, get?_insert_self]
  · rename_i ne
    exact get?_insert_of_ne ne value entries

theorem get?_erase (key other : String) (entries : Keyed α) :
    get? other (erase key entries) = if other = key then none else get? other entries := by
  split
  · rename_i eq
    rw [eq, get?_erase_self]
  · rename_i ne
    exact get?_erase_of_ne ne entries

theorem insert_insert_self (key : String) (first second : α) (entries : Keyed α) :
    insert key second (insert key first entries) = insert key second entries := by
  induction entries with
  | nil => simp [insert]
  | cons m rest ih =>
    obtain ⟨k, v⟩ := m
    by_cases same : k = key
    · simp [insert, same]
    · by_cases less : key < k <;> simp [insert, same, less, ih]

/-- Setting what is already there changes nothing. -/
theorem Sorted.insert_eq_self {key : String} {value : α} {entries : Keyed α} (h : Sorted entries)
    (found : get? key entries = some value) : entries.insert key value = entries := by
  refine (h.insert key value).ext h fun other => ?_
  rw [get?_insert]
  split
  · rename_i eq
    rw [eq, found]
  · rfl

theorem Sorted.erase_eq_self {key : String} {entries : Keyed α} (h : Sorted entries)
    (absent : get? key entries = none) : entries.erase key = entries := by
  refine (h.erase key).ext h fun other => ?_
  rw [get?_erase]
  split
  · rename_i eq
    rw [eq, absent]
  · rfl

end Keyed

end Graft
