import Graft.Proofs.Canonical

namespace Graft

namespace Keyed

variable {α : Type}

/-- Sets or erases an entry, by what there is under its name. Alterations of different names commute and those of one
name compose, so an operation that is a chain of alterations is known by what it does to each value. -/
def alter (key : String) (f : Option α → Option α) (entries : Keyed α) : Keyed α :=
  match f (get? key entries) with
  | some value => insert key value entries
  | none => erase key entries

theorem insert_ne_nil (key : String) (value : α) (entries : Keyed α) : insert key value entries ≠ [] := by
  intro none
  have there := get?_insert_self key value entries
  rw [none] at there
  cases there

theorem erase_of_absent {key : String} {entries : Keyed α} (absent : get? key entries = none) :
    erase key entries = entries := by
  refine List.filter_eq_self.mpr fun m member => decide_eq_true fun same => ?_
  induction entries with
  | nil => cases member
  | cons first rest ih =>
    obtain ⟨k, v⟩ := first
    rw [get?_cons] at absent
    split at absent
    · cases absent
    · rename_i ne
      rcases List.mem_cons.mp member with rfl | tail
      · exact ne same
      · exact ih absent tail

theorem get?_alter (key other : String) (f : Option α → Option α) (entries : Keyed α) :
    get? other (alter key f entries) = if other = key then f (get? key entries) else get? other entries := by
  unfold alter
  split
  · rename_i value made
    rw [get?_insert, made]
  · rename_i made
    rw [get?_erase, made]

@[simp] theorem get?_alter_self (key : String) (f : Option α → Option α) (entries : Keyed α) :
    get? key (alter key f entries) = f (get? key entries) := by
  rw [get?_alter, if_pos rfl]

theorem get?_alter_of_ne {key other : String} (ne : other ≠ key) (f : Option α → Option α) (entries : Keyed α) :
    get? other (alter key f entries) = get? other entries := by
  rw [get?_alter, if_neg ne]

theorem alter_of_some {key : String} {f : Option α → Option α} {entries : Keyed α} {value : α}
    (made : f (get? key entries) = some value) : alter key f entries = insert key value entries := by
  rw [alter, made]

theorem alter_insert_self (key : String) (f : α → α) (value : α) (entries : Keyed α) :
    alter key (Option.map f) (insert key value entries) = insert key (f value) entries := by
  have made : (get? key (insert key value entries)).map f = some (f value) := by
    rw [get?_insert_self]
    rfl
  rw [alter_of_some made, insert_insert_self]

theorem alter_congr {key : String} {f g : Option α → Option α} {entries : Keyed α}
    (same : f (get? key entries) = g (get? key entries)) : alter key f entries = alter key g entries := by
  rw [alter, alter, same]

theorem Sorted.alter {entries : Keyed α} (h : Sorted entries) (key : String) (f : Option α → Option α) :
    Sorted (entries.alter key f) := by
  unfold Keyed.alter
  split
  · exact h.insert key _
  · exact h.erase key

theorem Sorted.alter_eq_self {key : String} {f : Option α → Option α} {entries : Keyed α} (h : Sorted entries)
    (same : f (get? key entries) = get? key entries) : entries.alter key f = entries := by
  refine (h.alter key f).ext h fun other => ?_
  rw [get?_alter]
  split
  · rename_i eq
    rw [same, eq]
  · rfl

theorem Sorted.alter_alter {entries : Keyed α} (h : Sorted entries) (key : String) (f g : Option α → Option α) :
    (entries.alter key f).alter key g = entries.alter key (g ∘ f) := by
  refine ((h.alter key f).alter key g).ext (h.alter key _) fun other => ?_
  simp only [get?_alter, if_true, Function.comp_apply]
  split <;> rfl

/-- Alterations of different names commute. In a list that is out of order they need not, for a new entry goes before
the first greater name. -/
theorem Sorted.alter_comm {entries : Keyed α} (h : Sorted entries) {key other : String} (ne : key ≠ other)
    (f g : Option α → Option α) : (entries.alter key f).alter other g = (entries.alter other g).alter key f := by
  refine ((h.alter key f).alter other g).ext ((h.alter other g).alter key f) fun name => ?_
  simp only [get?_alter, if_neg ne, if_neg ne.symm]
  split
  · rename_i eq
    rw [if_neg (eq ▸ ne.symm)]
  · rfl

/-- Two names altered twice, one after the other, are two names altered once each. A reversal after an injection is of
this form. -/
theorem Sorted.alter_twice {entries : Keyed α} (h : Sorted entries) {key other : String} (ne : key ≠ other)
    (f g f' g' : Option α → Option α) :
    (((entries.alter key f).alter other g).alter key f').alter other g' =
      (entries.alter key (f' ∘ f)).alter other (g' ∘ g) := by
  rw [(h.alter key f).alter_comm ne.symm, h.alter_alter, (h.alter key _).alter_alter]

end Keyed

namespace Json

/-- The items of a member, none unless it is a list. -/
def listed (member : Option Json) : List Json := (member.bind arr?).getD []

/-- The members of a member, none unless it is an object. -/
def mapped (member : Option Json) : Members := (member.bind obj?).getD []

def onMembers (f : Members → Members) : Json → Json
  | .obj members => .obj (f members)
  | other => other

def onItems (f : List Json → List Json) : Json → Json
  | .arr items => .arr (f items)
  | other => other

/-- A member that a list may be put into: it is absent or a list. -/
def Listable (member : Option Json) : Prop := member = none ∨ ∃ items, member = some (.arr items)

/-- A member that a map may be put into. -/
def Mappable (member : Option Json) : Prop := member = none ∨ ∃ members, member = some (.obj members)

/-- A member without a list that is empty. -/
def nonEmptyList : Option Json → Option Json
  | some (.arr []) => none
  | member => member

/-- A member without a map that is empty. -/
def nonEmptyMap : Option Json → Option Json
  | some (.obj []) => none
  | member => member

/-- A member with other items, also where there was no list. -/
def grow (f : List Json → List Json) (member : Option Json) : Option Json := some (.arr (f (listed member)))

def growMap (f : Members → Members) (member : Option Json) : Option Json := some (.obj (f (mapped member)))

/-- A member with other items. A list that this empties goes. -/
def shrink (f : List Json → List Json) : Option Json → Option Json
  | some (.arr items) => if (f items).isEmpty && !items.isEmpty then none else some (.arr (f items))
  | member => member

/-- A member with other members. A map that this empties goes. -/
def shrinkMap (f : Members → Members) : Option Json → Option Json
  | some (.obj members) => if (f members).isEmpty && !members.isEmpty then none else some (.obj (f members))
  | member => member

theorem listed_nonEmptyList (member : Option Json) : listed (nonEmptyList member) = listed member := by
  unfold nonEmptyList
  split <;> rfl

theorem mapped_nonEmptyMap (member : Option Json) : mapped (nonEmptyMap member) = mapped member := by
  unfold nonEmptyMap
  split <;> rfl

theorem listable_nonEmptyList_iff {member : Option Json} : Listable (nonEmptyList member) ↔ Listable member := by
  unfold nonEmptyList
  split
  · exact ⟨fun _ => .inr ⟨[], rfl⟩, fun _ => .inl rfl⟩
  · rfl

theorem mappable_nonEmptyMap_iff {member : Option Json} : Mappable (nonEmptyMap member) ↔ Mappable member := by
  unfold nonEmptyMap
  split
  · exact ⟨fun _ => .inr ⟨[], rfl⟩, fun _ => .inl rfl⟩
  · rfl

theorem grow_nonEmptyList (f : List Json → List Json) (member : Option Json) :
    grow f (nonEmptyList member) = grow f member := by
  rw [grow, listed_nonEmptyList, grow]

theorem growMap_nonEmptyMap (f : Members → Members) (member : Option Json) :
    growMap f (nonEmptyMap member) = growMap f member := by
  rw [growMap, mapped_nonEmptyMap, growMap]

theorem shrink_eq_self {f : List Json → List Json} {member : Option Json}
    (same : f (listed member) = listed member) : shrink f member = member := by
  unfold shrink
  split
  · rename_i items
    have same : f items = items := same
    rw [same]
    cases items <;> rfl
  · rfl

theorem listed_shrink {f : List Json → List Json} (nil : f [] = []) (member : Option Json) :
    listed (shrink f member) = f (listed member) := by
  unfold shrink
  split
  · rename_i items
    split
    · rename_i emptied
      exact (List.isEmpty_iff.mp (Bool.and_eq_true_iff.mp emptied).1).symm
    · rfl
  · rename_i notList
    have none : listed member = [] := by
      cases member with
      | none => rfl
      | some value =>
        cases value with
        | arr items => exact absurd rfl (notList items)
        | _ => rfl
    rw [none, nil]

/-- A member is left alone exactly if its items are. A list that was empty before is one that this keeps, though it is
empty after. -/
theorem shrink_eq_self_iff {f : List Json → List Json} (nil : f [] = []) {member : Option Json} :
    shrink f member = member ↔ f (listed member) = listed member :=
  ⟨fun same => by rw [← listed_shrink nil, same], shrink_eq_self⟩

theorem listable_shrink_iff {f : List Json → List Json} {member : Option Json} :
    Listable (shrink f member) ↔ Listable member := by
  unfold shrink
  split
  · split
    · exact ⟨fun _ => .inr ⟨_, rfl⟩, fun _ => .inl rfl⟩
    · exact ⟨fun _ => .inr ⟨_, rfl⟩, fun _ => .inr ⟨_, rfl⟩⟩
  · rfl

/-- Undoing what has grown leaves what was there before, without a list that was empty. The growth has to leave
something, or the undoing would find no list and leave the member as it is. -/
theorem shrink_grow {f g : List Json → List Json} {member : Option Json} (listable : Listable member)
    (undone : g (f (listed member)) = listed member) (grown : f (listed member) ≠ []) :
    shrink g (grow f member) = nonEmptyList member := by
  have some : (f (listed member)).isEmpty = false := List.isEmpty_eq_false_iff.mpr grown
  simp only [shrink, grow, undone, some, Bool.not_false, Bool.and_true]
  rcases listable with rfl | ⟨items, rfl⟩
  · rfl
  · cases items <;> rfl

theorem shrinkMap_eq_self {f : Members → Members} {member : Option Json}
    (same : ∀ members, member = some (.obj members) → f members = members) : shrinkMap f member = member := by
  unfold shrinkMap
  split
  · rename_i members
    rw [same members rfl]
    cases members <;> rfl
  · rfl

theorem mapped_eq_nil {member : Option Json} (notMap : ∀ members, member ≠ some (.obj members)) :
    mapped member = [] := by
  cases member with
  | none => rfl
  | some value =>
    cases value with
    | obj members => exact absurd rfl (notMap members)
    | _ => rfl

theorem mapped_shrinkMap {f : Members → Members} (nil : f [] = []) (member : Option Json) :
    mapped (shrinkMap f member) = f (mapped member) := by
  unfold shrinkMap
  split
  · split
    · rename_i emptied
      exact (List.isEmpty_iff.mp (Bool.and_eq_true_iff.mp emptied).1).symm
    · rfl
  · rename_i notMap
    rw [mapped_eq_nil notMap, nil]

theorem mappable_shrinkMap_iff {f : Members → Members} {member : Option Json} :
    Mappable (shrinkMap f member) ↔ Mappable member := by
  unfold shrinkMap
  split
  · split
    · exact ⟨fun _ => .inr ⟨_, rfl⟩, fun _ => .inl rfl⟩
    · exact ⟨fun _ => .inr ⟨_, rfl⟩, fun _ => .inr ⟨_, rfl⟩⟩
  · rfl

theorem shrinkMap_growMap {f g : Members → Members} {member : Option Json} (grown : f (mapped member) ≠ []) :
    shrinkMap g (growMap f member) = nonEmptyMap (some (.obj (g (f (mapped member))))) := by
  have some : (f (mapped member)).isEmpty = false := List.isEmpty_eq_false_iff.mpr grown
  simp only [shrinkMap, growMap, some, Bool.not_false, Bool.and_true]
  cases g (f (mapped member)) <;> rfl

theorem nonEmptyMap_of_mappable {member : Option Json} (mappable : Mappable member) :
    nonEmptyMap (some (.obj (mapped member))) = nonEmptyMap member := by
  rcases mappable with rfl | ⟨members, rfl⟩ <;> rfl

theorem alter_shrinkMap {key : String} {f : Members → Members} {members : Members} (sorted : Keyed.Sorted members) :
    Keyed.alter key (shrinkMap f) members = match Keyed.get? key members with
      | some (.obj inner) =>
        if (f inner).isEmpty && !inner.isEmpty then Keyed.erase key members
        else Keyed.insert key (.obj (f inner)) members
      | _ => members := by
  split
  · rename_i inner found
    simp only [Keyed.alter, found, shrinkMap]
    split <;> rename_i made
    · split at made
      · cases made
      · rename_i kept
        rw [if_neg kept, Option.some.inj made]
    · split at made
      · rename_i emptied
        rw [if_pos emptied]
      · cases made
  · rename_i notMap
    refine sorted.alter_eq_self (shrinkMap_eq_self fun inner found => ?_)
    exact absurd found (notMap inner)

theorem getD_eq_arr_iff {member : Option Json} {items : List Json} :
    member.getD (.arr []) = .arr items ↔ Listable member ∧ listed member = items := by
  cases member with
  | none => simp [Listable, listed]
  | some value => cases value <;> simp [Listable, listed, arr?]

theorem getD_eq_obj_iff {member : Option Json} {members : Members} :
    member.getD (.obj []) = .obj members ↔ Mappable member ∧ mapped member = members := by
  cases member with
  | none => simp [Mappable, mapped]
  | some value => cases value <;> simp [Mappable, mapped, obj?]

theorem alter_shrink {key : String} {f : List Json → List Json} {members : Members} (sorted : Keyed.Sorted members) :
    members.alter key (shrink f) = match Keyed.get? key members with
      | some (.arr items) =>
        if (f items).isEmpty && !items.isEmpty then members.erase key else members.insert key (.arr (f items))
      | _ => members := by
  split
  · rename_i items found
    simp only [Keyed.alter, found, shrink]
    split <;> rename_i made
    · split at made
      · cases made
      · rename_i kept
        rw [if_neg kept, Option.some.inj made]
    · split at made
      · rename_i emptied
        rw [if_pos emptied]
      · cases made
  · rename_i notList
    refine sorted.alter_eq_self ?_
    unfold shrink
    split
    · rename_i items found
      exact absurd found (notList items)
    · rfl

theorem alter_onItems {key : String} {f : List Json → List Json} {members : Members} (sorted : Keyed.Sorted members) :
    Keyed.alter key (Option.map (onItems f)) members = match Keyed.get? key members with
      | some (.arr items) => Keyed.insert key (.arr (f items)) members
      | _ => members := by
  split
  · rename_i items found
    exact Keyed.alter_of_some (by rw [found]; rfl)
  · rename_i notList
    refine sorted.alter_eq_self ?_
    cases found : Keyed.get? key members with
    | none => rfl
    | some value =>
      cases value with
      | arr items => exact absurd found (notList items)
      | _ => rfl

theorem get?_mapped (key : String) (member : Option Json) :
    Keyed.get? key (mapped member) = member.bind (Json.get? key) := by
  cases member with
  | none => rfl
  | some value => cases value <;> rfl

theorem get?_eq_some_iff {key : String} {value found : Json} :
    value.get? key = some found ↔ ∃ members, value = .obj members ∧ Keyed.get? key members = some found := by
  cases value <;> simp [Json.get?]

theorem canonical_listed {member : Option Json} (canonical : ∀ value, member = some value → value.Canonical) :
    ∀ item ∈ listed member, item.Canonical := by
  cases member with
  | none => simp [listed]
  | some value =>
    cases value with
    | arr items => exact (canonical _ rfl).item
    | _ => simp [listed, arr?]

theorem canonical_mapped {member : Option Json} (canonical : ∀ value, member = some value → value.Canonical) :
    (Json.obj (mapped member)).Canonical := by
  cases member with
  | none => exact canonical_obj_iff.mpr ⟨.nil, by simp [mapped]⟩
  | some value =>
    cases value with
    | obj members => exact canonical _ rfl
    | _ => exact canonical_obj_iff.mpr ⟨.nil, by simp [mapped, obj?]⟩

theorem listed_map_onItems {f : Json → Json} (member : Option Json) :
    listed (member.map (onItems (List.map f))) = (listed member).map f := by
  cases member with
  | none => rfl
  | some value => cases value <;> rfl

theorem Canonical.alter {key : String} {f : Option Json → Option Json} {members : Members}
    (h : (Json.obj members).Canonical)
    (made : ∀ value, f (Keyed.get? key members) = some value → value.Canonical) :
    (Json.obj (Keyed.alter key f members)).Canonical := by
  unfold Keyed.alter
  split
  · rename_i value eq
    exact h.insert (made value eq)
  · exact h.erase key

theorem Canonical.alter_map {key : String} {f : Json → Json} {members : Members} (h : (Json.obj members).Canonical)
    (each : ∀ value, value.Canonical → (f value).Canonical) :
    (Json.obj (Keyed.alter key (Option.map f) members)).Canonical := by
  refine h.alter fun value eq => ?_
  obtain ⟨old, found, rfl⟩ := Option.map_eq_some_iff.mp eq
  exact each old (h.get? found)

theorem canonical_of_nonEmptyList {member : Option Json} {value : Json} (eq : nonEmptyList member = some value)
    (each : ∀ value, member = some value → value.Canonical) : value.Canonical := by
  unfold nonEmptyList at eq
  split at eq
  · cases eq
  · exact each value eq

theorem canonical_of_nonEmptyMap {member : Option Json} {value : Json} (eq : nonEmptyMap member = some value)
    (each : ∀ value, member = some value → value.Canonical) : value.Canonical := by
  unfold nonEmptyMap at eq
  split at eq
  · cases eq
  · exact each value eq

theorem Canonical.alter_nonEmptyList {members : Members} (h : (Json.obj members).Canonical) (key : String) :
    (Json.obj (Keyed.alter key nonEmptyList members)).Canonical :=
  h.alter fun _ eq => canonical_of_nonEmptyList eq fun _ => h.get?

theorem Canonical.alter_nonEmptyMap {members : Members} (h : (Json.obj members).Canonical) (key : String) :
    (Json.obj (Keyed.alter key nonEmptyMap members)).Canonical :=
  h.alter fun _ eq => canonical_of_nonEmptyMap eq fun _ => h.get?

theorem Canonical.onMembers {f : Members → Members} {value : Json} (h : value.Canonical)
    (each : ∀ members, (Json.obj members).Canonical → (Json.obj (f members)).Canonical) :
    (value.onMembers f).Canonical := by
  cases value with
  | obj members => exact each members h
  | _ => exact h

end Json

end Graft
