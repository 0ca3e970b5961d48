import Graft.Registry

namespace Graft

namespace Assoc

variable {κ α : Type} [DecidableEq κ]

theorem get?_set (key other : κ) (value : α) (entries : Assoc κ α) :
    get? other (set key value entries) = if key = other then some value else get? other entries := by
  split
  · rename_i same
    rw [← same, get?_set_self]
  · rename_i ne
    exact get?_set_of_ne (Ne.symm ne) value entries

theorem get?_erase (key other : κ) (entries : Assoc κ α) :
    get? other (erase key entries) = if key = other then none else get? other entries := by
  split
  · rename_i same
    rw [← same, get?_erase_self]
  · rename_i ne
    exact get?_erase_of_ne (Ne.symm ne) entries

/-- Entries that are kept by their keys are kept with their values. -/
theorem get?_filter (keep : κ → Bool) (key : κ) (entries : Assoc κ α) :
    get? key (entries.filter fun e => keep e.1) = if keep key then get? key entries else none := by
  induction entries with
  | nil => simp [get?]
  | cons e rest ih =>
    obtain ⟨k, v⟩ := e
    by_cases same : k = key
    · subst same
      by_cases kept : keep k = true <;> simp [get?, kept, ih]
    · by_cases kept : keep k = true <;> simp [get?, kept, same, ih]

theorem mem_keys_iff {key : κ} {entries : Assoc κ α} : key ∈ entries.keys ↔ (entries.get? key).isSome := by
  induction entries with
  | nil => exact ⟨nofun, nofun⟩
  | cons e rest ih =>
    obtain ⟨k, v⟩ := e
    rw [keys, List.map_cons, List.mem_cons, ← keys, ih, get?]
    by_cases same : k = key
    · simp [same]
    · simp [same, Ne.symm same]

end Assoc

namespace Registry

/-- The last of some resources that has a key. -/
def lastOf (key : ResourceKey) (resources : List Instrumentation) : Option Instrumentation :=
  resources.reverse.find? fun i => i.key = key

theorem lastOf_append (key : ResourceKey) (resources : List Instrumentation) (i : Instrumentation) :
    lastOf key (resources ++ [i]) = if i.key = key then some i else lastOf key resources := by
  by_cases same : i.key = key <;> simp [lastOf, same]

theorem lastOf_isSome (key : ResourceKey) (resources : List Instrumentation) :
    (lastOf key resources).isSome = resources.any fun i => i.key == key := by
  rw [Bool.eq_iff_iff, lastOf, List.find?_isSome, List.any_eq_true]
  simp

theorem lastOf_isSome_iff {key : ResourceKey} {resources : List Instrumentation} :
    (lastOf key resources).isSome ↔ key ∈ resources.map Instrumentation.key := by
  rw [lastOf_isSome, List.any_eq_true, List.mem_map]
  simp

theorem lastOf_eq_none {key : ResourceKey} {resources : List Instrumentation} (absent : ∀ i ∈ resources, i.key ≠ key) :
    lastOf key resources = none :=
  List.find?_eq_none.mpr fun i member => by simpa using absent i (List.mem_reverse.mp member)

theorem lastOf_mem {key : ResourceKey} {resources : List Instrumentation} {i : Instrumentation}
    (found : lastOf key resources = some i) : i ∈ resources ∧ i.key = key :=
  ⟨List.mem_reverse.mp (List.mem_of_find?_eq_some found), by simpa using List.find?_some found⟩

/-- A resource goes under its own key and leaves the others alone. -/
theorem get?_upsert (registry : Registry) (i : Instrumentation) (key : ResourceKey) :
    (registry.upsert i).get? key = if i.key = key then some i else registry.get? key :=
  Assoc.get?_set i.key key i registry

theorem get?_foldl_upsert (resources : List Instrumentation) (registry : Registry) (key : ResourceKey) :
    (resources.foldl upsert registry).get? key = (lastOf key resources).or (registry.get? key) := by
  induction resources generalizing registry with
  | nil => rfl
  | cons i rest ih =>
    rw [List.foldl_cons, ih, get?_upsert, lastOf, lastOf, List.reverse_cons, List.find?_append]
    by_cases same : i.key = key <;> simp [same]

/-- A listing leaves nothing of what was there before it: under each key is the last of its resources with that key, or
nothing. -/
theorem get?_replaceAll (registry : Registry) (listing : List Instrumentation) (key : ResourceKey) :
    (registry.replaceAll listing).get? key = lastOf key listing := by
  refine (Assoc.get?_filter (fun k => listing.any fun i => i.key == k) key _).trans ?_
  simp only [← lastOf_isSome, get?_foldl_upsert]
  cases lastOf key listing <;> rfl

end Registry

/-- The key that a report is about. -/
def WatchEvent.key? : WatchEvent → Option ResourceKey
  | .applied i | .deleted i | .listingItem i => some i.key
  | .listing | .listed => none

/-- The resource that a report gives for its key. -/
def WatchEvent.resource? : WatchEvent → Option Instrumentation
  | .applied i | .listingItem i => some i
  | .deleted _ | .listing | .listed => none

namespace Follower

/-- Two followers cannot be told apart by what they hold under a key, now or once a listing ends. Their other keys may
differ. -/
structure AgreeAt (key : ResourceKey) (f f' : Follower) : Prop where
  registry : f.registry.get? key = f'.registry.get? key
  listing : f.listing.map (Registry.lastOf key) = f'.listing.map (Registry.lastOf key)

variable {key : ResourceKey} {f f' : Follower}

theorem AgreeAt.refl (key : ResourceKey) (f : Follower) : AgreeAt key f f := ⟨rfl, rfl⟩

theorem AgreeAt.trans {f'' : Follower} (h : AgreeAt key f f') (next : AgreeAt key f' f'') : AgreeAt key f f'' :=
  ⟨h.registry.trans next.registry, h.listing.trans next.listing⟩

/-- One report keeps the agreement. -/
theorem AgreeAt.handle (h : AgreeAt key f f') (event : WatchEvent) : AgreeAt key (f.handle event) (f'.handle event) := by
  obtain ⟨registry, listing⟩ := f
  obtain ⟨registry', listing'⟩ := f'
  obtain ⟨same, collected⟩ := h
  simp only at same collected
  cases event with
  | applied i => exact ⟨by simp [Follower.handle, Registry.get?_upsert, same], collected⟩
  | deleted i => exact ⟨by simp [Follower.handle, Assoc.get?_erase, same], collected⟩
  | listing => exact ⟨same, rfl⟩
  | listingItem i =>
    cases listing with
    | none =>
      cases listing' with
      | none => exact ⟨by simp [Follower.handle, Registry.get?_upsert, same], rfl⟩
      | some items' => cases collected
    | some items =>
      cases listing' with
      | none => cases collected
      | some items' =>
        have last : Registry.lastOf key items = Registry.lastOf key items' := Option.some.inj collected
        exact ⟨same, by simp [Follower.handle, Registry.lastOf_append, last]⟩
  | listed =>
    cases listing with
    | none =>
      cases listing' with
      | none => exact ⟨same, rfl⟩
      | some items' => cases collected
    | some items =>
      cases listing' with
      | none => cases collected
      | some items' =>
        have last : Registry.lastOf key items = Registry.lastOf key items' := Option.some.inj collected
        exact ⟨by simp [Follower.handle, Registry.get?_replaceAll, last], rfl⟩

/-- A report about another key is not noticed, also while a listing is being collected. -/
theorem agreeAt_handle_of_ne {event : WatchEvent} {other : ResourceKey} (about : event.key? = some other)
    (ne : other ≠ key) (f : Follower) : AgreeAt key (f.handle event) f := by
  obtain ⟨registry, listing⟩ := f
  cases event with
  | applied i =>
    cases about
    exact ⟨by simp [Follower.handle, Registry.get?_upsert, ne], rfl⟩
  | deleted i =>
    cases about
    exact ⟨by simp [Follower.handle, Assoc.get?_erase, ne], rfl⟩
  | listingItem i =>
    cases about
    cases listing with
    | none => exact ⟨by simp [Follower.handle, Registry.get?_upsert, ne], rfl⟩
    | some items => exact ⟨rfl, by simp [Follower.handle, Registry.lastOf_append, ne]⟩
  | listing => cases about
  | listed => cases about

end Follower

end Graft
