import Graft.Proofs.Reports
import Mathlib.Data.List.Basic

namespace Graft.Registry

/-- What changes a registry under one key. -/
inductive Write where
  | insert (resource : Instrumentation)
  | remove (key : ResourceKey)

def Write.apply (registry : Registry) : Write → Registry
  | .insert i => registry.upsert i
  | .remove key => registry.erase key

/-- The registry between the `n`-th write and the next one. -/
def during (prior : Registry) (writes : List Write) (n : Nat) : Registry := (writes.take n).foldl Write.apply prior

/-- The writes that take over a listing. -/
def swap (listing : List Instrumentation) (stale : List ResourceKey) : List Write :=
  listing.map .insert ++ stale.map .remove

/-- A key that is held, and that a listing lacks. -/
def Stale (prior : Registry) (listing : List Instrumentation) (key : ResourceKey) : Prop :=
  (prior.get? key).isSome ∧ ∀ i ∈ listing, i.key ≠ key

theorem foldl_insert (listing : List Instrumentation) (registry : Registry) :
    (listing.map Write.insert).foldl Write.apply registry = listing.foldl upsert registry := List.foldl_map

theorem foldl_remove (stale : List ResourceKey) (registry : Registry) :
    (stale.map Write.remove).foldl Write.apply registry = registry.filter fun e => e.1 ∉ stale := by
  induction stale generalizing registry with
  | nil => exact (List.filter_true registry).symm
  | cons key rest ih =>
    have first : (registry.erase key).filter (fun e => e.1 ∉ rest) = registry.filter fun e => e.1 ∉ key :: rest := by
      simp [Assoc.erase, List.filter_filter, Bool.and_comm]
    exact (ih (registry.erase key)).trans first

variable {prior : Registry} {listing : List Instrumentation} {stale : List ResourceKey} {key : ResourceKey}

/-- All that has happened to a key after some writes: it is gone, or the last of the inserted resources is under it, or
what was there before. The removals come after all of the insertions. -/
theorem get?_during_swap (n : Nat) : (during prior (swap listing stale) n).get? key =
    if key ∈ stale.take (n - listing.length) then none
    else (lastOf key (listing.take n)).or (prior.get? key) := by
  have writes : (swap listing stale).take n =
      (listing.take n).map .insert ++ (stale.take (n - listing.length)).map .remove := by
    rw [swap, List.take_append, List.length_map, List.map_take, List.map_take]
  rw [during, writes, List.foldl_append, foldl_insert, foldl_remove, ← get?_foldl_upsert]
  have kept := Assoc.get?_filter (fun k => decide (k ∉ stale.take (n - listing.length))) key
    ((listing.take n).foldl upsert prior)
  rw [kept]
  by_cases gone : key ∈ stale.take (n - listing.length) <;> simp [gone]

/-- How a listing is taken over, as readers see it. -/
structure Seamless (prior : Registry) (listing : List Instrumentation) (writes : List Write) : Prop where
  listed : ∀ key ∈ listing.map Instrumentation.key, ∃ turn, ∀ n,
    (n < turn → (during prior writes n).get? key = prior.get? key) ∧
    (turn ≤ n → ∃ i ∈ listing, i.key = key ∧ (during prior writes n).get? key = some i)
  held : ∀ key ∈ listing.map Instrumentation.key, (prior.get? key).isSome →
    ∀ n, ((during prior writes n).get? key).isSome
  unlisted : ∀ key ∉ listing.map Instrumentation.key, ∃ turn, ∀ n,
    (during prior writes n).get? key = if n < turn then prior.get? key else none
  populated : prior ≠ [] → listing ≠ [] → ∀ n, during prior writes n ≠ []
  final : ∀ n, writes.length ≤ n → during prior writes n = prior.replaceAll listing
  last : ∀ n, writes.length ≤ n → ∀ key, (during prior writes n).get? key = lastOf key listing

/-- A listed key has its turn when the first resource with that key is inserted. -/
theorem listed_during (all : ∀ key, key ∈ stale ↔ Stale prior listing key)
    (listed : key ∈ listing.map Instrumentation.key) (n : Nat) :
    (n < (listing.map Instrumentation.key).idxOf key + 1 →
      (during prior (swap listing stale) n).get? key = prior.get? key) ∧
    ((listing.map Instrumentation.key).idxOf key + 1 ≤ n →
      ∃ i ∈ listing, i.key = key ∧ (during prior (swap listing stale) n).get? key = some i) := by
  have stays : key ∉ stale.take (n - listing.length) := by
    intro gone
    obtain ⟨i, member, is⟩ := List.mem_map.mp listed
    exact ((all key).mp (List.mem_of_mem_take gone)).2 i member is
  rw [get?_during_swap, if_neg stays]
  have inserted : (lastOf key (listing.take n)).isSome ↔ (listing.map Instrumentation.key).idxOf key < n := by
    rw [lastOf_isSome_iff, List.map_take, List.mem_take_iff_idxOf_lt listed]
  constructor
  · intro before
    have none : lastOf key (listing.take n) = none := by
      rw [← Option.not_isSome_iff_eq_none, inserted]
      omega
    rw [none, Option.none_or]
  · intro after
    obtain ⟨i, found⟩ := Option.isSome_iff_exists.mp (inserted.mpr (by omega))
    obtain ⟨member, is⟩ := lastOf_mem found
    exact ⟨i, List.mem_of_mem_take member, is, by rw [found, Option.some_or]⟩

/-- A key that the listing lacks has its turn when it is removed. One that is not there at all never has. -/
theorem unlisted_during (all : ∀ key, key ∈ stale ↔ Stale prior listing key)
    (unlisted : key ∉ listing.map Instrumentation.key) (n : Nat) :
    (during prior (swap listing stale) n).get? key =
      if n < listing.length + stale.idxOf key + 1 then prior.get? key else none := by
  have absent : ∀ i ∈ listing, i.key ≠ key := fun i member is => unlisted (List.mem_map.mpr ⟨i, member, is⟩)
  have none : lastOf key (listing.take n) = none :=
    lastOf_eq_none fun i member => absent i (List.mem_of_mem_take member)
  rw [get?_during_swap, none, Option.none_or]
  by_cases there : key ∈ stale
  · have taken := List.mem_take_iff_idxOf_lt (n := n - listing.length) there
    by_cases gone : key ∈ stale.take (n - listing.length)
    · have late := taken.mp gone
      rw [if_pos gone, if_neg (by omega)]
    · have early := mt taken.mpr gone
      rw [if_neg gone, if_pos (by omega)]
  · have never : prior.get? key = Option.none := by
      rw [← Option.not_isSome_iff_eq_none]
      exact fun held => there ((all key).mpr ⟨held, absent⟩)
    rw [never, ite_self, ite_self]

/-- There is no moment at which all is gone, unless nothing was there or the listing is empty. -/
theorem populated_during (all : ∀ key, key ∈ stale ↔ Stale prior listing key) (held : prior ≠ [])
    (nonempty : listing ≠ []) (n : Nat) : during prior (swap listing stale) n ≠ [] := by
  cases n with
  | zero => exact held
  | succ n =>
    intro empty
    obtain ⟨first, rest, rfl⟩ := List.exists_cons_of_ne_nil nonempty
    have listed : first.key ∈ (first :: rest).map Instrumentation.key := List.mem_cons_self
    have turn : ((first :: rest).map Instrumentation.key).idxOf first.key = 0 := List.idxOf_cons_self
    obtain ⟨i, _, _, found⟩ := (listed_during all listed (n + 1)).2 (by omega)
    rw [empty] at found
    cases found

/-- The keys that go, in the order in which they are held. -/
def leftover (prior : Registry) (listing : List Instrumentation) : List ResourceKey :=
  prior.keys.filter fun key => listing.all fun i => i.key ≠ key

theorem mem_leftover_iff : key ∈ leftover prior listing ↔ Stale prior listing key := by
  rw [leftover, List.mem_filter, Assoc.mem_keys_iff, Stale, List.all_eq_true]
  simp

/-- Once all writes are done, the listing has replaced what was there, as if at once. -/
theorem foldl_swap (all : ∀ key, key ∈ stale ↔ Stale prior listing key) :
    (swap listing stale).foldl Write.apply prior = prior.replaceAll listing := by
  rw [swap, List.foldl_append, foldl_insert, foldl_remove, replaceAll]
  refine List.filter_congr fun e member => ?_
  have held : ((lastOf e.1 listing).or (prior.get? e.1)).isSome := by
    rw [← get?_foldl_upsert, ← Assoc.mem_keys_iff]
    exact List.mem_map_of_mem member
  rw [← lastOf_isSome]
  cases found : lastOf e.1 listing with
  | some i =>
    obtain ⟨inListing, is⟩ := lastOf_mem found
    have stays : e.1 ∉ stale := fun gone => ((all e.1).mp gone).2 i inListing is
    simp [stays]
  | none =>
    have absent : ∀ i ∈ listing, i.key ≠ e.1 := by
      intro i inListing is
      have inserted := lastOf_isSome_iff.mpr (List.mem_map.mpr ⟨i, inListing, is⟩)
      rw [found] at inserted
      cases inserted
    rw [found, Option.none_or] at held
    have goes : e.1 ∈ stale := (all e.1).mpr ⟨held, absent⟩
    simp [goes]

/-- However the keys are ordered that go, no reader sees a gap: at every point between two writes a key of the listing
is held if it was before, and a key that goes is never anything but what it was. The listing may name a key more than
once. -/
theorem seamless_swap (prior : Registry) (listing : List Instrumentation) (stale : List ResourceKey)
    (all : ∀ key, key ∈ stale ↔ Stale prior listing key) : Seamless prior listing (swap listing stale) := by
  have done (n : Nat) (ended : (swap listing stale).length ≤ n) :
      during prior (swap listing stale) n = prior.replaceAll listing := by
    rw [during, List.take_of_length_le ended, foldl_swap all]
  refine ⟨fun key listed => ⟨_, listed_during all listed⟩, ?_, fun key unlisted => ⟨_, unlisted_during all unlisted⟩,
    populated_during all, done, ?_⟩
  · intro key listed held n
    obtain ⟨before, after⟩ := listed_during all listed n
    rcases Nat.lt_or_ge n ((listing.map Instrumentation.key).idxOf key + 1) with early | late
    · rw [before early]
      exact held
    · obtain ⟨i, _, _, found⟩ := after late
      rw [found]
      rfl
  · intro n ended key
    rw [done n ended, get?_replaceAll]

/-- A listing that names one key twice, adds another and lacks a third. -/
theorem seamless_swap_of_repeated_key : Seamless
    [(⟨"apps", "default"⟩, Reports.sample "apps" "1"), (⟨"ops", "default"⟩, Reports.sample "ops" "2")]
    [Reports.sample "apps" "3", Reports.sample "web" "4", Reports.sample "apps" "5"]
    (swap [Reports.sample "apps" "3", Reports.sample "web" "4", Reports.sample "apps" "5"] [⟨"ops", "default"⟩]) := by
  have goes : leftover
      [(⟨"apps", "default"⟩, Reports.sample "apps" "1"), (⟨"ops", "default"⟩, Reports.sample "ops" "2")]
      [Reports.sample "apps" "3", Reports.sample "web" "4", Reports.sample "apps" "5"] = [⟨"ops", "default"⟩] := rfl
  exact seamless_swap _ _ _ fun key => goes ▸ mem_leftover_iff

end Graft.Registry
