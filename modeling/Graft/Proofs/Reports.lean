import Graft.Proofs.Registry
import Mathlib.Data.List.Induction

namespace Graft.Reports

/-- How far a sequence of reports is: before the first listing, in a listing, or after one. -/
inductive Stage where
  | unlisted
  | listing
  | listed
deriving DecidableEq

/-- A listing may begin at any time, which gives up one that is open. Its items and its end come only within it, and
changes only after one. -/
def Stage.next : Stage → WatchEvent → Option Stage
  | _, .listing => some .listing
  | .listing, .listingItem _ => some .listing
  | .listing, .listed => some .listed
  | .listed, .applied _ => some .listed
  | .listed, .deleted _ => some .listed
  | _, _ => none

def stage? (reports : List WatchEvent) : Option Stage := reports.foldlM Stage.next .unlisted

/-- Reports as they come from watching a server, up to any point. -/
def Orderly (reports : List WatchEvent) : Prop := (stage? reports).isSome

instance (reports : List WatchEvent) : Decidable (Orderly reports) :=
  inferInstanceAs (Decidable ((stage? reports).isSome = true))

theorem stage?_append (reports : List WatchEvent) (event : WatchEvent) :
    stage? (reports ++ [event]) = (stage? reports).bind (·.next event) := by
  simp [stage?, List.foldlM_append]

/-- What is orderly was so at every point. -/
theorem Orderly.of_prefix {seen reports : List WatchEvent} (h : Orderly reports) (before : seen <+: reports) :
    Orderly seen := by
  obtain ⟨rest, rfl⟩ := before
  unfold Orderly stage? at h ⊢
  rw [List.foldlM_append] at h
  cases reached : seen.foldlM Stage.next .unlisted with
  | none =>
    rw [reached] at h
    cases h
  | some stage => rfl

/-- The last of some reports that is about a key. -/
def lastAbout (key : ResourceKey) (reports : List WatchEvent) : Option WatchEvent :=
  reports.reverse.find? fun event => event.key? = some key

theorem lastAbout_append (key : ResourceKey) (reports : List WatchEvent) (event : WatchEvent) :
    lastAbout key (reports ++ [event]) = if event.key? = some key then some event else lastAbout key reports := by
  by_cases about : event.key? = some key <;> simp [lastAbout, about]

/-- The last report about a key in a listing gives the last resource of that key, for a listing may name a key more than
once. -/
theorem lastAbout_items (key : ResourceKey) (items : List Instrumentation) :
    (lastAbout key (items.map .listingItem)).bind WatchEvent.resource? = Registry.lastOf key items := by
  induction items using List.reverseRecOn with
  | nil => rfl
  | append_singleton front i ih =>
    rw [List.map_append, List.map_singleton, lastAbout_append, Registry.lastOf_append]
    by_cases same : i.key = key <;> simp [WatchEvent.key?, same, ih, WatchEvent.resource?]

/-- The parts of some reports of which a listing was completed: the items of the last such listing, the changes after
it, and listings after these that have not been completed. -/
structure Completed (reports : List WatchEvent) (items : List Instrumentation) (changes rest : List WatchEvent) :
    Prop where
  split : ∃ before, reports = before ++ .listing :: (items.map .listingItem ++ .listed :: (changes ++ rest))
  changes : ∀ event ∈ changes, ∃ i, event = .applied i ∨ event = .deleted i
  rest : rest = [] ∨ ∃ tail, rest = .listing :: tail ∧ .listed ∉ tail

/-- What the completed listing and the changes after it say of each key is what a registry holds. -/
def Tracks (registry : Registry) (items : List Instrumentation) (changes : List WatchEvent) : Prop :=
  ∀ key, registry.get? key = (lastAbout key (items.map .listingItem ++ changes)).bind WatchEvent.resource?

/-- What holds of the reports so far and of the follower that took them, by the stage that they have reached. In a
listing, what the registry holds is as old as the listing before it, if there is one. -/
def Followed : Stage → List WatchEvent → Follower → Prop
  | .unlisted, reports, f => reports = [] ∧ f = {}
  | .listing, reports, f =>
    (∃ before opened, reports = before ++ .listing :: opened.map .listingItem ∧ f.listing = some opened) ∧
      (.listed ∉ reports ∧ f.registry = [] ∨
        ∃ items changes tail, Completed reports items changes (.listing :: tail) ∧ Tracks f.registry items changes)
  | .listed, reports, f =>
    f.listing = none ∧ ∃ items changes, Completed reports items changes [] ∧ Tracks f.registry items changes

variable {reports changes rest : List WatchEvent} {items : List Instrumentation} {registry : Registry}

theorem Completed.append_listing (h : Completed reports items changes rest) :
    ∃ tail, Completed (reports ++ [.listing]) items changes (.listing :: tail) := by
  obtain ⟨⟨before, rfl⟩, onlyChanges, rfl | ⟨tail, rfl, unlisted⟩⟩ := h
  · exact ⟨[], ⟨before, by simp⟩, onlyChanges, .inr ⟨[], rfl, List.not_mem_nil⟩⟩
  · exact ⟨tail ++ [.listing], ⟨before, by simp⟩, onlyChanges, .inr ⟨tail ++ [.listing], rfl, by simp [unlisted]⟩⟩

theorem Completed.append_item {tail : List WatchEvent} (h : Completed reports items changes (.listing :: tail))
    (i : Instrumentation) :
    Completed (reports ++ [.listingItem i]) items changes (.listing :: (tail ++ [.listingItem i])) := by
  obtain ⟨⟨before, rfl⟩, onlyChanges, none | ⟨tail', same, unlisted⟩⟩ := h
  · cases none
  · cases same
    exact ⟨⟨before, by simp⟩, onlyChanges, .inr ⟨_, rfl, by simp [unlisted]⟩⟩

theorem Completed.append_change (h : Completed reports items changes []) {event : WatchEvent}
    (change : ∃ i, event = .applied i ∨ event = .deleted i) :
    Completed (reports ++ [event]) items (changes ++ [event]) [] := by
  obtain ⟨⟨before, rfl⟩, onlyChanges, _⟩ := h
  refine ⟨⟨before, by simp⟩, ?_, .inl rfl⟩
  simpa [or_imp, forall_and] using ⟨onlyChanges, change⟩

/-- The end of a listing completes it. -/
theorem completed_listed (before : List WatchEvent) (items : List Instrumentation) :
    Completed (before ++ .listing :: items.map .listingItem ++ [.listed]) items [] [] :=
  ⟨⟨before, by simp⟩, fun _ none => absurd none List.not_mem_nil, .inl rfl⟩

theorem tracks_replaceAll (registry : Registry) (items : List Instrumentation) :
    Tracks (registry.replaceAll items) items [] := by
  intro key
  rw [Registry.get?_replaceAll, List.append_nil, lastAbout_items]

theorem Tracks.append {event : WatchEvent} (h : Tracks registry items changes) {after : Registry}
    (step : ∀ key, after.get? key = if event.key? = some key then event.resource? else registry.get? key) :
    Tracks after items (changes ++ [event]) := by
  intro key
  rw [step, ← List.append_assoc, lastAbout_append, h]
  split <;> rfl

/-- The start of a listing. -/
theorem Followed.append_listing {stage : Stage} {f : Follower} (h : Followed stage reports f) :
    Followed .listing (reports ++ [.listing]) (f.handle .listing) := by
  refine ⟨⟨reports, [], rfl, rfl⟩, ?_⟩
  have later {items : List Instrumentation} {changes rest : List WatchEvent}
      (completed : Completed reports items changes rest) (tracks : Tracks f.registry items changes) :
      ∃ items changes tail, Completed (reports ++ [.listing]) items changes (.listing :: tail) ∧
        Tracks f.registry items changes := by
    obtain ⟨tail, completed⟩ := completed.append_listing
    exact ⟨items, changes, tail, completed, tracks⟩
  cases stage with
  | unlisted =>
    obtain ⟨rfl, rfl⟩ := h
    exact .inl ⟨by decide, rfl⟩
  | listing =>
    obtain ⟨_, ⟨unlisted, empty⟩ | ⟨_, _, _, completed, tracks⟩⟩ := h
    · exact .inl ⟨by simp [unlisted], empty⟩
    · exact .inr (later completed tracks)
  | listed =>
    obtain ⟨_, _, _, completed, tracks⟩ := h
    exact .inr (later completed tracks)

theorem Followed.append_item {f : Follower} (h : Followed .listing reports f) (i : Instrumentation) :
    Followed .listing (reports ++ [.listingItem i]) (f.handle (.listingItem i)) := by
  obtain ⟨registry, listing⟩ := f
  obtain ⟨⟨before, opened, split, rfl⟩, known⟩ := h
  refine ⟨⟨before, opened ++ [i], by simp [split], rfl⟩, ?_⟩
  rcases known with ⟨unlisted, empty⟩ | ⟨items, changes, tail, completed, tracks⟩
  · exact .inl ⟨by simp [unlisted], empty⟩
  · exact .inr ⟨items, changes, _, completed.append_item i, tracks⟩

theorem Followed.append_listed {f : Follower} (h : Followed .listing reports f) :
    Followed .listed (reports ++ [.listed]) (f.handle .listed) := by
  obtain ⟨registry, listing⟩ := f
  obtain ⟨⟨before, opened, rfl, rfl⟩, _⟩ := h
  exact ⟨rfl, opened, [], completed_listed before opened, tracks_replaceAll registry opened⟩

theorem Followed.append_change {f : Follower} (h : Followed .listed reports f) {event : WatchEvent}
    (change : ∃ i, event = .applied i ∨ event = .deleted i) :
    Followed .listed (reports ++ [event]) (f.handle event) := by
  obtain ⟨closed, items, changes, completed, tracks⟩ := h
  have later := completed.append_change change
  obtain ⟨i, rfl | rfl⟩ := change
  · exact ⟨closed, items, _, later, tracks.append fun key => by
      simp [Follower.handle, Registry.get?_upsert, WatchEvent.key?, WatchEvent.resource?]⟩
  · exact ⟨closed, items, _, later, tracks.append fun key => by
      simp [Follower.handle, Assoc.get?_erase, WatchEvent.key?, WatchEvent.resource?]⟩

/-- One more report that may come next keeps what holds of the reports so far, whichever of its kinds it is. -/
theorem Followed.append {stage next : Stage} {f : Follower} (h : Followed stage reports f) {event : WatchEvent}
    (may : stage.next event = some next) : Followed next (reports ++ [event]) (f.handle event) := by
  cases event with
  | listing =>
    obtain rfl : Stage.listing = next := by cases stage <;> exact Option.some.inj may
    exact h.append_listing
  | listingItem i =>
    cases stage <;> cases may
    exact h.append_item i
  | listed =>
    cases stage <;> cases may
    exact h.append_listed
  | applied i =>
    cases stage <;> cases may
    exact h.append_change ⟨i, .inl rfl⟩
  | deleted i =>
    cases stage <;> cases may
    exact h.append_change ⟨i, .inr rfl⟩

/-- A whole run, report by report, from an empty follower on. -/
theorem followed_of_stage {stage : Stage} (reached : stage? reports = some stage) :
    Followed stage reports (reports.foldl Follower.handle {}) := by
  induction reports using List.reverseRecOn generalizing stage with
  | nil =>
    cases reached
    exact ⟨rfl, rfl⟩
  | append_singleton front event ih =>
    rw [stage?_append] at reached
    obtain ⟨before, reachedBefore, may⟩ := Option.bind_eq_some_iff.mp reached
    rw [List.foldl_append]
    exact (ih reachedBefore).append may

/-- At every point of an orderly sequence of reports, a registry that took them from the start on is empty before the
end of the first listing. Later it has under each key the resource of the last report about that key, unless that is a
deletion, in the last completed listing and the changes after it. Of a listing that is still open or was given up it has
nothing. -/
theorem Orderly.follower_tracks {reports seen : List WatchEvent} (orderly : Orderly reports)
    (before : seen <+: reports) :
    (.listed ∉ seen → (seen.foldl Follower.handle {}).registry = []) ∧
      (.listed ∈ seen → ∃ items changes rest, Completed seen items changes rest ∧ ∀ key resource,
        (seen.foldl Follower.handle {}).registry.get? key = some resource ↔
          ∃ event, lastAbout key (items.map .listingItem ++ changes) = some event ∧
            event.resource? = some resource) := by
  obtain ⟨stage, reached⟩ := Option.isSome_iff_exists.mp (orderly.of_prefix before)
  have followed := followed_of_stage reached
  generalize seen.foldl Follower.handle {} = f at followed ⊢
  have present {items : List Instrumentation} {changes rest : List WatchEvent}
      (completed : Completed seen items changes rest) : .listed ∈ seen := by
    obtain ⟨_, rfl⟩ := completed.split
    simp
  have told {items : List Instrumentation} {changes rest : List WatchEvent}
      (completed : Completed seen items changes rest) (tracks : Tracks f.registry items changes) :
      ∃ items changes rest, Completed seen items changes rest ∧ ∀ key resource,
        f.registry.get? key = some resource ↔
          ∃ event, lastAbout key (items.map .listingItem ++ changes) = some event ∧
            event.resource? = some resource :=
    ⟨items, changes, rest, completed, fun key resource => by rw [tracks key, Option.bind_eq_some_iff]⟩
  cases stage with
  | unlisted =>
    obtain ⟨rfl, rfl⟩ := followed
    exact ⟨fun _ => rfl, nofun⟩
  | listing =>
    obtain ⟨_, ⟨unlisted, empty⟩ | ⟨_, _, _, completed, tracks⟩⟩ := followed
    · exact ⟨fun _ => empty, fun listed => absurd listed unlisted⟩
    · exact ⟨fun unlisted => absurd (present completed) unlisted, fun _ => told completed tracks⟩
  | listed =>
    obtain ⟨_, _, _, completed, tracks⟩ := followed
    exact ⟨fun unlisted => absurd (present completed) unlisted, fun _ => told completed tracks⟩

/-- A resource of a namespace. -/
def sample (ns connectionString : String) : Instrumentation where
  metadata := { name := some "default", ns := some ns }
  connectionString := connectionString

/-- A listing that is given up, one that lists a resource twice, changes, and a listing that leaves a resource out. -/
def rounds : List WatchEvent := [.listing, .listingItem (sample "lost" "0"),
  .listing, .listingItem (sample "apps" "1"), .listingItem (sample "ops" "2"), .listingItem (sample "apps" "3"), .listed,
  .applied (sample "web" "4"), .deleted (sample "ops" "2"),
  .listing, .listingItem (sample "apps" "5"), .listed]

theorem rounds_followed : Orderly rounds ∧ rounds.dropLast <+: rounds ∧ .listed ∈ rounds.dropLast ∧
    ∃ items changes rest, Completed rounds.dropLast items changes rest ∧ ∀ key resource,
      (rounds.dropLast.foldl Follower.handle {}).registry.get? key = some resource ↔
        ∃ event, lastAbout key (items.map .listingItem ++ changes) = some event ∧ event.resource? = some resource := by
  have orderly : Orderly rounds := by decide
  have listed : .listed ∈ rounds.dropLast := by decide
  exact ⟨orderly, List.dropLast_prefix _, listed, (orderly.follower_tracks (List.dropLast_prefix _)).2 listed⟩

-- While the last listing is open, what the one before it and the changes said still counts.
example : (rounds.dropLast.foldl Follower.handle {}).registry =
    [(⟨"apps", "default"⟩, sample "apps" "3"), (⟨"web", "default"⟩, sample "web" "4")] := by rfl

end Graft.Reports
