import Graft.Proofs.Readmission
import Graft.Proofs.References
import Graft.Proofs.Registry
import Graft.Proofs.Selection

namespace Graft

namespace Injection

open Json

/-- A patch that sets the state annotation and lets it stay. -/
structure Injecting (patch : Patch) : Prop where
  sets : ∃ value, .add statePath value ∈ patch
  stays : .remove statePath ∉ patch

variable {object : Json} {g : Governing} {patch : Patch}

/-- Parents are only added. -/
theorem exists_of_mem_missingParents {operation : Operation} (member : operation ∈ missingParents object) :
    ∃ path value, path ≠ statePath ∧ operation = .add path value := by
  have apart : ⟨["spec", "template", "metadata"]⟩ ≠ statePath ∧ annotationsPath ≠ statePath := by decide
  unfold missingParents at member
  split at member
  · simp only [List.mem_cons, List.not_mem_nil, or_false] at member
    rcases member with rfl | rfl
    · exact ⟨_, _, apart.1, rfl⟩
    · exact ⟨_, _, apart.2, rfl⟩
  · split at member
    · exact ⟨_, _, apart.2, List.mem_singleton.mp member⟩
    · cases member

/-- The patch of a call is injecting if and only if the call injects. So it can be told from the patch alone. -/
theorem injecting_iff (made : Injection.patch object g = .ok patch) :
    Injecting patch ↔ ∃ state, (mutate object g).outcome = .ok (some state) := by
  obtain ⟨state?, run, rfl⟩ := patch_eq_ok_iff.mp made
  rw [run]
  cases state? with
  | none =>
    refine ⟨fun injecting => absurd injecting.stays (by simp [stateOperations]), ?_⟩
    rintro ⟨_, ⟨⟩⟩
  | some state =>
    have stays : .remove statePath ∉ missingParents object := by
      intro member
      obtain ⟨_, _, _, is⟩ := exists_of_mem_missingParents member
      cases is
    refine ⟨fun _ => ⟨state, rfl⟩, fun _ => ⟨⟨.str state.text, ?_⟩, ?_⟩⟩
    · simp [stateOperations]
    · simp [stateOperations, stays]

/-- It then sets one state, which is the one that the call returns. -/
theorem mem_patch_of_injected {state : InjectionState} (made : Injection.patch object g = .ok patch)
    (run : (mutate object g).outcome = .ok (some state)) :
    (∀ value, .add statePath value ∈ patch ↔ value = .str state.text) ∧
      .replace ⟨[]⟩ (mutate object g).object ∈ patch := by
  obtain ⟨state?, ran, rfl⟩ := patch_eq_ok_iff.mp made
  obtain rfl : state? = some state := Except.ok.inj (ran.symm.trans run)
  have parents (value : Json) : .add statePath value ∉ missingParents object := by
    intro member
    obtain ⟨_, _, apart, is⟩ := exists_of_mem_missingParents member
    cases is
    exact apart rfl
  exact ⟨fun value => by simp [stateOperations, parents], by simp⟩

/-- Every container gets the variables that all platforms have in common, as the resource of the call has them. -/
theorem find?_common_of_injected {state : InjectionState} (run : (mutate object g).outcome = .ok (some state))
    {resource : Instrumentation} (has : g.resource = some resource) {var : EnvVar}
    (common : var ∈ Fragment.commonEnv g.pod resource.connectionString g.cluster) :
    ∀ container ∈ PodIdentity.containers (mutate object g).object,
      (listed (container.get? "env")).find? (named var.name) = some var.toJson := by
  obtain ⟨other, load, hasOther, _, made, each⟩ := containers_mutate_injected run
  obtain rfl : other = resource := Option.some.inj (hasOther.symm.trans has)
  obtain ⟨_, _, _, _, _, _, envMade, _⟩ := Load.make_eq_ok made
  obtain ⟨member, alone⟩ := Fragment.common_alone envMade common
  intro result there
  obtain ⟨container, before, one⟩ := exists_injectContainer each result there
  obtain ⟨own, _, rfl⟩ := List.mem_map.mp before
  rw [listed_env_injectContainer one, get?_env_revertContainer, listed_shrink revertEnv_nil]
  exact find?_injectEnv_of_alone (Fragment.env_names_reserved envMade) (find?_marker_revertEnv _ _) member alone

/-- The patch of an injecting call yields what the call makes of the object. -/
theorem perform?_of_injected {state : InjectionState} (made : Injection.patch object g = .ok patch)
    (run : (mutate object g).outcome = .ok (some state)) : patch.perform? object = some (mutate object g).object :=
  (patch_applies_iff made).1.mpr (annotatable_of_injected run)

end Injection

namespace Provenance

open Json Injection

/-- What changes the registry of a follower. -/
inductive Change where
  | upsert (resource : Instrumentation)
  | remove (key : ResourceKey)
  | replaceAll (listing : List Instrumentation)
  | report (event : WatchEvent)

namespace Change

def apply (f : Follower) : Change → Follower
  | upsert i => { f with registry := f.registry.upsert i }
  | remove key => { f with registry := f.registry.erase key }
  | replaceAll listing => { f with registry := f.registry.replaceAll listing }
  | report event => f.handle event

/-- The listing that is open after a change. -/
def collect (listing : Option (List Instrumentation)) : Change → Option (List Instrumentation)
  | report .listing => some []
  | report (.listingItem i) => listing.map (· ++ [i])
  | report .listed => none
  | _ => listing

/-- What a change settles for a key: the resource that is stored under it, or that there is none. Of an item in an open
listing nothing follows before the listing ends. -/
def verdict? (key : ResourceKey) (listing : Option (List Instrumentation)) :
    Change → Option (Option Instrumentation)
  | upsert i | report (.applied i) => if i.key = key then some (some i) else none
  | remove other => if other = key then some none else none
  | report (.deleted i) => if i.key = key then some none else none
  | replaceAll items => some (Registry.lastOf key items)
  | report .listing => none
  | report (.listingItem i) => if listing = none ∧ i.key = key then some (some i) else none
  | report .listed => listing.map (Registry.lastOf key)

variable (f : Follower) (c : Change)

theorem listing_apply : (c.apply f).listing = c.collect f.listing := by
  obtain ⟨registry, listing⟩ := f
  cases c with
  | report event => cases event <;> cases listing <;> rfl
  | _ => rfl

/-- What is under a key changes with the verdicts on it, and not otherwise. -/
theorem get?_apply (key : ResourceKey) :
    (c.apply f).registry.get? key = (c.verdict? key f.listing).getD (f.registry.get? key) := by
  obtain ⟨registry, listing⟩ := f
  have upserted (i : Instrumentation) : (registry.upsert i).get? key =
      (if i.key = key then some (some i) else none : Option (Option Instrumentation)).getD (registry.get? key) := by
    rw [Registry.get?_upsert]
    split <;> rfl
  have erased (other : ResourceKey) : (registry.erase other).get? key =
      (if other = key then some none else none : Option (Option Instrumentation)).getD (registry.get? key) := by
    rw [Assoc.get?_erase]
    split <;> rfl
  cases c with
  | upsert i => exact upserted i
  | remove other => exact erased other
  | replaceAll items => exact Registry.get?_replaceAll registry items key
  | report event =>
    cases event with
    | applied i => exact upserted i
    | deleted i => exact erased i.key
    | listing => rfl
    | listingItem i =>
      cases listing with
      | none =>
        have is : verdict? key none (report (.listingItem i)) = if i.key = key then some (some i) else none := by
          simp [verdict?]
        rw [is]
        exact upserted i
      | some items => rfl
    | listed =>
      cases listing with
      | none => rfl
      | some items => exact Registry.get?_replaceAll registry items key

end Change

/-- The verdicts of some changes on a key, in their order. -/
def verdicts (key : ResourceKey) : Option (List Instrumentation) → List Change → List (Option Instrumentation)
  | _, [] => []
  | listing, c :: rest => (c.verdict? key listing).toList ++ verdicts key (c.collect listing) rest

/-- The last verdict on a key is that a resource is stored under it. -/
def LastStored (key : ResourceKey) (changes : List Change) (resource : Instrumentation) : Prop :=
  (verdicts key none changes).getLast? = some (some resource)

/-- What is under a key after some changes is the last verdict on it, or what was there before if there is none. -/
theorem get?_foldl_apply (key : ResourceKey) (changes : List Change) (f : Follower) :
    (changes.foldl Change.apply f).registry.get? key =
      (verdicts key f.listing changes).getLast?.getD (f.registry.get? key) := by
  induction changes generalizing f with
  | nil => rfl
  | cons c rest ih =>
    rw [List.foldl_cons, ih, Change.listing_apply, Change.get?_apply, verdicts, List.getLast?_append]
    cases (verdicts key (c.collect f.listing) rest).getLast? with
    | some later => rfl
    | none => cases c.verdict? key f.listing <;> rfl

theorem lastStored_iff {key : ResourceKey} {changes : List Change} {resource : Instrumentation} :
    (changes.foldl Change.apply {}).registry.get? key = some resource ↔ LastStored key changes resource := by
  have last := get?_foldl_apply key changes {}
  rw [last, LastStored]
  cases (verdicts key none changes).getLast? with
  | none => exact ⟨nofun, nofun⟩
  | some verdict => exact ⟨congrArg some, Option.some.inj⟩

/-- Every resource stands under its own key. -/
def OwnKeys (registry : Registry) : Prop := ∀ key resource, registry.get? key = some resource → resource.key = key

theorem Change.verdict?_own {key : ResourceKey} {listing : Option (List Instrumentation)} {c : Change}
    {resource : Instrumentation} (stores : c.verdict? key listing = some (some resource)) : resource.key = key := by
  have single {i : Instrumentation} {p : Prop} [Decidable p] (own : p → i.key = key)
      (is : (if p then some (some i) else none : Option (Option Instrumentation)) = some (some resource)) :
      resource.key = key := by
    split at is
    · rename_i holds
      cases is
      exact own holds
    · cases is
  have noneStored {p : Prop} [Decidable p]
      (is : (if p then some none else none : Option (Option Instrumentation)) = some (some resource)) : False := by
    split at is <;> cases is
  cases c with
  | upsert i => exact single id stores
  | remove other => exact (noneStored stores).elim
  | replaceAll items => exact (Registry.lastOf_mem (Option.some.inj stores)).2
  | report event =>
    cases event with
    | applied i => exact single id stores
    | deleted i => exact (noneStored stores).elim
    | listing => cases stores
    | listingItem i => exact single And.right stores
    | listed =>
      obtain ⟨items, _, last⟩ := Option.map_eq_some_iff.mp stores
      exact (Registry.lastOf_mem last).2

theorem ownKeys_nil : OwnKeys [] := fun _ _ found => nomatch found

/-- One change keeps resources under their keys, also the end of a listing. -/
theorem OwnKeys.apply {f : Follower} (own : OwnKeys f.registry) (c : Change) : OwnKeys (c.apply f).registry := by
  intro key resource found
  rw [Change.get?_apply] at found
  cases settled : c.verdict? key f.listing with
  | none =>
    rw [settled] at found
    exact own key resource found
  | some verdict =>
    rw [settled] at found
    have stores : verdict = some resource := found
    exact Change.verdict?_own (stores ▸ settled)

/-- So they are under their keys after any changes. -/
theorem OwnKeys.foldl {f : Follower} (own : OwnKeys f.registry) (changes : List Change) :
    OwnKeys (changes.foldl Change.apply f).registry := by
  induction changes generalizing f with
  | nil => exact own
  | cons c rest ih => exact ih (own.apply c)

/-- What happens to a webhook: its registry changes, or it is asked for a review. -/
inductive Occurrence where
  | change (c : Change)
  | review (given : Admission.Review)

def Occurrence.change? : Occurrence → Option Change
  | change c => some c
  | review _ => none

structure Service where
  follower : Follower := {}
  heartbeat : Heartbeat := {}

namespace Service

variable (cluster : ClusterIdentity)

/-- The response to a review. -/
def reply (s : Service) (given : Admission.Review) : Admission.Response :=
  (Admission.answer s.follower.registry cluster s.heartbeat given).1

def handle (s : Service) : Occurrence → Service
  | .change c => { s with follower := c.apply s.follower }
  | .review given => { s with heartbeat := (Admission.answer s.follower.registry cluster s.heartbeat given).2 }

/-- The service after some occurrences. It begins without a resource. -/
def after (occurrences : List Occurrence) : Service := occurrences.foldl (handle cluster) {}

/-- Reviews leave the registry alone, so it is known from the changes only. -/
theorem follower_after (occurrences : List Occurrence) :
    (after cluster occurrences).follower = (occurrences.filterMap Occurrence.change?).foldl Change.apply {} := by
  have from_ (s : Service) : (occurrences.foldl (handle cluster) s).follower =
      (occurrences.filterMap Occurrence.change?).foldl Change.apply s.follower := by
    induction occurrences generalizing s with
    | nil => rfl
    | cons occurrence rest ih =>
      rw [List.foldl_cons, ih]
      cases occurrence <;> rfl
  exact from_ {}

end Service

/-- A patch for an object, and what it makes of the object, tell of a resource what that resource says of itself. -/
structure Attributed (object result : Json) (patch : Patch) (ns : String) (resource : Instrumentation)
    (state : InjectionState) : Prop where
  name : Selection.resourceName (Selection.templateAnnotations object) = .ok state.resourceName
  key : resource.metadata.ns.getD "" = ns ∧ resource.name = state.resourceName
  version : state.resourceVersion = resource.resourceVersion
  platforms : state.platforms = Selection.platforms (Selection.templateAnnotations object) resource
  own : Selection.Silent (Selection.templateAnnotations object) → state.platforms = resource.platforms
  operation : ∀ value, .add Injection.statePath value ∈ patch ↔ value = .str state.text
  replacement : .replace ⟨[]⟩ result ∈ patch
  applies : patch.perform? object = some result
  recorded : InjectionState.ofObject? result = some state
  connected : ∀ container ∈ PodIdentity.containers result,
    (listed (container.get? "env")).find? (named Fragment.connectionStringName) =
      some (EnvVar.mk Fragment.connectionStringName (.value resource.connectionString)).toJson

section

variable {registry : Registry} {cluster : ClusterIdentity} {request : Admission.Request} {patch : Patch}

theorem key_eq_iff {resource : Instrumentation} {ns name : String} :
    resource.key = ⟨ns, name⟩ ↔ resource.metadata.ns.getD "" = ns ∧ resource.name = name := by
  rw [Instrumentation.key, ResourceKey.mk.injEq]

/-- One lookup gives all that an injecting patch takes from a resource. It is assumed that resources stand under their
own keys, which holds of every run. -/
theorem exists_attributed (own : OwnKeys registry) {r : Admission.Resolved}
    (resolved : Admission.resolve registry request = .ok r)
    (made : Injection.patch r.object (r.governing cluster) = .ok patch) (injecting : Injection.Injecting patch) :
    ∃ w ns resource state result, Admission.validate request = .ok (w, ns) ∧
      registry.get? ⟨ns, state.resourceName⟩ = some resource ∧
      Attributed w.toJson result patch ns resource state := by
  obtain ⟨w, ns, name, valid, named, is⟩ := Admission.resolve_eq_ok_iff.mp resolved
  obtain ⟨state, run⟩ := (injecting_iff made).mp injecting
  obtain ⟨operation, replacement⟩ := mem_patch_of_injected made run
  obtain ⟨_, _, _, _, _, recorded, record⟩ := mutate_faithful run
  have object : r.object = w.toJson := congrArg Admission.Resolved.object is
  have applies : patch.perform? w.toJson = some (mutate r.object (r.governing cluster)).object :=
    (congrArg patch.perform? object.symm).trans (perform?_of_injected made run)
  have looked : r.resource = registry.get? ⟨ns, name⟩ := congrArg Admission.Resolved.resource is
  cases found : registry.get? ⟨ns, name⟩ with
  | none =>
    -- Without a resource a call records no state.
    simp [Governing.record, Admission.Resolved.governing, looked, found] at record
  | some resource =>
    have has : (r.governing cluster).resource = some resource := looked.trans found
    have noted : some state = if Selection.platforms (Selection.templateAnnotations w.toJson) resource = [] then none
        else some ⟨resource.name, resource.resourceVersion,
          Selection.platforms (Selection.templateAnnotations w.toJson) resource⟩ := by
      simpa [Governing.record, Admission.Resolved.governing, looked, found, object] using record
    have connected : ⟨Fragment.connectionStringName, .value resource.connectionString⟩ ∈
        Fragment.commonEnv (r.governing cluster).pod resource.connectionString (r.governing cluster).cluster := by
      simp [Fragment.commonEnv]
    obtain ⟨inNs, rfl⟩ := key_eq_iff.mp (own _ resource found)
    split at noted
    · cases noted
    · obtain rfl := Option.some.inj noted
      exact ⟨w, ns, resource, _, _, valid, found, named, ⟨inNs, rfl⟩, rfl, rfl,
        fun silent => (Selection.choice _ resource).own.mp silent resource, operation, replacement, applies, recorded,
        find?_common_of_injected run has connected⟩

end

/-- However changes and reviews have followed each other, what is found under a key has that key: its namespace, or the
empty one if it has none, and its name. Of a review answered with an injecting patch, all that the patch tells of a
resource is true of one, which was stored last under the key of the submitted object. For the first half nothing is
assumed of the run, also not that anything was ever injected. -/
theorem injection_provenance (cluster : ClusterIdentity) (occurrences : List Occurrence) :
    (∀ ns name resource, (Service.after cluster occurrences).follower.registry.get? ⟨ns, name⟩ = some resource →
      resource.metadata.ns.getD "" = ns ∧ resource.name = name) ∧
    ∀ (given : Admission.Review) (patch : Patch),
      ((Service.after cluster occurrences).reply cluster given).patch? = some patch → Injecting patch →
      ∃ request w ns resource state result, given.request = some request ∧
        Admission.validate request = .ok (w, ns) ∧
        LastStored ⟨ns, state.resourceName⟩ (occurrences.filterMap Occurrence.change?) resource ∧
        Attributed w.toJson result patch ns resource state := by
  have own : OwnKeys (Service.after cluster occurrences).follower.registry := by
    rw [Service.follower_after]
    exact OwnKeys.foldl ownKeys_nil _
  refine ⟨fun ns name resource found => key_eq_iff.mp (own _ resource found), ?_⟩
  intro ⟨types, request?⟩ patch answered injecting
  cases request? with
  | none => cases answered
  | some request =>
    obtain ⟨r, resolved, made⟩ := Admission.patch?_answer_eq_some_iff.mp answered
    obtain ⟨w, ns, resource, state, result, valid, found, attributed⟩ := exists_attributed own resolved made injecting
    rw [Service.follower_after] at found
    exact ⟨request, w, ns, resource, state, result, rfl, valid, lastStored_iff.mp found, attributed⟩

/-- A resource for the requests of a namespace, with one platform. -/
def appsResource (version connectionString : String) : Instrumentation where
  metadata := { name := some Instrumentation.defaultName, ns := some "apps", resourceVersion := some version }
  platforms := [.java]
  connectionString := connectionString

/-- A review that comes while a listing is open, and the end of the listing after it. -/
def relisted : List Occurrence := [
  .change (.upsert (appsResource "1" "old")),
  .change (.report .listing),
  .change (.report (.listingItem (appsResource "2" "new"))),
  .review ⟨default, some (Admission.appsRequest .create Admission.webDeployment)⟩,
  .change (.report .listed),
  .change (.remove ⟨"ops", Instrumentation.defaultName⟩)]

theorem relisted_resource_recorded : ∃ patch,
    ((Service.after {} relisted).reply {}
      ⟨default, some (Admission.appsRequest .create Admission.webDeployment)⟩).patch? = some patch ∧
    Injecting patch ∧ ∃ state result, state.resourceVersion = "2" ∧
      Attributed Admission.webDeployment result patch "apps" (appsResource "2" "new") state := by
  have answered : ((Service.after {} relisted).reply {}
      ⟨default, some (Admission.appsRequest .create Admission.webDeployment)⟩).patch? = some _ := rfl
  obtain ⟨r, resolved, made⟩ := Admission.patch?_answer_eq_some_iff.mp answered
  have injecting := (injecting_iff made).mpr ⟨_, by cases resolved; rfl⟩
  obtain ⟨request, w, ns, resource, state, result, given, valid, stored, attributed⟩ :=
    (injection_provenance {} relisted).2 _ _ answered injecting
  cases given
  cases valid
  have isDefault : Except.ok Instrumentation.defaultName = (Except.ok state.resourceName : Except Error String) :=
    attributed.name
  have name : state.resourceName = Instrumentation.defaultName := (Except.ok.inj isDefault).symm
  rw [name] at stored
  obtain rfl : appsResource "2" "new" = resource := Option.some.inj (Option.some.inj stored)
  exact ⟨_, answered, injecting, state, result, attributed.version, attributed⟩

end Provenance

end Graft
