import Graft.Proofs.CanonicalSteps
import Graft.Proofs.OthersKept

namespace Graft.Injection

open Json

/-- A container without its variables and mounts. -/
def bareContainer : Json → Json :=
  onMembers fun container => (container.erase "env").erase "volumeMounts"

def barePod (pod : Members) : Members :=
  ((pod.erase "initContainers").erase "volumes").alter "containers" (Option.map (onItems (List.map bareContainer)))

/-- Metadata without annotations, and nothing if that leaves it empty. -/
def bareMetadata (metadata : Option Json) : Option Json :=
  nonEmptyMap (metadata.map (onMembers (Keyed.erase "annotations")))

def bareTemplate (template : Members) : Members :=
  (template.alter "metadata" bareMetadata).alter "spec" (Option.map (onMembers barePod))

/-- An object without the lists and the annotations that an injection works in. -/
def bare : Json → Json := onTemplate bareTemplate

/-- Two containers differ at most in reserved variables and mounts. Nothing is said of the order in which reserved and
other entries stand to each other, only of the others among themselves. -/
structure SameCustomer (before after : Json) : Prop where
  env : unnamed ours (listed (after.get? "env")) = unnamed ours (listed (before.get? "env"))
  mounts : unnamed Fragment.reservedVolumes (listed (after.get? "volumeMounts")) =
    unnamed Fragment.reservedVolumes (listed (before.get? "volumeMounts"))
  others : bareContainer after = bareContainer before

theorem SameCustomer.trans {first second third : Json} (h : SameCustomer first second)
    (next : SameCustomer second third) : SameCustomer first third :=
  ⟨next.env.trans h.env, next.mounts.trans h.mounts, next.others.trans h.others⟩

theorem bareContainer_alter {members : Members} (sorted : Keyed.Sorted members) (f g : Option Json → Option Json) :
    bareContainer (.obj ((members.alter "env" f).alter "volumeMounts" g)) = bareContainer (.obj members) :=
  congrArg Json.obj (sorted.alter_twice (by decide) f g (fun _ => none) fun _ => none)

theorem sameCustomer_revertContainer {container : Json} (canonical : container.Canonical) (injected : Bool) :
    SameCustomer container (revertContainer injected container) where
  env := by rw [get?_env_revertContainer, listed_shrink revertEnv_nil, unnamed_revertEnv]
  mounts := by rw [get?_volumeMounts_revertContainer, listed_shrink rfl, unnamed_unnamed]
  others := by
    cases container with
    | obj members => rw [revertContainer_obj canonical.sorted, bareContainer_alter canonical.sorted]
    | _ => rfl

variable {load : Load}

theorem sameCustomer_injectContainer (reserved : ∀ var ∈ load.env, var.name ∈ Fragment.reservedEnv)
    (owned : Owned Fragment.reservedVolumes load.mounts) {container result : Json} (canonical : container.Canonical)
    (run : injectContainer load container = .ok result) : SameCustomer container result where
  env := by rw [listed_env_injectContainer run, unnamed_injectEnv reserved]
  mounts := by rw [listed_volumeMounts_injectContainer run, unnamed_append_of_owned owned]
  others := by
    obtain ⟨members, rfl, _, _, rfl⟩ := injectContainer_eq_ok_iff.mp run
    exact bareContainer_alter canonical.sorted _ _

theorem forall₂_trans {first second third : List Json} (h : List.Forall₂ SameCustomer first second)
    (next : List.Forall₂ SameCustomer second third) : List.Forall₂ SameCustomer first third := by
  induction h generalizing third with
  | nil => exact next
  | cons one _ ih =>
    obtain ⟨_, _, two, rest, rfl⟩ := List.forall₂_cons_left_iff.mp next
    exact .cons (one.trans two) (ih rest)

theorem map_bareContainer {before after : List Json} (same : List.Forall₂ SameCustomer before after) :
    after.map bareContainer = before.map bareContainer := by
  induction same with
  | nil => rfl
  | cons one _ ih => rw [List.map_cons, List.map_cons, one.others, ih]

theorem get?_barePod (pod : Members) (key : String) : Keyed.get? key (barePod pod) =
    if key = "containers" then (Keyed.get? "containers" pod).map (onItems (List.map bareContainer))
    else if key = "volumes" then none
    else if key = "initContainers" then none
    else Keyed.get? key pod := by
  rw [barePod, Keyed.get?_alter]
  simp only [Keyed.get?_erase]
  rfl

theorem sorted_barePod {pod : Members} (sorted : Keyed.Sorted pod) : Keyed.Sorted (barePod pod) :=
  ((sorted.erase _).erase _).alter _ _

/-- Pods are the same without their lists if their other members and the rest of their containers are. -/
theorem barePod_congr {pod other : Members} (sorted : Keyed.Sorted pod) (otherSorted : Keyed.Sorted other)
    (members : ∀ key, key ≠ "volumes" → key ≠ "initContainers" → key ≠ "containers" →
      Keyed.get? key other = Keyed.get? key pod)
    (listable : Listable (Keyed.get? "containers" pod)) {results : List Json}
    (atContainers : Keyed.get? "containers" other = (Keyed.get? "containers" pod).map fun _ => .arr results)
    (containers : List.Forall₂ SameCustomer (listed (Keyed.get? "containers" pod))
      (listed (Keyed.get? "containers" other))) :
    barePod other = barePod pod := by
  refine (sorted_barePod otherSorted).ext (sorted_barePod sorted) fun key => ?_
  rw [get?_barePod, get?_barePod]
  split
  · rcases listable with absent | ⟨items, found⟩
    · rw [atContainers, absent]
      rfl
    · rw [atContainers, found] at containers ⊢
      exact congrArg (fun items => some (Json.arr items)) (map_bareContainer containers)
  · rename_i notContainers
    split
    · rfl
    · rename_i notVolumes
      split
      · rfl
      · rename_i notInits
        exact members key notVolumes notInits notContainers

/-- Two pods differ at most in entries with reserved names. -/
structure SamePod (before after : Members) : Prop where
  volumes : unnamed Fragment.reservedVolumes (listed (Keyed.get? "volumes" after)) =
    unnamed Fragment.reservedVolumes (listed (Keyed.get? "volumes" before))
  initContainers : unnamed Fragment.reservedInitContainers (listed (Keyed.get? "initContainers" after)) =
    unnamed Fragment.reservedInitContainers (listed (Keyed.get? "initContainers" before))
  containers : List.Forall₂ SameCustomer (listed (Keyed.get? "containers" before))
    (listed (Keyed.get? "containers" after))
  others : barePod after = barePod before

theorem SamePod.trans {first second third : Members} (h : SamePod first second) (next : SamePod second third) :
    SamePod first third :=
  ⟨next.volumes.trans h.volumes, next.initContainers.trans h.initContainers,
    forall₂_trans h.containers next.containers, next.others.trans h.others⟩

theorem samePod_revertPod {pod : Members} (canonical : (Json.obj pod).Canonical)
    (listable : Listable (Keyed.get? "containers" pod)) (injected : Bool) :
    SamePod pod (revertPod injected pod) := by
  have containers : List.Forall₂ SameCustomer (listed (Keyed.get? "containers" pod))
      (listed (Keyed.get? "containers" (revertPod injected pod))) := by
    rw [get?_containers_revertPod, listed_map_onItems, List.forall₂_map_right_iff, List.forall₂_same]
    exact fun container member => sameCustomer_revertContainer (canonical_listed (fun _ => canonical.get?) _ member) _
  have atContainers : Keyed.get? "containers" (revertPod injected pod) = (Keyed.get? "containers" pod).map
      fun _ => .arr ((listed (Keyed.get? "containers" pod)).map (revertContainer injected)) := by
    rw [get?_containers_revertPod]
    rcases listable with absent | ⟨items, found⟩
    · rw [absent]
      rfl
    · rw [found]
      rfl
  refine ⟨?_, ?_, containers, barePod_congr canonical.sorted (canonical_revertPod canonical injected).sorted ?_
    listable atContainers containers⟩
  · rw [get?_volumes_revertPod, listed_shrink rfl, unnamed_unnamed]
  · rw [get?_initContainers_revertPod, listed_shrink rfl, unnamed_unnamed]
  · intro key notVolumes notInits notContainers
    rw [get?_revertPod_of_ne notContainers, get?_dropNamed_of_ne notVolumes, get?_dropNamed_of_ne notInits]

theorem samePod_injectPod {resource : Instrumentation} {identity : PodIdentity} {platforms : List Platform}
    {cluster : ClusterIdentity} (some : platforms ≠ [])
    (made : Load.make resource identity platforms cluster = .ok load) {pod result : Members}
    (canonical : (Json.obj pod).Canonical) (listable : Listable (Keyed.get? "containers" pod))
    (run : injectPod load pod = .ok result) : SamePod pod result := by
  obtain ⟨initContainersOwned, volumesOwned, mountsOwned⟩ := Load.owned some made
  obtain ⟨_, _, _, _, _, _, env, _⟩ := Load.make_eq_ok made
  obtain ⟨volumes, initContainers, each⟩ := listed_injectPod listable run
  have sorted := (canonical_injectPod (Load.canonical made) canonical listable run).sorted
  obtain ⟨_, _, injected, _, eq⟩ := (injectPod_eq_ok_iff_of_listable listable).mp run
  have containers : List.Forall₂ SameCustomer (listed (Keyed.get? "containers" pod))
      (listed (Keyed.get? "containers" result)) := by
    have eachCanonical : AllCanonical (listed (Keyed.get? "containers" pod)) :=
      canonical_listed fun _ => canonical.get?
    refine ((List.forall₂_and_left _ _).mpr ⟨eachCanonical, injectContainers_eq_ok_iff.mp each⟩).imp ?_
    rintro container result ⟨canonical, one⟩
    exact sameCustomer_injectContainer (Fragment.env_names_reserved env) mountsOwned canonical one
  have atContainers : Keyed.get? "containers" result =
      (Keyed.get? "containers" pod).map fun _ => .arr injected := by
    rw [eq, Keyed.get?_alter_self, Keyed.get?_alter_of_ne (by decide), Keyed.get?_alter_of_ne (by decide)]
  refine ⟨?_, ?_, containers, barePod_congr canonical.sorted sorted ?_ listable atContainers containers⟩
  · rw [volumes, unnamed_append_of_owned volumesOwned]
  · rw [initContainers, unnamed_append_of_owned initContainersOwned]
  · intro key notVolumes notInits notContainers
    rw [eq, Keyed.get?_alter_of_ne notContainers, Keyed.get?_alter_of_ne notInits, Keyed.get?_alter_of_ne notVolumes]

theorem erase_alter {members : Members} (sorted : Keyed.Sorted members) (key : String)
    (f : Option Json → Option Json) : Keyed.erase key (Keyed.alter key f members) = Keyed.erase key members :=
  sorted.alter_alter key f fun _ => none

theorem bareMetadata_shrinkMap {metadata : Option Json} (sorted : Keyed.Sorted (mapped metadata))
    (f : Option Json → Option Json) :
    bareMetadata (shrinkMap (Keyed.alter "annotations" f) metadata) = bareMetadata metadata := by
  unfold shrinkMap
  split
  · rename_i members
    have same : Keyed.erase "annotations" (Keyed.alter "annotations" f members) = Keyed.erase "annotations" members :=
      erase_alter sorted "annotations" f
    split
    · rename_i emptied
      have none : Keyed.erase "annotations" members = [] := by
        rw [← same, List.isEmpty_iff.mp (Bool.and_eq_true_iff.mp emptied).1]
        rfl
      simp [bareMetadata, onMembers, none, nonEmptyMap]
    · simp [bareMetadata, onMembers, same]
  · rfl

theorem bareMetadata_annotate {metadata : Option Json} (mappable : Mappable metadata)
    (sorted : Keyed.Sorted (mapped metadata)) : bareMetadata (annotate load metadata) = bareMetadata metadata := by
  rcases mappable with rfl | ⟨members, rfl⟩
  · rfl
  · exact congrArg (fun members => nonEmptyMap (some (.obj members))) (erase_alter sorted "annotations" _)

theorem get?_bareTemplate (template : Members) (key : String) : Keyed.get? key (bareTemplate template) =
    if key = "spec" then (Keyed.get? "spec" template).map (onMembers barePod)
    else if key = "metadata" then bareMetadata (Keyed.get? "metadata" template)
    else Keyed.get? key template := by
  rw [bareTemplate, Keyed.get?_alter, Keyed.get?_alter_of_ne (by decide), Keyed.get?_alter]

/-- Templates are the same without what an injection works in if their members are, and for the pods and the metadata
what is left of them. -/
theorem bareTemplate_congr {template other pod otherPod : Members} (sorted : Keyed.Sorted template)
    (otherSorted : Keyed.Sorted other)
    (members : ∀ key, key ≠ "spec" → key ≠ "metadata" → Keyed.get? key other = Keyed.get? key template)
    (metadata : bareMetadata (Keyed.get? "metadata" other) = bareMetadata (Keyed.get? "metadata" template))
    (atPod : Keyed.get? "spec" template = some (.obj pod))
    (otherAtPod : Keyed.get? "spec" other = some (.obj otherPod)) (pods : barePod otherPod = barePod pod) :
    bareTemplate other = bareTemplate template := by
  refine ((otherSorted.alter _ _).alter _ _).ext ((sorted.alter _ _).alter _ _) fun key => ?_
  refine (get?_bareTemplate other key).trans (Eq.trans ?_ (get?_bareTemplate template key).symm)
  split
  · rw [atPod, otherAtPod]
    exact congrArg (fun pod => some (Json.obj pod)) pods
  · rename_i notSpec
    split
    · exact metadata
    · rename_i notMetadata
      exact members key notSpec notMetadata

theorem bareTemplate_reverted {object : Json} {l : Layers} (ok : layers object = .ok l) (canonical : object.Canonical)
    (injected : Bool) : bareTemplate (l.reverted injected) = bareTemplate l.template := by
  obtain ⟨templateCanonical, podCanonical⟩ := Layers.canonical ok canonical
  obtain ⟨_, _, _, atPod, listable⟩ := layers_eq_ok_iff.mp ok
  have metadataSorted : Keyed.Sorted (mapped (Keyed.get? "metadata" l.template)) :=
    (canonical_mapped fun _ => templateCanonical.get?).sorted
  refine bareTemplate_congr templateCanonical.sorted (canonical_reverted ok canonical injected).sorted ?_ ?_ atPod
    (l.get?_spec_reverted injected) (samePod_revertPod podCanonical listable injected).others
  · intro key notSpec notMetadata
    rw [l.get?_reverted_of_ne notSpec, revertMetadata_eq templateCanonical.sorted metadataSorted,
      Keyed.get?_alter_of_ne notMetadata]
  · rw [l.get?_reverted_of_ne (by decide), revertMetadata_eq templateCanonical.sorted metadataSorted,
      Keyed.get?_alter_self]
    exact bareMetadata_shrinkMap metadataSorted _

theorem bareTemplate_injectTemplate {template pod result resultPod : Members}
    (canonical : (Json.obj template).Canonical) (resultSorted : Keyed.Sorted result)
    (atPod : Keyed.get? "spec" template = some (.obj pod)) (run : injectTemplate load template = .ok result)
    (resultAtPod : Keyed.get? "spec" result = some (.obj resultPod)) (pods : barePod resultPod = barePod pod) :
    bareTemplate result = bareTemplate template := by
  obtain ⟨mappable, _, _, _, eq⟩ := (injectTemplate_eq_ok_iff atPod).mp run
  refine bareTemplate_congr canonical.sorted resultSorted ?_ ?_ atPod resultAtPod pods
  · intro key notSpec notMetadata
    rw [eq, Keyed.get?_insert_of_ne notSpec, Keyed.get?_alter_of_ne notMetadata]
  · rw [eq, Keyed.get?_insert_of_ne (by decide), Keyed.get?_alter_self]
    exact bareMetadata_annotate mappable (canonical_mapped fun _ => canonical.get?).sorted

/-- Two objects differ at most in what an injection may put into them. -/
structure Framed (before after : Json) : Prop where
  elsewhere : bare after = bare before
  annotations : ∀ key, key ∉ [Convention.stateAnnotation, Convention.logsAnnotation, Convention.logsShadow] →
    after.path? ["spec", "template", "metadata", "annotations", key] =
      before.path? ["spec", "template", "metadata", "annotations", key]
  volumes : unnamed Fragment.reservedVolumes (listed (after.path? ["spec", "template", "spec", "volumes"])) =
    unnamed Fragment.reservedVolumes (listed (before.path? ["spec", "template", "spec", "volumes"]))
  initContainers :
    unnamed Fragment.reservedInitContainers (listed (after.path? ["spec", "template", "spec", "initContainers"])) =
      unnamed Fragment.reservedInitContainers (listed (before.path? ["spec", "template", "spec", "initContainers"]))
  containers : List.Forall₂ SameCustomer (PodIdentity.containers before) (PodIdentity.containers after)

theorem get?_revertAnnotations_of_other {key : String} (injected : Bool) (annotations : Members)
    (other : key ∉ [Convention.stateAnnotation, Convention.logsAnnotation, Convention.logsShadow]) :
    Keyed.get? key (revertAnnotations injected annotations) = Keyed.get? key annotations := by
  simp only [List.mem_cons, List.not_mem_nil, or_false, not_or] at other
  obtain ⟨notState, notLogs, notShadow⟩ := other
  simp [get?_revertAnnotations, notState, notLogs, notShadow]

theorem get?_injectAnnotations_of_other {key : String} (annotations : Members)
    (other : key ∉ [Convention.stateAnnotation, Convention.logsAnnotation, Convention.logsShadow]) :
    Keyed.get? key (injectAnnotations load annotations) = Keyed.get? key annotations := by
  simp only [List.mem_cons, List.not_mem_nil, or_false, not_or] at other
  obtain ⟨notState, notLogs, notShadow⟩ := other
  simp [get?_injectAnnotations, notState, notLogs, notShadow]

/-- The layers of an object tell what differs between it and another in its place. So it is enough to look at templates,
whose metadata and pods are looked at apart. -/
theorem framed_of_layers {before after : Json} {l l' : Layers} (ok : layers before = .ok l)
    (ok' : layers after = .ok l') (place : ∀ other, l'.withTemplate other = l.withTemplate other)
    (template : bareTemplate l'.template = bareTemplate l.template)
    (annotations : ∀ key, key ∉ [Convention.stateAnnotation, Convention.logsAnnotation, Convention.logsShadow] →
      Keyed.get? key (mapped (Keyed.get? "annotations" (mapped (Keyed.get? "metadata" l'.template)))) =
        Keyed.get? key (mapped (Keyed.get? "annotations" (mapped (Keyed.get? "metadata" l.template)))))
    (pod : SamePod l.pod l'.pod) : Framed before after where
  elsewhere := by rw [bare, onTemplate_eq ok, onTemplate_eq ok', place, template]
  annotations key other := by rw [path?_inAnnotations ok, path?_inAnnotations ok', annotations key other]
  volumes := by rw [path?_pod ok, path?_pod ok', pod.volumes]
  initContainers := by rw [path?_pod ok, path?_pod ok', pod.initContainers]
  containers := by rw [containers_eq_listed ok, containers_eq_listed ok']; exact pod.containers

theorem framed_of_idle {object : Json} {g : Governing} {l : Layers} (ok : layers object = .ok l)
    (canonical : object.Canonical) (idle : g.Idle) : Framed object (mutate object g).object := by
  obtain ⟨_, _, _, _, listable⟩ := layers_eq_ok_iff.mp ok
  obtain ⟨_, podCanonical⟩ := Layers.canonical ok canonical
  obtain ⟨l', ok', template, pod, place⟩ := layers_mutate_idle ok idle
  refine framed_of_layers ok ok' place (template ▸ bareTemplate_reverted ok canonical _) ?_
    (pod ▸ samePod_revertPod podCanonical listable _)
  intro key other
  rw [template, annotations_reverted, get?_revertAnnotations_of_other _ _ other]

theorem framed_of_injected {object : Json} {g : Governing} {state : InjectionState} (canonical : object.Canonical)
    (run : (mutate object g).outcome = .ok (some state)) : Framed object (mutate object g).object := by
  obtain ⟨l, ok⟩ := layers_of_mutate run
  obtain ⟨_, _, _, _, listable⟩ := layers_eq_ok_iff.mp ok
  obtain ⟨_, podCanonical⟩ := Layers.canonical ok canonical
  have resultCanonical := canonical_mutate canonical run
  obtain ⟨resource, load, l', _, some, made, _, ok', injected, podRun, place⟩ := layers_mutate_injected ok run
  obtain ⟨_, _, _, atPod', _⟩ := layers_eq_ok_iff.mp ok'
  have atPod := l.get?_spec_reverted (isInjected object)
  -- The call reverts the object first, and each half leaves alone what is the customer's.
  have reverted := samePod_revertPod podCanonical listable (isInjected object)
  have filled := samePod_injectPod some made (canonical_revertPod podCanonical _) (listable_revertPod listable) podRun
  refine framed_of_layers ok ok' place ?_ ?_ (reverted.trans filled)
  · have sorted := (Layers.canonical ok' resultCanonical).1.sorted
    have same := bareTemplate_injectTemplate (canonical_reverted ok canonical _) sorted atPod injected atPod' filled.others
    exact same.trans (bareTemplate_reverted ok canonical _)
  · intro key other
    rw [annotations_injectTemplate atPod injected, get?_injectAnnotations_of_other _ other, annotations_reverted,
      get?_revertAnnotations_of_other _ _ other]

/-- A successful call leaves alone what is the customer's, whatever it injects or takes out: everything outside of the
lists and the annotations that an injection works in, and there all that has none of its names. Nothing is assumed of
the object but that it is canonical; it may have been edited by hand before. -/
theorem mutate_framed {object : Json} {g : Governing} {state : Option InjectionState} (canonical : object.Canonical)
    (run : (mutate object g).outcome = .ok state) : Framed object (mutate object g).object := by
  cases state with
  | some state => exact framed_of_injected canonical run
  | none =>
    obtain ⟨l, ok⟩ := layers_of_mutate run
    exact framed_of_idle ok canonical (idle_of_mutate run)

/-- A workload with a marker that no injection left, variables that are none, and a mount of an agent. -/
def oddWorkload : Json := .obj [("spec", .obj [("template", .obj [
  ("metadata", .obj [("labels", .obj [("app", .str "web")])]),
  ("spec", .obj [
    ("containers", .arr [.obj [
      ("env", .arr [.str "HOME", markerEntry, .obj [("value", .str "1")],
        .obj [("name", .str "NODE_OPTIONS"), ("value", .str "--inspect")]]),
      ("name", .str "main"),
      ("volumeMounts", .arr [(Mount.mk Agent.java.volume "/agents").toJson, .null])]]),
    ("volumes", .arr [.obj [("name", .str "data")]])])])])]

theorem odd_workload_framed : oddWorkload.Canonical ∧
    (mutate oddWorkload (governing [.nodeJs])).outcome = .ok (some ⟨"default", "", [.nodeJs]⟩) ∧
    Framed oddWorkload (mutate oddWorkload (governing [.nodeJs])).object := by
  have run : (mutate oddWorkload (governing [.nodeJs])).outcome = .ok (some ⟨"default", "", [.nodeJs]⟩) := rfl
  exact ⟨by decide, run, mutate_framed (by decide) run⟩

end Graft.Injection
