import Graft.Proofs.Annotations
import Graft.Proofs.EnvReversal
import Graft.Proofs.Trimmed

namespace Graft.Injection

open Json

theorem unnamed_append_of_owned {names : List String} {added : List Json} (owned : Owned names added)
    (entries : List Json) : unnamed names (entries ++ added) = unnamed names entries := by
  rw [unnamed_append, unnamed_eq_nil owned.named, List.append_nil]

theorem unnamed_append_owned {names : List String} {entries added : List Json} (free : Free names entries)
    (owned : Owned names added) : unnamed names (entries ++ added) = entries :=
  (unnamed_append_of_owned owned entries).trans (unnamed_eq_self free)

/-- What an injection put into a list goes, and so does the list if there was nothing else in it. The list must have
been free of its names before. -/
theorem shrink_grow_owned {names : List String} {member : Option Json} {added : List Json}
    (listable : Listable member) (free : Free names (listed member)) (owned : Owned names added) :
    shrink (unnamed names) (grow (· ++ added) member) = nonEmptyList member :=
  shrink_grow listable (unnamed_append_owned free owned) fun none => owned.ne_nil (List.append_eq_nil_iff.mp none).2

theorem shrink_unnamed_eq_self {names : List String} {member : Option Json} (free : Free names (listed member)) :
    shrink (unnamed names) member = member :=
  shrink_eq_self (unnamed_eq_self free)

/-- A container that nothing has touched is what it was, without lists that were empty. The load has to be reversible,
so no platform may be repeated. -/
theorem revertContainer_injectContainer {load : Load} (h : load.Reversible) {container result : Json}
    (canonical : container.Canonical) (untouched : Untouched container)
    (run : injectContainer load container = .ok result) : revertContainer true result = trimContainer container := by
  obtain ⟨members, rfl, envListable, mountsListable, rfl⟩ := injectContainer_eq_ok_iff.mp run
  obtain ⟨env, mounts⟩ := untouched
  simp only [Json.get?] at env mounts
  have sorted := canonical.sorted
  have undone := revertEnv_injectEnv h env (canonical_listed fun _ => canonical.get?)
  have marked : injectEnv load (listed (Keyed.get? "env" members)) ≠ [] := by
    rw [injectEnv_eq h.reserved (env.find?_eq_none List.mem_cons_self)]
    simp
  have atEnv := shrink_grow envListable undone marked
  have atMounts := shrink_grow_owned mountsListable mounts h.mounts
  have same : Keyed.alter "volumeMounts" (shrink (unnamed Fragment.reservedVolumes)) (Keyed.alter "env"
        (shrink (revertEnv true)) (Keyed.alter "volumeMounts" (grow (· ++ load.mounts))
          (Keyed.alter "env" (grow (injectEnv load)) members))) =
      Keyed.alter "volumeMounts" nonEmptyList (Keyed.alter "env" nonEmptyList members) := by
    have env : Keyed.alter "env" (shrink (revertEnv true) ∘ grow (injectEnv load)) members =
        Keyed.alter "env" nonEmptyList members := Keyed.alter_congr (by simpa only [Function.comp_apply] using atEnv)
    rw [sorted.alter_twice (by decide), env]
    refine Keyed.alter_congr ?_
    rw [Function.comp_apply, Keyed.get?_alter_of_ne (by decide)]
    exact atMounts
  exact (revertContainer_obj ((sorted.alter "env" _).alter "volumeMounts" _)).trans (congrArg Json.obj same)

theorem map_revertContainer {load : Load} (h : load.Reversible) {containers results : List Json}
    (canonical : ∀ container ∈ containers, container.Canonical)
    (untouched : ∀ container ∈ containers, Untouched container)
    (run : injectContainers load containers = .ok results) :
    results.map (revertContainer true) = containers.map trimContainer := by
  have each := injectContainers_eq_ok_iff.mp run
  clear run
  induction each with
  | nil => rfl
  | @cons container result rest results first _ ih =>
    rw [List.map_cons, List.map_cons, revertContainer_injectContainer h (canonical _ List.mem_cons_self)
      (untouched _ List.mem_cons_self) first,
      ih (fun other member => canonical other (List.mem_cons_of_mem _ member))
        (fun other member => untouched other (List.mem_cons_of_mem _ member))]

theorem revertPod_injectPod {load : Load} (h : load.Reversible) {pod result : Members} (clean : CleanPod pod)
    (run : injectPod load pod = .ok result) : revertPod true result = trimPod pod := by
  obtain ⟨containers, found, same⟩ := clean.exists_containers
  obtain ⟨volumes, initContainers, injected, each, rfl⟩ := (injectPod_eq_ok_iff found).mp run
  have sorted := clean.canonical.sorted
  have atVolumes := shrink_grow_owned volumes clean.volumes h.volumes
  have atInitContainers := shrink_grow_owned initContainers clean.initContainers h.initContainers
  have atContainers := map_revertContainer h (same ▸ canonical_listed fun _ => clean.canonical.get?)
    (same ▸ clean.untouched) each
  rw [revertPod_eq (((sorted.alter _ _).alter _ _).insert _ _)]
  refine Keyed.Sorted.ext ?_ ?_ fun key => ?_
  · exact ((((sorted.alter _ _).alter _ _).insert _ _).alter _ _ |>.alter _ _).alter _ _
  · exact ((sorted.alter _ _).alter _ _).alter _ _
  · by_cases isVolumes : key = "volumes"
    · subst isVolumes
      simpa [trimPod, Keyed.get?_alter, Keyed.get?_insert] using atVolumes
    · by_cases isInitContainers : key = "initContainers"
      · subst isInitContainers
        simpa [trimPod, Keyed.get?_alter, Keyed.get?_insert] using atInitContainers
      · by_cases isContainers : key = "containers"
        · subst isContainers
          simp [trimPod, Keyed.get?_alter, found, onItems, atContainers]
        · simp [trimPod, Keyed.get?_alter, Keyed.get?_insert, isVolumes, isInitContainers, isContainers]

/-- Metadata that nothing has touched is what it was, without what was empty. -/
theorem shrink_annotate {load : Load} {metadata : Option Json} (mappable : Mappable metadata)
    (inside : Mappable (Keyed.get? "annotations" (mapped metadata)))
    (canonical : (Json.obj (mapped metadata)).Canonical)
    (state : Keyed.get? Convention.stateAnnotation (mapped (Keyed.get? "annotations" (mapped metadata))) = none)
    (shadow : Keyed.get? Convention.logsShadow (mapped (Keyed.get? "annotations" (mapped metadata))) = none) :
    shrinkMap (fun metadata => Keyed.alter "annotations" (shrinkMap (revertAnnotations true)) metadata)
      (annotate load metadata) = trimMetadata metadata := by
  have sorted : Keyed.Sorted (mapped (Keyed.get? "annotations" (mapped metadata))) := by
    rcases inside with absent | ⟨annotations, found⟩
    · rw [absent]
      exact .nil
    · rw [found]
      exact (canonical.get? found).sorted
  have annotations : shrinkMap (revertAnnotations true) (growMap (injectAnnotations load)
      (Keyed.get? "annotations" (mapped metadata))) = nonEmptyMap (Keyed.get? "annotations" (mapped metadata)) := by
    rw [shrinkMap_growMap (injectAnnotations_ne_nil _ _), revertAnnotations_injectAnnotations sorted state shadow]
    exact nonEmptyMap_of_mappable inside
  have grown : Keyed.alter "annotations" (growMap (injectAnnotations load)) (mapped metadata) ≠ [] :=
    Keyed.insert_ne_nil _ _ _
  rw [annotate, shrinkMap_growMap grown, canonical.sorted.alter_alter,
    Keyed.alter_congr (annotations : (shrinkMap (revertAnnotations true) ∘ growMap (injectAnnotations load)) _ = _)]
  rcases mappable with rfl | ⟨members, rfl⟩ <;> rfl

/-- A template that nothing has touched is what it was once an injection into it is reverted, without the lists and maps
that were empty. Each of its parts is reverted as it is read, so the reversal knows nothing of the injection but the
names. -/
theorem revert_injectTemplate {load : Load} (h : load.Reversible) {template pod result : Members}
    (clean : CleanTemplate template pod) (run : injectTemplate load template = .ok result) :
    ∃ injected, Keyed.get? "spec" result = some (.obj injected) ∧ Listable (Keyed.get? "containers" injected) ∧
      Keyed.insert "spec" (.obj (revertPod true injected)) (revertMetadata true result) = trimTemplate template := by
  obtain ⟨metadata, annotations, injected, podRun, rfl⟩ := (injectTemplate_eq_ok_iff clean.atPod).mp run
  have sorted := clean.canonical.sorted
  have inside : (Json.obj (mapped (Keyed.get? "metadata" template))).Canonical :=
    canonical_mapped fun _ => clean.canonical.get?
  have atMetadata := @shrink_annotate load _ metadata annotations inside clean.state clean.shadow
  have atPod := revertPod_injectPod h clean.pod podRun
  have resultSorted :
      Keyed.Sorted (Keyed.insert "spec" (.obj injected) (Keyed.alter "metadata" (annotate load) template)) :=
    (sorted.alter _ _).insert _ _
  have found : Keyed.get? "metadata" (Keyed.insert "spec" (.obj injected)
      (Keyed.alter "metadata" (annotate load) template)) = annotate load (Keyed.get? "metadata" template) := by
    rw [Keyed.get?_insert_of_ne (by decide), Keyed.get?_alter_self]
  have listable : Listable (Keyed.get? "containers" injected) := by
    obtain ⟨containers, there, _⟩ := clean.pod.exists_containers
    obtain ⟨_, _, results, _, rfl⟩ := (injectPod_eq_ok_iff there).mp podRun
    exact .inr ⟨results, Keyed.get?_insert_self _ _ _⟩
  refine ⟨injected, Keyed.get?_insert_self _ _ _, listable, ?_⟩
  have annotated : Keyed.Sorted (mapped (annotate load (Keyed.get? "metadata" template))) :=
    inside.sorted.alter "annotations" (growMap (injectAnnotations load))
  rw [revertMetadata_eq resultSorted (found.symm ▸ annotated)]
  refine Keyed.Sorted.ext ?_ ?_ fun key => ?_
  · exact (resultSorted.alter _ _).insert _ _
  · exact (sorted.alter _ _).alter _ _
  · by_cases isPod : key = "spec"
    · subst isPod
      rw [Keyed.get?_insert_self, atPod, get?_spec_trimTemplate clean.atPod]
    · by_cases isMetadata : key = "metadata"
      · subst isMetadata
        rw [Keyed.get?_insert_of_ne (by decide), Keyed.get?_alter_self, found, atMetadata,
          get?_metadata_trimTemplate]
      · simp [trimTemplate, Keyed.get?_alter, Keyed.get?_insert, isPod, isMetadata]

/-- A container in which a reversal finds nothing if there was no injection. -/
structure Settled (container : Json) : Prop where
  unmarked : (listed (container.get? "env")).find? (named Convention.marker) = none
  unpaired : Unpaired (listed (container.get? "env"))
  mounts : Free Fragment.reservedVolumes (listed (container.get? "volumeMounts"))

theorem Untouched.settled {container : Json} (untouched : Untouched container) : Settled container :=
  ⟨untouched.env.find?_eq_none List.mem_cons_self, untouched.env.unpaired, untouched.mounts⟩

/-- Without an injection, a container is left alone exactly if a reversal finds nothing in it that it knows by name. -/
theorem revertContainer_eq_self_iff {container : Json} (canonical : container.Canonical) :
    revertContainer false container = container ↔ Settled container := by
  constructor
  · intro same
    have env := @get?_env_revertContainer false container
    have mounts := @get?_volumeMounts_revertContainer false container
    rw [same] at env mounts
    obtain ⟨unpaired, unmarked⟩ := revertEnv_eq_self_iff.mp ((shrink_eq_self_iff revertEnv_nil).mp env.symm)
    exact ⟨unmarked, unpaired, unnamed_eq_self_iff.mp ((shrink_eq_self_iff rfl).mp mounts.symm)⟩
  · rintro ⟨unmarked, unpaired, mounts⟩
    cases container with
    | obj members =>
      have sorted := canonical.sorted
      have env := shrink_eq_self (revertEnv_eq_self_iff.mpr ⟨unpaired, unmarked⟩)
      rw [revertContainer_obj sorted, sorted.alter_eq_self env, sorted.alter_eq_self (shrink_unnamed_eq_self mounts)]
    | _ => rfl

theorem map_revertContainer_eq_self_iff {containers : List Json}
    (canonical : ∀ container ∈ containers, container.Canonical) :
    containers.map (revertContainer false) = containers ↔ ∀ container ∈ containers, Settled container := by
  rw [map_eq_self_iff]
  exact forall₂_congr fun container member => revertContainer_eq_self_iff (canonical container member)

/-- Without an injection there is nothing to revert in the containers of a pod. -/
theorem CleanPod.map_revertContainer_eq_self {pod : Members} (clean : CleanPod pod) :
    (listed (Keyed.get? "containers" pod)).map (revertContainer false) = listed (Keyed.get? "containers" pod) :=
  (map_revertContainer_eq_self_iff (canonical_listed fun _ => clean.canonical.get?)).mpr fun container member =>
    (clean.untouched container member).settled

theorem revertPod_eq_self_iff {pod : Members} (canonical : (Json.obj pod).Canonical) :
    revertPod false pod = pod ↔ Free Fragment.reservedVolumes (listed (Keyed.get? "volumes" pod)) ∧
      Free Fragment.reservedInitContainers (listed (Keyed.get? "initContainers" pod)) ∧
      ∀ container ∈ listed (Keyed.get? "containers" pod), Settled container := by
  have inside : ∀ container ∈ listed (Keyed.get? "containers" pod), container.Canonical :=
    canonical_listed fun _ => canonical.get?
  have each := map_revertContainer_eq_self_iff inside
  constructor
  · intro same
    have volumes := get?_volumes_revertPod false pod
    have initContainers := get?_initContainers_revertPod false pod
    have containers := congrArg listed (get?_containers_revertPod false pod)
    rw [same] at volumes initContainers containers
    rw [listed_map_onItems] at containers
    exact ⟨unnamed_eq_self_iff.mp ((shrink_eq_self_iff rfl).mp volumes.symm),
      unnamed_eq_self_iff.mp ((shrink_eq_self_iff rfl).mp initContainers.symm), each.mp containers.symm⟩
  · rintro ⟨volumes, initContainers, settled⟩
    have sorted := canonical.sorted
    rw [revertPod_eq sorted, sorted.alter_eq_self (shrink_unnamed_eq_self initContainers),
      sorted.alter_eq_self (shrink_unnamed_eq_self volumes)]
    refine sorted.alter_eq_self ?_
    have same := each.mpr settled
    cases found : Keyed.get? "containers" pod with
    | none => rfl
    | some value =>
      rw [found] at same
      cases value with
      | arr containers => exact congrArg (some ∘ Json.arr) same
      | _ => rfl

theorem CleanPod.revertPod_eq_self {pod : Members} (clean : CleanPod pod) : revertPod false pod = pod :=
  (revertPod_eq_self_iff clean.canonical).mpr ⟨clean.volumes, clean.initContainers, fun container member =>
    (clean.untouched container member).settled⟩

/-- Of the metadata, only a state is reverted if there was no injection. -/
theorem revertMetadata_eq_self {template : Members} (canonical : (Json.obj template).Canonical)
    (state : Keyed.get? Convention.stateAnnotation
      (mapped (Keyed.get? "annotations" (mapped (Keyed.get? "metadata" template)))) = none) :
    revertMetadata false template = template := by
  have sorted := canonical.sorted
  have inside : (Json.obj (mapped (Keyed.get? "metadata" template))).Canonical :=
    canonical_mapped fun _ => canonical.get?
  rw [revertMetadata_eq sorted inside.sorted]
  refine sorted.alter_eq_self (shrinkMap_eq_self fun metadata found => ?_)
  rw [found] at inside state
  refine inside.sorted.alter_eq_self (shrinkMap_eq_self fun annotations here => ?_)
  have here : Keyed.get? "annotations" (mapped (some (.obj metadata))) = some (.obj annotations) := here
  rw [here] at state
  exact revertAnnotations_eq_self (inside.get? here).sorted state

end Graft.Injection
