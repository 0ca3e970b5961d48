import Graft.Proofs.Clean
import Graft.Proofs.Steps

namespace Graft.Injection

open Json

/-- A container without empty lists of variables and mounts. -/
def trimContainer : Json → Json :=
  onMembers fun container => (container.alter "env" nonEmptyList).alter "volumeMounts" nonEmptyList

def trimPod (pod : Members) : Members :=
  ((pod.alter "initContainers" nonEmptyList).alter "volumes" nonEmptyList).alter "containers"
    (Option.map (onItems (List.map trimContainer)))

/-- Metadata without an empty map of annotations, and nothing if that leaves it empty. -/
def trimMetadata (metadata : Option Json) : Option Json :=
  nonEmptyMap (metadata.map (onMembers fun members => members.alter "annotations" nonEmptyMap))

def trimTemplate (template : Members) : Members :=
  (template.alter "metadata" trimMetadata).alter "spec" (Option.map (onMembers trimPod))

/-- An object without the empty lists and maps that an injection would have put its entries into. All that is left of an
injection after its reversal is that these are gone. -/
def trimmed : Json → Json :=
  onMembers fun object => object.alter "spec" (Option.map (onMembers fun spec =>
    spec.alter "template" (Option.map (onMembers trimTemplate))))

theorem trimmed_eq {object : Json} {l : Layers} (ok : layers object = .ok l) :
    trimmed object = l.withTemplate (trimTemplate l.template) := onTemplate_eq ok trimTemplate

theorem get?_spec_trimTemplate {template pod : Members} (atPod : Keyed.get? "spec" template = some (.obj pod)) :
    Keyed.get? "spec" (trimTemplate template) = some (.obj (trimPod pod)) := by
  rw [trimTemplate, Keyed.get?_alter_self, Keyed.get?_alter_of_ne (by decide), atPod]
  rfl

theorem get?_metadata_trimTemplate (template : Members) :
    Keyed.get? "metadata" (trimTemplate template) = trimMetadata (Keyed.get? "metadata" template) := by
  rw [trimTemplate, Keyed.get?_alter_of_ne (by decide), Keyed.get?_alter_self]

theorem get?_containers_trimPod (pod : Members) : Keyed.get? "containers" (trimPod pod) =
    (Keyed.get? "containers" pod).map (onItems (List.map trimContainer)) := by
  rw [trimPod, Keyed.get?_alter_self, Keyed.get?_alter_of_ne (by decide), Keyed.get?_alter_of_ne (by decide)]

theorem get?_volumes_trimPod (pod : Members) :
    Keyed.get? "volumes" (trimPod pod) = nonEmptyList (Keyed.get? "volumes" pod) := by
  rw [trimPod, Keyed.get?_alter_of_ne (by decide), Keyed.get?_alter_self, Keyed.get?_alter_of_ne (by decide)]

theorem get?_initContainers_trimPod (pod : Members) :
    Keyed.get? "initContainers" (trimPod pod) = nonEmptyList (Keyed.get? "initContainers" pod) := by
  rw [trimPod, Keyed.get?_alter_of_ne (by decide), Keyed.get?_alter_of_ne (by decide), Keyed.get?_alter_self]

theorem get?_env_trimContainer (container : Json) :
    (trimContainer container).get? "env" = nonEmptyList (container.get? "env") := by
  cases container with
  | obj members =>
    exact (Keyed.get?_alter_of_ne (by decide) _ _).trans (Keyed.get?_alter_self _ _ _)
  | _ => rfl

theorem get?_volumeMounts_trimContainer (container : Json) :
    (trimContainer container).get? "volumeMounts" = nonEmptyList (container.get? "volumeMounts") := by
  cases container with
  | obj members =>
    refine (Keyed.get?_alter_self _ _ _).trans (congrArg nonEmptyList ?_)
    exact Keyed.get?_alter_of_ne (by decide) _ _
  | _ => rfl

theorem mapped_trimMetadata (metadata : Option Json) :
    mapped (trimMetadata metadata) = Keyed.alter "annotations" nonEmptyMap (mapped metadata) := by
  rw [trimMetadata, mapped_nonEmptyMap]
  cases metadata with
  | none => rfl
  | some value => cases value <;> rfl

/-- The annotations of a template are what they were. -/
theorem annotations_trimMetadata (metadata : Option Json) :
    mapped (Keyed.get? "annotations" (mapped (trimMetadata metadata))) =
      mapped (Keyed.get? "annotations" (mapped metadata)) := by
  rw [trimMetadata, mapped_nonEmptyMap]
  cases metadata with
  | none => rfl
  | some value =>
    cases value with
    | obj members =>
      exact (congrArg mapped (Keyed.get?_alter_self _ _ _)).trans (mapped_nonEmptyMap _)
    | _ => rfl

theorem mappable_trimMetadata_iff {metadata : Option Json} : Mappable (trimMetadata metadata) ↔ Mappable metadata := by
  rw [trimMetadata, mappable_nonEmptyMap_iff]
  cases metadata with
  | none => rfl
  | some value => cases value <;> simp [Mappable, onMembers]

theorem listable_trimPod {pod : Members} (listable : Listable (Keyed.get? "containers" pod)) :
    Listable (Keyed.get? "containers" (trimPod pod)) := by
  rw [get?_containers_trimPod]
  rcases listable with absent | ⟨items, found⟩
  · exact .inl (by rw [absent]; rfl)
  · exact .inr ⟨items.map trimContainer, by rw [found]; rfl⟩

/-- The layers of a trimmed object are trimmed, and in the same place. -/
theorem layers_trimmed {object : Json} {l : Layers} (ok : layers object = .ok l) :
    ∃ l', layers (trimmed object) = .ok l' ∧ l'.template = trimTemplate l.template ∧ l'.pod = trimPod l.pod ∧
      ∀ other, l'.withTemplate other = l.withTemplate other := by
  obtain ⟨_, _, _, atPod, listable⟩ := layers_eq_ok_iff.mp ok
  rw [trimmed_eq ok]
  exact layers_withTemplate (get?_spec_trimTemplate atPod) (listable_trimPod listable)

theorem containers_trimmed {object : Json} {l : Layers} (ok : layers object = .ok l) :
    PodIdentity.containers (trimmed object) = (PodIdentity.containers object).map trimContainer := by
  obtain ⟨l', ok', _, pod, _⟩ := layers_trimmed ok
  rw [containers_eq_listed ok', containers_eq_listed ok, pod, get?_containers_trimPod]
  cases Keyed.get? "containers" l.pod with
  | none => rfl
  | some value => cases value <;> rfl

theorem canonical_trimContainer {container : Json} (h : container.Canonical) : (trimContainer container).Canonical :=
  h.onMembers fun _ members => (members.alter_nonEmptyList "env").alter_nonEmptyList "volumeMounts"

theorem canonical_trimPod {pod : Members} (h : (Json.obj pod).Canonical) : (Json.obj (trimPod pod)).Canonical := by
  refine ((h.alter_nonEmptyList "initContainers").alter_nonEmptyList "volumes").alter_map fun value canonical => ?_
  cases value with
  | arr containers =>
    refine canonical_arr_iff.mpr fun container member => ?_
    obtain ⟨old, here, rfl⟩ := List.mem_map.mp member
    exact canonical_trimContainer (canonical.item old here)
  | _ => exact canonical

theorem canonical_trimTemplate {template : Members} (h : (Json.obj template).Canonical) :
    (Json.obj (trimTemplate template)).Canonical := by
  have metadata : (Json.obj (template.alter "metadata" trimMetadata)).Canonical := by
    refine h.alter fun value eq => canonical_of_nonEmptyMap eq fun old found => ?_
    obtain ⟨metadata, here, rfl⟩ := Option.map_eq_some_iff.mp found
    exact (h.get? here).onMembers fun _ members => members.alter_nonEmptyMap "annotations"
  exact metadata.alter_map fun _ spec => spec.onMembers fun _ => canonical_trimPod

theorem canonical_trimmed {object : Json} (h : object.Canonical) : (trimmed object).Canonical :=
  h.onMembers fun _ members => members.alter_map fun _ spec => spec.onMembers fun _ members =>
    members.alter_map fun _ template => template.onMembers fun _ => canonical_trimTemplate

theorem Untouched.trimContainer {container : Json} (h : Untouched container) :
    Untouched (Injection.trimContainer container) := by
  refine ⟨?_, ?_⟩
  · rw [get?_env_trimContainer, listed_nonEmptyList]
    exact h.env
  · rw [get?_volumeMounts_trimContainer, listed_nonEmptyList]
    exact h.mounts

/-- An object that nothing has touched is trimmed to such an object. -/
theorem Clean.trimmed {object : Json} (clean : Clean object) : Clean (Injection.trimmed object) := by
  obtain ⟨l, ok⟩ := clean.layers
  obtain ⟨l', ok', template, pod, _⟩ := layers_trimmed ok
  have sameIn (key : String) :
      (Injection.trimmed object).path? ["spec", "template", "metadata", "annotations", key] =
        object.path? ["spec", "template", "metadata", "annotations", key] := by
    rw [path?_inAnnotations ok', path?_inAnnotations ok, template, get?_metadata_trimTemplate, annotations_trimMetadata]
  constructor
  · exact canonical_trimmed clean.canonical
  · rw [containers_trimmed ok]
    simpa using clean.containers
  · rw [path?_pod ok', pod, get?_volumes_trimPod, listed_nonEmptyList, ← path?_pod ok]
    exact clean.volumes
  · rw [path?_pod ok', pod, get?_initContainers_trimPod, listed_nonEmptyList, ← path?_pod ok]
    exact clean.initContainers
  · exact (sameIn Convention.stateAnnotation).trans clean.state
  · exact (sameIn Convention.logsShadow).trans clean.shadow
  · rw [containers_trimmed ok]
    intro container member
    obtain ⟨old, here, rfl⟩ := List.mem_map.mp member
    exact (clean.untouched old here).trimContainer

variable {load : Load}

theorem injectContainer_trimContainer_iff {container result : Json} (canonical : container.Canonical) :
    injectContainer load (trimContainer container) = .ok result ↔ injectContainer load container = .ok result := by
  cases container with
  | obj members =>
    have sorted := canonical.sorted
    have env := get?_env_trimContainer (.obj members)
    have mounts := get?_volumeMounts_trimContainer (.obj members)
    simp only [trimContainer, onMembers, Json.get?] at env mounts ⊢
    have same : Keyed.alter "volumeMounts" (grow (· ++ load.mounts)) (Keyed.alter "env" (grow (injectEnv load))
          (Keyed.alter "volumeMounts" nonEmptyList (Keyed.alter "env" nonEmptyList members))) =
        Keyed.alter "volumeMounts" (grow (· ++ load.mounts)) (Keyed.alter "env" (grow (injectEnv load)) members) := by
      have grown (f : List Json → List Json) : grow f ∘ nonEmptyList = grow f := funext (grow_nonEmptyList f)
      rw [sorted.alter_twice (by decide), grown, grown]
    simp only [injectContainer_eq_ok_iff, Json.obj.injEq, exists_eq_left', env, mounts, listable_nonEmptyList_iff, same]
  | _ => rfl

theorem injectContainers_trimContainer_iff {containers results : List Json}
    (canonical : ∀ container ∈ containers, container.Canonical) :
    injectContainers load (containers.map trimContainer) = .ok results ↔
      injectContainers load containers = .ok results := by
  simp only [injectContainers_eq_ok_iff]
  induction containers generalizing results with
  | nil => rfl
  | cons container rest ih =>
    have first {result : Json} :=
      @injectContainer_trimContainer_iff load _ result (canonical container List.mem_cons_self)
    have later {others : List Json} := @ih others fun other member => canonical other (List.mem_cons_of_mem _ member)
    simp only [List.map_cons, List.forall₂_cons_left_iff, first, later]

theorem injectPod_trimPod_iff {pod result : Members} (clean : CleanPod pod) :
    injectPod load (trimPod pod) = .ok result ↔ injectPod load pod = .ok result := by
  obtain ⟨containers, found, same⟩ := clean.exists_containers
  have sorted := clean.canonical.sorted
  have trimmedFound : Keyed.get? "containers" (trimPod pod) = some (.arr (containers.map trimContainer)) := by
    rw [get?_containers_trimPod, found]
    rfl
  have each {results : List Json} := @injectContainers_trimContainer_iff load containers results
    (same ▸ canonical_listed fun _ => clean.canonical.get?)
  have grown (results : List Json) :
      Keyed.insert "containers" (.arr results) (Keyed.alter "initContainers" (grow (· ++ load.initContainers))
        (Keyed.alter "volumes" (grow (· ++ load.volumes)) (trimPod pod))) =
      Keyed.insert "containers" (.arr results) (Keyed.alter "initContainers" (grow (· ++ load.initContainers))
        (Keyed.alter "volumes" (grow (· ++ load.volumes)) pod)) := by
    refine Keyed.Sorted.ext ?_ ?_ fun key => ?_
    · exact (((((sorted.alter _ _).alter _ _).alter _ _).alter _ _).alter _ _).insert _ _
    · exact ((sorted.alter _ _).alter _ _).insert _ _
    · by_cases isContainers : key = "containers"
      · simp [isContainers]
      · by_cases isInitContainers : key = "initContainers"
        · simp [isInitContainers, Keyed.get?_insert, Keyed.get?_alter, get?_initContainers_trimPod, grow_nonEmptyList]
        · by_cases isVolumes : key = "volumes"
          · simp [isVolumes, Keyed.get?_insert, Keyed.get?_alter, get?_volumes_trimPod, grow_nonEmptyList]
          · simp [isContainers, isInitContainers, isVolumes, Keyed.get?_insert, Keyed.get?_alter, trimPod]
  simp only [injectPod_eq_ok_iff trimmedFound, injectPod_eq_ok_iff found, get?_volumes_trimPod,
    get?_initContainers_trimPod, listable_nonEmptyList_iff, each, grown]

/-- An injection leaves the same metadata, whether a map was empty or absent before. -/
theorem annotate_trimMetadata {metadata : Option Json} (sorted : Keyed.Sorted (mapped metadata)) :
    annotate load (trimMetadata metadata) = annotate load metadata := by
  rw [annotate, growMap, growMap, mapped_trimMetadata, sorted.alter_alter]
  have same : (growMap (injectAnnotations load) ∘ nonEmptyMap) (Keyed.get? "annotations" (mapped metadata)) =
      growMap (injectAnnotations load) (Keyed.get? "annotations" (mapped metadata)) := growMap_nonEmptyMap _ _
  rw [Keyed.alter_congr same]

/-- An injection makes the lists and maps that it needs, so it does the same to a template and to the trimmed one. -/
theorem injectTemplate_trimTemplate_iff {template pod result : Members} (clean : CleanTemplate template pod) :
    injectTemplate load (trimTemplate template) = .ok result ↔ injectTemplate load template = .ok result := by
  have sorted := clean.canonical.sorted
  have inside : (Json.obj (mapped (Keyed.get? "metadata" template))).Canonical :=
    canonical_mapped fun _ => clean.canonical.get?
  have annotations : Keyed.get? "annotations" (mapped (trimMetadata (Keyed.get? "metadata" template))) =
      nonEmptyMap (Keyed.get? "annotations" (mapped (Keyed.get? "metadata" template))) := by
    rw [mapped_trimMetadata, Keyed.get?_alter_self]
  have grown (injected : Members) :
      Keyed.insert "spec" (.obj injected) (Keyed.alter "metadata" (annotate load) (trimTemplate template)) =
        Keyed.insert "spec" (.obj injected) (Keyed.alter "metadata" (annotate load) template) := by
    refine Keyed.Sorted.ext ?_ ?_ fun key => ?_
    · exact (((sorted.alter _ _).alter _ _).alter _ _).insert _ _
    · exact (sorted.alter _ _).insert _ _
    · by_cases isPod : key = "spec"
      · simp [isPod]
      · by_cases isMetadata : key = "metadata"
        · simp [isMetadata, Keyed.get?_insert, get?_metadata_trimTemplate, annotate_trimMetadata inside.sorted]
        · simp [isPod, isMetadata, Keyed.get?_insert, Keyed.get?_alter, trimTemplate]
  simp only [injectTemplate_eq_ok_iff (get?_spec_trimTemplate clean.atPod), injectTemplate_eq_ok_iff clean.atPod,
    get?_metadata_trimTemplate, mappable_trimMetadata_iff, annotations, mappable_nonEmptyMap_iff,
    injectPod_trimPod_iff clean.pod, grown]

end Graft.Injection
