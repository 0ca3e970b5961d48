import Graft.Injection
import Graft.Proofs.Alter
import Graft.Proofs.Backup
import Mathlib.Data.List.Forall2

namespace Graft.Injection

open Json

/-- The entries that have none of the names. -/
def unnamed (names : List String) (entries : List Json) : List Json :=
  entries.filter fun entry => !(names.any fun name => named name entry)

theorem unnamed_eq_self_iff {names : List String} {entries : List Json} :
    unnamed names entries = entries ↔ Free names entries := by
  rw [unnamed, List.filter_eq_self]
  simp [Free]

theorem unnamed_eq_self {names : List String} {entries : List Json} (free : Free names entries) :
    unnamed names entries = entries := unnamed_eq_self_iff.mpr free

theorem unnamed_append (names : List String) (first second : List Json) :
    unnamed names (first ++ second) = unnamed names first ++ unnamed names second :=
  List.filter_append ..

theorem unnamed_eq_nil {names : List String} {entries : List Json}
    (each : ∀ entry ∈ entries, (names.any fun name => named name entry) = true) : unnamed names entries = [] :=
  List.filter_eq_nil_iff.mpr fun entry member => by simpa using each entry member

theorem unnamed_unnamed (names : List String) (entries : List Json) :
    unnamed names (unnamed names entries) = unnamed names entries := by
  simp [unnamed, List.filter_filter]

/-- Taking named entries out of a list alters the member that has the list. -/
theorem dropNamed_eq_alter {key : String} {names : List String} {members : Members} (sorted : Keyed.Sorted members) :
    dropNamed key names members = members.alter key (shrink (unnamed names)) := by
  rw [alter_shrink sorted]
  rfl

theorem get?_dropNamed_self (key : String) (names : List String) (members : Members) :
    Keyed.get? key (dropNamed key names members) = shrink (unnamed names) (Keyed.get? key members) := by
  unfold dropNamed shrink unnamed
  cases found : Keyed.get? key members with
  | none => exact found
  | some value =>
    cases value with
    | arr items =>
      simp only
      split
      · exact Keyed.get?_erase_self _ _
      · exact Keyed.get?_insert_self _ _ _
    | _ => exact found

theorem get?_dropNamed_of_ne {key other : String} (ne : other ≠ key) (names : List String) (members : Members) :
    Keyed.get? other (dropNamed key names members) = Keyed.get? other members := by
  unfold dropNamed
  split
  · simp only
    split
    · exact Keyed.get?_erase_of_ne ne _
    · exact Keyed.get?_insert_of_ne ne _ _
  · rfl

theorem extend_eq_ok_iff {key : String} {added : List Json} {members result : Members} :
    extend key added members = .ok result ↔
      Listable (Keyed.get? key members) ∧ result = members.alter key (grow (· ++ added)) := by
  unfold extend Keyed.alter
  split
  · rename_i absent
    rw [absent]
    simp [Listable, grow, listed, eq_comm]
  · rename_i items found
    rw [found]
    simp [Listable, grow, listed, arr?, eq_comm]
  · rename_i value notList found
    have not : ¬ Listable (Keyed.get? key members) := by
      rw [found]
      rintro (absent | ⟨items, list⟩)
      · cases absent
      · exact notList items (Option.some.inj list)
    simp [stop, not]

theorem within_eq_ok_iff {σ τ : Type} {wrap : σ → τ} {step : Step σ} {result : τ} :
    Step.within wrap step = .ok result ↔ ∃ reached, step = .ok reached ∧ result = wrap reached := by
  cases step <;> simp [Step.within, eq_comm]

theorem andThen_eq_ok_iff {σ : Type} {step : Step σ} {next : σ → Step σ} {result : σ} :
    step.andThen next = .ok result ↔ ∃ reached, step = .ok reached ∧ next reached = .ok result := by
  cases step <;> simp [Step.andThen]

theorem injectContainer_eq_ok_iff {load : Load} {container result : Json} :
    injectContainer load container = .ok result ↔ ∃ members : Members, container = .obj members ∧
      Listable (Keyed.get? "env" members) ∧ Listable (Keyed.get? "volumeMounts" members) ∧
      result = .obj ((members.alter "env" (grow (injectEnv load))).alter "volumeMounts" (grow (· ++ load.mounts))) := by
  cases container with
  | obj members =>
    simp only [Json.obj.injEq, exists_eq_left']
    by_cases listable : Listable (Keyed.get? "env" members)
    · have found := getD_eq_arr_iff.mpr ⟨listable, rfl⟩
      have set : Keyed.insert "env" (.arr (injectEnv load (listed (Keyed.get? "env" members)))) members =
          Keyed.alter "env" (grow (injectEnv load)) members := (Keyed.alter_of_some rfl).symm
      have mounts : Keyed.get? "volumeMounts" (Keyed.alter "env" (grow (injectEnv load)) members) =
          Keyed.get? "volumeMounts" members := Keyed.get?_alter_of_ne (by decide) _ _
      simp only [injectContainer, found, set, within_eq_ok_iff, extend_eq_ok_iff, mounts, listable, true_and]
      constructor
      · rintro ⟨_, ⟨listable, rfl⟩, rfl⟩
        exact ⟨listable, rfl⟩
      · rintro ⟨listable, rfl⟩
        exact ⟨_, ⟨listable, rfl⟩, rfl⟩
    · refine ⟨fun run => ?_, fun h => absurd h.1 listable⟩
      unfold injectContainer at run
      simp only at run
      split at run
      · rename_i env found
        exact absurd (getD_eq_arr_iff.mp found).1 listable
      · cases run
  | _ => simp [injectContainer, stop]

theorem get?_env_injectContainer {load : Load} {container result : Json}
    (run : injectContainer load container = .ok result) :
    result.get? "env" = grow (injectEnv load) (container.get? "env") := by
  obtain ⟨members, rfl, _, _, rfl⟩ := injectContainer_eq_ok_iff.mp run
  exact (Keyed.get?_alter_of_ne (by decide) _ _).trans (Keyed.get?_alter_self _ _ _)

theorem get?_volumeMounts_injectContainer {load : Load} {container result : Json}
    (run : injectContainer load container = .ok result) :
    result.get? "volumeMounts" = grow (· ++ load.mounts) (container.get? "volumeMounts") := by
  obtain ⟨members, rfl, _, _, rfl⟩ := injectContainer_eq_ok_iff.mp run
  refine (Keyed.get?_alter_self _ _ _).trans ?_
  rw [Keyed.get?_alter_of_ne (by decide)]
  rfl

theorem listed_env_injectContainer {load : Load} {container result : Json}
    (run : injectContainer load container = .ok result) :
    listed (result.get? "env") = injectEnv load (listed (container.get? "env")) :=
  congrArg listed (get?_env_injectContainer run)

theorem listed_volumeMounts_injectContainer {load : Load} {container result : Json}
    (run : injectContainer load container = .ok result) :
    listed (result.get? "volumeMounts") = listed (container.get? "volumeMounts") ++ load.mounts :=
  congrArg listed (get?_volumeMounts_injectContainer run)

theorem revertContainer_obj {injected : Bool} {members : Members} (sorted : Keyed.Sorted members) :
    revertContainer injected (.obj members) =
      .obj ((members.alter "env" (shrink (revertEnv injected))).alter "volumeMounts"
        (shrink (unnamed Fragment.reservedVolumes))) := by
  rw [← dropNamed_eq_alter (sorted.alter "env" _), alter_shrink sorted]
  rfl

theorem get?_env_revertContainer {injected : Bool} (container : Json) :
    (revertContainer injected container).get? "env" = shrink (revertEnv injected) (container.get? "env") := by
  cases container with
  | obj members =>
    simp only [revertContainer, Json.get?]
    rw [get?_dropNamed_of_ne (by decide)]
    split
    · rename_i env found
      simp only [found, shrink]
      split
      · rw [Keyed.get?_erase_self]
      · rw [Keyed.get?_insert_self]
    · rename_i notList
      cases found : Keyed.get? "env" members with
      | none => rfl
      | some value =>
        cases value with
        | arr env => exact absurd found (notList env)
        | _ => rfl
  | _ => rfl

theorem get?_volumeMounts_revertContainer {injected : Bool} (container : Json) :
    (revertContainer injected container).get? "volumeMounts" =
      shrink (unnamed Fragment.reservedVolumes) (container.get? "volumeMounts") := by
  cases container with
  | obj members =>
    refine (get?_dropNamed_self _ _ _).trans (congrArg _ ?_)
    split
    · simp only
      split
      · exact Keyed.get?_erase_of_ne (by decide) _
      · exact Keyed.get?_insert_of_ne (by decide) _ _
    · rfl
  | _ => rfl

theorem injectContainers_eq_ok_iff {load : Load} {containers results : List Json} :
    injectContainers load containers = .ok results ↔
      List.Forall₂ (fun container result => injectContainer load container = .ok result) containers results := by
  induction containers generalizing results with
  | nil => simp [injectContainers, eq_comm]
  | cons container rest ih =>
    cases first : injectContainer load container with
    | error stopped => simp [injectContainers, first, List.forall₂_cons_left_iff]
    | ok result =>
      simp only [injectContainers, first, within_eq_ok_iff, ih, List.forall₂_cons_left_iff, Except.ok.injEq]
      constructor
      · rintro ⟨others, each, rfl⟩
        exact ⟨result, others, rfl, each, rfl⟩
      · rintro ⟨_, others, rfl, each, rfl⟩
        exact ⟨others, each, rfl⟩

theorem exists_injectContainer {load : Load} {containers results : List Json}
    (run : injectContainers load containers = .ok results) :
    ∀ result ∈ results, ∃ container ∈ containers, injectContainer load container = .ok result := by
  induction injectContainers_eq_ok_iff.mp run with
  | nil => exact nofun
  | cons first _ ih =>
    intro result member
    rcases List.mem_cons.mp member with rfl | tail
    · exact ⟨_, List.mem_cons_self, first⟩
    · obtain ⟨container, there, one⟩ := ih (injectContainers_eq_ok_iff.mpr ‹_›) result tail
      exact ⟨container, List.mem_cons_of_mem _ there, one⟩

/-- An injection into the pods of a template, list by list. A pod without containers stays without. -/
theorem injectPod_eq_ok_iff_of_listable {load : Load} {pod result : Members}
    (listable : Listable (Keyed.get? "containers" pod)) :
    injectPod load pod = .ok result ↔ Listable (Keyed.get? "volumes" pod) ∧
      Listable (Keyed.get? "initContainers" pod) ∧
      ∃ injected, injectContainers load (listed (Keyed.get? "containers" pod)) = .ok injected ∧
        result = Keyed.alter "containers" (Option.map fun _ => Json.arr injected) (Keyed.alter "initContainers"
          (grow (· ++ load.initContainers)) (Keyed.alter "volumes" (grow (· ++ load.volumes)) pod)) := by
  have initContainers : Keyed.get? "initContainers" (Keyed.alter "volumes" (grow (· ++ load.volumes)) pod) =
      Keyed.get? "initContainers" pod := Keyed.get?_alter_of_ne (by decide) _ _
  have still : Keyed.get? "containers" (Keyed.alter "initContainers" (grow (· ++ load.initContainers))
      (Keyed.alter "volumes" (grow (· ++ load.volumes)) pod)) = Keyed.get? "containers" pod :=
    (Keyed.get?_alter_of_ne (by decide) _ _).trans (Keyed.get?_alter_of_ne (by decide) _ _)
  simp only [injectPod, andThen_eq_ok_iff, extend_eq_ok_iff, and_assoc, exists_and_left, exists_eq_left, initContainers]
  refine and_congr_right fun _ => and_congr_right fun _ => ?_
  generalize Keyed.alter "initContainers" (grow (· ++ load.initContainers))
    (Keyed.alter "volumes" (grow (· ++ load.volumes)) pod) = grown at still ⊢
  rcases listable with absent | ⟨containers, found⟩
  · rw [absent] at still ⊢
    simp [still, listed, injectContainers, Keyed.alter, Keyed.erase_of_absent, eq_comm]
  · rw [found] at still ⊢
    simp only [still, within_eq_ok_iff, Keyed.alter, Option.map_some]
    rfl

theorem injectPod_eq_ok_iff {load : Load} {pod result : Members} {containers : List Json}
    (found : Keyed.get? "containers" pod = some (.arr containers)) :
    injectPod load pod = .ok result ↔ Listable (Keyed.get? "volumes" pod) ∧
      Listable (Keyed.get? "initContainers" pod) ∧ ∃ injected, injectContainers load containers = .ok injected ∧
        result = Keyed.insert "containers" (.arr injected) (Keyed.alter "initContainers"
          (grow (· ++ load.initContainers)) (Keyed.alter "volumes" (grow (· ++ load.volumes)) pod)) := by
  have still : Keyed.get? "containers" (Keyed.alter "initContainers" (grow (· ++ load.initContainers))
      (Keyed.alter "volumes" (grow (· ++ load.volumes)) pod)) = some (.arr containers) :=
    (Keyed.get?_alter_of_ne (by decide) _ _).trans ((Keyed.get?_alter_of_ne (by decide) _ _).trans found)
  have set (injected : List Json) := Keyed.alter_of_some (f := Option.map fun _ => Json.arr injected)
    ((congrArg _ still).trans (Option.map_some ..))
  simp only [injectPod_eq_ok_iff_of_listable (.inr ⟨containers, found⟩), set, found, listed, Option.bind_some, arr?,
    Option.getD_some]

theorem listable_injectPod {load : Load} {pod result : Members} (listable : Listable (Keyed.get? "containers" pod))
    (run : injectPod load pod = .ok result) : Listable (Keyed.get? "containers" result) := by
  obtain ⟨_, _, injected, _, rfl⟩ := (injectPod_eq_ok_iff_of_listable listable).mp run
  rw [Keyed.get?_alter_self, Keyed.get?_alter_of_ne (by decide), Keyed.get?_alter_of_ne (by decide)]
  rcases listable with absent | ⟨containers, found⟩
  · exact .inl (by rw [absent]; rfl)
  · exact .inr ⟨injected, by rw [found]; rfl⟩

/-- The lists of a pod after an injection: what was there, and behind it what is added. -/
theorem listed_injectPod {load : Load} {pod result : Members} (listable : Listable (Keyed.get? "containers" pod))
    (run : injectPod load pod = .ok result) :
    listed (Keyed.get? "volumes" result) = listed (Keyed.get? "volumes" pod) ++ load.volumes ∧
      listed (Keyed.get? "initContainers" result) =
        listed (Keyed.get? "initContainers" pod) ++ load.initContainers ∧
      injectContainers load (listed (Keyed.get? "containers" pod)) =
        .ok (listed (Keyed.get? "containers" result)) := by
  obtain ⟨_, _, injected, each, rfl⟩ := (injectPod_eq_ok_iff_of_listable listable).mp run
  refine ⟨?_, ?_, ?_⟩
  · rw [Keyed.get?_alter_of_ne (by decide), Keyed.get?_alter_of_ne (by decide), Keyed.get?_alter_self]
    rfl
  · rw [Keyed.get?_alter_of_ne (by decide), Keyed.get?_alter_self, Keyed.get?_alter_of_ne (by decide)]
    rfl
  · rw [Keyed.get?_alter_self, Keyed.get?_alter_of_ne (by decide), Keyed.get?_alter_of_ne (by decide), each]
    rcases listable with absent | ⟨containers, found⟩
    · rw [absent] at each ⊢
      exact each.symm
    · rw [found]
      rfl

theorem revertPod_eq {injected : Bool} {pod : Members} (sorted : Keyed.Sorted pod) :
    revertPod injected pod = Keyed.alter "containers" (Option.map (onItems (List.map (revertContainer injected))))
      (Keyed.alter "volumes" (shrink (unnamed Fragment.reservedVolumes))
        (Keyed.alter "initContainers" (shrink (unnamed Fragment.reservedInitContainers)) pod)) := by
  rw [alter_onItems ((sorted.alter _ _).alter _ _), ← dropNamed_eq_alter sorted,
    ← dropNamed_eq_alter (dropNamed_eq_alter sorted ▸ sorted.alter _ _)]
  rfl

/-- The containers are reverted after the other lists, which that leaves alone. -/
theorem get?_revertPod_of_ne {key : String} (ne : key ≠ "containers") (injected : Bool) (pod : Members) :
    Keyed.get? key (revertPod injected pod) = Keyed.get? key (dropNamed "volumes" Fragment.reservedVolumes
      (dropNamed "initContainers" Fragment.reservedInitContainers pod)) := by
  unfold revertPod
  simp only
  split
  · exact Keyed.get?_insert_of_ne ne _ _
  · rfl

theorem get?_volumes_revertPod (injected : Bool) (pod : Members) :
    Keyed.get? "volumes" (revertPod injected pod) =
      shrink (unnamed Fragment.reservedVolumes) (Keyed.get? "volumes" pod) := by
  rw [get?_revertPod_of_ne (by decide), get?_dropNamed_self, get?_dropNamed_of_ne (by decide)]

theorem get?_initContainers_revertPod (injected : Bool) (pod : Members) :
    Keyed.get? "initContainers" (revertPod injected pod) =
      shrink (unnamed Fragment.reservedInitContainers) (Keyed.get? "initContainers" pod) := by
  rw [get?_revertPod_of_ne (by decide), get?_dropNamed_of_ne (by decide), get?_dropNamed_self]

theorem get?_containers_revertPod (injected : Bool) (pod : Members) :
    Keyed.get? "containers" (revertPod injected pod) =
      (Keyed.get? "containers" pod).map (onItems (List.map (revertContainer injected))) := by
  have dropped : Keyed.get? "containers" (dropNamed "volumes" Fragment.reservedVolumes
      (dropNamed "initContainers" Fragment.reservedInitContainers pod)) = Keyed.get? "containers" pod := by
    rw [get?_dropNamed_of_ne (by decide), get?_dropNamed_of_ne (by decide)]
  unfold revertPod
  simp only [dropped]
  split
  · rename_i containers found
    rw [Keyed.get?_insert_self, found]
    rfl
  · rename_i notList
    rw [dropped]
    cases found : Keyed.get? "containers" pod with
    | none => rfl
    | some value =>
      cases value with
      | arr containers => exact absurd found (notList containers)
      | _ => rfl

theorem listable_revertPod {injected : Bool} {pod : Members} (listable : Listable (Keyed.get? "containers" pod)) :
    Listable (Keyed.get? "containers" (revertPod injected pod)) := by
  rw [get?_containers_revertPod]
  rcases listable with absent | ⟨containers, found⟩
  · exact .inl (by rw [absent]; rfl)
  · exact .inr ⟨containers.map (revertContainer injected), by rw [found]; rfl⟩

/-- Metadata with the annotations of an injection. -/
def annotate (load : Load) : Option Json → Option Json :=
  growMap (Keyed.alter "annotations" (growMap (injectAnnotations load)))

theorem injectMetadata_eq_ok_iff {load : Load} {template result : Members} :
    injectMetadata load template = .ok result ↔ Mappable (Keyed.get? "metadata" template) ∧
      Mappable (Keyed.get? "annotations" (mapped (Keyed.get? "metadata" template))) ∧
      result = Keyed.alter "metadata" (annotate load) template := by
  unfold injectMetadata
  split
  · rename_i metadata found
    obtain ⟨mappable, rfl⟩ := getD_eq_obj_iff.mp found
    split
    · rename_i annotations inside
      obtain ⟨insideMappable, rfl⟩ := getD_eq_obj_iff.mp inside
      simp only [Except.ok.injEq, mappable, insideMappable, true_and]
      exact eq_comm
    · rename_i notMap
      constructor
      · intro run
        cases run
      · rintro ⟨_, insideMappable, _⟩
        exact absurd (getD_eq_obj_iff.mpr ⟨insideMappable, rfl⟩) (notMap _)
  · rename_i notMap
    constructor
    · intro run
      cases run
    · rintro ⟨mappable, _, _⟩
      exact absurd (getD_eq_obj_iff.mpr ⟨mappable, rfl⟩) (notMap _)

theorem revertMetadata_eq {injected : Bool} {template : Members} (sorted : Keyed.Sorted template)
    (inside : Keyed.Sorted (mapped (Keyed.get? "metadata" template))) :
    revertMetadata injected template = Keyed.alter "metadata" (shrinkMap fun metadata =>
      Keyed.alter "annotations" (shrinkMap (revertAnnotations injected)) metadata) template := by
  rw [alter_shrinkMap sorted]
  unfold revertMetadata
  cases found : Keyed.get? "metadata" template with
  | none => rfl
  | some value =>
    cases value with
    | obj metadata =>
      have metadataSorted : Keyed.Sorted metadata := by
        rw [found] at inside
        exact inside
      have unchanged : Keyed.insert "metadata" (.obj metadata) template = template := sorted.insert_eq_self found
      simp only
      rw [alter_shrinkMap metadataSorted]
      cases inside : Keyed.get? "annotations" metadata with
      | none => simp [unchanged]
      | some value =>
        cases value with
        | obj annotations =>
          have some : metadata ≠ [] := by
            rintro rfl
            cases inside
          simp only
          split
          · simp [some]
          · simp [Keyed.insert_ne_nil]
        | _ => simp [unchanged]
    | _ => rfl

/-- A reversal leaves metadata an object, or takes it out. -/
theorem mappable_metadata_revertMetadata_iff {injected : Bool} {template : Members} :
    Mappable (Keyed.get? "metadata" (revertMetadata injected template)) ↔
      Mappable (Keyed.get? "metadata" template) := by
  unfold revertMetadata
  split
  · rename_i metadata found
    have before : Mappable (Keyed.get? "metadata" template) := .inr ⟨metadata, found⟩
    simp only [before, iff_true]
    split
    · split
      · split
        · exact .inl (Keyed.get?_erase_self _ _)
        · exact .inr ⟨_, Keyed.get?_insert_self _ _ _⟩
      · exact .inr ⟨_, Keyed.get?_insert_self _ _ _⟩
    · exact before
  · rfl

/-- Annotations are reverted where they are. -/
theorem get?_annotations_revertMetadata (injected : Bool) (template : Members) :
    Keyed.get? "annotations" (mapped (Keyed.get? "metadata" (revertMetadata injected template))) =
      shrinkMap (revertAnnotations injected)
        (Keyed.get? "annotations" (mapped (Keyed.get? "metadata" template))) := by
  unfold revertMetadata
  split
  · rename_i metadata found
    have members : mapped (Keyed.get? "metadata" template) = metadata := by rw [found]; rfl
    rw [members]
    split
    · rename_i annotations inside
      simp only [inside, shrinkMap]
      split
      · split
        · rw [Keyed.get?_erase_self]
          rfl
        · rw [Keyed.get?_insert_self]
          exact Keyed.get?_erase_self _ _
      · rw [Keyed.get?_insert_self]
        exact Keyed.get?_insert_self _ _ _
    · rename_i notMap
      rw [members]
      exact (shrinkMap_eq_self fun inner is => absurd is (notMap inner)).symm
  · rename_i notMap
    rw [mapped_eq_nil notMap]
    rfl

/-- An injection into a template succeeds if and only if one into its metadata and one into its pods do. -/
theorem injectTemplate_eq_ok_iff {load : Load} {template pod result : Members}
    (atPod : Keyed.get? "spec" template = some (.obj pod)) :
    injectTemplate load template = .ok result ↔ Mappable (Keyed.get? "metadata" template) ∧
      Mappable (Keyed.get? "annotations" (mapped (Keyed.get? "metadata" template))) ∧
      ∃ injected, injectPod load pod = .ok injected ∧
        result = Keyed.insert "spec" (.obj injected) (Keyed.alter "metadata" (annotate load) template) := by
  have still : Keyed.get? "spec" (Keyed.alter "metadata" (annotate load) template) = some (.obj pod) :=
    (Keyed.get?_alter_of_ne (by decide) _ _).trans atPod
  simp only [injectTemplate, andThen_eq_ok_iff, injectMetadata_eq_ok_iff]
  constructor
  · rintro ⟨_, ⟨metadata, annotations, rfl⟩, run⟩
    simp only [still, within_eq_ok_iff] at run
    exact ⟨metadata, annotations, run⟩
  · rintro ⟨metadata, annotations, run⟩
    refine ⟨_, ⟨metadata, annotations, rfl⟩, ?_⟩
    simp only [still, within_eq_ok_iff]
    exact run

theorem get?_annotations_annotate (load : Load) (metadata : Option Json) :
    Keyed.get? "annotations" (mapped (annotate load metadata)) =
      growMap (injectAnnotations load) (Keyed.get? "annotations" (mapped metadata)) := by
  have inside : mapped (annotate load metadata) =
      Keyed.alter "annotations" (growMap (injectAnnotations load)) (mapped metadata) := rfl
  rw [inside, Keyed.get?_alter_self]

theorem get?_metadata_injectTemplate {load : Load} {template pod result : Members}
    (atPod : Keyed.get? "spec" template = some (.obj pod)) (run : injectTemplate load template = .ok result) :
    Keyed.get? "metadata" result = annotate load (Keyed.get? "metadata" template) := by
  obtain ⟨_, _, _, _, rfl⟩ := (injectTemplate_eq_ok_iff atPod).mp run
  rw [Keyed.get?_insert_of_ne (by decide), Keyed.get?_alter_self]

/-- The annotations of a template after an injection, also where it had none. -/
theorem annotations_injectTemplate {load : Load} {template pod result : Members}
    (atPod : Keyed.get? "spec" template = some (.obj pod)) (run : injectTemplate load template = .ok result) :
    mapped (Keyed.get? "annotations" (mapped (Keyed.get? "metadata" result))) =
      injectAnnotations load (mapped (Keyed.get? "annotations" (mapped (Keyed.get? "metadata" template)))) := by
  rw [get?_metadata_injectTemplate atPod run, get?_annotations_annotate]
  rfl

theorem Layers.get?_spec_reverted (l : Layers) (injected : Bool) :
    Keyed.get? "spec" (l.reverted injected) = some (.obj (revertPod injected l.pod)) :=
  Keyed.get?_insert_self _ _ _

theorem Layers.get?_reverted_of_ne {key : String} (ne : key ≠ "spec") (l : Layers) (injected : Bool) :
    Keyed.get? key (l.reverted injected) = Keyed.get? key (revertMetadata injected l.template) :=
  Keyed.get?_insert_of_ne ne _ _

/-- The annotations of a template after a reversal; an empty map stands for none here. -/
theorem annotations_reverted (l : Layers) (injected : Bool) :
    mapped (Keyed.get? "annotations" (mapped (Keyed.get? "metadata" (l.reverted injected)))) =
      revertAnnotations injected (mapped (Keyed.get? "annotations" (mapped (Keyed.get? "metadata" l.template)))) := by
  have nil : revertAnnotations injected [] = [] := by cases injected <;> rfl
  rw [l.get?_reverted_of_ne (by decide), get?_annotations_revertMetadata, mapped_shrinkMap nil]

end Graft.Injection
