import Graft.Proofs.Catalog
import Graft.Proofs.Layers

namespace Graft.Injection

open Json

/-- A container that no injection has touched, as far as its names tell. Its variables may have reserved names. -/
structure Untouched (container : Json) : Prop where
  env : Free traces (listed (container.get? "env"))
  mounts : Free Fragment.reservedVolumes (listed (container.get? "volumeMounts"))

instance (container : Json) : Decidable (Untouched container) :=
  decidable_of_iff (Free traces (listed (container.get? "env")) ∧
      Free Fragment.reservedVolumes (listed (container.get? "volumeMounts")))
    ⟨fun ⟨env, mounts⟩ => ⟨env, mounts⟩, fun ⟨env, mounts⟩ => ⟨env, mounts⟩⟩

/-- An object that no injection has touched, as far as its names tell. Any of its entries may repeat a name or have
none, and its variables may have the names that agents use. -/
structure Clean (object : Json) : Prop where
  canonical : object.Canonical
  containers : PodIdentity.containers object ≠ []
  volumes : Free Fragment.reservedVolumes (listed (object.path? ["spec", "template", "spec", "volumes"]))
  initContainers :
    Free Fragment.reservedInitContainers (listed (object.path? ["spec", "template", "spec", "initContainers"]))
  state : InjectionState.annotation? object = none
  shadow : object.path? ["spec", "template", "metadata", "annotations", Convention.logsShadow] = none
  untouched : ∀ container ∈ PodIdentity.containers object, Untouched container

instance (object : Json) : Decidable (Clean object) :=
  decidable_of_iff (object.Canonical ∧ PodIdentity.containers object ≠ [] ∧
      Free Fragment.reservedVolumes (listed (object.path? ["spec", "template", "spec", "volumes"])) ∧
      Free Fragment.reservedInitContainers (listed (object.path? ["spec", "template", "spec", "initContainers"])) ∧
      InjectionState.annotation? object = none ∧
      object.path? ["spec", "template", "metadata", "annotations", Convention.logsShadow] = none ∧
      ∀ container ∈ PodIdentity.containers object, Untouched container)
    ⟨fun ⟨canonical, containers, volumes, initContainers, state, shadow, untouched⟩ =>
        ⟨canonical, containers, volumes, initContainers, state, shadow, untouched⟩,
      fun ⟨canonical, containers, volumes, initContainers, state, shadow, untouched⟩ =>
        ⟨canonical, containers, volumes, initContainers, state, shadow, untouched⟩⟩

/-- The pods of a template that nothing has touched, and the names that are free in them. -/
structure CleanPod (pod : Members) : Prop where
  canonical : (Json.obj pod).Canonical
  containers : listed (Keyed.get? "containers" pod) ≠ []
  volumes : Free Fragment.reservedVolumes (listed (Keyed.get? "volumes" pod))
  initContainers : Free Fragment.reservedInitContainers (listed (Keyed.get? "initContainers" pod))
  untouched : ∀ container ∈ listed (Keyed.get? "containers" pod), Untouched container

theorem CleanPod.exists_containers {pod : Members} (clean : CleanPod pod) :
    ∃ containers, Keyed.get? "containers" pod = some (.arr containers) ∧
      listed (Keyed.get? "containers" pod) = containers := by
  cases found : Keyed.get? "containers" pod with
  | none => exact absurd (by rw [found]; rfl) clean.containers
  | some value =>
    cases value with
    | arr containers => exact ⟨containers, rfl, rfl⟩
    | _ => exact absurd (by rw [found]; rfl) clean.containers

/-- A template that nothing has touched. -/
structure CleanTemplate (template pod : Members) : Prop where
  canonical : (Json.obj template).Canonical
  atPod : Keyed.get? "spec" template = some (.obj pod)
  pod : CleanPod pod
  state : Keyed.get? Convention.stateAnnotation
    (mapped (Keyed.get? "annotations" (mapped (Keyed.get? "metadata" template)))) = none
  shadow : Keyed.get? Convention.logsShadow
    (mapped (Keyed.get? "annotations" (mapped (Keyed.get? "metadata" template)))) = none

theorem Clean.layers {object : Json} (clean : Clean object) : ∃ l, Injection.layers object = .ok l :=
  exists_layers clean.containers

theorem Clean.not_injected {object : Json} (clean : Clean object) : isInjected object = false := by
  refine List.any_eq_false.mpr fun container member => ?_
  exact Bool.eq_false_iff.mp ((clean.untouched container member).env.any_eq_false List.mem_cons_self)

theorem Clean.template {object : Json} (clean : Clean object) {l : Layers} (ok : Injection.layers object = .ok l) :
    CleanTemplate l.template l.pod := by
  obtain ⟨rfl, atSpec, atTemplate, atPod, _⟩ := layers_eq_ok_iff.mp ok
  have same := containers_eq_listed ok
  have canonical := ((clean.canonical.get? atSpec).get? atTemplate)
  refine ⟨canonical, atPod, ?_, ?_, ?_⟩
  · refine ⟨canonical.get? atPod, same ▸ clean.containers, ?_, ?_, same ▸ clean.untouched⟩
    · exact path?_pod ok "volumes" ▸ clean.volumes
    · exact path?_pod ok "initContainers" ▸ clean.initContainers
  · exact path?_inAnnotations ok Convention.stateAnnotation ▸ clean.state
  · exact path?_inAnnotations ok Convention.logsShadow ▸ clean.shadow

/-- A workload that sets a variable of an agent itself, twice, and has a list of volumes without an entry. -/
def plainWorkload : Json := .obj [("spec", .obj [("template", .obj [("spec", .obj [
  ("containers", .arr [.obj [
    ("env", .arr [.obj [("name", .str "NODE_OPTIONS"), ("value", .str "--inspect")],
      .obj [("name", .str "NODE_OPTIONS"), ("value", .str "--trace-gc")]]),
    ("name", .str "main")]]),
  ("volumes", .arr [])])])])]

example : Clean plainWorkload := by decide

end Graft.Injection
