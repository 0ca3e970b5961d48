import Graft.Injection
import Graft.Proofs.Alter

namespace Graft.Injection

open Json

/-- The layers of an object are the objects on the way to the specification of its pods. Its containers must be a list,
or absent. -/
theorem layers_eq_ok_iff {object : Json} {l : Layers} :
    layers object = .ok l ↔ object = .obj l.object ∧ Keyed.get? "spec" l.object = some (.obj l.spec) ∧
      Keyed.get? "template" l.spec = some (.obj l.template) ∧ Keyed.get? "spec" l.template = some (.obj l.pod) ∧
      Listable (Keyed.get? "containers" l.pod) := by
  constructor
  · intro run
    unfold layers at run
    split at run
    · rename_i spec atSpec
      split at run
      · rename_i template atTemplate
        split at run
        · rename_i pod atPod
          split at run
          · rename_i absent
            cases run
            cases object with
            | obj members => exact ⟨rfl, atSpec, atTemplate, atPod, .inl absent⟩
            | _ => cases atSpec
          · rename_i items found
            cases run
            cases object with
            | obj members => exact ⟨rfl, atSpec, atTemplate, atPod, .inr ⟨items, found⟩⟩
            | _ => cases atSpec
          · cases run
        · cases run
      · cases run
    · cases run
  · -- The fields of the layers have to be variables for the matches of `layers` to reduce.
    obtain ⟨members, spec, template, pod⟩ := l
    rintro ⟨rfl, atSpec, atTemplate, atPod, containers⟩
    have atSpec : (Json.obj members).get? "spec" = some (.obj spec) := atSpec
    unfold layers
    simp only at atTemplate atPod containers
    simp only [atSpec, atTemplate, atPod]
    rcases containers with absent | ⟨items, found⟩
    · simp only [absent]
      rfl
    · simp only [found]
      rfl

/-- Putting the template of an object in its own place changes nothing. -/
theorem Layers.withTemplate_template {object : Json} {l : Layers} (ok : layers object = .ok l)
    (canonical : object.Canonical) : l.withTemplate l.template = object := by
  obtain ⟨rfl, atSpec, atTemplate, _, _⟩ := layers_eq_ok_iff.mp ok
  have specSorted := (canonical.get? atSpec).sorted
  rw [withTemplate, specSorted.insert_eq_self atTemplate, canonical.sorted.insert_eq_self atSpec]

/-- An object with another template, if it has one. -/
def onTemplate (f : Members → Members) : Json → Json :=
  onMembers (Keyed.alter "spec" (Option.map (onMembers (Keyed.alter "template" (Option.map (onMembers f))))))

theorem onTemplate_eq {object : Json} {l : Layers} (ok : layers object = .ok l) (f : Members → Members) :
    onTemplate f object = l.withTemplate (f l.template) := by
  obtain ⟨rfl, atSpec, atTemplate, _, _⟩ := layers_eq_ok_iff.mp ok
  have spec : Keyed.alter "template" (Option.map (onMembers f)) l.spec =
      l.spec.insert "template" (.obj (f l.template)) :=
    Keyed.alter_of_some (by rw [atTemplate]; rfl)
  refine congrArg Json.obj (Keyed.alter_of_some ?_)
  rw [atSpec, ← spec]
  rfl

/-- A template that replaces another has its place, so that one more can replace it in turn. -/
theorem layers_withTemplate {l : Layers} {template pod : Members}
    (atPod : Keyed.get? "spec" template = some (.obj pod)) (containers : Listable (Keyed.get? "containers" pod)) :
    ∃ l', layers (l.withTemplate template) = .ok l' ∧ l'.template = template ∧ l'.pod = pod ∧
      ∀ other, l'.withTemplate other = l.withTemplate other := by
  refine ⟨⟨l.object.insert "spec" (.obj (l.spec.insert "template" (.obj template))),
    l.spec.insert "template" (.obj template), template, pod⟩, ?_, rfl, rfl, fun other => ?_⟩
  · exact layers_eq_ok_iff.mpr ⟨rfl, Keyed.get?_insert_self _ _ _, Keyed.get?_insert_self _ _ _, atPod, containers⟩
  · simp only [Layers.withTemplate, Keyed.insert_insert_self]

theorem path?_template {object : Json} {l : Layers} (ok : layers object = .ok l) (rest : List String) :
    object.path? ("spec" :: "template" :: rest) = (Json.obj l.template).path? rest := by
  obtain ⟨rfl, atSpec, atTemplate, _, _⟩ := layers_eq_ok_iff.mp ok
  simp only [Json.path?, Json.get?, atSpec, atTemplate, Option.bind_some]

theorem path?_metadata {object : Json} {l : Layers} (ok : layers object = .ok l) :
    object.path? ["spec", "template", "metadata"] = Keyed.get? "metadata" l.template := by
  rw [path?_template ok]
  exact Option.bind_fun_some _

theorem path?_annotations {object : Json} {l : Layers} (ok : layers object = .ok l) :
    object.path? ["spec", "template", "metadata", "annotations"] =
      Keyed.get? "annotations" (mapped (Keyed.get? "metadata" l.template)) := by
  rw [path?_template ok, get?_mapped]
  exact congrArg _ (funext fun _ => Option.bind_fun_some _)

theorem path?_pod {object : Json} {l : Layers} (ok : layers object = .ok l) (key : String) :
    object.path? ["spec", "template", "spec", key] = Keyed.get? key l.pod := by
  obtain ⟨_, _, _, atPod, _⟩ := layers_eq_ok_iff.mp ok
  rw [path?_template ok]
  simp only [Json.path?, Json.get?, atPod, Option.bind_some]
  cases Keyed.get? key l.pod <;> rfl

theorem path?_inAnnotations {object : Json} {l : Layers} (ok : layers object = .ok l) (key : String) :
    object.path? ["spec", "template", "metadata", "annotations", key] =
      Keyed.get? key (mapped (Keyed.get? "annotations" (mapped (Keyed.get? "metadata" l.template)))) := by
  rw [path?_template ok, get?_mapped, get?_mapped]
  change ((Keyed.get? "metadata" l.template).bind fun metadata => (metadata.get? "annotations").bind
    fun annotations => (annotations.get? key).bind some) = _
  simp only [Option.bind_assoc, Option.bind_fun_some]

theorem containers_eq_listed {object : Json} {l : Layers} (ok : layers object = .ok l) :
    PodIdentity.containers object = listed (Keyed.get? "containers" l.pod) :=
  congrArg listed (path?_pod ok "containers")

/-- An object with containers has the layers that an injection works in, as there is no other way to find a
container. -/
theorem exists_layers {object : Json} (some : PodIdentity.containers object ≠ []) :
    ∃ l, layers object = .ok l := by
  obtain ⟨containers, found⟩ :
      ∃ items, object.path? ["spec", "template", "spec", "containers"] = Option.some (.arr items) := by
    cases found : object.path? ["spec", "template", "spec", "containers"] with
    | none => simp [PodIdentity.containers, found] at some
    | some value =>
      cases value with
      | arr items => exact ⟨items, rfl⟩
      | _ => simp [PodIdentity.containers, found, arr?] at some
  obtain ⟨spec, atSpec, found⟩ := Option.bind_eq_some_iff.mp found
  obtain ⟨template, atTemplate, found⟩ := Option.bind_eq_some_iff.mp found
  obtain ⟨pod, atPod, found⟩ := Option.bind_eq_some_iff.mp found
  obtain ⟨list, atContainers, found⟩ := Option.bind_eq_some_iff.mp found
  cases found
  obtain ⟨object, rfl, atSpec⟩ := get?_eq_some_iff.mp atSpec
  obtain ⟨spec, rfl, atTemplate⟩ := get?_eq_some_iff.mp atTemplate
  obtain ⟨template, rfl, atPod⟩ := get?_eq_some_iff.mp atPod
  obtain ⟨pod, rfl, atContainers⟩ := get?_eq_some_iff.mp atContainers
  exact ⟨⟨object, spec, template, pod⟩,
    layers_eq_ok_iff.mpr ⟨rfl, atSpec, atTemplate, atPod, .inr ⟨_, atContainers⟩⟩⟩

end Graft.Injection
