import Graft.Proofs.Readmission

namespace Graft.Injection

open Json

variable {object other : Json} {g : Governing}

theorem path?_congr (same : other.get? "spec" = object.get? "spec") (rest : List String) :
    other.path? ("spec" :: rest) = object.path? ("spec" :: rest) := by
  rw [Json.path?, Json.path?, same]

theorem containers_congr (same : other.get? "spec" = object.get? "spec") :
    PodIdentity.containers other = PodIdentity.containers object := by
  rw [PodIdentity.containers, PodIdentity.containers, path?_congr same]

theorem isInjected_congr (same : other.get? "spec" = object.get? "spec") : isInjected other = isInjected object := by
  rw [isInjected, isInjected, containers_congr same]

theorem templateAnnotations_congr (same : other.get? "spec" = object.get? "spec") :
    Selection.templateAnnotations other = Selection.templateAnnotations object := by
  rw [Selection.templateAnnotations, Selection.templateAnnotations, path?_congr same]

theorem layers_congr (same : other.get? "spec" = object.get? "spec") :
    layers other = (layers object).map fun l => { l with object := other.obj?.getD [] } := by
  cases ok : layers object with
  | ok l =>
    obtain ⟨rfl, atSpec, below⟩ := layers_eq_ok_iff.mp ok
    obtain ⟨members, rfl, found⟩ := get?_eq_some_iff.mp (same.trans atSpec)
    exact layers_eq_ok_iff.mpr ⟨rfl, found, below⟩
  | error cause =>
    unfold layers at ok ⊢
    rw [same]
    split at ok
    · split at ok
      · split at ok
        · split at ok <;> cases ok
          rfl
        · exact ok
      · exact ok
    · exact ok

/-- A call does to a template the same in any object. -/
theorem Layers.resume_elsewhere (l : Layers) (members : Members) (g : Governing) (template : Members) :
    (Layers.resume { l with object := members } g template).outcome = (l.resume g template).outcome ∧
      (Layers.resume { l with object := members } g template).object.get? "spec" =
        (l.resume g template).object.get? "spec" := by
  have place (template : Members) :
      (Layers.withTemplate { l with object := members } template).get? "spec" = (l.withTemplate template).get? "spec" :=
    (Keyed.get?_insert_self ..).trans (Keyed.get?_insert_self ..).symm
  unfold resume
  cases g.resource with
  | none => exact ⟨rfl, place _⟩
  | some resource =>
    simp only
    split
    · exact ⟨rfl, place _⟩
    · cases Load.make resource g.pod g.platforms g.cluster with
      | error e => exact ⟨rfl, place _⟩
      | ok load =>
        simp only
        cases injectTemplate load template <;> exact ⟨rfl, place _⟩

/-- What a call does is known from the specification, whatever else the objects hold: it ends in the same way and leaves
the same specification. -/
theorem mutate_congr (same : other.get? "spec" = object.get? "spec") (g : Governing) :
    (mutate other g).outcome = (mutate object g).outcome ∧
      (mutate other g).object.get? "spec" = (mutate object g).object.get? "spec" := by
  cases ok : layers object with
  | error cause =>
    have ok' := layers_congr same
    rw [ok] at ok'
    simp only [mutate, ok, ok']
    exact ⟨rfl, same⟩
  | ok l =>
    have ok' := layers_congr same
    rw [ok] at ok'
    rw [mutate_of_layers ok, mutate_of_layers ok', isInjected_congr same]
    exact l.resume_elsewhere _ g _

/-- A call leaves every other member of an object as it is, also a call that fails. -/
theorem get?_mutate {key : String} (ne : key ≠ "spec") (object : Json) (g : Governing) :
    (mutate object g).object.get? key = object.get? key := by
  cases ok : layers object with
  | error cause => simp only [mutate, ok]
  | ok l =>
    obtain ⟨template, eq⟩ := l.exists_resume g (l.reverted (isInjected object))
    obtain ⟨rfl, _⟩ := layers_eq_ok_iff.mp ok
    rw [mutate_of_layers ok, eq]
    exact Keyed.get?_insert_of_ne ne _ _

/-- The patch for an object that gets an injection applies to another object with the same specification, and what it
leaves is the first object injected. The other members are then those of the first. -/
theorem perform?_of_same (same : other.get? "spec" = object.get? "spec") {patch : Patch} {state : InjectionState}
    (run : (mutate object g).outcome = .ok (some state)) (made : Injection.patch object g = .ok patch) :
    patch.perform? other = some (mutate object g).object := by
  obtain ⟨l, ok⟩ := layers_of_mutate ((mutate_congr same g).1.trans run)
  have prepared := (isSome_prepare_iff ok (some state)).mpr
    (annotatable_of_injected ((mutate_congr same g).1.trans run))
  obtain ⟨result, found⟩ := Option.isSome_iff_exists.mp prepared
  obtain ⟨_, run', rfl⟩ := patch_eq_ok_iff.mp made
  cases Except.ok.inj (run.symm.trans run')
  have parents : missingParents object = missingParents other := by
    rw [missingParents, missingParents, path?_congr same]
  rw [Patch.perform?_append_replace, parents, found]
  rfl

end Graft.Injection
