import Graft.Proofs.Mutation
import Graft.Proofs.Places

namespace Graft.Injection

open Json

/-- The parents of the state annotation are absent or objects. Only then can the annotation be set in place, for which
those that are absent are made. -/
def Annotatable (object : Json) : Prop :=
  Mappable (object.path? ["spec", "template", "metadata"]) ∧
    Mappable (object.path? ["spec", "template", "metadata", "annotations"])

theorem getAt?_metadata (doc : Json) :
    Pointer.getAt? ["spec", "template", "metadata"] doc = doc.path? ["spec", "template", "metadata"] :=
  Pointer.getAt?_eq_path? (by decide) doc

theorem getAt?_annotations (doc : Json) : Pointer.getAt? annotationsPath.tokens doc =
    doc.path? ["spec", "template", "metadata", "annotations"] :=
  Pointer.getAt?_eq_path? (by decide) doc

/-- The annotations are a member of the metadata. -/
theorem path?_annotations_eq (object : Json) : object.path? ["spec", "template", "metadata", "annotations"] =
    (object.path? ["spec", "template", "metadata"]).bind (Json.get? "annotations") := by
  rw [← getAt?_annotations, ← getAt?_metadata]
  refine (Pointer.getAt?_append ["spec", "template", "metadata"] ["annotations"] object).trans ?_
  exact congrArg _ (funext fun metadata => (Pointer.getAt?_eq_path? (by decide) metadata).trans
    (Option.bind_fun_some _))

variable {object : Json} {l : Layers}

theorem annotatable_iff (ok : layers object = .ok l) :
    Annotatable object ↔ Mappable (Keyed.get? "metadata" l.template) ∧
      Mappable (Keyed.get? "annotations" (mapped (Keyed.get? "metadata" l.template))) := by
  rw [Annotatable, path?_metadata ok, path?_annotations ok]

/-- The parents that are absent are made if the others are objects, and the annotations are then an object. -/
theorem exists_parents (ok : layers object = .ok l) (annotatable : Annotatable object) :
    ∃ prepared annotations, (missingParents object).perform? object = some prepared ∧
      Pointer.getAt? annotationsPath.tokens prepared = some (.obj annotations) := by
  obtain ⟨metadataMappable, annotationsMappable⟩ := annotatable
  rcases metadataMappable with absent | ⟨metadata, found⟩
  · have template : Pointer.getAt? ["spec", "template"] object = some (.obj l.template) :=
      (Pointer.getAt?_eq_path? (by decide) object).trans (path?_template ok [])
    obtain ⟨withMetadata, first, _, empty⟩ := Operation.exists_add template "metadata" (.obj [])
    obtain ⟨prepared, second, _, there⟩ := Operation.exists_add empty "annotations" (.obj [])
    refine ⟨prepared, [], ?_, there⟩
    simp only [missingParents, absent, Patch.perform?_cons]
    exact Option.bind_eq_some_iff.mpr ⟨_, first, Option.bind_eq_some_iff.mpr ⟨_, second, rfl⟩⟩
  · have inside := path?_annotations_eq object
    rw [found, Option.bind_some] at inside
    rcases annotationsMappable with absent | ⟨annotations, some⟩
    · obtain ⟨prepared, run, _, there⟩ :=
        Operation.exists_add ((getAt?_metadata object).trans found) "annotations" (.obj [])
      refine ⟨prepared, [], ?_, there⟩
      simp only [missingParents, found, ← inside, absent, Option.isNone_none, if_true,
        Patch.perform?_cons]
      exact Option.bind_eq_some_iff.mpr ⟨_, run, rfl⟩
    · refine ⟨object, annotations, ?_, (getAt?_annotations object).trans some⟩
      simp [missingParents, found, ← inside, some]

/-- The state annotation is set, or set and taken out again, where its parents are. -/
theorem exists_stateOperations {doc : Json} {annotations : Members}
    (found : Pointer.getAt? annotationsPath.tokens doc = some (.obj annotations)) (state : Option InjectionState) :
    ∃ result, (stateOperations state).perform? doc = some result := by
  cases state with
  | some state =>
    obtain ⟨result, run, _⟩ := Operation.exists_add found Convention.stateAnnotation (.str state.text)
    exact ⟨result, Option.bind_eq_some_iff.mpr ⟨_, run, rfl⟩⟩
  | none =>
    obtain ⟨between, first, there, _⟩ := Operation.exists_add found Convention.stateAnnotation (.str "")
    have has : Keyed.contains Convention.stateAnnotation
        (Keyed.insert Convention.stateAnnotation (.str "") annotations) = true := by simp [Keyed.contains]
    obtain ⟨result, second⟩ := Operation.exists_remove there has
    exact ⟨result, Option.bind_eq_some_iff.mpr ⟨_, first, Option.bind_eq_some_iff.mpr ⟨_, second, rfl⟩⟩⟩

/-- Both forms of the state operations start with an addition below the annotations, so neither applies where the
annotations are no object. -/
theorem stateOperations_eq_none {doc : Json}
    (notObject : ∀ members, Pointer.getAt? annotationsPath.tokens doc ≠ some (.obj members))
    (state : Option InjectionState) : (stateOperations state).perform? doc = none := by
  have add (value : Json) : Operation.perform? doc (.add statePath value) = none :=
    Operation.add_eq_none (by decide) notObject value
  cases state <;> simp [stateOperations, Patch.perform?_cons, add]

/-- A parent that is there and is not an object stops the patch. That its value is `null` makes no difference. -/
theorem prepare_eq_none (not : ¬ Annotatable object) (state : Option InjectionState) :
    (missingParents object ++ stateOperations state).perform? object = none := by
  have inside := path?_annotations_eq object
  rw [Patch.perform?_append]
  cases found : object.path? ["spec", "template", "metadata"] with
  | none =>
    rw [found] at inside
    exact absurd ⟨.inl found, .inl inside⟩ not
  | some metadata =>
    rw [found, Option.bind_some] at inside
    cases annotations : metadata.get? "annotations" with
    | none =>
      have notObject (members : Members) :
          Pointer.getAt? ["spec", "template", "metadata"] object ≠ some (.obj members) := by
        intro is
        exact not ⟨.inr ⟨members, (getAt?_metadata object).symm.trans is⟩, .inl (inside.trans annotations)⟩
      have add : Operation.perform? object (.add annotationsPath (.obj [])) = none :=
        Operation.add_eq_none (by decide) notObject _
      simp [missingParents, found, annotations, Patch.perform?_cons, add]
    | some value =>
      obtain ⟨members, rfl, _⟩ := get?_eq_some_iff.mp annotations
      have notObject (inner : Members) :
          Pointer.getAt? annotationsPath.tokens object ≠ some (.obj inner) := by
        intro is
        exact not ⟨.inr ⟨members, found⟩, .inr ⟨inner, (getAt?_annotations object).symm.trans is⟩⟩
      simp [missingParents, found, annotations, stateOperations_eq_none notObject]

/-- The operations before the last one apply iff the state annotation has, or can get, its parents. -/
theorem isSome_prepare_iff (ok : layers object = .ok l) (state : Option InjectionState) :
    ((missingParents object ++ stateOperations state).perform? object).isSome ↔ Annotatable object := by
  constructor
  · contrapose
    intro not
    simp [prepare_eq_none not state]
  · intro annotatable
    obtain ⟨prepared, annotations, run, there⟩ := exists_parents ok annotatable
    obtain ⟨result, runState⟩ := exists_stateOperations there state
    rw [Patch.perform?_append, run, Option.bind_some, runState, Option.isSome_some]

/-- A call that injects puts the state annotation there itself, so it stops where the patch would not apply. -/
theorem annotatable_of_injected {g : Governing} {state : InjectionState}
    (run : (mutate object g).outcome = .ok (some state)) : Annotatable object := by
  obtain ⟨l, ok⟩ := layers_of_mutate run
  rw [mutate_of_layers ok] at run
  obtain ⟨_, _, _, _, _, _, injected, _⟩ := Layers.resume_eq_some run
  obtain ⟨metadata, annotations, _⟩ := (injectTemplate_eq_ok_iff (l.get?_spec_reverted _)).mp injected
  rw [l.get?_reverted_of_ne (by decide)] at metadata annotations
  rw [get?_annotations_revertMetadata, mappable_shrinkMap_iff] at annotations
  exact (annotatable_iff ok).mpr ⟨mappable_metadata_revertMetadata_iff.mp metadata, annotations⟩

theorem patch_eq_ok_iff {g : Governing} {patch : Patch} : Injection.patch object g = .ok patch ↔
    ∃ state, (mutate object g).outcome = .ok state ∧
      patch = missingParents object ++ stateOperations state ++ [.replace ⟨[]⟩ (mutate object g).object] := by
  simp only [Injection.patch]
  cases (mutate object g).outcome with
  | error e => simp [bind, Except.bind]
  | ok state => simp [bind, Except.bind, pure, Except.pure, eq_comm]

/-- What applying the patch of a call comes to: if its first operations apply, it is what the call makes of the object,
whatever those left. -/
theorem perform?_patch {g : Governing} {patch : Patch} (made : Injection.patch object g = .ok patch) :
    ∃ state, (mutate object g).outcome = .ok state ∧ patch.perform? object =
      ((missingParents object ++ stateOperations state).perform? object).map fun _ => (mutate object g).object := by
  obtain ⟨state, run, rfl⟩ := patch_eq_ok_iff.mp made
  exact ⟨state, run, Patch.perform?_append_replace _ _ _⟩

/-- The patch of a call yields what the call makes of the object, unless a parent of the state annotation is there and
is not an object: then it does not apply. An injecting call has no such object, so it is only the patches that take an
injection back which may fail in this way. -/
theorem patch_applies_iff {g : Governing} {patch : Patch} (made : Injection.patch object g = .ok patch) :
    (patch.perform? object = some (mutate object g).object ↔ Annotatable object) ∧
      (patch.perform? object = none ↔ ¬ Annotatable object) ∧ (¬ g.Idle → Annotatable object) := by
  obtain ⟨state, run, performed⟩ := perform?_patch made
  obtain ⟨l, ok⟩ := layers_of_mutate run
  have prepared := isSome_prepare_iff ok state
  rw [performed]
  refine ⟨?_, ?_, fun busy => ?_⟩
  · rw [← prepared, Option.isSome_iff_exists, Option.map_eq_some_iff]
    exact exists_congr fun _ => and_iff_left rfl
  · rw [← prepared, Option.map_eq_none_iff, Option.not_isSome_iff_eq_none]
  · cases state with
    | some state => exact annotatable_of_injected run
    | none => exact absurd (idle_of_mutate run) busy

/-- A workload with null for the metadata of its template. -/
def nullMetadata : Json := .obj [("spec", .obj [("template", .obj [
  ("metadata", .null),
  ("spec", .obj [("containers", .arr [.obj [("name", .str "main")]])])])])]

theorem null_metadata_stops_patch :
    ∃ patch, Injection.patch nullMetadata {} = .ok patch ∧ patch.perform? nullMetadata = none := by
  have not : ¬ Annotatable nullMetadata := by
    rintro ⟨absent | ⟨metadata, found⟩, _⟩
    · cases absent
    · cases found
  exact ⟨_, rfl, (patch_applies_iff (g := {}) rfl).2.1.mpr not⟩

end Graft.Injection
