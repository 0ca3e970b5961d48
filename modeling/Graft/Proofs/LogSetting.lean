import Graft.Proofs.Acceptance
import Graft.Proofs.Bookkeeping
import Graft.Proofs.CanonicalSteps

namespace Graft.Injection

open Json

/-- The annotations of an object's template. -/
def annotations? (object : Json) : Option Json := object.path? ["spec", "template", "metadata", "annotations"]

/-- Whether container logs are left out, as an object's template says. -/
def logSetting? (object : Json) : Option Json :=
  object.path? ["spec", "template", "metadata", "annotations", Convention.logsAnnotation]

/-- The setting that an injection has put aside. -/
def logShadow? (object : Json) : Option Json :=
  object.path? ["spec", "template", "metadata", "annotations", Convention.logsShadow]

section

variable {object : Json} {l : Layers} {g : Governing} {state : InjectionState}

theorem get?_annotations (ok : layers object = .ok l) (key : String) :
    Keyed.get? key (mapped (annotations? object)) =
      object.path? ["spec", "template", "metadata", "annotations", key] := by
  rw [path?_inAnnotations ok, annotations?, path?_annotations ok]

theorem annotations_mutate_idle (ok : layers object = .ok l) (idle : g.Idle) :
    mapped (annotations? (mutate object g).object) =
      revertAnnotations (isInjected object) (mapped (annotations? object)) := by
  obtain ⟨l', ok', template, _⟩ := layers_mutate_idle ok idle
  rw [annotations?, path?_annotations ok', template, annotations_reverted, annotations?, path?_annotations ok]

theorem annotations_mutate_injected (run : (mutate object g).outcome = .ok (some state)) :
    ∃ resource load, g.resource = some resource ∧
      Load.make resource g.pod g.platforms g.cluster = .ok load ∧ annotations? (mutate object g).object =
        some (.obj (injectAnnotations load (revertAnnotations (isInjected object) (mapped (annotations? object))))) := by
  obtain ⟨l, ok⟩ := layers_of_mutate run
  obtain ⟨resource, load, l', has, _, made, _, ok', injected, _⟩ := layers_mutate_injected ok run
  refine ⟨resource, load, has, made, ?_⟩
  rw [annotations?, path?_annotations ok', get?_metadata_injectTemplate (l.get?_spec_reverted _) injected,
    get?_annotations_annotate, growMap, annotations_reverted, annotations?, path?_annotations ok]

/-- An object says that there was an injection if and only if there is a container to say so. The marker stands in the
containers, while the log setting stands in the template. -/
theorem isInjected_mutate_iff (run : (mutate object g).outcome = .ok (some state)) :
    isInjected (mutate object g).object = true ↔ PodIdentity.containers object ≠ [] := by
  refine ⟨fun injected none => ?_, fun nonempty => isInjected_mutate nonempty run⟩
  obtain ⟨_, load, _, _, _, each⟩ := containers_mutate_injected run
  rw [none, List.map_nil, injectContainers_eq_ok_iff, List.forall₂_nil_left_iff] at each
  rw [isInjected, each] at injected
  cases injected

/-- An injection can be repeated, and records the same state. -/
theorem outcome_mutate_again (run : (mutate object g).outcome = .ok (some state)) :
    (mutate (mutate object g).object g).outcome = .ok (some state) := by
  obtain ⟨_, _, has, platforms, _⟩ := containers_mutate_injected run
  have busy : ¬ g.Idle := by
    rintro (none | none)
    · cases has.symm.trans none
    · exact platforms none
  obtain ⟨_, fit⟩ := exists_mutate_iff.mp ⟨_, run⟩
  obtain ⟨again, rerun⟩ := exists_mutate_iff.mpr ⟨exists_layers_iff.mp (exists_layers_mutate run), fun _ =>
    ⟨(fit busy).1, injectable_mutate run⟩⟩
  cases again with
  | none => exact absurd (idle_of_mutate rerun) busy
  | some other =>
    rw [rerun, (faithful_of_injected rerun).record, (faithful_of_injected run).record]

end

section

variable {load : Load} {annotations : Members}

theorem get?_logs_injected : Keyed.get? Convention.logsAnnotation (injectAnnotations load annotations) =
    (load.logsExcluded.map fun excluded => .str (if excluded then "true" else "false")).or
      (Keyed.get? Convention.logsAnnotation annotations) := by
  rw [get?_injectAnnotations, if_neg logs_ne_state, if_pos rfl]

theorem get?_shadow_injected : Keyed.get? Convention.logsShadow (injectAnnotations load annotations) =
    (Keyed.get? Convention.logsShadow annotations).or (Keyed.get? Convention.logsAnnotation annotations) := by
  rw [get?_injectAnnotations, if_neg shadow_ne_state, if_neg shadow_ne_logs, if_pos rfl]

theorem get?_unknown {key : String} (ne : key ≠ Convention.stateAnnotation) :
    Keyed.get? key (revertAnnotations false annotations) = Keyed.get? key annotations := by
  simp [get?_revertAnnotations, ne]

/-- A reversal that knows of the injection puts the setting back from its shadow. One that does not leaves both, and
then there has to be nothing to put back. -/
theorem logs_reverted_iff (shadow : Keyed.get? Convention.logsShadow annotations = none) (injected : Bool) :
    (Keyed.get? Convention.logsAnnotation (revertAnnotations injected (injectAnnotations load annotations)) =
        Keyed.get? Convention.logsAnnotation annotations ∧
      Keyed.get? Convention.logsShadow (revertAnnotations injected (injectAnnotations load annotations)) = none) ↔
    injected = true ∨ (load.logsExcluded = none ∧ Keyed.get? Convention.logsAnnotation annotations = none) := by
  cases injected with
  | true =>
    simp [get?_revertAnnotations, logs_ne_state, shadow_ne_state, shadow_ne_logs, get?_shadow_injected, shadow]
  | false =>
    rw [get?_unknown logs_ne_state, get?_unknown shadow_ne_state, get?_logs_injected, get?_shadow_injected, shadow,
      Option.none_or]
    cases load.logsExcluded <;> cases Keyed.get? Convention.logsAnnotation annotations <;> simp

/-- An injection that does not know of an earlier one takes the setting of that one for the customer's, and puts it into
the shadow if the shadow is free. -/
theorem injectAnnotations_again_iff (sorted : Keyed.Sorted annotations)
    (shadow : Keyed.get? Convention.logsShadow annotations = none) :
    injectAnnotations load (revertAnnotations false (injectAnnotations load annotations)) =
      injectAnnotations load annotations ↔
    load.logsExcluded = none ∨ Keyed.get? Convention.logsAnnotation annotations ≠ none := by
  have atShadow : Keyed.get? Convention.logsShadow (injectAnnotations load (revertAnnotations false
      (injectAnnotations load annotations))) = Keyed.get? Convention.logsShadow (injectAnnotations load annotations) ↔
      load.logsExcluded = none ∨ Keyed.get? Convention.logsAnnotation annotations ≠ none := by
    rw [get?_shadow_injected, get?_unknown shadow_ne_state, get?_unknown logs_ne_state, get?_logs_injected,
      get?_shadow_injected, shadow, Option.none_or]
    cases load.logsExcluded <;> cases Keyed.get? Convention.logsAnnotation annotations <;> simp
  refine ⟨fun same => atShadow.mp (congrArg _ same), fun known => ?_⟩
  refine (sorted_injectAnnotations (sorted_revertAnnotations (sorted_injectAnnotations sorted))).ext
    (sorted_injectAnnotations sorted) fun key => ?_
  by_cases isShadow : key = Convention.logsShadow
  · exact isShadow ▸ atShadow.mpr known
  · by_cases isState : key = Convention.stateAnnotation
    · simp [get?_injectAnnotations, isState]
    · by_cases isLogs : key = Convention.logsAnnotation
      · subst isLogs
        rw [get?_logs_injected, get?_unknown logs_ne_state, get?_logs_injected]
        cases load.logsExcluded <;> rfl
      · simp [get?_injectAnnotations, get?_unknown isState, isState, isLogs, isShadow]

end

/-- The log setting comes back after an injection if there is a container, or if the injection made no setting and there
was none before. When the injection is repeated, the annotations stay as they are if there is a container, or if the
injection made no setting or there was one before. Before the injection there may be neither a state, nor a shadow, nor
a marker. -/
theorem log_setting_kept_iff {object : Json} {g : Governing} {state : InjectionState} (canonical : object.Canonical)
    (noState : InjectionState.annotation? object = none) (noShadow : logShadow? object = none)
    (unmarked : isInjected object = false) (run : (mutate object g).outcome = .ok (some state)) :
    ∃ resource, g.resource = some resource ∧
      (∀ later : Governing, later.Idle → (mutate (mutate object g).object later).outcome = .ok none ∧
        (logSetting? (mutate (mutate object g).object later).object = logSetting? object ∧
            logShadow? (mutate (mutate object g).object later).object = none ↔
          PodIdentity.containers object ≠ [] ∨
            (resource.containerLogsDisabled = none ∧ logSetting? object = none))) ∧
      (mutate (mutate object g).object g).outcome = .ok (some state) ∧
      (annotations? (mutate (mutate object g).object g).object = annotations? (mutate object g).object ↔
        PodIdentity.containers object ≠ [] ∨ resource.containerLogsDisabled = none ∨ logSetting? object ≠ none) := by
  obtain ⟨l, ok⟩ := layers_of_mutate run
  have sorted : Keyed.Sorted (mapped (annotations? object)) := by
    rw [annotations?, path?_annotations ok]
    exact (canonical_annotations (Layers.canonical ok canonical).1).sorted
  have noted := (get?_annotations ok Convention.stateAnnotation).trans noState
  have own : revertAnnotations false (mapped (annotations? object)) = mapped (annotations? object) :=
    revertAnnotations_eq_self sorted noted
  have logs := get?_annotations ok Convention.logsAnnotation
  have shadow := (get?_annotations ok Convention.logsShadow).trans noShadow
  obtain ⟨resource, load, has, made, once⟩ := annotations_mutate_injected run
  obtain ⟨_, _, _, _, _, _, _, _, _, _, _, excluded⟩ := Load.make_eq_ok made
  rw [unmarked, own] at once
  have inside : mapped (annotations? (mutate object g).object) =
      injectAnnotations load (mapped (annotations? object)) := congrArg mapped once
  have known := isInjected_mutate_iff run
  obtain ⟨l', ok'⟩ := exists_layers_mutate run
  refine ⟨resource, has, fun later idle => ⟨?_, ?_⟩, outcome_mutate_again run, ?_⟩
  · rw [mutate_of_layers ok', Layers.resume_idle idle]
  · obtain ⟨_, ok'', _⟩ := layers_mutate_idle ok' idle
    have after := annotations_mutate_idle ok' idle
    rw [logSetting?, ← get?_annotations ok'', logShadow?, ← get?_annotations ok'', after, inside, logSetting?, ← logs,
      ← known, ← excluded]
    exact logs_reverted_iff shadow _
  · obtain ⟨other, again, isOther, madeAgain, twice⟩ := annotations_mutate_injected (outcome_mutate_again run)
    cases has.symm.trans isOther
    cases made.symm.trans madeAgain
    rw [twice, inside, once, ← known, ← excluded, logSetting?, ← logs, Option.some.injEq, Json.obj.injEq]
    cases isInjected (mutate object g).object with
    | true => simp [revertAnnotations_injectAnnotations sorted noted shadow]
    | false => simpa using injectAnnotations_again_iff sorted shadow

/-- A workload without containers. -/
def emptyWorkload : Json := .obj [("spec", .obj [("template", .obj [("spec", .obj [])])])]

/-- A resource that leaves the logs of all containers out. -/
def silencing : Governing where
  resource := some {
    metadata := { name := some "default" }
    logCollection := some { disableContainerLogs := some true }
    connectionString := "key" }
  platforms := [.java]

/-- Without a container nothing says that there was an injection, so its setting stays after a reversal and is taken for
the customer's own when it is repeated. -/
theorem log_setting_not_kept :
    (mutate emptyWorkload silencing).outcome = .ok (some ⟨"default", "", [.java]⟩) ∧
    ¬ (logSetting? (mutate (mutate emptyWorkload silencing).object {}).object = logSetting? emptyWorkload ∧
      logShadow? (mutate (mutate emptyWorkload silencing).object {}).object = none) ∧
    annotations? (mutate (mutate emptyWorkload silencing).object silencing).object ≠
      annotations? (mutate emptyWorkload silencing).object := by
  obtain ⟨resource, has, reverted, _, repeated⟩ := @log_setting_kept_iff emptyWorkload silencing
    ⟨"default", "", [.java]⟩ (by decide) rfl rfl rfl rfl
  cases has
  refine ⟨rfl, fun restored => ?_, fun same => ?_⟩
  · rcases (reverted {} (.inl rfl)).2.mp restored with some | ⟨unset, _⟩
    · exact some rfl
    · cases unset
  · rcases repeated.mp same with some | unset | own
    · exact some rfl
    · cases unset
    · exact own rfl

end Graft.Injection
