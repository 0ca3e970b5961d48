import Graft.Injection.Template
import Graft.Proofs.Alter

namespace Graft.Injection

open Json

theorem injectAnnotations_ne_nil (load : Load) (annotations : Members) :
    injectAnnotations load annotations ≠ [] :=
  Keyed.insert_ne_nil _ _ _

theorem logs_ne_state : Convention.logsAnnotation ≠ Convention.stateAnnotation := by decide

theorem shadow_ne_state : Convention.logsShadow ≠ Convention.stateAnnotation := by decide

theorem shadow_ne_logs : Convention.logsShadow ≠ Convention.logsAnnotation := by decide

/-- Annotations with the customer's own log setting in the shadow, unless there is a shadow. -/
def shadowed (annotations : Members) : Members :=
  match Keyed.get? Convention.logsAnnotation annotations with
  | some own => if Keyed.contains Convention.logsShadow annotations then annotations
      else Keyed.insert Convention.logsShadow own annotations
  | none => annotations

theorem injectAnnotations_eq (load : Load) (annotations : Members) : injectAnnotations load annotations =
    Keyed.insert Convention.stateAnnotation (.str load.state.text) (match load.logsExcluded with
      | some excluded =>
        Keyed.insert Convention.logsAnnotation (.str (if excluded then "true" else "false")) (shadowed annotations)
      | none => shadowed annotations) := rfl

theorem get?_shadowed (annotations : Members) (key : String) : Keyed.get? key (shadowed annotations) =
    if key = Convention.logsShadow then
      (Keyed.get? key annotations).or (Keyed.get? Convention.logsAnnotation annotations)
    else Keyed.get? key annotations := by
  unfold shadowed
  cases Keyed.get? Convention.logsAnnotation annotations with
  | none => simp
  | some own =>
    by_cases isShadow : key = Convention.logsShadow
    · subst isShadow
      cases shadow : Keyed.get? Convention.logsShadow annotations <;> simp [Keyed.contains, shadow]
    · simp only [isShadow, if_false]
      split
      · rfl
      · rw [Keyed.get?_insert_of_ne isShadow]

theorem sorted_shadowed {annotations : Members} (sorted : Keyed.Sorted annotations) :
    Keyed.Sorted (shadowed annotations) := by
  unfold shadowed
  split
  · split
    · exact sorted
    · exact sorted.insert _ _
  · exact sorted

theorem sorted_injectAnnotations {load : Load} {annotations : Members} (sorted : Keyed.Sorted annotations) :
    Keyed.Sorted (injectAnnotations load annotations) := by
  rw [injectAnnotations_eq]
  cases load.logsExcluded with
  | none => exact (sorted_shadowed sorted).insert _ _
  | some excluded => exact ((sorted_shadowed sorted).insert _ _).insert _ _

/-- An injection sets the state and the log setting, and puts what that was into its shadow. It does so by name, so the
annotations may be in any order and hold anything. -/
theorem get?_injectAnnotations (load : Load) (annotations : Members) (key : String) :
    Keyed.get? key (injectAnnotations load annotations) =
      if key = Convention.stateAnnotation then some (.str load.state.text)
      else if key = Convention.logsAnnotation then
        (load.logsExcluded.map fun excluded => .str (if excluded then "true" else "false")).or
          (Keyed.get? key annotations)
      else if key = Convention.logsShadow then
        (Keyed.get? key annotations).or (Keyed.get? Convention.logsAnnotation annotations)
      else Keyed.get? key annotations := by
  rw [injectAnnotations_eq, Keyed.get?_insert]
  by_cases isState : key = Convention.stateAnnotation
  · simp [isState]
  · simp only [isState, if_false]
    by_cases isLogs : key = Convention.logsAnnotation
    · cases load.logsExcluded with
      | none => simp [get?_shadowed, isLogs, shadow_ne_logs.symm]
      | some excluded => simp [isLogs]
    · cases load.logsExcluded with
      | none => simp [get?_shadowed, isLogs]
      | some excluded =>
        simp only [isLogs, if_false]
        rw [Keyed.get?_insert_of_ne isLogs, get?_shadowed]

/-- A reversal of an injection takes the log setting from its shadow; where no injection is known of, it takes out the
state and leaves the rest. -/
theorem get?_revertAnnotations (injected : Bool) (annotations : Members) (key : String) :
    Keyed.get? key (revertAnnotations injected annotations) =
      if key = Convention.stateAnnotation then none
      else if injected then
        if key = Convention.logsAnnotation then Keyed.get? Convention.logsShadow annotations
        else if key = Convention.logsShadow then none
        else Keyed.get? key annotations
      else Keyed.get? key annotations := by
  have shadowKept : Keyed.get? Convention.logsShadow (Keyed.erase Convention.stateAnnotation annotations) =
      Keyed.get? Convention.logsShadow annotations := Keyed.get?_erase_of_ne shadow_ne_state _
  unfold revertAnnotations
  cases injected with
  | false => simp [Keyed.get?_erase]
  | true =>
    simp only [if_true, shadowKept]
    cases shadow : Keyed.get? Convention.logsShadow annotations with
    | none =>
      by_cases isShadow : key = Convention.logsShadow
      · simp [Keyed.get?_erase, isShadow, shadow_ne_state, shadow_ne_logs, shadow]
      · by_cases isLogs : key = Convention.logsAnnotation <;>
          simp [Keyed.get?_erase, isShadow, isLogs, logs_ne_state]
    | some own =>
      by_cases isLogs : key = Convention.logsAnnotation
      · simp [isLogs, logs_ne_state]
      · by_cases isShadow : key = Convention.logsShadow <;>
          simp [Keyed.get?_insert, Keyed.get?_erase, isShadow, isLogs, shadow_ne_state, shadow_ne_logs]

theorem sorted_revertAnnotations {injected : Bool} {annotations : Members} (sorted : Keyed.Sorted annotations) :
    Keyed.Sorted (revertAnnotations injected annotations) := by
  have rest := sorted.erase Convention.stateAnnotation
  unfold revertAnnotations
  cases injected with
  | false => exact rest
  | true =>
    simp only [if_true]
    split
    · exact ((rest.erase _).erase _).insert _ _
    · exact rest.erase _

/-- The customer's own log setting comes back from its shadow, and all else stays. Only the state and the shadow must
have been absent before; an injection that finds a shadow keeps it. -/
theorem revertAnnotations_injectAnnotations {load : Load} {annotations : Members} (sorted : Keyed.Sorted annotations)
    (state : Keyed.get? Convention.stateAnnotation annotations = none)
    (shadow : Keyed.get? Convention.logsShadow annotations = none) :
    revertAnnotations true (injectAnnotations load annotations) = annotations := by
  refine (sorted_revertAnnotations (sorted_injectAnnotations sorted)).ext sorted fun key => ?_
  rw [get?_revertAnnotations]
  simp only [if_true]
  split
  · rename_i isState
    rw [isState, state]
  · rename_i notState
    split
    · rename_i isLogs
      simp [get?_injectAnnotations, isLogs, shadow_ne_state, shadow_ne_logs, shadow]
    · rename_i notLogs
      split
      · rename_i isShadow
        rw [isShadow, shadow]
      · rename_i notShadow
        simp [get?_injectAnnotations, notState, notLogs, notShadow]

/-- Annotations without a state are left alone where there was no injection. -/
theorem revertAnnotations_eq_self {annotations : Members} (sorted : Keyed.Sorted annotations)
    (state : Keyed.get? Convention.stateAnnotation annotations = none) :
    revertAnnotations false annotations = annotations := sorted.erase_eq_self state

end Graft.Injection
