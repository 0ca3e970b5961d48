import Graft.Cleanup
import Graft.Proofs.Acceptance
import Graft.Proofs.Bookkeeping
import Graft.Proofs.CanonicalSteps

namespace Graft

open Json

namespace Injection

/-- An object without entries that a reversal takes out or restores by their names, whatever the signals say. A customer
who uses a name of an agent for a volume breaks this too. -/
structure Unreserved (object : Json) : Prop where
  volumes : Free Fragment.reservedVolumes (listed (object.path? ["spec", "template", "spec", "volumes"]))
  initContainers :
    Free Fragment.reservedInitContainers (listed (object.path? ["spec", "template", "spec", "initContainers"]))
  mounts : ∀ container ∈ PodIdentity.containers object,
    Free Fragment.reservedVolumes (listed (container.get? "volumeMounts"))
  env : ∀ container ∈ PodIdentity.containers object, Unpaired (listed (container.get? "env"))

theorem needsCleanup_eq_false_iff {object : Json} :
    needsCleanup object = false ↔ InjectionState.annotation? object = none ∧ isInjected object = false := by
  rw [needsCleanup, Bool.or_eq_false_iff, Option.isSome_eq_false_iff, Option.isNone_iff_eq_none]

/-- A call that injects nothing leaves an object alone if and only if it has neither a signal nor anything known by
name. The object has to be canonical, or writing it back would already change it. -/
theorem mutate_idle_eq_self_iff {object : Json} {l : Layers} (ok : layers object = .ok l) (canonical : object.Canonical)
    {g : Governing} (idle : g.Idle) :
    (mutate object g).object = object ↔ needsCleanup object = false ∧ Unreserved object := by
  obtain ⟨template, pod⟩ := Layers.canonical ok canonical
  obtain ⟨_, _, _, atPod, _⟩ := layers_eq_ok_iff.mp ok
  have containers := containers_eq_listed ok
  have settledIff := revertPod_eq_self_iff pod
  constructor
  · intro same
    have faithful := faithful_of_idle ok idle
    rw [same] at faithful
    have signals : needsCleanup object = false := Bool.eq_false_iff.mpr fun found =>
      faithful.cleanup.mp found (Governing.injected_eq_nil_iff.mpr idle)
    obtain ⟨l', ok', _, podKept, _⟩ := layers_mutate_idle ok idle
    rw [same, ok] at ok'
    cases ok'
    rw [(needsCleanup_eq_false_iff.mp signals).2] at podKept
    obtain ⟨volumes, initContainers, settled⟩ := settledIff.mp podKept.symm
    rw [← containers] at settled
    exact ⟨signals, path?_pod ok "volumes" ▸ volumes, path?_pod ok "initContainers" ▸ initContainers,
      fun container member => (settled container member).mounts,
      fun container member => (settled container member).unpaired⟩
  · rintro ⟨signals, volumes, initContainers, mounts, env⟩
    obtain ⟨state, notInjected⟩ := needsCleanup_eq_false_iff.mp signals
    have unmarked := isInjected_eq_false_iff.mp notInjected
    have settled : ∀ container ∈ PodIdentity.containers object, Settled container := fun container member =>
      ⟨unmarked container member, env container member, mounts container member⟩
    have podKept := settledIff.mpr ⟨path?_pod ok "volumes" ▸ volumes, path?_pod ok "initContainers" ▸ initContainers,
      containers ▸ settled⟩
    rw [mutate_of_layers ok, Layers.resume_idle idle, notInjected, Layers.reverted,
      revertMetadata_eq_self template (annotation?_eq ok ▸ state), podKept, template.sorted.insert_eq_self atPod,
      Layers.withTemplate_template ok canonical]

/-- The job skips an object exactly if it has no signal, that is neither the state annotation nor a marker. Other traces
are not looked for. -/
theorem reversal_eq_ok_none_iff {cluster : ClusterIdentity} {w : Workload} :
    Cleanup.reversal cluster w = .ok none ↔ needsCleanup w.toJson = false := by
  cases found : needsCleanup w.toJson with
  | false => simp [Cleanup.reversal, found]
  | true =>
    simp only [Cleanup.reversal, found, if_true, reduceCtorEq, iff_false]
    split
    · exact nofun
    · cases Injection.patch w.toJson _ <;> exact nofun

/-- A reversal succeeds, and it changes the objects with a signal, which are those that the job does not skip. Of the
others it changes those with an entry that it knows by name, so a skipped object may still carry what an injection put
there. -/
theorem reversal_changes_iff {object : Json} (canonical : object.Canonical) (structured : Structured object)
    {g : Governing} (idle : g.Idle) :
    (mutate object g).outcome = .ok none ∧
      ((mutate object g).object ≠ object ↔ needsCleanup object = true ∨ ¬ Unreserved object) ∧
      ∀ (cluster : ClusterIdentity) (w : Workload), w.toJson = object →
        (Cleanup.reversal cluster w = .ok none ↔ needsCleanup object = false) := by
  obtain ⟨l, ok⟩ := exists_layers_iff.mpr structured
  refine ⟨?_, ?_, ?_⟩
  · rw [mutate_of_layers ok, Layers.resume_idle idle]
  · rw [ne_eq, mutate_idle_eq_self_iff ok canonical idle, not_and_or, Bool.not_eq_false]
  · rintro cluster w rfl
    exact reversal_eq_ok_none_iff

/-- An injection, and a customer's patch after it that takes out the annotations and the variables. -/
def strippedWorkload : Json :=
  (Patch.perform? [.remove ⟨["spec", "template", "metadata"]⟩,
      .remove ⟨["spec", "template", "spec", "containers", "0", "env"]⟩]
    (mutate plainWorkload (governing [.java])).object).getD .null

/-- The volumes, the init container and the mounts of the agent are still there and a reversal would take them out, but
nothing is detected, and so nobody calls for it. The annotations and the variables are all that was removed. -/
theorem stripped_undetected : strippedWorkload.Canonical ∧ Structured strippedWorkload ∧
    needsCleanup strippedWorkload = false ∧
    ¬ Free Fragment.reservedVolumes (listed (strippedWorkload.path? ["spec", "template", "spec", "volumes"])) ∧
    ¬ Free Fragment.reservedInitContainers
      (listed (strippedWorkload.path? ["spec", "template", "spec", "initContainers"])) ∧
    (∃ container ∈ PodIdentity.containers strippedWorkload,
      ¬ Free Fragment.reservedVolumes (listed (container.get? "volumeMounts"))) ∧
    (mutate strippedWorkload {}).object ≠ strippedWorkload := by
  have structured : Structured strippedWorkload := exists_layers_iff.mp ⟨_, rfl⟩
  have canonical : strippedWorkload.Canonical := by decide
  have volumes :
      ¬ Free Fragment.reservedVolumes (listed (strippedWorkload.path? ["spec", "template", "spec", "volumes"])) := by
    decide
  obtain ⟨_, changes, _⟩ := reversal_changes_iff canonical structured (g := {}) (.inl rfl)
  refine ⟨canonical, structured, by decide, volumes, by decide, by decide, ?_⟩
  exact changes.mpr (.inr fun unreserved => volumes unreserved.volumes)

end Injection

end Graft
