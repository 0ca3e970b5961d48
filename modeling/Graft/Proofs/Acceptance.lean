import Graft.Proofs.PatchDocument

namespace Graft

namespace Injection

open Json

/-- An operation that stops only where it cannot extend a value. Operations that are made of such ones are such
themselves, so this is shown of an injection part by part. -/
def Step.OnlyMalformed {σ : Type} (step : Step σ) : Prop :=
  ∀ stopped, step = .error stopped → ∃ cause, stopped.error = .malformedObject cause

namespace Step.OnlyMalformed

variable {σ τ : Type} {step : Step σ}

theorem ok (s : σ) : OnlyMalformed (.ok s : Step σ) := nofun

theorem stop (cause : Malformation) (reached : σ) : OnlyMalformed (Injection.stop cause reached) := by
  rintro _ ⟨⟩
  exact ⟨cause, rfl⟩

theorem within (only : step.OnlyMalformed) (wrap : σ → τ) : (Step.within wrap step).OnlyMalformed := by
  cases step with
  | ok s => exact .ok (wrap s)
  | error stopped =>
    rintro _ ⟨⟩
    exact only stopped rfl

theorem andThen (only : step.OnlyMalformed) {next : σ → Step σ} (later : ∀ s, (next s).OnlyMalformed) :
    (step.andThen next).OnlyMalformed := by
  cases step with
  | ok s => exact later s
  | error stopped =>
    rintro _ ⟨⟩
    exact only stopped rfl

end Step.OnlyMalformed

theorem onlyMalformed_extend (key : String) (added : List Json) (members : Members) :
    (extend key added members).OnlyMalformed := by
  unfold extend
  split
  · exact .ok _
  · exact .ok _
  · exact .stop _ _

theorem onlyMalformed_injectContainer (load : Load) (container : Json) :
    (injectContainer load container).OnlyMalformed := by
  unfold injectContainer
  split
  · split
    · exact (onlyMalformed_extend _ _ _).within _
    · exact .stop _ _
  · exact .stop _ _

theorem onlyMalformed_injectContainers (load : Load) (containers : List Json) :
    (injectContainers load containers).OnlyMalformed := by
  induction containers with
  | nil => exact .ok _
  | cons container rest ih =>
    have first := onlyMalformed_injectContainer load container
    unfold injectContainers
    cases run : injectContainer load container with
    | error stopped =>
      rintro _ ⟨⟩
      exact first stopped run
    | ok result => exact ih.within _

theorem onlyMalformed_injectPod (load : Load) (pod : Members) : (injectPod load pod).OnlyMalformed := by
  unfold injectPod
  refine ((onlyMalformed_extend _ _ _).andThen fun _ => onlyMalformed_extend _ _ _).andThen fun pod => ?_
  split
  · exact (onlyMalformed_injectContainers _ _).within _
  · exact .ok _

theorem onlyMalformed_injectTemplate (load : Load) (template : Members) :
    (injectTemplate load template).OnlyMalformed := by
  have metadata : (injectMetadata load template).OnlyMalformed := by
    unfold injectMetadata
    split
    · split
      · exact .ok _
      · exact .stop _ _
    · exact .stop _ _
  refine metadata.andThen fun template => ?_
  split
  · exact (onlyMalformed_injectPod _ _).within _
  · exact .stop _ _

/-- An object with the parts that every call needs, also one that injects nothing. -/
structure Structured (object : Json) : Prop where
  spec : ∃ members, object.path? ["spec"] = some (.obj members)
  template : ∃ members, object.path? ["spec", "template"] = some (.obj members)
  pod : ∃ members, object.path? ["spec", "template", "spec"] = some (.obj members)
  containers : Listable (object.path? ["spec", "template", "spec", "containers"])

/-- A container whose lists an injection can extend. -/
structure FitContainer (container : Json) : Prop where
  object : ∃ members, container = .obj members
  env : Listable (container.get? "env")
  mounts : Listable (container.get? "volumeMounts")

/-- An object whose lists and maps an injection can extend. Each of them may be absent, but it may not be anything else,
not even `null`. -/
structure Injectable (object : Json) : Prop where
  annotatable : Annotatable object
  volumes : Listable (object.path? ["spec", "template", "spec", "volumes"])
  initContainers : Listable (object.path? ["spec", "template", "spec", "initContainers"])
  containers : ∀ container ∈ PodIdentity.containers object, FitContainer container

/-- One name more leads to a member of the object at the end of a path. -/
theorem path?_concat {value : Json} {front : List String} {members : Members}
    (found : value.path? front = some (.obj members)) (key : String) :
    value.path? (front ++ [key]) = Keyed.get? key members := by
  induction front generalizing value with
  | nil =>
    cases found
    exact Option.bind_fun_some _
  | cons first rest ih =>
    obtain ⟨inner, atFirst, found⟩ := Option.bind_eq_some_iff.mp found
    rw [List.cons_append, Json.path?, atFirst]
    exact ih found

/-- An object has layers exactly if it has the parts that every call needs. Its members may be of any kind otherwise. -/
theorem exists_layers_iff {object : Json} : (∃ l, layers object = .ok l) ↔ Structured object := by
  constructor
  · rintro ⟨l, ok⟩
    obtain ⟨rfl, atSpec, atTemplate, atPod, containers⟩ := layers_eq_ok_iff.mp ok
    have spec : (Json.obj l.object).path? ["spec"] = some (.obj l.spec) := (Option.bind_fun_some _).trans atSpec
    have template : (Json.obj l.object).path? ["spec", "template"] = some (.obj l.template) := path?_template ok []
    exact ⟨⟨l.spec, spec⟩, ⟨l.template, template⟩, ⟨l.pod, (path?_concat template "spec").trans atPod⟩,
      path?_pod ok "containers" ▸ containers⟩
  · rintro ⟨⟨spec, atSpec⟩, ⟨template, atTemplate⟩, ⟨pod, atPod⟩, containers⟩
    have belowPod : object.path? ["spec", "template", "spec", "containers"] = Keyed.get? "containers" pod :=
      path?_concat atPod "containers"
    have belowTemplate := (path?_concat atTemplate "spec").symm.trans atPod
    have belowSpec := (path?_concat atSpec "template").symm.trans atTemplate
    obtain ⟨inner, found, is⟩ := Option.bind_eq_some_iff.mp atSpec
    cases is
    obtain ⟨members, rfl, here⟩ := get?_eq_some_iff.mp found
    exact ⟨⟨members, spec, template, pod⟩,
      layers_eq_ok_iff.mpr ⟨rfl, here, belowSpec, belowTemplate, belowPod ▸ containers⟩⟩

theorem fitContainer_revertContainer_iff {injected : Bool} {container : Json} :
    FitContainer (revertContainer injected container) ↔ FitContainer container := by
  have object : (∃ members, revertContainer injected container = .obj members) ↔ ∃ members, container = .obj members := by
    cases container <;> simp [revertContainer]
  constructor
  · rintro ⟨isObject, env, mounts⟩
    rw [get?_env_revertContainer, listable_shrink_iff] at env
    rw [get?_volumeMounts_revertContainer, listable_shrink_iff] at mounts
    exact ⟨object.mp isObject, env, mounts⟩
  · rintro ⟨isObject, env, mounts⟩
    refine ⟨object.mpr isObject, ?_, ?_⟩
    · rwa [get?_env_revertContainer, listable_shrink_iff]
    · rwa [get?_volumeMounts_revertContainer, listable_shrink_iff]

theorem exists_injectContainer_iff {load : Load} {container : Json} :
    (∃ result, injectContainer load container = .ok result) ↔ FitContainer container := by
  simp only [injectContainer_eq_ok_iff]
  constructor
  · rintro ⟨_, members, rfl, env, mounts, _⟩
    exact ⟨⟨members, rfl⟩, env, mounts⟩
  · rintro ⟨⟨members, rfl⟩, env, mounts⟩
    exact ⟨_, members, rfl, env, mounts, rfl⟩

theorem exists_injectContainers_iff {load : Load} {containers : List Json} :
    (∃ results, injectContainers load containers = .ok results) ↔ ∀ container ∈ containers, FitContainer container := by
  simp only [injectContainers_eq_ok_iff]
  induction containers with
  | nil => simp
  | cons container rest ih =>
    rw [List.forall_mem_cons, ← ih, ← @exists_injectContainer_iff load]
    constructor
    · rintro ⟨_, each⟩
      obtain ⟨result, others, first, later, _⟩ := List.forall₂_cons_left_iff.mp each
      exact ⟨⟨result, first⟩, others, later⟩
    · rintro ⟨⟨result, first⟩, others, later⟩
      exact ⟨result :: others, .cons first later⟩

/-- There is a place for an injection in the template as a reversal leaves it exactly if there is one in the object.
What there is to inject does not matter for that, nor does an earlier injection. -/
theorem exists_injectTemplate_iff {object : Json} {l : Layers} (ok : layers object = .ok l) (load : Load)
    (injected : Bool) :
    (∃ result, injectTemplate load (l.reverted injected) = .ok result) ↔ Injectable object := by
  obtain ⟨_, _, _, _, listable⟩ := layers_eq_ok_iff.mp ok
  have metadata : Mappable (Keyed.get? "metadata" (l.reverted injected)) ↔
      Mappable (Keyed.get? "metadata" l.template) := by
    rw [l.get?_reverted_of_ne (by decide), mappable_metadata_revertMetadata_iff]
  have annotations : Mappable (Keyed.get? "annotations" (mapped (Keyed.get? "metadata" (l.reverted injected)))) ↔
      Mappable (Keyed.get? "annotations" (mapped (Keyed.get? "metadata" l.template))) := by
    rw [l.get?_reverted_of_ne (by decide), get?_annotations_revertMetadata, mappable_shrinkMap_iff]
  have volumes : Listable (Keyed.get? "volumes" (revertPod injected l.pod)) ↔
      Listable (Keyed.get? "volumes" l.pod) := by
    rw [get?_volumes_revertPod, listable_shrink_iff]
  have initContainers : Listable (Keyed.get? "initContainers" (revertPod injected l.pod)) ↔
      Listable (Keyed.get? "initContainers" l.pod) := by
    rw [get?_initContainers_revertPod, listable_shrink_iff]
  have containers : (∃ results, injectContainers load (listed (Keyed.get? "containers" (revertPod injected l.pod))) =
      .ok results) ↔ ∀ container ∈ PodIdentity.containers object, FitContainer container := by
    rw [exists_injectContainers_iff, get?_containers_revertPod, listed_map_onItems, ← containers_eq_listed ok,
      List.forall_mem_map]
    simp only [fitContainer_revertContainer_iff]
  simp only [injectTemplate_eq_ok_iff (l.get?_spec_reverted injected), metadata, annotations,
    injectPod_eq_ok_iff_of_listable (listable_revertPod listable), volumes, initContainers]
  constructor
  · rintro ⟨_, atMetadata, atAnnotations, _, ⟨atVolumes, atInitContainers, results, run, _⟩, _⟩
    exact ⟨(annotatable_iff ok).mpr ⟨atMetadata, atAnnotations⟩, path?_pod ok "volumes" ▸ atVolumes,
      path?_pod ok "initContainers" ▸ atInitContainers, containers.mp ⟨results, run⟩⟩
  · rintro ⟨annotatable, atVolumes, atInitContainers, each⟩
    obtain ⟨atMetadata, atAnnotations⟩ := (annotatable_iff ok).mp annotatable
    obtain ⟨results, run⟩ := containers.mpr each
    exact ⟨_, atMetadata, atAnnotations, _, ⟨path?_pod ok "volumes" ▸ atVolumes,
      path?_pod ok "initContainers" ▸ atInitContainers, results, run, rfl⟩, rfl⟩

theorem fitContainer_of_injected {load : Load} {container result : Json}
    (run : injectContainer load container = .ok result) : FitContainer result where
  object := by
    obtain ⟨_, _, _, _, rfl⟩ := injectContainer_eq_ok_iff.mp run
    exact ⟨_, rfl⟩
  env := .inr ⟨_, get?_env_injectContainer run⟩
  mounts := .inr ⟨_, get?_volumeMounts_injectContainer run⟩

/-- What an injection leaves has a place for a further one, whatever the next one injects. So a call that has succeeded
once does not fail for want of a place when it is repeated. -/
theorem injectable_mutate {object : Json} {g : Governing} {state : InjectionState}
    (run : (mutate object g).outcome = .ok (some state)) : Injectable (mutate object g).object := by
  obtain ⟨l, ok⟩ := layers_of_mutate run
  obtain ⟨_, _, _, _, listable⟩ := layers_eq_ok_iff.mp ok
  obtain ⟨_, load, l', _, _, _, _, ok', injected, podRun, _⟩ := layers_mutate_injected ok run
  obtain ⟨_, _, _, _, pod⟩ := (injectPod_eq_ok_iff_of_listable (listable_revertPod listable)).mp podRun
  obtain ⟨_, _, _, _, _, each⟩ := containers_mutate_injected run
  refine ⟨(annotatable_iff ok').mpr ?_, ?_, ?_, fun result member => ?_⟩
  · rw [get?_metadata_injectTemplate (l.get?_spec_reverted _) injected, get?_annotations_annotate]
    exact ⟨.inr ⟨_, rfl⟩, .inr ⟨_, rfl⟩⟩
  · rw [path?_pod ok', pod, Keyed.get?_alter_of_ne (by decide), Keyed.get?_alter_of_ne (by decide),
      Keyed.get?_alter_self]
    exact .inr ⟨_, rfl⟩
  · rw [path?_pod ok', pod, Keyed.get?_alter_of_ne (by decide), Keyed.get?_alter_self]
    exact .inr ⟨_, rfl⟩
  · obtain ⟨_, _, one⟩ := exists_injectContainer each result member
    exact fitContainer_of_injected one

/-- The ways in which a call can end. -/
inductive Ending (object : Json) (g : Governing) : Prop
  | unstructured (cause : Malformation) (not : ¬ Structured object)
      (eq : mutate object g = ⟨object, .error (.malformedObject cause)⟩)
  | reverted (structured : Structured object) (idle : g.Idle) (run : (mutate object g).outcome = .ok none)
  | unsupported (structured : Structured object) (busy : ¬ g.Idle) (asked : .openTelemetry ∈ g.platforms)
      (eq : ∀ idle : Governing, idle.Idle → mutate object g =
        ⟨(mutate object idle).object, .error (.unsupportedPlatform .initContainers "OpenTelemetry")⟩)
  | stuck (cause : Malformation) (structured : Structured object) (busy : ¬ g.Idle)
      (supported : .openTelemetry ∉ g.platforms) (not : ¬ Injectable object)
      (run : (mutate object g).outcome = .error (.malformedObject cause))
  | injected (state : InjectionState) (structured : Structured object) (busy : ¬ g.Idle)
      (supported : .openTelemetry ∉ g.platforms) (fit : Injectable object)
      (run : (mutate object g).outcome = .ok (some state))

theorem Governing.exists_resource {g : Governing} (busy : ¬ g.Idle) :
    ∃ resource, g.resource = some resource ∧ g.platforms ≠ [] := by
  obtain ⟨has, platforms⟩ := not_or.mp busy
  obtain ⟨resource, has⟩ := Option.ne_none_iff_exists'.mp has
  exact ⟨resource, has, platforms⟩

/-- Every call ends in one of these ways; nothing is assumed of the object or of what governs it. -/
theorem mutate_ending (object : Json) (g : Governing) : Ending object g := by
  cases ok : layers object with
  | error cause =>
    have not : ¬ Structured object := fun structured => by
      obtain ⟨l, is⟩ := exists_layers_iff.mpr structured
      cases ok.symm.trans is
    exact .unstructured cause not (by rw [mutate, ok])
  | ok l =>
    have structured := exists_layers_iff.mp ⟨l, ok⟩
    have eq := mutate_of_layers ok g
    by_cases idle : g.Idle
    · exact .reverted structured idle (by rw [eq, Layers.resume_idle idle])
    · obtain ⟨resource, has, platforms⟩ := Governing.exists_resource idle
      by_cases asked : .openTelemetry ∈ g.platforms
      · refine .unsupported structured idle asked fun other isIdle => ?_
        rw [eq, mutate_of_layers ok other, Layers.resume_idle isIdle]
        simp [Layers.resume, has, platforms, Load.make_of_unsupported asked]
      · obtain ⟨load, made⟩ := @Load.exists_make resource g.pod g.platforms g.cluster asked
        have place := exists_injectTemplate_iff ok load (isInjected object)
        cases run : injectTemplate load (l.reverted (isInjected object)) with
        | ok result =>
          refine .injected load.state structured idle asked (place.mp ⟨result, run⟩) ?_
          rw [eq, Layers.resume_injected has platforms made run]
        | error stopped =>
          obtain ⟨cause, is⟩ := onlyMalformed_injectTemplate load _ stopped run
          have not : ¬ Injectable object := fun fit => by
            obtain ⟨result, done⟩ := place.mpr fit
            cases run.symm.trans done
          refine .stuck cause structured idle asked not ?_
          rw [eq]
          simp [Layers.resume, has, platforms, made, run, is]

/-- A call succeeds if and only if it has what it needs: the layers of an object and, where it injects, an agent for
each platform and lists and maps that it can extend. What an earlier injection left is taken out before, which does not
make an object fit or unfit. -/
theorem exists_mutate_iff {object : Json} {g : Governing} : (∃ state, (mutate object g).outcome = .ok state) ↔
    Structured object ∧ (¬ g.Idle → .openTelemetry ∉ g.platforms ∧ Injectable object) := by
  constructor
  · rintro ⟨state, run⟩
    cases mutate_ending object g with
    | unstructured cause _ eq =>
      rw [eq] at run
      cases run
    | reverted structured idle _ => exact ⟨structured, fun busy => absurd idle busy⟩
    | unsupported _ _ _ eq =>
      rw [eq {} (.inl rfl)] at run
      cases run
    | stuck cause _ _ _ _ stuck => cases run.symm.trans stuck
    | injected _ structured _ supported fit _ => exact ⟨structured, fun _ => ⟨supported, fit⟩⟩
  · rintro ⟨structured, fit⟩
    cases mutate_ending object g with
    | unstructured _ not _ => exact absurd structured not
    | reverted _ _ run => exact ⟨none, run⟩
    | unsupported _ busy asked _ => exact absurd asked (fit busy).1
    | stuck _ _ busy _ not _ => exact absurd (fit busy).2 not
    | injected state _ _ _ _ run => exact ⟨some state, run⟩

/-- When a call succeeds, and what one that fails leaves and says. -/
structure Verdict (object : Json) (g : Governing) : Prop where
  succeeds : (∃ state, (mutate object g).outcome = .ok state) ↔
    Structured object ∧ (¬ g.Idle → .openTelemetry ∉ g.platforms ∧ Injectable object)
  unstructured : ¬ Structured object → ∃ cause, mutate object g = ⟨object, .error (.malformedObject cause)⟩
  unsupported : Structured object → ¬ g.Idle → .openTelemetry ∈ g.platforms →
    ∀ idle : Governing, idle.Idle → mutate object g =
      ⟨(mutate object idle).object, .error (.unsupportedPlatform .initContainers "OpenTelemetry")⟩
  otherwise : (g.Idle ∨ .openTelemetry ∉ g.platforms) → ∀ e, (mutate object g).outcome = .error e →
    ∃ cause, e = .malformedObject cause
  patched : (∃ patch, Injection.patch object g = .ok patch) ↔ ∃ state, (mutate object g).outcome = .ok state

/-- When a call succeeds, and what one that fails leaves and says, for any object and anything that may govern it. A
call that fails has changed nothing, or has taken out an earlier injection, unless the object stops it half-way. -/
theorem mutate_verdict (object : Json) (g : Governing) : Verdict object g where
  succeeds := exists_mutate_iff
  unstructured not := by
    cases mutate_ending object g with
    | unstructured cause _ eq => exact ⟨cause, eq⟩
    | reverted structured | unsupported structured | stuck _ structured | injected _ structured =>
      exact absurd structured not
  unsupported structured busy asked := by
    cases mutate_ending object g with
    | unstructured _ not => exact absurd structured not
    | reverted _ idle => exact absurd idle busy
    | unsupported _ _ _ eq => exact eq
    | stuck _ _ _ supported | injected _ _ _ supported => exact absurd asked supported
  otherwise known e failed := by
    cases mutate_ending object g with
    | unstructured cause _ eq =>
      rw [eq] at failed
      exact ⟨cause, Except.error.inj failed.symm⟩
    | reverted _ _ run => cases failed.symm.trans run
    | unsupported _ busy asked _ =>
      rcases known with idle | supported
      · exact absurd idle busy
      · exact absurd asked supported
    | stuck cause _ _ _ _ run => exact ⟨cause, Except.error.inj (failed.symm.trans run)⟩
    | injected _ _ _ _ _ run => cases failed.symm.trans run
  patched := by
    simp only [patch_eq_ok_iff]
    constructor
    · rintro ⟨_, state, run, _⟩
      exact ⟨state, run⟩
    · rintro ⟨state, run⟩
      exact ⟨_, state, run, rfl⟩

example : mutate plainWorkload (governing [.java, .openTelemetry]) =
    ⟨plainWorkload, .error (.unsupportedPlatform .initContainers "OpenTelemetry")⟩ := rfl

end Injection

end Graft
