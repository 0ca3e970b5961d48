import Graft.Proofs.Reversal

namespace Graft.Injection

open Json

/-- There is nothing to inject. -/
def Governing.Idle (g : Governing) : Prop := g.resource = none ∨ g.platforms = []

/-- What a call makes of a template in its place, once an earlier injection is taken out of the template. -/
def Layers.resume (l : Layers) (g : Governing) (template : Members) : Mutation :=
  match g.resource with
  | none => ⟨l.withTemplate template, .ok none⟩
  | some resource =>
    if g.platforms.isEmpty then ⟨l.withTemplate template, .ok none⟩
    else match Load.make resource g.pod g.platforms g.cluster with
      | .error e => ⟨l.withTemplate template, .error e⟩
      | .ok load =>
        match injectTemplate load template with
        | .error stopped => ⟨l.withTemplate stopped.reached, .error stopped.error⟩
        | .ok injected => ⟨l.withTemplate injected, .ok (some load.state)⟩

theorem mutate_of_layers {object : Json} {l : Layers} (ok : layers object = .ok l) (g : Governing) :
    mutate object g = l.resume g (l.reverted (isInjected object)) := by
  simp only [mutate, ok]
  rfl

/-- A call succeeds only on an object that has the layers, also a call that injects nothing. -/
theorem layers_of_mutate {object : Json} {g : Governing} {state : Option InjectionState}
    (run : (mutate object g).outcome = .ok state) : ∃ l, layers object = .ok l := by
  cases ok : layers object with
  | error cause =>
    rw [mutate, ok] at run
    cases run
  | ok l => exact ⟨l, rfl⟩

namespace Layers

variable {l l' : Layers} {g : Governing} {template : Members}

/-- A call knows the place of a template by what is put there only. -/
theorem resume_congr (same : ∀ other, l'.withTemplate other = l.withTemplate other) :
    l'.resume g template = l.resume g template := by
  simp only [resume, same]

theorem resume_idle (idle : g.Idle) : l.resume g template = ⟨l.withTemplate template, .ok none⟩ := by
  rcases idle with none | none
  · simp only [resume, none]
  · cases found : g.resource <;> simp [resume, none, found]

theorem resume_injected {resource : Instrumentation} {load : Load} {result : Members}
    (has : g.resource = some resource) (platforms : g.platforms ≠ [])
    (made : Load.make resource g.pod g.platforms g.cluster = .ok load)
    (run : injectTemplate load template = .ok result) :
    l.resume g template = ⟨l.withTemplate result, .ok (some load.state)⟩ := by
  simp [resume, has, platforms, made, run]

theorem idle_of_resume (run : (l.resume g template).outcome = .ok none) : g.Idle := by
  unfold resume at run
  split at run
  · rename_i absent
    exact .inl absent
  · split at run
    · rename_i empty
      exact .inr (List.isEmpty_iff.mp empty)
    · split at run
      · cases run
      · split at run <;> cases run

theorem resume_eq_some {state : InjectionState} (run : (l.resume g template).outcome = .ok (some state)) :
    ∃ resource load result, g.resource = some resource ∧ g.platforms ≠ [] ∧
      Load.make resource g.pod g.platforms g.cluster = .ok load ∧ injectTemplate load template = .ok result ∧
      l.resume g template = ⟨l.withTemplate result, .ok (some load.state)⟩ := by
  cases has : g.resource with
  | none => simp [resume, has] at run
  | some resource =>
    by_cases platforms : g.platforms = []
    · simp [resume, has, platforms] at run
    · cases made : Load.make resource g.pod g.platforms g.cluster with
      | error e => simp [resume, has, platforms, made] at run
      | ok load =>
        cases done : injectTemplate load template with
        | error stopped => simp [resume, has, platforms, made, done] at run
        | ok result =>
          exact ⟨resource, load, result, rfl, platforms, made, done, resume_injected has platforms made done⟩

end Layers

/-- A call that returns no state injects nothing. -/
theorem idle_of_mutate {object : Json} {g : Governing} (run : (mutate object g).outcome = .ok none) : g.Idle := by
  obtain ⟨l, ok⟩ := layers_of_mutate run
  rw [mutate_of_layers ok] at run
  exact Layers.idle_of_resume run

/-- The layers that a call leaves which injects nothing: the template is reverted, and is in its place. -/
theorem layers_mutate_idle {object : Json} {l : Layers} (ok : layers object = .ok l) {g : Governing}
    (idle : g.Idle) : ∃ l', layers (mutate object g).object = .ok l' ∧
      l'.template = l.reverted (isInjected object) ∧ l'.pod = revertPod (isInjected object) l.pod ∧
      ∀ other, l'.withTemplate other = l.withTemplate other := by
  obtain ⟨_, _, _, _, listable⟩ := layers_eq_ok_iff.mp ok
  obtain ⟨l', ok', template, pod, place⟩ :=
    layers_withTemplate (l := l) (l.get?_spec_reverted (isInjected object)) (listable_revertPod listable)
  refine ⟨l', ?_, template, pod, place⟩
  rw [mutate_of_layers ok, Layers.resume_idle idle]
  exact ok'

/-- The layers that a call leaves which injects. What the call has met is taken out first, so the injection is one into
the reverted template. -/
theorem layers_mutate_injected {object : Json} {l : Layers} (ok : layers object = .ok l) {g : Governing}
    {state : InjectionState} (run : (mutate object g).outcome = .ok (some state)) :
    ∃ resource load l', g.resource = some resource ∧ g.platforms ≠ [] ∧
      Load.make resource g.pod g.platforms g.cluster = .ok load ∧ state = load.state ∧
      layers (mutate object g).object = .ok l' ∧
      injectTemplate load (l.reverted (isInjected object)) = .ok l'.template ∧
      injectPod load (revertPod (isInjected object) l.pod) = .ok l'.pod ∧
      ∀ other, l'.withTemplate other = l.withTemplate other := by
  obtain ⟨_, _, _, _, listable⟩ := layers_eq_ok_iff.mp ok
  rw [mutate_of_layers ok] at run ⊢
  obtain ⟨resource, load, result, has, platforms, made, injected, eq⟩ := Layers.resume_eq_some run
  rw [eq] at run ⊢
  cases run
  obtain ⟨_, _, pod, podRun, template⟩ := (injectTemplate_eq_ok_iff (l.get?_spec_reverted _)).mp injected
  have atPod : Keyed.get? "spec" result = some (.obj pod) := template ▸ Keyed.get?_insert_self _ _ _
  obtain ⟨l', ok', sameTemplate, samePod, place⟩ := layers_withTemplate (l := l) atPod
    (listable_injectPod (listable_revertPod listable) podRun)
  exact ⟨resource, load, l', has, platforms, made, rfl, ok', sameTemplate ▸ injected, samePod ▸ podRun, place⟩

theorem exists_layers_mutate {object : Json} {g : Governing} {state : Option InjectionState}
    (run : (mutate object g).outcome = .ok state) : ∃ l, layers (mutate object g).object = .ok l := by
  obtain ⟨l, ok⟩ := layers_of_mutate run
  cases state with
  | none =>
    obtain ⟨l', ok', _⟩ := layers_mutate_idle ok (idle_of_mutate run)
    exact ⟨l', ok'⟩
  | some state =>
    obtain ⟨_, _, l', _, _, _, _, ok', _⟩ := layers_mutate_injected ok run
    exact ⟨l', ok'⟩

/-- A call that injects nothing reverts each container. -/
theorem containers_mutate_idle {object : Json} {l : Layers} (ok : layers object = .ok l) {g : Governing}
    (idle : g.Idle) : PodIdentity.containers (mutate object g).object =
      (PodIdentity.containers object).map (revertContainer (isInjected object)) := by
  obtain ⟨l', ok', _, pod, _⟩ := layers_mutate_idle ok idle
  rw [containers_eq_listed ok', pod, get?_containers_revertPod, listed_map_onItems, containers_eq_listed ok]

/-- A call that injects adds to each list of the pod, behind what others have there, and injects into each
container, after it has reverted it. -/
theorem lists_mutate_injected {object : Json} {g : Governing} {state : InjectionState}
    (run : (mutate object g).outcome = .ok (some state)) :
    ∃ resource load, g.resource = some resource ∧ g.platforms ≠ [] ∧
      Load.make resource g.pod g.platforms g.cluster = .ok load ∧ state = load.state ∧
      listed ((mutate object g).object.path? ["spec", "template", "spec", "volumes"]) =
        unnamed Fragment.reservedVolumes (listed (object.path? ["spec", "template", "spec", "volumes"])) ++
          load.volumes ∧
      listed ((mutate object g).object.path? ["spec", "template", "spec", "initContainers"]) =
        unnamed Fragment.reservedInitContainers
          (listed (object.path? ["spec", "template", "spec", "initContainers"])) ++ load.initContainers ∧
      injectContainers load ((PodIdentity.containers object).map (revertContainer (isInjected object))) =
        .ok (PodIdentity.containers (mutate object g).object) := by
  obtain ⟨l, ok⟩ := layers_of_mutate run
  obtain ⟨_, _, _, _, listable⟩ := layers_eq_ok_iff.mp ok
  obtain ⟨resource, load, l', has, platforms, made, recorded, ok', _, podRun, _⟩ := layers_mutate_injected ok run
  obtain ⟨volumes, initContainers, each⟩ := listed_injectPod (listable_revertPod listable) podRun
  rw [get?_containers_revertPod, listed_map_onItems, ← containers_eq_listed ok', ← containers_eq_listed ok] at each
  refine ⟨resource, load, has, platforms, made, recorded, ?_, ?_, each⟩
  · rw [path?_pod ok', path?_pod ok, volumes, get?_volumes_revertPod, listed_shrink rfl]
  · rw [path?_pod ok', path?_pod ok, initContainers, get?_initContainers_revertPod, listed_shrink rfl]

theorem containers_mutate_injected {object : Json} {g : Governing} {state : InjectionState}
    (run : (mutate object g).outcome = .ok (some state)) :
    ∃ resource load, g.resource = some resource ∧ g.platforms ≠ [] ∧
      Load.make resource g.pod g.platforms g.cluster = .ok load ∧
      injectContainers load ((PodIdentity.containers object).map (revertContainer (isInjected object))) =
        .ok (PodIdentity.containers (mutate object g).object) := by
  obtain ⟨resource, load, has, platforms, made, _, _, _, each⟩ := lists_mutate_injected run
  exact ⟨resource, load, has, platforms, made, each⟩

/-- An object is taken for an injected one if and only if one of its containers has the marker, whatever the others
have. -/
theorem isInjected_iff {object : Json} : isInjected object = true ↔
    ∃ container ∈ PodIdentity.containers object,
      (listed (container.get? "env")).any (named Convention.marker) = true :=
  List.any_eq_true

/-- An object without markers is not taken for an injected one. -/
theorem isInjected_eq_false_iff {object : Json} : isInjected object = false ↔
    ∀ container ∈ PodIdentity.containers object,
      (listed (container.get? "env")).find? (named Convention.marker) = none := by
  rw [isInjected, List.any_eq_false]
  refine forall₂_congr fun container _ => ?_
  rw [Bool.not_eq_true, any_named_eq_isSome, Option.isSome_eq_false_iff, Option.isNone_iff_eq_none]
  rfl

theorem marked_injectContainer {load : Load} {container result : Json}
    (run : injectContainer load container = .ok result) :
    (listed (result.get? "env")).any (named Convention.marker) = true := by
  rw [listed_env_injectContainer run]
  exact marked_injectEnv load _

/-- A call that injects leaves an object that is taken for an injected one, if it has a container. -/
theorem isInjected_mutate {object : Json} {g : Governing} {state : InjectionState}
    (some : PodIdentity.containers object ≠ []) (run : (mutate object g).outcome = .ok (Option.some state)) :
    isInjected (mutate object g).object = true := by
  obtain ⟨_, load, _, _, _, each⟩ := containers_mutate_injected run
  obtain ⟨container, rest, split⟩ := List.exists_cons_of_ne_nil some
  rw [split, List.map_cons, injectContainers_eq_ok_iff, List.forall₂_cons_left_iff] at each
  obtain ⟨result, others, first, _, results⟩ := each
  exact isInjected_iff.mpr ⟨result, results ▸ List.mem_cons_self, marked_injectContainer first⟩

/-- A call does to an object that nothing has touched what it does to its template as it is. -/
theorem Clean.mutate_eq {object : Json} (clean : Clean object) {l : Layers} (ok : Injection.layers object = .ok l)
    (g : Governing) : mutate object g = l.resume g l.template := by
  have template := clean.template ok
  rw [mutate_of_layers ok, clean.not_injected, Layers.reverted,
    revertMetadata_eq_self template.canonical template.state, template.pod.revertPod_eq_self, template.canonical.sorted.insert_eq_self template.atPod]

/-- A call that injects nothing leaves an object alone that nothing has touched. -/
theorem Clean.mutate_idle {object : Json} (clean : Clean object) {g : Governing} (idle : g.Idle) :
    mutate object g = ⟨object, .ok none⟩ := by
  obtain ⟨l, ok⟩ := clean.layers
  rw [clean.mutate_eq ok, Layers.resume_idle idle, Layers.withTemplate_template ok clean.canonical]

/-- Once there was an injection, every call does what it would do to the object without its empty lists and maps. The
first call may inject any platforms, but none of them twice; the later one may be any call. -/
theorem Clean.mutate_mutate {object : Json} (clean : Clean object) {g : Governing} {state : InjectionState}
    (nodup : g.platforms.Nodup) (run : (mutate object g).outcome = .ok (some state)) (later : Governing) :
    mutate (mutate object g).object later = mutate (Injection.trimmed object) later := by
  obtain ⟨l, ok⟩ := clean.layers
  have injected := isInjected_mutate clean.containers run
  rw [clean.mutate_eq ok] at run injected ⊢
  obtain ⟨resource, load, result, _, platforms, made, done, eq⟩ := Layers.resume_eq_some run
  obtain ⟨pod, atPod, listable, reverted⟩ :=
    revert_injectTemplate (Load.reversible platforms nodup made) (clean.template ok) done
  -- Both objects put the same template in the same place: one by reverting, the other as it is.
  obtain ⟨l', ok', sameTemplate, samePod, place⟩ := layers_withTemplate (l := l) atPod listable
  obtain ⟨trimmedLayers, trimmedOk, trimmedTemplate, _, trimmedPlace⟩ := layers_trimmed ok
  rw [eq] at injected ⊢
  rw [mutate_of_layers ok', injected, Layers.reverted, sameTemplate, samePod, reverted, Layers.resume_congr place,
    clean.trimmed.mutate_eq trimmedOk, trimmedTemplate, Layers.resume_congr trimmedPlace]

theorem Clean.mutate_trimmed_eq {object : Json} (clean : Clean object) {l : Layers}
    (ok : Injection.layers object = .ok l) (g : Governing) :
    mutate (Injection.trimmed object) g = l.resume g (trimTemplate l.template) := by
  obtain ⟨l', ok', template, _, place⟩ := layers_trimmed ok
  rw [clean.trimmed.mutate_eq ok', template, Layers.resume_congr place]

/-- An injection does not tell an empty list from none, so it leaves the same of an object and of the trimmed one. -/
theorem Clean.mutate_trimmed {object : Json} (clean : Clean object) {g : Governing} {state : InjectionState}
    (run : (mutate (Injection.trimmed object) g).outcome = .ok (some state)) :
    mutate (Injection.trimmed object) g = mutate object g := by
  obtain ⟨l, ok⟩ := clean.layers
  rw [clean.mutate_trimmed_eq ok] at run ⊢
  obtain ⟨resource, load, result, has, platforms, made, injected, eq⟩ := Layers.resume_eq_some run
  rw [eq, clean.mutate_eq ok, Layers.resume_injected has platforms made
    ((injectTemplate_trimTemplate_iff (clean.template ok)).mp injected)]

/-- The same call again changes nothing, be it one that injects or not. -/
theorem Clean.mutate_again {object : Json} (clean : Clean object) {g : Governing} {state : Option InjectionState}
    (nodup : g.platforms.Nodup) (run : (mutate object g).outcome = .ok state) :
    mutate (mutate object g).object g = mutate object g := by
  obtain ⟨l, ok⟩ := clean.layers
  cases state with
  | none =>
    rw [clean.mutate_idle (idle_of_mutate run), clean.mutate_idle (idle_of_mutate run)]
  | some state =>
    rw [clean.mutate_mutate nodup run, clean.mutate_trimmed_eq ok]
    rw [clean.mutate_eq ok] at run ⊢
    obtain ⟨resource, load, result, has, platforms, made, injected, eq⟩ := Layers.resume_eq_some run
    rw [eq, Layers.resume_injected has platforms made
      ((injectTemplate_trimTemplate_iff (clean.template ok)).mpr injected)]

/-- A resource that has an agent injected for each of some platforms. -/
def governing (platforms : List Platform) : Governing where
  resource := some { metadata := { name := some "default" }, connectionString := "key" }
  platforms := platforms

example : (mutate plainWorkload (governing [.java])).outcome = .ok (some ⟨"default", "", [.java]⟩) := rfl

end Graft.Injection
