import Graft.Proofs.JsonText
import Graft.Proofs.Mutation

namespace Graft

open Json

namespace Platform

theorem read_draft (p : Platform) : read (draft p.toJson) = .ok p := by cases p <;> rfl

theorem list_read_draft (platforms : List Platform) :
    Reader.list read (draft (.arr (platforms.map toJson))) = .ok platforms := by
  have items : (draftItems (platforms.map toJson)).mapM read = .ok platforms := by
    induction platforms with
    | nil => rfl
    | cons p rest ih =>
      rw [List.map_cons, draftItems, List.mapM_cons, read_draft, ih]
      rfl
  rw [draft, Reader.list, items]
  rfl

end Platform

namespace InjectionState

theorem plain_toJson (s : InjectionState) : Plain Draft.depthLimit s.toJson := by
  have platforms : Plain 126 (.arr (s.platforms.map Platform.toJson)) :=
    .arr (List.forall_mem_map.mpr fun p _ => .str p.name)
  have members : ∀ m ∈ [("crName", Json.str s.resourceName), ("crResourceVersion", .str s.resourceVersion),
      ("platforms", .arr (s.platforms.map Platform.toJson))], Plain 126 m.2 := by
    simpa using ⟨.str _, .str _, platforms⟩
  exact .obj members

theorem read_draft (s : InjectionState) : read (draft s.toJson) = .ok s := by
  have platforms := Platform.list_read_draft s.platforms
  have tested : Reader.check (Reader.list Platform.read) (draft (.arr (s.platforms.map Platform.toJson))) = .ok () := by
    rw [Reader.check, platforms]
    rfl
  have record : Record.read [("crName", Reader.check Reader.string), ("crResourceVersion", Reader.check Reader.string),
      ("platforms", Reader.check (Reader.list Platform.read))] (draft s.toJson) =
      .ok ⟨[("crName", .str s.resourceName), ("crResourceVersion", .str s.resourceVersion),
        ("platforms", draft (.arr (s.platforms.map Platform.toJson)))], false⟩ := by
    -- The names pass by evaluation, and the test of the platforms is the last.
    change ((Reader.check (Reader.list Platform.read) (draft (.arr (s.platforms.map Platform.toJson))) >>= fun _ =>
      Except.ok _).map _) = _
    rw [tested]
    rfl
  rw [read, record]
  simp [Record.required, Keyed.get?, Reader.string, platforms, bind, Except.bind, pure, Except.pure]

/-- A state is read back from its text, whatever the name and the version of the resource. So what a call records is not
lost in the annotation. -/
theorem ofText?_text (s : InjectionState) : ofText? s.text = some s := by
  rw [ofText?, text, Reader.ofText_text read s.plain_toJson, read_draft]
  rfl

end InjectionState

namespace Injection

/-- The entries of some names are the added ones, in their order, and stand at the end. Nothing is said of the entries
before. -/
structure EndsWith (names : List String) (added entries : List Json) : Prop where
  only : entries.filter (fun entry => names.any fun name => named name entry) = added
  last : added <:+ entries

theorem endsWith_append {names : List String} {rest added : List Json} (free : Free names rest)
    (owned : ∀ entry ∈ added, (names.any fun name => named name entry) = true) :
    EndsWith names added (rest ++ added) where
  only := by
    have none : rest.filter (fun entry => names.any fun name => named name entry) = [] :=
      List.filter_eq_nil_iff.mpr fun entry member => by simpa using free entry member
    rw [List.filter_append, none, List.filter_eq_self.mpr owned, List.nil_append]
  last := List.suffix_append rest added

theorem endsWith_nil {names : List String} {rest : List Json} (free : Free names rest) : EndsWith names [] rest := by
  have ends : EndsWith names [] (rest ++ []) := endsWith_append free (by simp)
  rwa [List.append_nil] at ends

theorem free_unnamed (names : List String) (entries : List Json) : Free names (unnamed names entries) := by
  intro entry member
  simpa using (List.mem_filter.mp member).2

theorem free_marker_iff {env : List Json} :
    Free [Convention.marker] env ↔ env.find? (named Convention.marker) = none := by
  simp [Free, List.find?_eq_none]

/-- The platforms that a call injects. -/
def Governing.injected (g : Governing) : List Platform := if g.resource.isSome then g.platforms else []

/-- The state that a call records. -/
def Governing.record (g : Governing) : Option InjectionState := do
  let resource ← g.resource
  if g.platforms = [] then none
  else some { resourceName := resource.name, resourceVersion := resource.resourceVersion, platforms := g.platforms }

theorem Governing.injected_eq_nil_iff {g : Governing} : g.injected = [] ↔ g.Idle := by
  unfold injected Idle
  cases g.resource <;> simp

/-- The traces in an object are those of one call, which returned a state, and there are no others. -/
structure Faithful (g : Governing) (state : Option InjectionState) (after : Json) : Prop where
  volumes : ∃ made, Fragment.volumes g.injected = .ok made ∧
    EndsWith Fragment.reservedVolumes (made.map Volume.toJson)
      (listed (after.path? ["spec", "template", "spec", "volumes"]))
  initContainers : ∃ made,
    Fragment.initContainers g.injected (g.resource.bind Instrumentation.imageRepositoryPath) = .ok made ∧
    EndsWith Fragment.reservedInitContainers (made.map InitContainer.toJson)
      (listed (after.path? ["spec", "template", "spec", "initContainers"]))
  mounts : ∃ made, Fragment.mounts g.injected = .ok made ∧ ∀ container ∈ PodIdentity.containers after,
    EndsWith Fragment.reservedVolumes (made.map Mount.toJson) (listed (container.get? "volumeMounts"))
  marker : ∀ container ∈ PodIdentity.containers after,
    EndsWith [Convention.marker] (if g.injected = [] then [] else [markerEntry]) (listed (container.get? "env"))
  cleanup : needsCleanup after = true ↔ g.injected ≠ []
  recorded : InjectionState.ofObject? after = state
  record : state = g.record

theorem annotation?_eq {object : Json} {l : Layers} (ok : layers object = .ok l) :
    InjectionState.annotation? object = Keyed.get? Convention.stateAnnotation
      (mapped (Keyed.get? "annotations" (mapped (Keyed.get? "metadata" l.template)))) :=
  path?_inAnnotations ok _

/-- A call that injects nothing leaves no state, whichever state the object recorded before. -/
theorem annotation?_mutate_idle {object : Json} {l : Layers} (ok : layers object = .ok l) {g : Governing}
    (idle : g.Idle) : InjectionState.annotation? (mutate object g).object = none := by
  obtain ⟨l', ok', template, _⟩ := layers_mutate_idle ok idle
  rw [annotation?_eq ok', template, annotations_reverted, get?_revertAnnotations, if_pos rfl]

/-- A call that injects leaves the text of the state that it returns, also where another state was recorded before. -/
theorem annotation?_mutate_injected {object : Json} {g : Governing} {state : InjectionState}
    (run : (mutate object g).outcome = .ok (some state)) :
    InjectionState.annotation? (mutate object g).object = some (.str state.text) := by
  obtain ⟨l, ok⟩ := layers_of_mutate run
  obtain ⟨_, _, l', _, _, _, rfl, ok', injected, _⟩ := layers_mutate_injected ok run
  rw [annotation?_eq ok', annotations_injectTemplate (l.get?_spec_reverted _) injected, get?_injectAnnotations,
    if_pos rfl]

theorem faithful_of_idle {object : Json} {g : Governing} {l : Layers} (ok : layers object = .ok l)
    (idle : g.Idle) : Faithful g none (mutate object g).object := by
  obtain ⟨l', ok', _, pod, _⟩ := layers_mutate_idle ok idle
  have none : g.injected = [] := Governing.injected_eq_nil_iff.mpr idle
  have noState := annotation?_mutate_idle ok idle
  have unmarked : ∀ container ∈ PodIdentity.containers (mutate object g).object,
      (listed (container.get? "env")).find? (named Convention.marker) = Option.none := by
    rw [containers_mutate_idle ok idle]
    refine List.forall_mem_map.mpr fun container _ => ?_
    rw [get?_env_revertContainer, listed_shrink revertEnv_nil]
    exact find?_marker_revertEnv _ _
  refine ⟨⟨[], by rw [none]; rfl, ?_⟩, ⟨[], by rw [none]; rfl, ?_⟩, ⟨[], by rw [none]; rfl, ?_⟩, ?_, ?_, ?_, ?_⟩
  · rw [path?_pod ok', pod, get?_volumes_revertPod, listed_shrink rfl]
    exact endsWith_nil (free_unnamed _ _)
  · rw [path?_pod ok', pod, get?_initContainers_revertPod, listed_shrink rfl]
    exact endsWith_nil (free_unnamed _ _)
  · rw [containers_mutate_idle ok idle]
    refine List.forall_mem_map.mpr fun container _ => ?_
    rw [get?_volumeMounts_revertContainer, listed_shrink rfl]
    exact endsWith_nil (free_unnamed _ _)
  · intro container member
    rw [if_pos none]
    exact endsWith_nil (free_marker_iff.mpr (unmarked container member))
  · simp [needsCleanup, noState, isInjected_eq_false_iff.mpr unmarked, none]
  · rw [InjectionState.ofObject?, noState]
    rfl
  · rcases idle with absent | empty
    · simp [Governing.record, absent]
    · cases has : g.resource <;> simp [Governing.record, has, empty]

theorem faithful_of_injected {object : Json} {g : Governing} {state : InjectionState}
    (run : (mutate object g).outcome = .ok (some state)) : Faithful g (some state) (mutate object g).object := by
  have noted := annotation?_mutate_injected run
  obtain ⟨resource, load, has, some, made, rfl, podVolumes, podInitContainers, each⟩ := lists_mutate_injected run
  have platforms : g.injected = g.platforms := by simp [Governing.injected, has]
  obtain ⟨initContainersOwned, volumesOwned, mountsOwned⟩ := Load.owned some made
  obtain ⟨initContainers, volumes, mounts, initContainersMade, volumesMade, mountsMade, envMade, initContainersEq,
    volumesEq, mountsEq, state, _⟩ := Load.make_eq_ok made
  refine ⟨⟨volumes, platforms ▸ volumesMade, ?_⟩, ⟨initContainers, ?_, ?_⟩, ⟨mounts, platforms ▸ mountsMade, ?_⟩,
    ?_, ?_, ?_, ?_⟩
  · rw [podVolumes, ← volumesEq]
    exact endsWith_append (free_unnamed _ _) volumesOwned.named
  · rw [platforms, has]
    exact initContainersMade
  · rw [podInitContainers, ← initContainersEq]
    exact endsWith_append (free_unnamed _ _) initContainersOwned.named
  · intro result member
    obtain ⟨container, there, one⟩ := exists_injectContainer each result member
    obtain ⟨before, _, rfl⟩ := List.mem_map.mp there
    rw [listed_volumeMounts_injectContainer one, get?_volumeMounts_revertContainer, listed_shrink rfl, ← mountsEq]
    exact endsWith_append (free_unnamed _ _) mountsOwned.named
  · intro result member
    obtain ⟨container, there, one⟩ := exists_injectContainer each result member
    obtain ⟨before, _, rfl⟩ := List.mem_map.mp there
    rw [platforms, if_neg some, listed_env_injectContainer one, get?_env_revertContainer, listed_shrink revertEnv_nil,
      injectEnv_eq (Fragment.env_names_reserved envMade) (find?_marker_revertEnv _ _)]
    refine endsWith_append (free_marker_iff.mpr ?_) (by simp [named_markerEntry])
    -- What is set or kept has a reserved name or is a backup, and neither is the marker.
    rw [(Load.ignores_marker (Fragment.env_names_reserved envMade)).find?_eq, find?_marker_revertEnv]
  · simp [needsCleanup, noted, platforms, some]
  · simp [InjectionState.ofObject?, noted, str?, InjectionState.ofText?_text]
  · simp [Governing.record, has, some, state]

/-- A successful call leaves its own traces and no others, also in an object that was edited by hand before: the entries
with reserved names are those of the platforms that it injected, each container has one marker if there are any, and the
state that the object records is the one that the call returned. -/
theorem mutate_faithful {object : Json} {g : Governing} {state : Option InjectionState}
    (run : (mutate object g).outcome = .ok state) : Faithful g state (mutate object g).object := by
  cases state with
  | some state => exact faithful_of_injected run
  | none =>
    obtain ⟨l, ok⟩ := layers_of_mutate run
    exact faithful_of_idle ok (idle_of_mutate run)

/-- A workload that someone has put together from others: it has a volume of an agent that is not there, a container
with two markers beside one without, and a state that is no state. -/
def patchedUpWorkload : Json := .obj [("spec", .obj [("template", .obj [
  ("metadata", .obj [("annotations", .obj [(Convention.stateAnnotation, .str "?")])]),
  ("spec", .obj [
    ("containers", .arr [
      .obj [("env", .arr [markerEntry, .obj [("name", .str "HOME")], markerEntry]), ("name", .str "main")],
      .obj [("name", .str "proxy")]]),
    ("volumes", .arr [(Volume.mk Agent.nodeJs.volume).toJson, .obj [("name", .str "data")]])])])])]

theorem patched_up_faithful :
    (mutate patchedUpWorkload (governing [.java])).outcome = .ok (some ⟨"default", "", [.java]⟩) ∧
    Faithful (governing [.java]) (some ⟨"default", "", [.java]⟩)
      (mutate patchedUpWorkload (governing [.java])).object :=
  ⟨rfl, mutate_faithful rfl⟩

end Injection

end Graft
