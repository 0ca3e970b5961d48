import Graft.Fragment
import Graft.Injection.Env
import Graft.Injection.State
import Graft.Instrumentation

namespace Graft.Injection

/-- What an operation that may stop half-way leaves behind with the error. Where an injection meets a value that it
cannot extend, it stops, and what it had changed up to there stays changed. -/
structure Stopped (σ : Type) where
  error : Error
  reached : σ

/-- The result of an operation that may stop half-way. -/
abbrev Step (σ : Type) := Except (Stopped σ) σ

/-- Goes on with a larger value around the one that an operation worked on. -/
def Step.within {σ τ : Type} (wrap : σ → τ) : Step σ → Step τ
  | .ok s => .ok (wrap s)
  | .error stop => .error ⟨stop.error, wrap stop.reached⟩

/-- Goes on with the next operation. -/
def Step.andThen {σ : Type} (step : Step σ) (next : σ → Step σ) : Step σ :=
  match step with
  | .ok s => next s
  | .error stop => .error stop

def stop {σ : Type} (cause : Malformation) (reached : σ) : Step σ := .error ⟨.malformedObject cause, reached⟩

/-- Takes the named entries out of a member list, and the list itself if that empties it. -/
def dropNamed (key : String) (names : List String) (members : Members) : Members :=
  match members.get? key with
  | some (.arr items) =>
    let kept := items.filter fun item => !(names.any fun n => named n item)
    if kept.isEmpty && !items.isEmpty then members.erase key else members.insert key (.arr kept)
  | _ => members

/-- Extends a member list, which may be absent. -/
def extend (key : String) (added : List Json) (members : Members) : Step Members :=
  match members.get? key with
  | none => .ok (members.insert key (.arr added))
  | some (.arr items) => .ok (members.insert key (.arr (items ++ added)))
  | some _ => stop (.notList key) members

/-- The annotations without what an injection put there. The log annotation counts as injected only where a
container says that there was an injection. -/
def revertAnnotations (injected : Bool) (annotations : Members) : Members :=
  let annotations := annotations.erase Convention.stateAnnotation
  if injected then
    match annotations.get? Convention.logsShadow with
    | some own => ((annotations.erase Convention.logsAnnotation).erase Convention.logsShadow).insert
        Convention.logsAnnotation own
    | none => annotations.erase Convention.logsAnnotation
  else annotations

/-- Reverts the annotations of a template. Annotations emptied by that go, and then empty metadata. -/
def revertMetadata (injected : Bool) (template : Members) : Members :=
  match template.get? "metadata" with
  | some (.obj metadata) =>
    match Keyed.get? "annotations" metadata with
    | some (.obj annotations) =>
      let reverted := revertAnnotations injected annotations
      if reverted.isEmpty && !annotations.isEmpty then
        let metadata := Keyed.erase "annotations" metadata
        if metadata.isEmpty then template.erase "metadata" else template.insert "metadata" (.obj metadata)
      else template.insert "metadata" (.obj (Keyed.insert "annotations" (.obj reverted) metadata))
    | _ => template
  | _ => template

/-- The variables without what an injection put there. -/
def revertEnv (injected : Bool) (env : List Json) : List Json :=
  (Fragment.reservedEnv.foldl (Env.restore injected) env).filter fun entry => !named Convention.marker entry

def revertContainer (injected : Bool) : Json → Json
  | .obj container =>
    let container := match Keyed.get? "env" container with
      | some (.arr env) =>
        let kept := revertEnv injected env
        if kept.isEmpty && !env.isEmpty then Keyed.erase "env" container
        else Keyed.insert "env" (.arr kept) container
      | _ => container
    .obj (dropNamed "volumeMounts" Fragment.reservedVolumes container)
  | other => other

/-- Reverts the specification of a template's pods. -/
def revertPod (injected : Bool) (pod : Members) : Members :=
  let pod := dropNamed "initContainers" Fragment.reservedInitContainers pod
  let pod := dropNamed "volumes" Fragment.reservedVolumes pod
  match pod.get? "containers" with
  | some (.arr containers) => pod.insert "containers" (.arr (containers.map (revertContainer injected)))
  | _ => pod

/-- Everything that an injection is about to add. -/
structure Load where
  state : InjectionState
  logsExcluded : Option Bool
  initContainers : List Json
  volumes : List Json
  mounts : List Json
  env : List EnvVar
deriving DecidableEq

/-- What a resource has injected into a pod. -/
def Load.make (resource : Instrumentation) (pod : PodIdentity) (platforms : List Platform)
    (cluster : ClusterIdentity) : Except Error Load := do
  let initContainers ← Fragment.initContainers platforms resource.imageRepositoryPath
  let volumes ← Fragment.volumes platforms
  let mounts ← Fragment.mounts platforms
  let env ← Fragment.env pod platforms resource.appLogsEnabled resource.connectionString cluster
  return {
    state := { resourceName := resource.name, resourceVersion := resource.resourceVersion, platforms }
    logsExcluded := resource.containerLogsDisabled
    initContainers := initContainers.map InitContainer.toJson
    volumes := volumes.map Volume.toJson
    mounts := mounts.map Mount.toJson
    env }

/-- The reserved names that an injection does not set. A variable of such a name needs a backup all the
same, or a reversal would take it for an injected one. -/
def Load.untouched (load : Load) : List String :=
  Fragment.reservedEnv.filter fun name => !(load.env.any fun e => e.name == name)

def injectAnnotations (load : Load) (annotations : Members) : Members :=
  let annotations : Members := match annotations.get? Convention.logsAnnotation with
    | some own => if annotations.contains Convention.logsShadow then annotations
        else annotations.insert Convention.logsShadow own
    | none => annotations
  let annotations : Members := match load.logsExcluded with
    | some excluded => annotations.insert Convention.logsAnnotation (.str (if excluded then "true" else "false"))
    | none => annotations
  annotations.insert Convention.stateAnnotation (.str load.state.text)

/-- Makes the metadata and the annotations of a template if they are absent. -/
def injectMetadata (load : Load) (template : Members) : Step Members :=
  match (template.get? "metadata").getD (.obj []) with
  | .obj metadata =>
    match (Keyed.get? "annotations" metadata).getD (.obj []) with
    | .obj annotations => .ok (template.insert "metadata"
        (.obj (Keyed.insert "annotations" (.obj (injectAnnotations load annotations)) metadata)))
    | _ => stop (.notObject "annotations") template
  | _ => stop (.notObject "metadata") template

/-- The entry that marks a container as injected. -/
def markerEntry : Json := (EnvVar.mk Convention.marker (.value "")).toJson

def injectEnv (load : Load) (env : List Json) : List Json :=
  let env := load.env.foldl (fun env var => Env.set env var.name var.toJson) env
  let env := load.untouched.foldl Env.preserve env
  if env.any (named Convention.marker) then env else env ++ [markerEntry]

def injectContainer (load : Load) : Json → Step Json
  | .obj container =>
    match (Keyed.get? "env" container).getD (.arr []) with
    | .arr env =>
      Step.within .obj (extend "volumeMounts" load.mounts
        (Keyed.insert "env" (.arr (injectEnv load env)) container))
    | _ => stop (.notList "env") (.obj container)
  | other => stop .containerNotObject other

def injectContainers (load : Load) : List Json → Step (List Json)
  | [] => .ok []
  | container :: rest =>
    match injectContainer load container with
    | .error stopped => .error ⟨stopped.error, stopped.reached :: rest⟩
    | .ok container => Step.within (container :: ·) (injectContainers load rest)

/-- Injects into the specification of a template's pods. -/
def injectPod (load : Load) (pod : Members) : Step Members :=
  ((extend "volumes" load.volumes pod).andThen (extend "initContainers" load.initContainers)).andThen fun pod =>
    match pod.get? "containers" with
    | some (.arr containers) =>
      Step.within (fun containers => pod.insert "containers" (.arr containers)) (injectContainers load containers)
    | _ => .ok pod

end Graft.Injection
