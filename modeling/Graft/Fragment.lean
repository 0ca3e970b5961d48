import Graft.Agent
import Graft.ClusterIdentity
import Graft.Json.Printer
import Graft.PodIdentity

namespace Graft

/-- A volume that lives as long as its pod. -/
structure Volume where
  name : String
deriving DecidableEq, Repr

structure Mount where
  name : String
  path : String
deriving DecidableEq, Repr

/-- The container that copies one agent into its volume before the workload starts. -/
structure InitContainer where
  name : String
  image : String
  agent : Agent
deriving DecidableEq, Repr

/-- What a variable is set to: a text, or a field of the pod. -/
inductive EnvSource where
  | value (text : String)
  | field (path : String)
deriving DecidableEq, Repr

structure EnvVar where
  name : String
  source : EnvSource
deriving DecidableEq, Repr

def Volume.toJson (v : Volume) : Json := .obj [("emptyDir", .obj []), ("name", .str v.name)]

def Mount.toJson (m : Mount) : Json := .obj [("mountPath", .str m.path), ("name", .str m.name)]

def EnvVar.toJson (e : EnvVar) : Json :=
  match e.source with
  | .value text => .obj [("name", .str e.name), ("value", .str text)]
  | .field path => .obj [("name", .str e.name),
      ("valueFrom", .obj [("fieldRef", .obj [("fieldPath", .str path)])])]

/-- The container runs `cp -a` from the image into the volume, within fixed resources. -/
def InitContainer.toJson (c : InitContainer) : Json :=
  let quantities (cpu memory : String) : Json := .obj [("cpu", .str cpu), ("memory", .str memory)]
  .obj [
    ("args", .strings ["-a", c.agent.sourcePath, c.agent.mountPath]),
    ("command", .strings ["cp"]),
    ("image", .str c.image),
    ("name", .str c.name),
    ("resources", .obj [("limits", quantities "2" "1Gi"), ("requests", quantities "100m" "128Mi")]),
    ("volumeMounts", .arr [(Mount.mk c.agent.volume c.agent.mountPath).toJson])]

namespace Fragment

def agentFor (purpose : Purpose) (p : Platform) : Except Error Agent :=
  match p.agent? with
  | some agent => .ok agent
  | none => .error (.unsupportedPlatform purpose p.name)

/-- The given path without slashes at its end, unless nothing remains of it. -/
def repositoryPath (imagePath : Option String) : String :=
  let trimmed := (imagePath.getD "").toList.reverse.dropWhile (· == '/') |>.reverse
  if trimmed = [] then Agent.defaultRepositoryPath else String.ofList trimmed

/-- The containers that deliver the agents of the platforms. Their names, like those of volumes and mounts, are stable
and belong to one platform. -/
def initContainers (platforms : List Platform) (imagePath : Option String) : Except Error (List InitContainer) :=
  platforms.mapM fun p => do
    let agent ← agentFor .initContainers p
    let image := repositoryPath imagePath ++ "/" ++ agent.repository ++ ":" ++ agent.tag
    return { name := agent.initContainer, image, agent }

/-- One volume for each agent, and the shared one for their logs if there is any agent. -/
def volumes (platforms : List Platform) : Except Error (List Volume) := do
  let own ← platforms.mapM fun p => do return Volume.mk (← agentFor .volumes p).volume
  return own ++ if own.isEmpty then [] else [⟨Agent.logsVolume⟩]

def mounts (platforms : List Platform) : Except Error (List Mount) := do
  let own ← platforms.mapM fun p => do
    let agent ← agentFor .volumeMounts p
    return Mount.mk agent.volume agent.mountPath
  return own ++ if own.isEmpty then [] else [⟨Agent.logsVolume, Agent.logsMountPath⟩]

def connectionStringName : String := "APPLICATIONINSIGHTS_CONNECTION_STRING"

def resourceAttributesName : String := "OTEL_RESOURCE_ATTRIBUTES"

/-- The attributes that describe the pod, without those whose source is not known. -/
def resourceAttributes (pod : PodIdentity) (cluster : ClusterIdentity) : String :=
  let known (key : String) (value : Option String) : Option String := value.map fun v => key ++ "=" ++ v
  let owned (key : String) (value : Option String) : Option String := do
    return "k8s." ++ (← pod.ownerKind) ++ "." ++ key ++ "=" ++ (← value)
  String.intercalate "," (([
    known "cloud.resource_id" (PodIdentity.nonEmpty? cluster.armId),
    known "cloud.region" (PodIdentity.nonEmpty? cluster.armRegion),
    known "k8s.cluster.name" (PodIdentity.nonEmpty? cluster.clusterName),
    some "k8s.namespace.name=$(POD_NAMESPACE)",
    some "k8s.node.name=$(NODE_NAME)",
    some "k8s.pod.name=$(POD_NAME)",
    some "k8s.pod.uid=$(POD_UID)",
    known "k8s.container.name" pod.onlyContainerName,
    some "cloud.provider=Azure",
    some "cloud.platform=azure_aks",
    owned "name" pod.ownerName,
    owned "uid" pod.ownerUid] : List (Option String)).filterMap id)

/-- The variables that describe a pod to every agent. Fields of the pod come first, for a value can refer
only to variables that stand before it. -/
def commonEnv (pod : PodIdentity) (connectionString : String) (cluster : ClusterIdentity) : List EnvVar := [
  ⟨"NODE_NAME", .field "spec.nodeName"⟩,
  ⟨"POD_NAMESPACE", .field "metadata.namespace"⟩,
  ⟨"POD_NAME", .field "metadata.name"⟩,
  ⟨"POD_UID", .field "metadata.uid"⟩,
  ⟨resourceAttributesName, .value (resourceAttributes pod cluster)⟩,
  ⟨"AKS_ARM_NAMESPACE_ID", .value (cluster.armId ++ "/$(POD_NAMESPACE)")⟩,
  ⟨connectionStringName, .value connectionString⟩]

/-- The settings that turn off every log source of the Node.js agent. -/
def quietNodeJs : Json :=
  let off : Json := .obj [("enabled", .bool false)]
  .obj [("instrumentationOptions", .obj [("bunyan", off), ("console", off), ("winston", off)])]

/-- The variables that load an agent. -/
def loaderEnv : Platform → List EnvVar
  | .dotNet =>
    let home := Agent.dotNet.mountPath
    [⟨"OTEL_DOTNET_AUTO_LOG_DIRECTORY", .value Agent.logsMountPath⟩,
      ⟨"DOTNET_STARTUP_HOOKS", .value (home ++ "/net/OpenTelemetry.AutoInstrumentation.StartupHook.dll")⟩,
      ⟨"ASPNETCORE_HOSTINGSTARTUPASSEMBLIES",
        .value "OpenTelemetry.AutoInstrumentation.AspNetCoreBootstrapper"⟩,
      ⟨"DOTNET_ADDITIONAL_DEPS", .value (home ++ "/AdditionalDeps")⟩,
      ⟨"DOTNET_SHARED_STORE", .value (home ++ "/store")⟩,
      ⟨"OTEL_DOTNET_AUTO_HOME", .value (home ++ "/")⟩,
      ⟨"OTEL_DOTNET_AUTO_PLUGINS", .value
        "Azure.Monitor.OpenTelemetry.AutoInstrumentation.AzureMonitorPlugin, Azure.Monitor.OpenTelemetry.AutoInstrumentation, Version=1.0.0.0, Culture=neutral, PublicKeyToken=null"⟩]
  | .java => [⟨"JAVA_TOOL_OPTIONS",
      .value ("-javaagent:" ++ Agent.java.mountPath ++ "/applicationinsights-agent-codeless.jar")⟩]
  | .nodeJs => [⟨"NODE_OPTIONS", .value ("--require " ++ Agent.nodeJs.mountPath ++ "/aks.js")⟩]
  | .openTelemetry => []

/-- The variable that stops an agent from collecting application logs. -/
def logsOffEnv : Platform → List EnvVar
  | .dotNet => [⟨"OTEL_DOTNET_AUTO_LOGS_ENABLED", .value "false"⟩]
  | .java => [⟨"APPLICATIONINSIGHTS_INSTRUMENTATION_LOGGING_ENABLED", .value "false"⟩]
  | .nodeJs => [⟨"APPLICATIONINSIGHTS_CONFIGURATION_CONTENT", .value quietNodeJs.text⟩]
  | .openTelemetry => []

/-- The variables of one agent. It collects logs unless a switch turns that off. -/
def platformEnv (appLogs : Bool) (p : Platform) : Except Error (List EnvVar) := do
  let _ ← agentFor .env p
  return loaderEnv p ++ if appLogs then [] else logsOffEnv p

/-- The variables for the platforms. Their names are given by the agents, so a workload may use them for itself. -/
def env (pod : PodIdentity) (platforms : List Platform) (appLogs : Bool) (connectionString : String)
    (cluster : ClusterIdentity) : Except Error (List EnvVar) := do
  let own ← platforms.mapM (platformEnv appLogs)
  return commonEnv pod connectionString cluster ++ own.flatten

/-- Every name that a variable for the platforms may have, whatever the settings. -/
def envNames (platforms : List Platform) : Except Error (List String) := do
  return (← env {} platforms false "" {}).map EnvVar.name

/-- The names of all init containers that an injection may have added. -/
def reservedInitContainers : List String :=
  Platform.supported.filterMap fun p => p.agent?.map Agent.initContainer

/-- The names of all volumes, and of all mounts, that an injection may have added. -/
def reservedVolumes : List String :=
  (Platform.supported.filterMap fun p => p.agent?.map Agent.volume) ++ [Agent.logsVolume]

/-- The names of all variables that an injection may have set, in the order in which it sets them. -/
def reservedEnv : List String :=
  (commonEnv {} "" {} ++ Platform.supported.flatMap fun p => loaderEnv p ++ logsOffEnv p).map EnvVar.name

end Fragment

end Graft
