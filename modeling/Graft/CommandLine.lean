import Graft.ClusterIdentity
import Graft.CommandLine.Options
import Graft.CustomResource

namespace Graft.CommandLine

def program : String := "appmon-webhook"

def version : String := "0.1.0"

/-- The port of the webhook server. -/
def defaultPort : Nat := 1337

/-- The time between two heartbeats in seconds. -/
def defaultHeartbeatSeconds : Nat := 300

/-- What is logged unless the environment says otherwise. -/
def logFilter : String := "info,appmon=debug,kube=info,tower=warn,hyper=warn"

def heartbeat : Setting where
  name := "heartbeat-interval-secs"
  source := "HEARTBEAT_INTERVAL_SECS"
  kind := .count
  fallback := some (toString defaultHeartbeatSeconds)

/-- The identity of the cluster. -/
def clusterSettings : List Setting := [
  { name := "arm-id", source := "CLUSTER_RESOURCE_ID" }, { name := "arm-region", source := "CLUSTER_REGION" }]

def serverSettings : List Setting := clusterSettings ++ [
  { name := "port", source := "PORT", kind := .port, fallback := some (toString defaultPort) },
  { name := "tls-cert", source := "TLS_CERT_PATH", kind := .path, fallback := some "/mnt/webhook/tls.cert" },
  { name := "tls-key", source := "TLS_KEY_PATH", kind := .path, fallback := some "/mnt/webhook/tls.key" }]

/-- The variables of the environment that count. -/
def environment : List String := (heartbeat :: serverSettings).map Setting.source

/-- The jobs by their commands. -/
inductive Task where
  | serve
  | certs
  | cleanup
deriving DecidableEq, Repr

def Task.settings : Task → List Setting
  | serve => serverSettings
  | certs => []
  | cleanup => clusterSettings

def Task.ofName? : String → Option Task
  | "serve" => some .serve
  | "certs" => some .certs
  | "cleanup" => some .cleanup
  | _ => none

def grammar : Grammar where
  switches := ["crd"]
  settings := [heartbeat]
  commands := ["serve", "certs", "cleanup", "help"]
  hasVersion := true

/-- A job with all that it needs to know. -/
inductive Job where
  | serve (cluster : ClusterIdentity) (port : Nat) (tlsCert tlsKey : String)
  | certs
  | cleanup (cluster : ClusterIdentity)
deriving DecidableEq, Repr

/-- Why a job cannot begin. -/
inductive Failure where
  | badCluster (e : Error)
  | unconfigured (complaint : Complaint)
  /-- There is no way to the API server. -/
  | noClient
deriving DecidableEq, Repr

def Failure.message : Failure → String
  | badCluster e => "Invalid cluster identity: " ++ e.message
  | unconfigured complaint => "Missing serve configuration: error: " ++ complaint.message
  | noClient => "Failed to create Kubernetes client:"

/-- What a command line comes to. -/
inductive Outcome where
  | text (stdout : String)
  /-- A document that is printed as YAML. -/
  | document (content : Json)
  | job (heartbeatSeconds : Nat) (job : Job)
  | failed (failure : Failure)
  | misused

def versionText : String := program ++ " " ++ version ++ "\n"

/-- The help on the program. It shows what the environment says about the heartbeat. -/
def helpText (env : String → Option String) : String :=
  "Mutating admission webhook that injects application monitoring auto-instrumentation into Kubernetes workloads\n\n"
    ++ "Usage: " ++ program ++ " [OPTIONS] [COMMAND]\n\n"
    ++ "Commands:\n"
    ++ "  serve    Serve the admission webhook (default mode)\n"
    ++ "  certs    Create or rotate the webhook serving certificate\n"
    ++ "  cleanup  Revert auto-instrumentation on every Deployment in the cluster\n"
    ++ "  help     Print this message or the help of the given subcommand(s)\n\n"
    ++ "Options:\n"
    ++ "      --crd\n          Generate the Instrumentation CRD manifest and exit\n"
    ++ "      " ++ heartbeat.usage ++ "\n          Heartbeat flush interval in seconds [env: " ++ heartbeat.source ++ "="
    ++ (env heartbeat.source).getD "" ++ "] [default: " ++ toString defaultHeartbeatSeconds ++ "]\n"
    ++ "  -h, --help\n          Print help\n"
    ++ "  -V, --version\n          Print version\n"

def Halt.outcome (env : String → Option String) : Halt → Outcome
  | help => .text (helpText env)
  | version => .text versionText
  | misused => .misused

/-- A job from the values of its options. -/
def Task.job (values : List (String × String)) (task : Task) : Except Failure Job :=
  let value (name : String) : String := ((values.find? (·.1 == name)).map Prod.snd).getD ""
  let cluster := (ClusterIdentity.parse (value "arm-id") (value "arm-region")).mapError Failure.badCluster
  let port := (portNumber (value "port")).toOption.getD defaultPort
  match task with
  | .serve => cluster.map fun c => .serve c port (value "tls-cert") (value "tls-key")
  | .certs => .ok .certs
  | .cleanup => cluster.map .cleanup

/-- The command that arguments name, with the values of its options. Help on a command is help. -/
def command (env : String → Option String) (name : String) (args : List String) :
    Except Halt (Task × List (String × String)) :=
  match Task.ofName? name, args with
  | some task, args => do
    let (given, _) ← ({ settings := task.settings } : Grammar).scan {} args
    match resolve env given task.settings with
    | .ok values => return (task, values)
    | .error _ => throw .misused
  | none, [] => .error .help
  | none, [other] => .error (if other ∈ grammar.commands then .help else .misused)
  | none, _ => .error .misused

/-- What the arguments ask for, up to the point where a job begins its work in a cluster. Without a command the program
serves, and takes everything from the environment. -/
def run (args : List String) (env : String → Option String) : Outcome :=
  let parsed : Except Halt (Given × Option (Task × List (String × String)) × List (String × String)) := do
    let (given, named) ← grammar.scan {} args
    let chosen ← match named with
      | some (name, args) => (command env name args).map some
      | none => pure none
    match resolve env given grammar.settings with
    | .ok values => return (given, chosen, values)
    | .error _ => throw .misused
  match parsed with
  | .error halt => halt.outcome env
  | .ok (given, chosen, values) =>
    if "crd" ∈ given.switches then .document CustomResource.definition
    else
      let seconds := (natural ((values.map Prod.snd).headD "")).toOption.getD defaultHeartbeatSeconds
      let job : Except Failure Job := do
        let (task, values) ← match chosen with
          | some chosen => pure chosen
          | none => ((resolve env {} serverSettings).map fun values => (Task.serve, values)).mapError .unconfigured
        task.job values
      match job with
      | .ok job => .job seconds job
      | .error failure => .failed failure

/-- What remains of an outcome where there is no way to the API server. -/
def Outcome.offline : Outcome → Outcome
  | job _ _ => .failed .noClient
  | outcome => outcome

end Graft.CommandLine
