import Graft.Api.Deployments
import Graft.Certificate.Reconcile
import Graft.DeploymentShape
import Graft.Time.Instant
import Graft.WebhookConfiguration

namespace Graft.Api.Certificates

open Certificate (Material Secret)

def secrets : Collection := { group := "", version := "v1", plural := "secrets", ns := some Secret.ns }

def configurations : Collection :=
  { group := "admissionregistration.k8s.io", version := "v1", plural := "mutatingwebhookconfigurations" }

/-- Who manages the fields of the Secret. -/
def fieldManager : String := "appmon-certs"

/-- The Deployment that runs the server. -/
def deploymentName : String := "app-monitoring-webhook"

/-- The template annotation whose change restarts the pods. -/
def restartMark : String := "kubectl.kubernetes.io/restartedAt"

/-- Notes a call before it is made and its failure after it. However often the call is repeated, it is noted once. -/
def counted {α : Type} (call : Exchange (Except Error α)) : Exchange (Except Error α) :=
  .note (.count .apiCalls) ((Backoff.apiCalls.retry call).bind fun
    | .ok value => .done (.ok value)
    | .error e => (Exchange.noteFailure e).bind fun _ => .done (.error e))

/-- Reads an object that may be missing. -/
def readObject {α : Type} (request : Option Request) (read : Json.Reader α) : Exchange (Except Error (Option α)) :=
  counted ((Exchange.fetchNamed request read).bind fun fetched => .done (Exchange.orAbsent fetched))

def readMaterial : Exchange (Except Error (Option Material)) :=
  (readObject (secrets.object Secret.name) Secret.read).bind fun outcome =>
    .done (outcome.map fun secret => secret.map Material.ofSecret)

/-- Takes over the fields of the Secret, whoever managed them before. -/
def writeMaterial (m : Material) : Exchange (Except Error Unit) :=
  let params := [("fieldManager", fieldManager), ("force", "true")]
  (counted (Exchange.fetchNamed (secrets.object Secret.name params (some (.apply m.toSecret.toJson)))
    Secret.read)).bind fun outcome => .done (outcome.map fun _ => ())

def readConfiguration : Exchange (Except Error (Option WebhookConfiguration)) :=
  readObject (configurations.object WebhookConfiguration.name) WebhookConfiguration.read

def readBundle : Exchange (Except Error (Option String)) :=
  readConfiguration.bind fun outcome =>
    .done (outcome.map fun configuration => configuration.bind WebhookConfiguration.firstBundle)

/-- Makes every webhook of the configuration trust one certificate. -/
def writeBundle (caCert : String) : Exchange (Except Graft.Error Unit) :=
  readConfiguration.bind fun
    | .error e => .done (.error (.kube e))
    | .ok none => .done (.error (.noWebhookConfiguration WebhookConfiguration.name))
    | .ok (some configuration) =>
      let change := Json.mkObj [("webhooks", .arr ((configuration.trusting caCert).map WebhookEntry.toJson))]
      (counted (Exchange.fetchNamed (configurations.object WebhookConfiguration.name [] (some (.merge change)))
        WebhookConfiguration.read)).bind fun outcome => .done ((outcome.map fun _ => ()).mapError .kube)

/-- The change that restarts the server. -/
def restartChange (now : Time.Instant) : Json :=
  .obj [("spec", .obj [("template", .obj [("metadata", .obj [("annotations",
    .obj [(restartMark, .str now.text)])])])])]

def restart (now : Time.Instant) : Exchange (Except Error Unit) :=
  (counted (Exchange.fetchNamed
    ((Deployments.collection (some Secret.ns)).object deploymentName [] (some (.merge (restartChange now))))
    DeploymentShape.accept)).bind fun outcome => .done (outcome.map fun _ => ())

/-- Makes the calls of the certificate job in a cluster, where the material is a Secret, the bundle stands in the
configuration of the webhook, and a restart is a change to the Deployment of the server. -/
def carry (now : Time.Instant) : (call : Certificate.Call) → Exchange (Certificate.Reply call)
  | .readMaterial => readMaterial.bind fun outcome => .done (outcome.mapError .kube)
  | .readBundle => readBundle.bind fun outcome => .done (outcome.mapError .kube)
  | .writeMaterial m => (writeMaterial m).bind fun outcome => .done (outcome.mapError .kube)
  | .writeBundle caCert => writeBundle caCert
  | .restart => (restart now).bind fun outcome => .done (outcome.mapError .kube)

end Graft.Api.Certificates
