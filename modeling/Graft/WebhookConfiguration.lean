import Graft.Certificate.Material
import Graft.Json.Shape

namespace Graft

open Json

/-- One webhook of a configuration. `caBundle` is taken out of `client`, and `client` out of the others. -/
structure WebhookEntry where
  caBundle : Option (List UInt8)
  client : Members
  others : Members
deriving DecidableEq, Inhabited

namespace WebhookEntry

def selector : Shape := .record [
  ("matchExpressions", false, .list (.record [("key", true, .text), ("operator", true, .text),
    ("values", false, .list .text)])),
  ("matchLabels", false, .map .text)]

/-- Where the API server finds the webhook. -/
def clientShape : Shape := .record [
  ("caBundle", false, .atom (fun d => (Certificate.readBytes d).map Certificate.bytesJson) (.str "")),
  ("service", false, .record [("name", true, .text), ("namespace", true, .text), ("path", false, .text),
    ("port", false, .int32)]),
  ("url", false, .text)]

def shape : Shape := .record [
  ("admissionReviewVersions", true, .list .text),
  ("clientConfig", true, clientShape),
  ("failurePolicy", false, .text),
  ("matchConditions", false, .list (.record [("expression", true, .text), ("name", true, .text)])),
  ("matchPolicy", false, .text),
  ("name", true, .text),
  ("namespaceSelector", false, selector),
  ("objectSelector", false, selector),
  ("reinvocationPolicy", false, .text),
  ("rules", false, .list (.record [("apiGroups", false, .list .text), ("apiVersions", false, .list .text),
    ("operations", false, .list .text), ("resources", false, .list .text), ("scope", false, .text)])),
  ("sideEffects", true, .text),
  ("timeoutSeconds", false, .int32)]

/-- The entry that a value of the shape stands for. -/
def ofShaped (value : Json) : WebhookEntry :=
  let members := value.obj?.getD []
  let client := ((Keyed.get? "clientConfig" members).bind Json.obj?).getD []
  { caBundle := ((Keyed.get? "caBundle" client).bind Json.str?).bind fun text => Text.Base64.decode? text.toList
    client := Keyed.erase "caBundle" client
    others := Keyed.erase "clientConfig" members }

def read : Reader WebhookEntry := fun d => (shape.read d).map ofShaped

def toJson (e : WebhookEntry) : Json :=
  let client : Members := match e.caBundle with
    | some bundle => e.client.insert "caBundle" (Certificate.bytesJson bundle)
    | none => e.client
  .obj (e.others.insert "clientConfig" (.obj client))

end WebhookEntry

/-- The configuration that makes the API server call webhooks, by its entries, if it has a list of them. -/
structure WebhookConfiguration where
  entries : Option (List WebhookEntry) := none
deriving DecidableEq, Inhabited

namespace WebhookConfiguration

/-- The configuration that registers the webhook. -/
def name : String := "app-monitoring-webhook"

def read : Reader WebhookConfiguration := fun d => do
  let r ← Record.readLenient [("apiVersion", Reader.constant "admissionregistration.k8s.io/v1"),
    ("kind", Reader.constant "MutatingWebhookConfiguration"),
    ("metadata", Reader.check (Reader.optional ObjectMeta.read)),
    ("webhooks", Reader.check (Reader.optional (Reader.list WebhookEntry.read)))] d
  return { entries := ← r.optional "webhooks" (Reader.list WebhookEntry.read) }

/-- The bundle of the first entry as text. -/
def firstBundle (c : WebhookConfiguration) : Option String := do
  let first ← (c.entries.getD []).head?
  Text.Utf8.decode? (← first.caBundle)

/-- The entries with one bundle for all. -/
def trusting (c : WebhookConfiguration) (caCert : String) : List WebhookEntry :=
  (c.entries.getD []).map fun e => { e with caBundle := some (Text.Utf8.encode caCert) }

end WebhookConfiguration

end Graft
