import Graft.Admission.Review
import Graft.Heartbeat
import Graft.Injection
import Graft.Registry
import Graft.Selection

namespace Graft.Admission

/-- The kind of workload that is injected. -/
def supportedKind : String := "Deployment"

/-- The object and the namespace of a request that can be worked on. -/
def validate (request : Request) : Except Objection (Workload × String) := do
  if request.verb ≠ .create ∧ request.verb ≠ .update then throw (.operation request.verb.word)
  if request.kind ≠ supportedKind then throw (.kind request.kind)
  let some object := request.object | throw .noObject
  match object.data.get? "spec" with
  | none | some .null => throw .noSpec
  | some _ => pure ()
  let some ns := ((object.metadata.ns.orElse fun _ => request.ns).bind PodIdentity.nonEmpty?)
    | throw .noNamespace
  return (object, ns)

/-- A request that passed validation and names one configuration. -/
structure Resolved where
  object : Json
  ns : String
  key : ResourceKey
  resource : Option Instrumentation

/-- What governs the object of a request. -/
def resolve (registry : Registry) (request : Request) : Except Error Resolved := do
  let (workload, ns) ← (validate request).mapError Error.invalidRequest
  let object := workload.toJson
  let name ← Selection.resourceName (Selection.templateAnnotations object)
  return { object, ns, key := ⟨ns, name⟩, resource := registry.get? ⟨ns, name⟩ }

def Resolved.governing (r : Resolved) (cluster : ClusterIdentity) : Injection.Governing where
  resource := r.resource
  pod := PodIdentity.ofObject r.object (some r.ns)
  platforms := match r.resource with
    | some resource => Selection.platforms (Selection.templateAnnotations r.object) resource
    | none => []
  cluster := cluster

/-- The patch for the object of a request. -/
def patchFor (registry : Registry) (cluster : ClusterIdentity) (request : Request) : Except Error Json.Patch := do
  let r ← resolve registry request
  Injection.patch r.object (r.governing cluster)

/-- Whether a request gets as far as the injection, with a resource that governs it. -/
def isActionable (registry : Registry) (request : Request) : Bool :=
  match resolve registry request with
  | .ok r => r.resource.isSome
  | .error _ => false

/-- Counts a failure and keeps its text. -/
def recordFailure (h : Heartbeat) (text : String) : Heartbeat :=
  (h.count .failedReviews).append .admission text

/-- The complaint about a review that holds no request. -/
def noRequest : String := "failed to convert AdmissionReview into AdmissionRequest"

/-- The response to a review without a request. It is made to deny, and turned round before it is sent. -/
def unusable : Response := { Response.invalid noRequest with allowed := true }

/-- The response to a request whose object is changed. -/
def patched (types : TypeMeta) (request : Request) (patch : Json.Patch) : Response :=
  { Response.ofRequest types request with patch? := some patch }

/-- The response to a request whose object is left as it is because of an error. -/
def skipped (types : TypeMeta) (request : Request) (e : Error) : Response :=
  { Response.ofRequest types request with
    failure? := some ⟨e.message, "BadRequest", 400⟩
    warnings := some ["auto-instrumentation skipped: " ++ e.message] }

/-- Answers a review and counts it. A review that cannot be worked on, and an object that cannot be injected, are
answered without a patch, and the error is given as a warning. -/
def answer (registry : Registry) (cluster : ClusterIdentity) (h : Heartbeat) (review : Review) :
    Response × Heartbeat :=
  let h := h.count .admissionReviews
  match review.request with
  | none => (unusable, recordFailure h noRequest)
  | some request =>
    let h := if isActionable registry request then h.count .actionableReviews else h
    match patchFor registry cluster request with
    | .ok patch => (patched review.types request patch, h)
    | .error e => (skipped review.types request e, recordFailure h e.message)

end Graft.Admission
