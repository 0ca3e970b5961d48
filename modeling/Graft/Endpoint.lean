import Graft.Admission
import Graft.MediaType

namespace Graft.Endpoint

structure Request where
  method : String
  /-- The path, with a query and a fragment if there are any. -/
  target : String
  contentType : Option String := none
  body : String := ""

/-- The answer to a request by its status. -/
inductive Answer where
  | review (response : Admission.Response)
  | text (body : String)
  | badRequest
  | notFound
  | methodNotAllowed
  | unsupportedMediaType
  | unprocessable

def Answer.status : Answer → Nat
  | review _ => 200
  | text _ => 200
  | badRequest => 400
  | notFound => 404
  | methodNotAllowed => 405
  | unsupportedMediaType => 415
  | unprocessable => 422

/-- The path of a target, without its query and its fragment. -/
def path (target : String) : String :=
  String.ofList (target.toList.takeWhile fun c => c != '?' && c != '#')

def postReview (registry : Registry) (cluster : ClusterIdentity) (h : Heartbeat) (request : Request) :
    Answer × Heartbeat :=
  match (request.contentType.bind MediaType.ofText?).map MediaType.isJson with
  | some true =>
    match Json.Reader.ofText Admission.Review.read request.body with
    | .ok review =>
      let (response, h) := Admission.answer registry cluster h review
      (.review response, h)
    | .error .broken => (.badRequest, h)
    | .error .misfit => (.unprocessable, h)
  | _ => (.unsupportedMediaType, h)

/-- Answers one request: reviews are posted to one path, and another is a sign of life. Paths are compared as they
are. -/
def handle (registry : Registry) (cluster : ClusterIdentity) (h : Heartbeat) (request : Request) :
    Answer × Heartbeat :=
  match path request.target with
  | "/mutate" => if request.method = "POST" then postReview registry cluster h request else (.methodNotAllowed, h)
  | "/healthz" =>
    if request.method = "GET" then (.text "ok", h)
    else if request.method = "HEAD" then (.text "", h)
    else (.methodNotAllowed, h)
  | _ => (.notFound, h)

end Graft.Endpoint
