import Graft.Json.Patch
import Graft.Workload

namespace Graft.Admission

open Json

inductive Verb where
  | create
  | update
  | delete
  | connect
deriving DecidableEq, Repr

def Verb.read : Reader Verb :=
  Reader.choice [("CREATE", .create), ("UPDATE", .update), ("DELETE", .delete), ("CONNECT", .connect)]

/-- The word for an operation in messages. -/
def Verb.word : Verb → String
  | .create => "Create"
  | .update => "Update"
  | .delete => "Delete"
  | .connect => "Connect"

/-- The request that the API server sends, as far as an answer depends on it. It is read strictly: a fault in a field
that is not kept makes the whole review unreadable. -/
structure Request where
  uid : String
  kind : String
  verb : Verb
  ns : Option String
  object : Option Workload

/-- A group, a version and a third text; the third one is returned. -/
def readGroupVersion (third : String) : Reader String := fun d => do
  let test := Reader.check Reader.string
  let r ← Record.read [("group", test), ("version", test), (third, test)] d
  let _ ← r.required "group" Reader.string
  let _ ← r.required "version" Reader.string
  r.required third Reader.string

/-- The user behind a request, of which nothing is kept. -/
def readUser : Reader Unit := fun d => do
  let text := Reader.check (Reader.optional Reader.string)
  let texts := Reader.list Reader.string
  let _ ← Record.readLenient [("extra", Reader.check (Reader.optional (Reader.map texts))),
    ("groups", Reader.check (Reader.optional texts)), ("uid", text), ("username", text)] d
  return ()

/-- The fields of a request in the order of their declaration. -/
def Request.schema : Keyed Reader.Check :=
  let text := Reader.check (Reader.optional Reader.string)
  let kind := readGroupVersion "kind"
  let resource := readGroupVersion "resource"
  let object := Reader.check (Reader.optional Workload.read)
  [("uid", Reader.check Reader.string), ("kind", Reader.check kind), ("resource", Reader.check resource),
    ("subResource", text), ("requestKind", Reader.check (Reader.optional kind)),
    ("requestResource", Reader.check (Reader.optional resource)), ("requestSubResource", text),
    ("name", Reader.check Reader.string), ("namespace", text), ("operation", Reader.check Verb.read),
    ("userInfo", readUser), ("object", object), ("oldObject", object), ("dryRun", Reader.check Reader.bool),
    ("options", Reader.check (Reader.optional Reader.value))]

def Request.read : Reader Request := fun d => do
  let r ← Record.read schema d
  let uid ← r.required "uid" Reader.string
  let kind ← r.required "kind" (readGroupVersion "kind")
  let _ ← r.required "resource" (readGroupVersion "resource")
  let verb ← r.required "operation" Verb.read
  let _ ← r.required "userInfo" readUser
  return { uid, kind, verb, ns := ← r.optional "namespace" Reader.string, object := ← r.optional "object" Workload.read }

/-- A response that a review may already carry; it must be sound, but nothing of it is kept. -/
def readResponse : Reader Unit := fun d => do
  let text := Reader.check Reader.string
  let cause : Reader.Check := fun d => do
    let _ ← Record.read [("reason", text), ("message", text), ("field", text)] d
  let details : Reader.Check := fun d => do
    let _ ← Record.read [("name", text), ("group", text), ("kind", text), ("uid", text),
      ("causes", Reader.check (Reader.list cause)), ("retryAfterSeconds", Reader.check (Reader.int 0 0xffffffff))] d
  let status : Reader.Check := fun d => do
    let _ ← Record.read [("status", Reader.check (Reader.optional
        (Reader.choice [("Success", ()), ("Failure", ())]))),
      ("code", Reader.check (Reader.int 0 0xffff)), ("message", text), ("reason", text),
      ("details", Reader.check (Reader.optional details))] d
  let r ← Record.read [("uid", text), ("allowed", Reader.check Reader.bool), ("status", status),
    ("patch", Reader.check (Reader.optional (Reader.list (Reader.int 0 255)))),
    ("patchType", Reader.check (Reader.optional (Reader.choice [("JSONPatch", ())]))),
    ("auditAnnotations", Reader.check (Reader.map Reader.string)),
    ("warnings", Reader.check (Reader.optional (Reader.list Reader.string)))] d
  let _ ← r.required "uid" Reader.string
  let _ ← r.required "allowed" Reader.bool
  let _ ← r.required "status" status
  let _ ← r.nullable "patch" (Reader.list (Reader.int 0 255))
  let _ ← r.nullable "patchType" (Reader.choice [("JSONPatch", ())])
  let _ ← r.nullable "warnings" (Reader.list Reader.string)
  return ()

structure Review where
  types : TypeMeta
  request : Option Request

def Review.read : Reader Review := fun d => do
  let request := Reader.optional Request.read
  let (r, others) ← Record.readOpen [("request", Reader.check request),
    ("response", Reader.check (Reader.optional readResponse))] d
  match TypeMeta.split others with
  | (some types, _) => return { types, request := ← r.orElse "request" request none }
  | (none, _) => .error .misfit

/-- Why a response carries no patch. -/
structure Failure where
  message : String
  reason : String
  code : Nat
deriving DecidableEq, Repr

/-- A failure without the fields that are empty. -/
def Failure.toJson (f : Failure) : Json := ofFields [
  ("code", if f.code = 0 then none else some (.ofNat f.code)),
  ("message", if f.message = "" then none else some (.str f.message)),
  ("reason", if f.reason = "" then none else some (.str f.reason)),
  ("status", some (.str "Failure"))]

/-- The answer to a review: whether the object is allowed, how it is to be changed, and why it is not. Nothing here
keeps an answer from denying, or from having both a patch and a failure. -/
structure Response where
  types : TypeMeta
  uid : String
  allowed : Bool
  patch? : Option Patch := none
  failure? : Option Failure := none
  warnings : Option (List String) := none

namespace Response

/-- The response to something that is no request. It has no uid and it denies. -/
def invalid (complaint : String) : Response where
  types := ⟨"admission.k8s.io/v1beta1", "AdmissionReview"⟩
  uid := ""
  allowed := false
  failure? := some ⟨complaint, "InvalidRequest", 0⟩

/-- The response to a request as long as nothing is decided. It allows the object as it is. -/
def ofRequest (types : TypeMeta) (request : Request) : Response where
  types := types
  uid := request.uid
  allowed := true

/-- The review that carries a response; `encodePatch` gives the form of the patch in it. -/
def toJson (encodePatch : Patch → Json) (r : Response) : Json := .obj [
  ("apiVersion", .str r.types.apiVersion),
  ("kind", .str r.types.kind),
  ("response", ofFields [
    ("allowed", some (.bool r.allowed)),
    ("patch", r.patch?.map encodePatch),
    ("patchType", r.patch?.map fun _ => .str "JSONPatch"),
    ("status", some ((r.failure?.map Failure.toJson).getD (.obj []))),
    ("uid", some (.str r.uid)),
    ("warnings", r.warnings.map Json.strings)])]

end Response

end Graft.Admission
