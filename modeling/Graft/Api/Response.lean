import Graft.Api.Error
import Graft.Json.Reader

namespace Graft.Api

open Json

/-- What the API server answers: a status and a body. -/
structure Response where
  status : Nat
  body : String
deriving DecidableEq, Repr

/-- The standard phrase of an error status. -/
def reasonPhrase? (status : Nat) : Option String :=
  match status with
  | 400 => some "Bad Request"
  | 401 => some "Unauthorized"
  | 402 => some "Payment Required"
  | 403 => some "Forbidden"
  | 404 => some "Not Found"
  | 405 => some "Method Not Allowed"
  | 406 => some "Not Acceptable"
  | 407 => some "Proxy Authentication Required"
  | 408 => some "Request Timeout"
  | 409 => some "Conflict"
  | 410 => some "Gone"
  | 411 => some "Length Required"
  | 412 => some "Precondition Failed"
  | 413 => some "Payload Too Large"
  | 414 => some "URI Too Long"
  | 415 => some "Unsupported Media Type"
  | 416 => some "Range Not Satisfiable"
  | 417 => some "Expectation Failed"
  | 418 => some "I'm a teapot"
  | 421 => some "Misdirected Request"
  | 422 => some "Unprocessable Entity"
  | 423 => some "Locked"
  | 424 => some "Failed Dependency"
  | 425 => some "Too Early"
  | 426 => some "Upgrade Required"
  | 428 => some "Precondition Required"
  | 429 => some "Too Many Requests"
  | 431 => some "Request Header Fields Too Large"
  | 451 => some "Unavailable For Legal Reasons"
  | 500 => some "Internal Server Error"
  | 501 => some "Not Implemented"
  | 502 => some "Bad Gateway"
  | 503 => some "Service Unavailable"
  | 504 => some "Gateway Timeout"
  | 505 => some "HTTP Version Not Supported"
  | 506 => some "Variant Also Negotiates"
  | 507 => some "Insufficient Storage"
  | 508 => some "Loop Detected"
  | 510 => some "Not Extended"
  | 511 => some "Network Authentication Required"
  | _ => none

/-- A status with its phrase. -/
def statusLine (status : Nat) : String :=
  toString status ++ " " ++ (reasonPhrase? status).getD "<unknown status code>"

namespace ErrorResponse

def read : Reader ErrorResponse := fun d => do
  let text := Reader.check Reader.string
  let r ← Record.read [("status", text), ("message", text), ("reason", text),
    ("code", Reader.check (Reader.int 0 65535))] d
  let code ← r.required "code" (Reader.int 0 65535)
  return {
    status := ← r.required "status" Reader.string
    message := ← r.orElse "message" Reader.string ""
    reason := ← r.orElse "reason" Reader.string ""
    code := code.toNat }

/-- The error of a response with an error status. The body tells what went wrong, if it can be read; if not, the error
is made up from the status. -/
def ofResponse (r : Response) : ErrorResponse :=
  match Reader.ofText read r.body with
  | .ok e => e
  | .error _ => {
      status := statusLine r.status
      message := Text.quoted r.body
      reason := "Failed to parse error data"
      code := r.status }

end ErrorResponse

/-- The value in a body of a response that is no error. -/
def Response.value {α : Type} (r : Response) (read : Reader α) : Except Error α :=
  if 400 ≤ r.status ∧ r.status < 600 then .error (.response (.ofResponse r))
  else (Reader.ofText read r.body).mapError fun _ => .unexpectedAnswer

end Graft.Api
