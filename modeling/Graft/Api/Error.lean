import Graft.Text.Quoted

namespace Graft.Api

/-- The server's answer to a request that it refuses. -/
structure ErrorResponse where
  status : String
  message : String
  reason : String
  code : Nat
deriving DecidableEq, Repr, Inhabited

/-- How a request to the API server fails: it is not sent or gets no answer, the answer is a refusal, or the answer
cannot be read. -/
inductive Error where
  /-- The server refused the request. -/
  | response (r : ErrorResponse)
  /-- The request never reached the server. -/
  | service (cause : String)
  /-- The connection broke on the way. -/
  | connection (cause : String)
  /-- The answer does not fit what was asked for. -/
  | unexpectedAnswer
  /-- An answer in lines has one without an end. -/
  | unendedLine
  | unreadableEvents (cause : String)
  | notUtf8
  /-- The request names no object. -/
  | unnamed
deriving DecidableEq, Repr, Inhabited

/-- The answer field by field, texts in quotes. -/
def ErrorResponse.detail (r : ErrorResponse) : String :=
  "ErrorResponse \x7b status: " ++ Text.quoted r.status ++ ", message: " ++ Text.quoted r.message
    ++ ", reason: " ++ Text.quoted r.reason ++ ", code: " ++ toString r.code ++ " \x7d"

namespace Error

def message : Error → String
  | response r => "ApiError: " ++ r.message ++ ": " ++ r.reason ++ " (" ++ r.detail ++ ")"
  | service cause => "ServiceError: " ++ cause
  | connection cause => "HyperError: " ++ cause
  | unexpectedAnswer => "Error deserializing response:"
  | unendedLine => "Error finding newline character"
  | unreadableEvents cause => "Error reading events stream: " ++ cause
  | notUtf8 => "UTF-8 Error: invalid utf-8 sequence of 1 bytes from index 0"
  | unnamed => "Failed to build request: failed to validate request: A non-empty name is required"

/-- Whether the same request could succeed later: throttling, server failures and lost connections could. -/
def isTransient : Error → Bool
  | response r => r.code == 429 || 500 ≤ r.code
  | service _ => true
  | connection _ => true
  | _ => false

end Error

end Graft.Api
