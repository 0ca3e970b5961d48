import Graft.Api.Request
import Graft.Api.Response
import Graft.Backoff

namespace Graft.Api

open Json

/-- Work that talks to the API server. A request that gets lost is answered by a cause. -/
abbrev Exchange (α : Type) := Dialogue Request (fun _ => Except String Response) α

namespace Exchange

/-- Sends a request and reads the answer. -/
def fetch {α : Type} (request : Request) (read : Reader α) : Exchange (Except Error α) :=
  .ask request fun
    | .ok response => .done (response.value read)
    | .error cause => .done (.error (.service cause))

/-- Sends a request about a named object, if it has a name. -/
def fetchNamed {α : Type} (request : Option Request) (read : Reader α) : Exchange (Except Error α) :=
  match request with
  | some request => fetch request read
  | none => .done (.error .unnamed)

/-- Lets a server that has no such object answer with no value: the reason decides, not the code. -/
def orAbsent {α : Type} (fetched : Except Error α) : Except Error (Option α) :=
  match fetched with
  | .ok value => .ok (some value)
  | .error (.response r) => if r.reason = "NotFound" then .ok none else .error (.response r)
  | .error e => .error e

/-- Notes a failed call. -/
def noteFailure (e : Error) : Exchange Unit :=
  .note (.count .failedApiCalls) (.note (.append .apiServer e.message) (.done ()))

end Exchange

end Graft.Api
