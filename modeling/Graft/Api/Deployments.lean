import Graft.Api.Exchange
import Graft.Api.Listing
import Graft.Cleanup

namespace Graft.Api.Deployments

/-- The Deployments of a namespace, or all. -/
def collection (ns : Option String) : Collection := { group := "apps", version := "v1", plural := "deployments", ns }

/-- Notes a call when its outcome is known. A call that is repeated counts once. -/
def noted {α : Type} (call : Exchange (Except Error α)) : Exchange (Except Error α) :=
  (Backoff.apiCalls.retry call).bind fun outcome => .note (.count .apiCalls) (
    match outcome with
    | .ok value => .done (.ok value)
    | .error e => (Exchange.noteFailure e).bind fun _ => .done (.error e))

/-- The items of a list come without their type, which a patch that replaces the whole object must state. -/
def typed (w : Workload) : Workload := { w with types := some { apiVersion := "apps/v1", kind := "Deployment" } }

def list : Exchange (Except Error (List Workload)) :=
  (noted (Exchange.fetch { path := (collection none).path } (Listing.read Workload.read))).bind fun outcome =>
    .done (outcome.map fun listing => listing.items.map typed)

def patch (ns name : String) (patch : Json.Patch) : Exchange (Except Error Unit) :=
  (noted (Exchange.fetchNamed ((collection (some ns)).object name [] (some (.operations patch))) Workload.read)).bind
    fun outcome => .done (outcome.map fun _ => ())

/-- Makes the calls of the cleanup job. -/
def carry : (call : Cleanup.Call) → Exchange (Cleanup.Reply call)
  | .list => list.bind fun outcome => .done (outcome.mapError .kube)
  | .patch ns name operations => (patch ns name operations).bind fun outcome => .done (outcome.mapError .kube)

/-- The cleanup job on a cluster. -/
def cleanup (cluster : ClusterIdentity) : Exchange (Except Graft.Error Nat) := (Cleanup.run cluster).via carry

end Graft.Api.Deployments
