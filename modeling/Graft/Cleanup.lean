import Graft.Dialogue
import Graft.Injection
import Graft.Workload

namespace Graft.Cleanup

/-- What the job needs of a cluster: the list of workloads, and patches to single ones. -/
inductive Call where
  | list
  | patch (ns name : String) (patch : Json.Patch)
deriving DecidableEq

abbrev Reply : Call → Type
  | .list => Except Error (List Workload)
  | .patch .. => Except Error Unit

/-- The namespace and the name of a workload, empty if it has none. -/
def nsOf (w : Workload) : String := w.metadata.ns.getD ""

def nameOf (w : Workload) : String := w.metadata.name.getD ""

/-- The patch that reverts a workload; `none` if there is nothing to revert. -/
def reversal (cluster : ClusterIdentity) (w : Workload) : Except Error (Option Json.Patch) :=
  let object := w.toJson
  if Injection.needsCleanup object then
    if nameOf w = "" then .error (.malformedObject .noName)
    else (Injection.patch object { pod := PodIdentity.ofObject object (some (nsOf w)), cluster }).map some
  else .ok none

/-- Reverts one workload; tells whether it was patched. -/
def revert (cluster : ClusterIdentity) (w : Workload) : Dialogue Call Reply (Except Error Bool) :=
  match reversal cluster w with
  | .error e => .done (.error e)
  | .ok none => .done (.ok false)
  | .ok (some patch) => .ask (.patch (nsOf w) (nameOf w) patch) fun
    | .error e => .done (.error e)
    | .ok () => .note (.count .cleanedWorkloads) (.done (.ok true))

/-- Reverts workloads one after another and counts those that were patched. A workload that fails does not stop the ones
after it. -/
def revertAll (cluster : ClusterIdentity) : List Workload → Dialogue Call Reply Nat
  | [] => .done 0
  | w :: rest => (revert cluster w).bind fun reverted => (revertAll cluster rest).bind fun n =>
    .done (match reverted with
      | .ok true => n + 1
      | _ => n)

/-- The job that reverts every workload of a cluster. It fails only if there is no list, and its result is the number of
workloads that were patched. -/
def run (cluster : ClusterIdentity) : Dialogue Call Reply (Except Error Nat) :=
  .ask .list fun
    | .error e => .done (.error e)
    | .ok workloads => (revertAll cluster workloads).bind fun n => .done (.ok n)

end Graft.Cleanup
