import Graft.Json
import Graft.Text.Lowercase

namespace Graft

/-- What a workload object tells about the pods that it will produce. `ns` is their namespace. The container has a name
here only if it is the only one. -/
structure PodIdentity where
  ns : Option String := none
  ownerKind : Option String := none
  ownerName : Option String := none
  ownerUid : Option String := none
  onlyContainerName : Option String := none
deriving DecidableEq, Repr, Inhabited

namespace PodIdentity

/-- A text that is not empty. -/
def nonEmpty? (text : String) : Option String := if text = "" then none else some text

/-- A string in the metadata of an object, if it is there and not empty. -/
def metadata? (object : Json) (key : String) : Option String :=
  (((object.path? ["metadata", key])).bind Json.str?).bind nonEmpty?

/-- The containers of a workload's pod template. -/
def containers (object : Json) : List Json :=
  ((object.path? ["spec", "template", "spec", "containers"]).bind Json.arr?).getD []

def ofObject (object : Json) (fallback : Option String) : PodIdentity where
  ns := (metadata? object "namespace").orElse fun _ => fallback.bind nonEmpty?
  ownerKind := ((object.get? "kind").bind Json.str?).map Text.lowercase
  ownerName := metadata? object "name"
  ownerUid := metadata? object "uid"
  onlyContainerName := match containers object with
    | [container] => (container.get? "name").bind Json.str?
    | _ => none

end PodIdentity

end Graft
