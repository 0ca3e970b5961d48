import Graft.Json.Patch

namespace Graft.Api

/-- The objects of one type, in one namespace or, without one, in the whole cluster. The core group has the
empty name. -/
structure Collection where
  group : String
  version : String
  plural : String
  ns : Option String := none
deriving DecidableEq, Repr

def Collection.path (c : Collection) : String :=
  (if c.group = "" then "/api" else "/apis/" ++ c.group) ++ "/" ++ c.version
    ++ (match c.ns with | some ns => "/namespaces/" ++ ns | none => "") ++ "/" ++ c.plural

/-- The change that a request asks for: operations, members to overwrite, or the fields that its sender
manages. -/
inductive Change where
  | operations (patch : Json.Patch)
  | merge (value : Json)
  | apply (value : Json)
deriving DecidableEq

def Change.mediaType : Change → String
  | operations _ => "application/json-patch+json"
  | merge _ => "application/merge-patch+json"
  | apply _ => "application/apply-patch+yaml"

def Change.body : Change → Json
  | operations patch => Json.Patch.toJson patch
  | merge value => value
  | apply value => value

/-- A request that reads, or one that changes an object. -/
structure Request where
  path : String
  params : Keyed String := []
  change : Option Change := none
deriving DecidableEq

def Request.method (r : Request) : String := if r.change.isSome then "PATCH" else "GET"

/-- A request about one object of a collection. Only the empty name is refused before it is sent. -/
def Collection.object (c : Collection) (name : String) (params : Keyed String := []) (change : Option Change := none) :
    Option Request :=
  if name = "" then none else some { path := c.path ++ "/" ++ name, params, change }

end Graft.Api
