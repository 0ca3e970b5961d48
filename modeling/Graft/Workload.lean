import Graft.ObjectMeta

namespace Graft

open Json

/-- The type of an object. -/
structure TypeMeta where
  apiVersion : String
  kind : String
deriving DecidableEq, Repr, Inhabited

/-- An object as it comes from the API server. `data` holds all members but the metadata and the type, or all
but the metadata if the object has no sound type. -/
structure Workload where
  types : Option TypeMeta := none
  metadata : ObjectMeta := {}
  data : Members := []
deriving Inhabited

namespace TypeMeta

/-- Takes the type fields out of a list of members, in their order, up to the first that is no string or
stands twice; returns whether all of them were sound, and the members left. -/
def take : Option String → Option String → List (String × Json) →
    Option (Option String × Option String) × List (String × Json)
  | version, kind, [] => (some (version, kind), [])
  | version, kind, (key, value) :: rest =>
    if key = "apiVersion" then
      match value, version with
      | .str v, none => take (some v) kind rest
      | _, _ => (none, rest)
    else if key = "kind" then
      match value, kind with
      | .str k, none => take version (some k) rest
      | _, _ => (none, rest)
    else
      let (found, left) := take version kind rest
      (found, (key, value) :: left)

/-- The type among the members of an object, if both fields are there and sound, and the members left. -/
def split (members : List (String × Json)) : Option TypeMeta × List (String × Json) :=
  match take none none members with
  | (some (some apiVersion, some kind), left) => (some { apiVersion, kind }, left)
  | (_, left) => (none, left)

end TypeMeta

namespace Workload

def read : Reader Workload := fun d => do
  let (r, others) ← Record.readOpen [("metadata", Reader.check ObjectMeta.read)] d
  let metadata ← r.orElse "metadata" ObjectMeta.read {}
  let (types, left) := TypeMeta.split others
  return { types, metadata, data := Keyed.ofList (Json.canonicalMembers left) }

def ofJson? (j : Json) : Option Workload := (read j.draft).toOption

/-- The object with its metadata always present. -/
def toJson (w : Workload) : Json :=
  let typed : Members := match w.types with
    | some t => (w.data.insert "apiVersion" (.str t.apiVersion)).insert "kind" (.str t.kind)
    | none => w.data
  .obj (typed.insert "metadata" w.metadata.toJson)

end Workload

end Graft
