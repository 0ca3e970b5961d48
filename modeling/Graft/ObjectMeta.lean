import Graft.Json.Reader
import Graft.Time.Timestamp

namespace Graft

open Json

structure OwnerReference where
  apiVersion : String
  kind : String
  name : String
  uid : String
  controller : Option Bool
  blockOwnerDeletion : Option Bool
deriving DecidableEq, Repr, Inhabited

structure ManagedFields where
  apiVersion : Option String
  fieldsType : Option String
  fieldsV1 : Option Json
  manager : Option String
  operation : Option String
  subresource : Option String
  time : Option Time.Timestamp
deriving DecidableEq, Inhabited

/-- The metadata of a Kubernetes object; every field is optional, and one that is absent is not written. `ns` is the
namespace. -/
structure ObjectMeta where
  annotations : Option (Keyed String) := none
  creationTimestamp : Option Time.Timestamp := none
  deletionGracePeriodSeconds : Option Int := none
  deletionTimestamp : Option Time.Timestamp := none
  finalizers : Option (List String) := none
  generateName : Option String := none
  generation : Option Int := none
  labels : Option (Keyed String) := none
  managedFields : Option (List ManagedFields) := none
  name : Option String := none
  ns : Option String := none
  ownerReferences : Option (List OwnerReference) := none
  resourceVersion : Option String := none
  selfLink : Option String := none
  uid : Option String := none
deriving DecidableEq, Inhabited

/-- Reads a point in time. -/
def Time.Timestamp.read : Reader Time.Timestamp
  | .str text => match Time.Timestamp.ofText? text with
    | some t => .ok t
    | none => .error .misfit
  | d => Reader.wrongKind d

def Time.Timestamp.toJson (t : Time.Timestamp) : Json := .str t.text

/-- A map of strings as an object. -/
def Json.ofKeyed (entries : Keyed String) : Json := .obj (entries.map fun e => (e.1, .str e.2))

namespace OwnerReference

def read : Reader OwnerReference := fun d => do
  let text := Reader.check (Reader.optional Reader.string)
  let flag := Reader.check (Reader.optional Reader.bool)
  let r ← Record.readLenient [("apiVersion", text), ("blockOwnerDeletion", flag), ("controller", flag),
    ("kind", text), ("name", text), ("uid", text)] d
  return {
    apiVersion := (← r.optional "apiVersion" Reader.string).getD ""
    kind := (← r.optional "kind" Reader.string).getD ""
    name := (← r.optional "name" Reader.string).getD ""
    uid := (← r.optional "uid" Reader.string).getD ""
    controller := ← r.optional "controller" Reader.bool
    blockOwnerDeletion := ← r.optional "blockOwnerDeletion" Reader.bool }

def toJson (o : OwnerReference) : Json := ofFields [
  ("apiVersion", some (.str o.apiVersion)),
  ("blockOwnerDeletion", o.blockOwnerDeletion.map .bool),
  ("controller", o.controller.map .bool),
  ("kind", some (.str o.kind)),
  ("name", some (.str o.name)),
  ("uid", some (.str o.uid))]

end OwnerReference

namespace ManagedFields

def read : Reader ManagedFields := fun d => do
  let text := Reader.check (Reader.optional Reader.string)
  let r ← Record.readLenient [("apiVersion", text), ("fieldsType", text),
    ("fieldsV1", Reader.check (Reader.optional Reader.value)), ("manager", text), ("operation", text),
    ("subresource", text), ("time", Reader.check (Reader.optional Time.Timestamp.read))] d
  return {
    apiVersion := ← r.optional "apiVersion" Reader.string
    fieldsType := ← r.optional "fieldsType" Reader.string
    fieldsV1 := ← r.optional "fieldsV1" Reader.value
    manager := ← r.optional "manager" Reader.string
    operation := ← r.optional "operation" Reader.string
    subresource := ← r.optional "subresource" Reader.string
    time := ← r.optional "time" Time.Timestamp.read }

def toJson (m : ManagedFields) : Json := ofFields [
  ("apiVersion", m.apiVersion.map .str),
  ("fieldsType", m.fieldsType.map .str),
  ("fieldsV1", m.fieldsV1),
  ("manager", m.manager.map .str),
  ("operation", m.operation.map .str),
  ("subresource", m.subresource.map .str),
  ("time", m.time.map Time.Timestamp.toJson)]

end ManagedFields

namespace ObjectMeta

def schema : Keyed Reader.Check :=
  let text := Reader.check (Reader.optional Reader.string)
  let texts := Reader.check (Reader.optional (Reader.map Reader.string))
  let time := Reader.check (Reader.optional Time.Timestamp.read)
  let int := Reader.check (Reader.optional Reader.int64)
  [("annotations", texts), ("creationTimestamp", time), ("deletionGracePeriodSeconds", int),
    ("deletionTimestamp", time), ("finalizers", Reader.check (Reader.optional (Reader.list Reader.string))),
    ("generateName", text), ("generation", int), ("labels", texts),
    ("managedFields", Reader.check (Reader.optional (Reader.list ManagedFields.read))), ("name", text),
    ("namespace", text),
    ("ownerReferences", Reader.check (Reader.optional (Reader.list OwnerReference.read))),
    ("resourceVersion", text), ("selfLink", text), ("uid", text)]

def read : Reader ObjectMeta := fun d => do
  let r ← Record.readLenient schema d
  return {
    annotations := ← r.optional "annotations" (Reader.map Reader.string)
    creationTimestamp := ← r.optional "creationTimestamp" Time.Timestamp.read
    deletionGracePeriodSeconds := ← r.optional "deletionGracePeriodSeconds" Reader.int64
    deletionTimestamp := ← r.optional "deletionTimestamp" Time.Timestamp.read
    finalizers := ← r.optional "finalizers" (Reader.list Reader.string)
    generateName := ← r.optional "generateName" Reader.string
    generation := ← r.optional "generation" Reader.int64
    labels := ← r.optional "labels" (Reader.map Reader.string)
    managedFields := ← r.optional "managedFields" (Reader.list ManagedFields.read)
    name := ← r.optional "name" Reader.string
    ns := ← r.optional "namespace" Reader.string
    ownerReferences := ← r.optional "ownerReferences" (Reader.list OwnerReference.read)
    resourceVersion := ← r.optional "resourceVersion" Reader.string
    selfLink := ← r.optional "selfLink" Reader.string
    uid := ← r.optional "uid" Reader.string }

def toJson (m : ObjectMeta) : Json := ofFields [
  ("annotations", m.annotations.map Json.ofKeyed),
  ("creationTimestamp", m.creationTimestamp.map Time.Timestamp.toJson),
  ("deletionGracePeriodSeconds", m.deletionGracePeriodSeconds.map .ofInt),
  ("deletionTimestamp", m.deletionTimestamp.map Time.Timestamp.toJson),
  ("finalizers", m.finalizers.map .strings),
  ("generateName", m.generateName.map .str),
  ("generation", m.generation.map .ofInt),
  ("labels", m.labels.map Json.ofKeyed),
  ("managedFields", m.managedFields.map fun fs => .arr (fs.map ManagedFields.toJson)),
  ("name", m.name.map .str),
  ("namespace", m.ns.map .str),
  ("ownerReferences", m.ownerReferences.map fun os => .arr (os.map OwnerReference.toJson)),
  ("resourceVersion", m.resourceVersion.map .str),
  ("selfLink", m.selfLink.map .str),
  ("uid", m.uid.map .str)]

/-- The name, or the prefix from which the server makes one, or nothing. -/
def displayName (m : ObjectMeta) : String := (m.name.orElse fun _ => m.generateName).getD ""

end ObjectMeta

end Graft
