import Graft.Convention
import Graft.Json.Printer
import Graft.Json.Reader
import Graft.Platform

namespace Graft

open Json

/-- The record of an injection that a workload carries in an annotation of its pod template: the resource that governed
it, its version at that time, and the platforms injected. -/
structure InjectionState where
  resourceName : String
  resourceVersion : String
  platforms : List Platform
deriving DecidableEq, Repr, Inhabited

namespace InjectionState

def toJson (s : InjectionState) : Json := .obj [
  ("crName", .str s.resourceName),
  ("crResourceVersion", .str s.resourceVersion),
  ("platforms", .arr (s.platforms.map Platform.toJson))]

/-- The text of the annotation. -/
def text (s : InjectionState) : String := s.toJson.text

def read : Reader InjectionState := fun d => do
  let r ← Record.read [("crName", Reader.check Reader.string),
    ("crResourceVersion", Reader.check Reader.string),
    ("platforms", Reader.check (Reader.list Platform.read))] d
  return {
    resourceName := ← r.required "crName" Reader.string
    resourceVersion := ← r.required "crResourceVersion" Reader.string
    platforms := ← r.required "platforms" (Reader.list Platform.read) }

def ofText? (text : String) : Option InjectionState := (Reader.ofText read text).toOption

/-- The value of the annotation in an object, whatever it is. -/
def annotation? (object : Json) : Option Json :=
  object.path? ["spec", "template", "metadata", "annotations", Convention.stateAnnotation]

/-- The state that an object records, if it can be read. -/
def ofObject? (object : Json) : Option InjectionState := do ofText? (← (← annotation? object).str?)

end InjectionState

end Graft
