import Graft.Api.Response
import Graft.Instrumentation
import Graft.Text.Split
import Graft.Workload

namespace Graft.Watch

open Json

/-- What a line reports. A bookmark only tells a version that has been reached. -/
inductive Line where
  | changed (resource : Instrumentation)
  | deleted (resource : Instrumentation)
  | bookmark (version : String)
  | refused (r : Api.ErrorResponse)
deriving DecidableEq

/-- The kind of a report, which says what its object is. -/
inductive Tag where
  | changed
  | deleted
  | bookmark
  | refused
deriving DecidableEq, Repr

namespace Line

def readTag : Reader Tag := Reader.choice [
  ("ADDED", .changed), ("BOOKMARK", .bookmark), ("DELETED", .deleted), ("ERROR", .refused), ("MODIFIED", .changed)]

/-- A bookmark is an object of which only the version counts; its type must be stated. -/
def readBookmark : Reader String := fun d => do
  let readMeta : Reader String := fun d => do
    let r ← Record.read [("resourceVersion", Reader.check Reader.string),
      ("annotations", Reader.check (Reader.map Reader.string))] d
    r.required "resourceVersion" Reader.string
  let (r, others) ← Record.readOpen [("metadata", Reader.check readMeta)] d
  let version ← r.required "metadata" readMeta
  match (TypeMeta.split others).1 with
  | some _ => return version
  | none => throw .misfit

def readObject : Tag → Reader Line
  | .changed => fun d => (Instrumentation.read d).map .changed
  | .deleted => fun d => (Instrumentation.read d).map .deleted
  | .bookmark => fun d => (readBookmark d).map .bookmark
  | .refused => fun d => (Api.ErrorResponse.read d).map .refused

/-- Goes through the members of a report. The object is looked at as soon as its kind is known. -/
def scan (closed : Bool) : Option Tag → Option Draft → List (Option String × Draft) → Except Fault Line
  | tag, object, [] =>
    if closed then
      match tag, object with
      | some tag, some object => readObject tag object
      | _, _ => .error .misfit
    else .error .broken
  | _, _, (none, _) :: _ => .error .broken
  | tag, object, (some key, d) :: rest =>
    if key = "type" then
      if tag.isSome then .error .misfit
      else do
        let tag ← readTag d
        match object with
        | some object => let _ ← readObject tag object
        | none => pure ()
        scan closed (some tag) object rest
    else if key = "object" then
      if object.isSome then .error .misfit
      else do
        match tag with
        | some tag => let _ ← readObject tag d
        | none => let _ ← d.value?
        scan closed tag (some d) rest
    else do
      d.skip
      scan closed tag object rest

/-- A report is an object with a kind and an object, or an array of the two. -/
def read : Reader Line
  | .obj members closed => scan closed none none members
  | .arr [tag, object] closed => do
    let line ← readObject (← readTag tag) object
    if closed then .ok line else .error .broken
  | .arr (tag :: object :: _) _ => do
    let _ ← readObject (← readTag tag) object
    .error .broken
  | d => Reader.wrongKind d

/-- What a text holds: a report, an error, or nothing if it ends too early, for the server may break off anywhere. -/
def ofText (text : String) : Option (Except Api.Error Line) :=
  match Reader.ofText read text with
  | .ok line => some (.ok line)
  | .error fault =>
    if fault = .broken ∧ (Draft.ofText text).cut then none
    else match Reader.ofText Api.ErrorResponse.read text with
      | .ok r => some (.error (.response r))
      | .error _ => some (.error .unexpectedAnswer)

/-- A line without the carriage return at its end. -/
def withoutReturn (line : List Char) : List Char :=
  if line.getLast? = some '\r' then line.dropLast else line

/-- The lines of a body. -/
def ofBody (body : String) : List (Except Api.Error Line) :=
  (Text.split '\n' body.toList).filterMap fun line => ofText (String.ofList (withoutReturn line))

end Line

end Graft.Watch
