import Graft.Error
import Graft.Instrumentation

namespace Graft.Selection

/-- The inject annotations in the order in which they count. The values `true` and `false` switch a platform on and off;
any other value switches it on and names the resource. -/
def injectAnnotations : List (Platform × String) := [
  (.dotNet, "instrumentation.opentelemetry.io/inject-dotnet"),
  (.java, "instrumentation.opentelemetry.io/inject-java"),
  (.nodeJs, "instrumentation.opentelemetry.io/inject-nodejs")]

/-- Equality but for the case of ASCII letters. -/
def sameName (a b : String) : Bool := a.toList.map Char.toLower == b.toList.map Char.toLower

def isFlag (value : String) : Bool := sameName value "true" || sameName value "false"

/-- The annotations of an object's pod template whose values are strings. -/
def templateAnnotations (object : Json) : Keyed String :=
  match (object.path? ["spec", "template", "metadata", "annotations"]).bind Json.obj? with
  | some members => members.filterMap fun m => m.2.str?.map fun v => (m.1, v)
  | none => []

/-- Adds a name unless it is already there. -/
def addName (names : List String) (value : String) : List String :=
  if value = "" ∨ isFlag value ∨ names.any (sameName · value) then names else names ++ [value]

/-- The distinct resource names that the inject annotations give. -/
def chosenNames (annotations : Keyed String) : List String :=
  (injectAnnotations.filterMap fun a => annotations.get? a.2).foldl addName []

/-- The name of the governing resource. -/
def resourceName (annotations : Keyed String) : Except Error String :=
  match chosenNames annotations with
  | [] => .ok Instrumentation.defaultName
  | [name] => .ok name
  | names => .error (.conflictingSelection names)

/-- The platforms to inject. Without any inject annotation they are the resource's own. -/
def platforms (annotations : Keyed String) (resource : Instrumentation) : List Platform :=
  let requested := injectAnnotations.filterMap fun a =>
    (annotations.get? a.2).bind fun v => if v = "" then none else some (a.1, v)
  if requested.isEmpty then resource.platforms
  else (requested.filter fun r => !sameName r.2 "false").map Prod.fst

end Graft.Selection
