import Graft.Error
import Graft.Json.Reader
import Graft.Text.Lowercase

namespace Graft

inductive Platform where
  | dotNet
  | java
  | nodeJs
  | openTelemetry
deriving DecidableEq, Repr, Inhabited

namespace Platform

/-- The canonical name. -/
def name : Platform → String
  | .dotNet => "DotNet"
  | .java => "Java"
  | .nodeJs => "NodeJs"
  | .openTelemetry => "OpenTelemetry"

def all : List Platform := [.dotNet, .java, .nodeJs, .openTelemetry]

/-- The platforms that have an agent. -/
def supported : List Platform := [.dotNet, .java, .nodeJs]

/-- The platform of a name in any letter case. -/
def ofName? (text : String) : Option Platform :=
  all.find? fun p => Text.lowercase p.name == Text.lowercase text

def parse (text : String) : Except Error Platform :=
  match ofName? text with
  | some p => .ok p
  | none => .error (.unsupportedPlatform .parse text)

/-- The exact name of a platform. -/
def read : Json.Reader Platform := Json.Reader.choice (all.map fun p => (p.name, p))

def toJson (p : Platform) : Json := .str p.name

end Platform

end Graft
