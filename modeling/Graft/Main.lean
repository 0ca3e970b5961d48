import Graft.CommandLine
import Graft.Json.Yaml

namespace Graft

open CommandLine

/-- Shows an outcome and returns the exit code. -/
def present : Outcome → IO UInt32
  | .text stdout => do
    IO.print stdout
    return 0
  | .document content => do
    IO.print content.yaml
    return 0
  | .failed failure => do
    IO.eprintln ("Error: " ++ failure.message)
    return 1
  | .job .. => do return 1
  | .misused => do
    IO.eprint (helpText fun _ => none)
    return 2

end Graft

/-- The program on a machine without a way to the API server: it answers for itself, and reports why a job cannot
begin. -/
def main (args : List String) : IO UInt32 := do
  let set ← Graft.CommandLine.environment.mapM fun name => do return (name, ← IO.getEnv name)
  let env (name : String) : Option String := (set.find? (·.1 == name)).bind Prod.snd
  Graft.present (Graft.CommandLine.run args env).offline
