import Graft.Json.Printer

namespace Graft.Json

def indentation (depth : Nat) : List Char := '\n' :: List.replicate (2 * depth) ' '

mutual

/-- A value after a name: on the same line if it has one line only. -/
def yamlChars (depth : Nat) : Json → List Char
  | .arr (item :: rest) => yamlItems depth (item :: rest)
  | .obj (member :: rest) => yamlMembers depth (member :: rest)
  | value => ' ' :: value.chars

def yamlItems (depth : Nat) : List Json → List Char
  | [] => []
  | item :: rest => indentation depth ++ '-' :: yamlChars (depth + 1) item ++ yamlItems depth rest

def yamlMembers (depth : Nat) : List (String × Json) → List Char
  | [] => []
  | (key, value) :: rest =>
    indentation depth ++ quote key ++ ':' :: yamlChars (depth + 1) value ++ yamlMembers depth rest

end

/-- The text of a document: one member or item a line, nested ones indented by two, and texts in quotes. -/
def yaml (value : Json) : String := String.ofList ("---".toList ++ value.yamlChars 0 ++ ['\n'])

end Graft.Json
