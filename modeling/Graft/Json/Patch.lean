import Graft.Json.Pointer

namespace Graft.Json

/-- One operation of a JSON Patch. -/
inductive Operation where
  | add (path : Pointer) (value : Json)
  | remove (path : Pointer)
  | replace (path : Pointer) (value : Json)
  | move (source : Pointer) (path : Pointer)
  | copy (source : Pointer) (path : Pointer)
  | test (path : Pointer) (value : Json)
deriving DecidableEq, Inhabited

/-- A JSON Patch (RFC 6902), its operations in order. -/
abbrev Patch := List Operation

namespace Operation

/-- Adds a value under the last token of a path: a member is set, an item is inserted before the position,
and `-` stands for the end of an array. -/
def addChild? (token : String) (value : Json) : Json → Option Json
  | .obj members => some (.obj (Keyed.insert token value members))
  | .arr items =>
    if token = "-" then some (.arr (items ++ [value]))
    else (Pointer.index? token (items.length + 1)).map fun i => .arr (items.insertIdx i value)
  | _ => none

/-- Removes a member or an item that exists. -/
def removeChild? (token : String) : Json → Option Json
  | .obj members => if Keyed.contains token members then some (.obj (Keyed.erase token members)) else none
  | .arr items => (Pointer.index? token items.length).map fun i => .arr (items.eraseIdx i)
  | _ => none

def addAt? (path : Pointer) (value : Json) (doc : Json) : Option Json :=
  match path.tokens.getLast? with
  | none => some value
  | some last => Pointer.updateAt? (addChild? last value) path.tokens.dropLast doc

/-- The whole value cannot be removed. -/
def removeAt? (path : Pointer) (doc : Json) : Option Json :=
  match path.tokens.getLast? with
  | none => none
  | some last => Pointer.updateAt? (removeChild? last) path.tokens.dropLast doc

/-- The value that an operation makes of another, `none` if it does not apply. -/
def perform? (doc : Json) : Operation → Option Json
  | .add path value => addAt? path value doc
  | .remove path => removeAt? path doc
  | .replace path value => Pointer.updateAt? (fun _ => some value) path.tokens doc
  | .move source path =>
    if path.within source then none
    else do
      let value ← source.get? doc
      addAt? path value (← removeAt? source doc)
  | .copy source path => do addAt? path (← source.get? doc) doc
  | .test path value => do
    let found ← path.get? doc
    if found.same value then some doc else none

def toJson : Operation → Json
  | .add path value => .obj [("op", .str "add"), ("path", .str path.text), ("value", value)]
  | .remove path => .obj [("op", .str "remove"), ("path", .str path.text)]
  | .replace path value => .obj [("op", .str "replace"), ("path", .str path.text), ("value", value)]
  | .move source path => .obj [("from", .str source.text), ("op", .str "move"), ("path", .str path.text)]
  | .copy source path => .obj [("from", .str source.text), ("op", .str "copy"), ("path", .str path.text)]
  | .test path value => .obj [("op", .str "test"), ("path", .str path.text), ("value", value)]

/-- An operation as an object, or as an array of its name and its fields in order. Other members are not
looked at. -/
def ofJson? (j : Json) : Option Operation := do
  let pointer? (j : Json) : Option Pointer := j.str?.bind Pointer.ofText?
  match j with
  | .obj members =>
    let path := (Keyed.get? "path" members).bind pointer?
    let source := (Keyed.get? "from" members).bind pointer?
    let value := Keyed.get? "value" members
    match ← (← Keyed.get? "op" members).str? with
    | "add" => return .add (← path) (← value)
    | "remove" => return .remove (← path)
    | "replace" => return .replace (← path) (← value)
    | "move" => return .move (← source) (← path)
    | "copy" => return .copy (← source) (← path)
    | "test" => return .test (← path) (← value)
    | _ => none
  | .arr [.str "add", path, value] => return .add (← pointer? path) value
  | .arr [.str "remove", path] => return .remove (← pointer? path)
  | .arr [.str "replace", path, value] => return .replace (← pointer? path) value
  | .arr [.str "move", source, path] => return .move (← pointer? source) (← pointer? path)
  | .arr [.str "copy", source, path] => return .copy (← pointer? source) (← pointer? path)
  | .arr [.str "test", path, value] => return .test (← pointer? path) value
  | _ => none

end Operation

namespace Patch

/-- Applies the operations in order, each to the result of those before it. -/
def perform? (patch : Patch) (doc : Json) : Option Json := patch.foldlM Operation.perform? doc

def toJson (patch : Patch) : Json := .arr (patch.map Operation.toJson)

def ofJson? (j : Json) : Option Patch := do (← j.arr?).mapM Operation.ofJson?

end Patch

end Graft.Json
