import Graft.Convention
import Graft.Json

namespace Graft.Injection

/-- The name of a list entry, if it has one. -/
def entryName? (entry : Json) : Option String := (entry.get? "name").bind Json.str?

/-- Whether an entry has a given name. -/
def named (name : String) (entry : Json) : Bool := entryName? entry == some name

/-- An entry under another name. -/
def rename (name : String) : Json → Json
  | .obj members => .obj (Keyed.insert "name" (.str name) members)
  | entry => entry

/-- Puts other entries in the place of the first one that has a name. -/
def expandFirst (name : String) (f : Json → List Json) : List Json → List Json
  | [] => []
  | entry :: rest => if named name entry then f entry ++ rest else entry :: expandFirst name f rest

namespace Env

/-- Sets a variable. An entry of its name is kept immediately before it as a backup, in place of any earlier backup.
Entries without a name are passed over. -/
def set (env : List Json) (name : String) (value : Json) : List Json :=
  if env.any (named name) then
    expandFirst name (fun entry => [rename (Convention.backupName name) entry, value])
      (env.filter fun entry => !named (Convention.backupName name) entry)
  else env ++ [value]

/-- Puts a backup before a variable that keeps its value, unless there is one. -/
def preserve (env : List Json) (name : String) : List Json :=
  if env.any (named (Convention.backupName name)) then env
  else expandFirst name (fun entry => [rename (Convention.backupName name) entry, entry]) env

/-- Undoes `set` and `preserve`: a backup takes the place of the variable. A variable without a backup is
one that was set where there was none, so it is removed from an injected list. -/
def restore (injected : Bool) (env : List Json) (name : String) : List Json :=
  if env.any (named name) then
    match env.find? (named (Convention.backupName name)) with
    | some backup =>
      expandFirst name (fun _ => [rename name backup]) (env.eraseP (named (Convention.backupName name)))
    | none => if injected then env.eraseP (named name) else env
  else env

end Env

end Graft.Injection
