import Graft.Json.Draft

namespace Graft.Json

/-- Reads a value of a type from a draft. A reader goes through the draft in the order of its text, so of several faults
the first one counts. -/
abbrev Reader (α : Type) := Draft → Except Fault α

namespace Reader

/-- The fault of a value of the wrong kind; one that has no value at all is broken text. -/
def wrongKind {α : Type} : Reader α
  | .unreadable => .error .broken
  | .broken => .error .broken
  | _ => .error .misfit

def string : Reader String
  | .str value => .ok value
  | d => wrongKind d

/-- One fixed text. -/
def constant (expected : String) : Reader Unit := fun d => do
  if (← string d) = expected then .ok () else .error .misfit

def bool : Reader Bool
  | .bool value => .ok value
  | d => wrongKind d

def null : Reader Unit
  | .null => .ok ()
  | d => wrongKind d

/-- An integer within bounds. -/
def int (low high : Int) : Reader Int
  | .num (.int value) => if low ≤ value ∧ value ≤ high then .ok value else .error .misfit
  | d => wrongKind d

def int64 : Reader Int := int (-0x8000000000000000) 0x7fffffffffffffff

/-- Any value; its objects come out sorted. -/
def value : Reader Json := fun d => d.value?.map canonical

/-- `null` stands for no value. -/
def optional {α : Type} (read : Reader α) : Reader (Option α)
  | .null => .ok none
  | d => (read d).map some

def list {α : Type} (read : Reader α) : Reader (List α)
  | .arr items closed => do
    let values ← items.mapM read
    if closed then .ok values else .error .broken
  | d => wrongKind d

/-- A field of a map. -/
def entry {α : Type} (read : Reader α) : Option String × Draft → Except Fault (String × α)
  | (none, _) => .error .broken
  | (some key, d) => (read d).map fun v => (key, v)

/-- A map from names; the last value of a name counts. -/
def map {α : Type} (read : Reader α) : Reader (Keyed α)
  | .obj members closed => do
    let entries ← members.mapM (entry read)
    if closed then .ok (Keyed.ofList entries) else .error .broken
  | d => wrongKind d

/-- A reader that only tests. -/
abbrev Check := Draft → Except Fault Unit

def check {α : Type} (read : Reader α) : Check := fun d => (read d).map fun _ => ()

/-- The value of a choice by its name. -/
def named {α : Type} (choices : List (String × α)) (name : String) : Except Fault α :=
  match Keyed.get? name choices with
  | some value => .ok value
  | none => .error .misfit

/-- One of several named choices: the name, or an object that gives the name the value `null`. Text that
starts neither is not looked at. -/
def choice {α : Type} (choices : List (String × α)) : Reader α
  | .str name => named choices name
  | .obj [(some name, d)] closed => do
    let value ← named choices name
    null d
    if closed then .ok value else .error .broken
  | .obj ((some name, d) :: _) _ => do
    let _ ← named choices name
    null d
    .error .broken
  | _ => .error .broken

/-- Reads a whole text. Text after the value is a fault, but one in the value comes first. -/
def ofText {α : Type} (read : Reader α) (text : String) : Except Fault α := do
  let reading := Draft.ofText text
  let value ← read reading.draft
  if reading.trailing then throw .broken
  return value

end Reader

/-- The known fields of a structure. `positional` tells that they were given as an array, where a field is
left out only at the end and only if it has a default. -/
structure Record where
  fields : Keyed Draft
  positional : Bool

namespace Record

open Reader

/-- Goes through the members of a record that refuses repeated fields. -/
def takeMembers (schema : Keyed Check) (closed : Bool) :
    Keyed Draft → List (Option String × Draft) → Except Fault (Keyed Draft)
  | seen, [] => if closed then .ok seen else .error .broken
  | _, (none, _) :: _ => .error .broken
  | seen, (some key, d) :: rest =>
    match schema.get? key with
    | some test =>
      if seen.contains key then .error .misfit
      else do
        test d
        takeMembers schema closed (seen.insert key d) rest
    | none => do
      d.skip
      takeMembers schema closed seen rest

/-- Goes through the members of a lenient structure. -/
def takeLenient (schema : Keyed Check) (closed : Bool) :
    Keyed Draft → List (Option String × Draft) → Except Fault (Keyed Draft)
  | seen, [] => if closed then .ok seen else .error .broken
  | _, (none, _) :: _ => .error .broken
  | seen, (some key, d) :: rest =>
    match schema.get? key with
    | some test => do
      test d
      takeLenient schema closed (seen.insert key d) rest
    | none => do
      d.skip
      takeLenient schema closed seen rest

/-- Goes through the items that stand for the fields in their order. -/
def takeItems (closed : Bool) : Keyed Draft → Keyed Check → List Draft → Except Fault (Keyed Draft)
  | seen, _, [] => if closed then .ok seen else .error .broken
  | _, [], _ :: _ => .error .broken
  | seen, (key, test) :: schema, d :: rest => do
    test d
    takeItems closed (seen.insert key d) schema rest

/-- Goes through the members of a record that keeps the members it has no field for, in their order. -/
def takeOpen (schema : Keyed Check) (closed : Bool) :
    Keyed Draft → List (String × Json) → List (Option String × Draft) →
      Except Fault (Keyed Draft × List (String × Json))
  | seen, others, [] => if closed then .ok (seen, others.reverse) else .error .broken
  | _, _, (none, _) :: _ => .error .broken
  | seen, others, (some key, d) :: rest =>
    match schema.get? key with
    | some test =>
      if seen.contains key then .error .misfit
      else do
        test d
        takeOpen schema closed (seen.insert key d) others rest
    | none => do
      let value ← d.value?
      takeOpen schema closed seen ((key, value) :: others) rest

/-- A record with the fields of a schema, in the order of their declaration. It refuses a field that stands twice and
may also be written as an array of its fields; fields that are not named are passed over. -/
def read (schema : Keyed Check) : Reader Record
  | .obj members closed => (takeMembers schema closed [] members).map fun fields => ⟨fields, false⟩
  | .arr items closed => (takeItems closed [] schema items).map fun fields => ⟨fields, true⟩
  | d => wrongKind d

/-- A structure that lets the last field of a name count and is always an object. -/
def readLenient (schema : Keyed Check) : Reader Record
  | .obj members closed => (takeLenient schema closed [] members).map fun fields => ⟨fields, false⟩
  | d => wrongKind d

/-- A record that also keeps the members it has no field for. It is always an object. -/
def readOpen (schema : Keyed Check) : Reader (Record × List (String × Json))
  | .obj members closed => (takeOpen schema closed [] [] members).map fun (fields, others) =>
      (⟨fields, false⟩, others)
  | d => wrongKind d

def required {α : Type} (r : Record) (key : String) (read : Reader α) : Except Fault α :=
  match r.fields.get? key with
  | some d => read d
  | none => .error .misfit

/-- A field with a default. -/
def orElse {α : Type} (r : Record) (key : String) (read : Reader α) (default : α) : Except Fault α :=
  match r.fields.get? key with
  | some d => read d
  | none => .ok default

/-- A field that may be `null` or missing. -/
def optional {α : Type} (r : Record) (key : String) (read : Reader α) : Except Fault (Option α) :=
  r.orElse key (Reader.optional read) none

/-- A field that may be `null`, and missing from an object but not from an array. -/
def nullable {α : Type} (r : Record) (key : String) (read : Reader α) : Except Fault (Option α) :=
  if r.positional then r.required key (Reader.optional read) else r.optional key read

end Record

/-- An object of the fields that have a value. -/
def ofFields (fields : List (String × Option Json)) : Json :=
  mkObj (fields.filterMap fun f => f.2.map fun v => (f.1, v))

end Graft.Json
