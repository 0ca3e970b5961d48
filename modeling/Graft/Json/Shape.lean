import Graft.Json.Reader

namespace Graft.Json

/-- What a value looks like. `null` counts as missing in a field of a record; a field that is always written has
the blank value of its shape when it is missing. -/
inductive Shape where
  | atom (read : Reader Json) (blank : Json)
  | list (item : Shape)
  | map (item : Shape)
  | record (fields : List (String × Bool × Shape))

namespace Shape

def text : Shape := .atom (fun d => (Reader.string d).map .str) (.str "")

def flag : Shape := .atom (fun d => (Reader.bool d).map .bool) (.bool false)

def int (low high : Int) : Shape := .atom (fun d => (Reader.int low high d).map .ofInt) (.ofInt 0)

def int32 : Shape := int (-0x80000000) 0x7fffffff

def int64 : Shape := int (-0x8000000000000000) 0x7fffffffffffffff

mutual

/-- The value of a missing field that is always written. -/
def blank : Shape → Json
  | .atom _ blank => blank
  | .list _ => .arr []
  | .map _ => .obj []
  | .record fields => .obj (Keyed.ofList (blankFields fields))

def blankFields : List (String × Bool × Shape) → List (String × Json)
  | [] => []
  | (key, always, shape) :: rest =>
    if always then (key, blank shape) :: blankFields rest else blankFields rest

end

/-- Goes through members; what a field holds in the end is what its last member says. -/
def collect (readers : Keyed (Reader (Option Json))) (closed : Bool) :
    Members → List (Option String × Draft) → Except Fault Members
  | seen, [] => if closed then .ok seen else .error .broken
  | _, (none, _) :: _ => .error .broken
  | seen, (some key, d) :: rest =>
    match readers.get? key with
    | some read => do
      match ← read d with
      | some value => collect readers closed (seen.insert key value) rest
      | none => collect readers closed (seen.erase key) rest
    | none => do
      d.skip
      collect readers closed seen rest

mutual

/-- Reads a value of a shape. The fields that the shape names are kept and all others dropped. -/
def read : Shape → Reader Json
  | .atom read _ => read
  | .list item => fun d => (Reader.list item.read d).map .arr
  | .map item => fun d => (Reader.map item.read d).map .obj
  | .record fields =>
    let readers := fieldReaders fields
    let blanks := Keyed.ofList (blankFields fields)
    fun
      | .obj members closed => (collect readers closed blanks members).map .obj
      | d => Reader.wrongKind d

/-- What a member means for its field: a value, or nothing. -/
def fieldReaders : List (String × Bool × Shape) → Keyed (Reader (Option Json))
  | [] => []
  | (key, always, shape) :: rest =>
    let read := shape.read
    let missing := if always then some shape.blank else none
    (key, fun d => (Reader.optional read d).map fun value => value.orElse fun _ => missing) :: fieldReaders rest

end

end Shape

end Graft.Json
