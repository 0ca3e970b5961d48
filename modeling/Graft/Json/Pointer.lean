import Graft.Json
import Graft.Text.Split

namespace Graft.Json

/-- A JSON Pointer (RFC 6901) as its reference tokens, unescaped. -/
structure Pointer where
  tokens : List String
deriving DecidableEq, Repr, Inhabited

namespace Pointer

/-- In a token, `~` is written `~0` and `/` is written `~1`. -/
def escapeToken : List Char → List Char
  | [] => []
  | c :: rest =>
    if c = '~' then '~' :: '0' :: escapeToken rest
    else if c = '/' then '~' :: '1' :: escapeToken rest
    else c :: escapeToken rest

/-- Refuses a `~` that starts neither escape. -/
def unescapeToken? : List Char → Option (List Char)
  | [] => some []
  | '~' :: '0' :: rest => (unescapeToken? rest).map ('~' :: ·)
  | '~' :: '1' :: rest => (unescapeToken? rest).map ('/' :: ·)
  | c :: rest => if c = '~' then none else (unescapeToken? rest).map (c :: ·)

def text (p : Pointer) : String :=
  String.ofList (p.tokens.flatMap fun t => '/' :: escapeToken t.toList)

/-- The empty text refers to the whole value; any other starts with a slash. -/
def ofText? (text : String) : Option Pointer :=
  match text.toList with
  | [] => some ⟨[]⟩
  | '/' :: rest => ((Text.split '/' rest).mapM fun t => (unescapeToken? t).map String.ofList).map Pointer.mk
  | _ => none

/-- A position below `count` in decimal without leading zeros. -/
def index? (token : String) (count : Nat) : Option Nat :=
  let digits := token.toList
  if digits ≠ [] ∧ digits.all (fun c => '0' ≤ c ∧ c ≤ '9') ∧ (digits.head? ≠ some '0' ∨ digits.length = 1) then
    let n := digits.foldl (fun n c => 10 * n + (c.toNat - '0'.toNat)) 0
    if n < count then some n else none
  else none

/-- The member or item that a token names. -/
def child? (token : String) : Json → Option Json
  | .obj members => Keyed.get? token members
  | .arr items => (index? token items.length).bind fun i => items[i]?
  | _ => none

def setChild (token : String) (value : Json) : Json → Json
  | .obj members => .obj (Keyed.insert token value members)
  | .arr items => match index? token items.length with
    | some i => .arr (items.set i value)
    | none => .arr items
  | other => other

def getAt? : List String → Json → Option Json
  | [], value => some value
  | token :: rest, value => (child? token value).bind (getAt? rest)

/-- Replaces the value at a place by what `f` makes of it. -/
def updateAt? (f : Json → Option Json) : List String → Json → Option Json
  | [], value => f value
  | token :: rest, value => do
    let inner ← child? token value
    let inner ← updateAt? f rest inner
    return setChild token inner value

def get? (p : Pointer) (value : Json) : Option Json := getAt? p.tokens value

/-- Whether `p` refers to a place strictly inside that of `outer`. -/
def within (p outer : Pointer) : Bool :=
  outer.tokens.isPrefixOf p.tokens && p.tokens.length != outer.tokens.length

end Pointer

end Graft.Json
