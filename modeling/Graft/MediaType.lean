namespace Graft

/-- A media type without its parameters, in lower case. -/
structure MediaType where
  type : String
  subtype : String
  /-- What follows the last plus sign of the subtype. -/
  suffix : Option String
deriving DecidableEq, Repr

namespace MediaType

def isTokenChar (c : Char) : Bool := c.isAlphanum || "!#$%&'*+-.^_`|~".toList.contains c

/-- A character of a quoted parameter value. -/
def isQuotedChar (c : Char) : Bool := 0x20 ≤ c.toNat && c.toNat < 0x7f && c != '"'

def skipSpaces (cs : List Char) : List Char := cs.dropWhile (· == ' ')

/-- The value of a parameter; returns what follows it. -/
def skipValue? : List Char → Option (List Char)
  | '"' :: rest =>
    match rest.dropWhile isQuotedChar with
    | '"' :: rest => some (skipSpaces rest)
    | _ => none
  | cs => if (cs.takeWhile isTokenChar).isEmpty then none else some (cs.dropWhile isTokenChar)

/-- Whether a text is a list of parameters, each after a semicolon. The list may end in a semicolon. -/
def soundParameters (fuel : Nat) (cs : List Char) : Bool :=
  match fuel, skipSpaces cs with
  | _, [] => true
  | fuel + 1, ';' :: rest =>
    match skipSpaces rest with
    | [] => true
    | rest =>
      !(rest.takeWhile isTokenChar).isEmpty &&
        match rest.dropWhile isTokenChar with
        | '=' :: rest => match skipValue? rest with
          | some rest => soundParameters fuel rest
          | none => false
        | _ => false
  | _, _ => false

/-- A subtype before its last plus sign, and what follows that; a plus sign in front does not count. -/
def splitSuffix (subtype : List Char) : List Char × Option (List Char) :=
  let suffix := (subtype.reverse.takeWhile (· != '+')).reverse
  let head := subtype.take (subtype.length - suffix.length - 1)
  if subtype.contains '+' && !head.isEmpty then (head, some suffix) else (subtype, none)

/-- Reads a media type, as far as its grammar decides which bodies are JSON. -/
def ofText? (text : String) : Option MediaType :=
  let cs := text.toList
  let type := cs.takeWhile isTokenChar
  match cs.dropWhile isTokenChar with
  | '/' :: rest =>
    let subtype := rest.takeWhile isTokenChar
    if type.isEmpty || subtype.isEmpty then none
    else if soundParameters cs.length (rest.dropWhile isTokenChar) then
      let lower (cs : List Char) := String.ofList (cs.map Char.toLower)
      let (head, suffix) := splitSuffix subtype
      some { type := lower type, subtype := lower head, suffix := suffix.map lower }
    else none
  | _ => none

/-- Whether bodies of the type are JSON. -/
def isJson (m : MediaType) : Bool := m.type == "application" && (m.subtype == "json" || m.suffix == some "json")

end MediaType

end Graft
