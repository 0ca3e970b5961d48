import Graft.Text.Base64
import Graft.Text.Blank
import Graft.Text.Split

namespace Graft

structure Pem where
  label : String
  contents : List UInt8
deriving DecidableEq, Repr, Inhabited

namespace Pem

/-- Looks for a mark of which `pending` is still to come, with the characters passed so far, the last one first.
A character that does not fit is passed together with all that had fitted before it. Returns what stands before
the mark and what stands after it. -/
def seekFrom (mark : List Char) : (pending passed cs : List Char) → Option (List Char × List Char)
  | [], passed, cs => some ((passed.drop mark.length).reverse, cs)
  | _ :: _, _, [] => none
  | next :: pending, passed, c :: cs =>
    if c = next then seekFrom mark pending (c :: passed) cs else seekFrom mark mark (c :: passed) cs

/-- Cuts a text at a mark. -/
def seek (mark : String) (cs : List Char) : Option (List Char × List Char) := seekFrom mark.toList mark.toList [] cs

def skipSpace (cs : List Char) : List Char :=
  cs.dropWhile fun c => c == ' ' || c == '\t' || c == '\n' || c == '\r'

/-- Headers and what follows them. -/
def splitHeaders (body : List Char) : List Char × List Char :=
  ((seek "\n\n" body).orElse fun _ => seek "\r\n\r\n" body).getD ([], body)

/-- Every header line has a colon. -/
def headersFit (headers : List Char) : Bool :=
  let lines := match (Text.split '\n' headers).reverse with
    | [] :: lines => lines
    | lines => lines
  lines.all fun line => line.contains ':'

/-- The first block of a text. Anything may stand before it and after it, header lines may stand in it before a blank
line, and blanks in its data do not count. -/
def parse? (text : String) : Option Pem := do
  let (_, cs) ← seek "-----BEGIN " text.toList
  let (label, cs) ← seek "-----" cs
  let (body, cs) ← seek "-----END " (skipSpace cs)
  let (label', _) ← seek "-----" cs
  let (headers, data) := splitHeaders body
  if label ≠ [] ∧ label = label' ∧ headersFit headers then
    let contents ← Text.Base64.decode? (data.filter fun c => !Text.isBlank c)
    return { label := String.ofList label, contents }
  else none

/-- Characters in lines of a width, with `room` characters left in the first of them. -/
def wrapped (width : Nat) : (room : Nat) → List Char → List Char
  | _, [] => []
  | 0, c :: cs => '\n' :: c :: wrapped width (width - 1) cs
  | room + 1, c :: cs => c :: wrapped width room cs

/-- The block in lines of 64 characters. -/
def text (p : Pem) : String :=
  "-----BEGIN " ++ p.label ++ "-----\n" ++ String.ofList (wrapped 64 64 (Text.Base64.encode p.contents))
    ++ "\n-----END " ++ p.label ++ "-----\n"

end Pem

end Graft
