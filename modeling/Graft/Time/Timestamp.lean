import Graft.Text.Blank
import Graft.Time.Calendar

namespace Graft.Time

/-- A point in time as it stands in object metadata, to the second. `leap` marks the second that is inserted after
`seconds`. -/
structure Timestamp where
  seconds : Int
  leap : Bool
deriving DecidableEq, Repr, Inhabited

namespace Timestamp

open Graft.Text

def digit? (c : Char) : Option Nat := if c.isDigit then some (c.toNat - '0'.toNat) else none

/-- A number of at most `width` digits, at least one, after blanks. -/
def number? (width : Nat) (cs : List Char) : Option (Nat × List Char) :=
  let cs := skipBlanks cs
  let digits := (cs.take width).takeWhile Char.isDigit
  if digits = [] then none
  else some (digits.foldl (fun n c => 10 * n + (c.toNat - '0'.toNat)) 0, cs.drop digits.length)

/-- A year of up to four digits, or of any number of them after a sign. -/
def year? (cs : List Char) : Option (Int × List Char) :=
  match skipBlanks cs with
  | '-' :: rest => do
    let digits := rest.takeWhile Char.isDigit
    let (n, rest) ← number? digits.length rest
    return (-(n : Int), rest)
  | '+' :: rest => do
    let digits := rest.takeWhile Char.isDigit
    let (n, rest) ← number? digits.length rest
    return ((n : Int), rest)
  | cs => (number? 4 cs).map fun (n, rest) => ((n : Int), rest)

/-- A given character after blanks. -/
def mark? (c : Char) (cs : List Char) : Option (List Char) :=
  match skipBlanks cs with
  | d :: rest => if c = d then some rest else none
  | [] => none

/-- A fraction of a second, which is not kept. -/
def skipFraction? : List Char → Option (List Char)
  | '.' :: rest => if (rest.takeWhile Char.isDigit).isEmpty then none else some (rest.dropWhile Char.isDigit)
  | cs => some cs

def twoDigits? : List Char → Option (Nat × List Char)
  | a :: b :: rest => do return (10 * (← digit? a) + (← digit? b), rest)
  | _ => none

/-- The offset of the local time in seconds: `Z`, `UTC`, or a sign, hours and minutes. -/
def offset? (cs : List Char) : Option (Int × List Char) :=
  match cs with
  | 'Z' :: rest => some (0, rest)
  | 'z' :: rest => some (0, rest)
  | a :: b :: c :: rest =>
    if a.toUpper = 'U' ∧ b.toUpper = 'T' ∧ c.toUpper = 'C' then some (0, rest)
    else if a = '+' ∨ a = '-' ∨ a = '\u2212' then do
      let (hours, rest) ← twoDigits? (b :: c :: rest)
      let (minutes, rest) ← twoDigits? (rest.dropWhile fun c => c == ':' || isBlank c)
      if minutes < 60 ∧ hours < 24 then
        let seconds : Int := (hours * 3600 + minutes * 60 : Nat)
        return (if a = '+' then seconds else -seconds, rest)
      else none
    else none
  | _ => none

/-- Years that a date may have, before and after the move to UTC. -/
def yearInRange (year : Int) : Bool := -262143 ≤ year && year ≤ 262142

/-- Reads RFC 3339. A space may stand for the `T`, blanks may stand between the parts, and a number may be
short of digits. -/
def ofText? (text : String) : Option Timestamp := do
  let (year, cs) ← year? text.toList
  let (month, cs) ← number? 2 (← mark? '-' cs)
  let (day, cs) ← number? 2 (← mark? '-' cs)
  let cs ← match cs with
    | 't' :: rest | 'T' :: rest | ' ' :: rest => some rest
    | _ => none
  let (hour, cs) ← number? 2 cs
  let (minute, cs) ← number? 2 (← mark? ':' cs)
  let (second, cs) ← number? 2 (← mark? ':' cs)
  let cs ← skipFraction? cs
  let (offset, cs) ← offset? (skipBlanks cs)
  let date : Date := { year, month, day }
  if skipBlanks cs = [] ∧ date.valid ∧ yearInRange year ∧ hour < 24 ∧ minute < 60 ∧ second ≤ 60 then
    let seconds := unixSeconds date hour minute (min second 59) - offset
    if yearInRange (Date.ofDays (seconds / 86400)).year then some { seconds, leap := second == 60 } else none
  else none

/-- A number in decimal with leading zeros up to a width. -/
def padded (width n : Nat) : List Char :=
  let digits := Nat.toDigits 10 n
  List.replicate (width - digits.length) '0' ++ digits

/-- A year of four digits, or a signed one outside 0 to 9999. -/
def yearChars (year : Int) : List Char :=
  if 0 ≤ year ∧ year ≤ 9999 then padded 4 year.toNat
  else (if year < 0 then '-' else '+') :: padded 4 year.natAbs

/-- The form `2024-01-02T03:04:05Z`. -/
def text (t : Timestamp) : String :=
  let date := Date.ofDays (t.seconds / 86400)
  let second := (t.seconds % 86400).toNat
  String.ofList (yearChars date.year ++ '-' :: padded 2 date.month ++ '-' :: padded 2 date.day
    ++ 'T' :: padded 2 (second / 3600) ++ ':' :: padded 2 (second / 60 % 60)
    ++ ':' :: padded 2 (second % 60 + if t.leap then 1 else 0) ++ ['Z'])

end Timestamp

end Graft.Time
