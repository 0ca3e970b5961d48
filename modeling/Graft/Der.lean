import Graft.Octets

namespace Graft.Der

/-- An element of DER, a value as a tag, a length and contents. The tag is the one byte that identifies it. -/
structure Element where
  tag : UInt8
  contents : List UInt8
deriving DecidableEq, Repr, Inhabited

namespace Tag

def boolean : UInt8 := 0x01

def integer : UInt8 := 0x02

def bitString : UInt8 := 0x03

def octetString : UInt8 := 0x04

def null : UInt8 := 0x05

def oid : UInt8 := 0x06

def utf8String : UInt8 := 0x0c

def numericString : UInt8 := 0x12

def printableString : UInt8 := 0x13

def ia5String : UInt8 := 0x16

def utcTime : UInt8 := 0x17

def generalizedTime : UInt8 := 0x18

def sequence : UInt8 := 0x30

def set : UInt8 := 0x31

/-- A numbered part that wraps another element, or is itself made of elements. -/
def wrapped (n : Nat) : UInt8 := UInt8.ofNat (0xa0 + n)

/-- A numbered part that holds bytes. -/
def numbered (n : Nat) : UInt8 := UInt8.ofNat (0x80 + n)

end Tag

/-- A length in as few bytes as possible. -/
def lengthBytes (n : Nat) : List UInt8 :=
  if n < 128 then [UInt8.ofNat n] else UInt8.ofNat (128 + Octets.width n) :: Octets.digits n

def Element.bytes (e : Element) : List UInt8 := e.tag :: lengthBytes e.contents.length ++ e.contents

/-- Work on bytes that takes some of them from the front. -/
abbrev Reader := StateT (List UInt8) Option

/-- As many bytes as a number says. -/
def take (n : Nat) : Reader (List UInt8) := fun input =>
  if n ≤ input.length then some (input.take n, input.drop n) else none

/-- A length of any form but the indefinite one. -/
def readLength : Reader Nat := fun
  | [] => none
  | first :: input =>
    if first.toNat < 128 then some (first.toNat, input)
    else if first = 128 ∨ first = 255 then none
    else (take (first.toNat - 128) input).map fun (bytes, input) => (Octets.toNat bytes, input)

/-- The next element. Its tag must be a single byte. -/
def element : Reader Element := fun
  | [] => none
  | tag :: input => do
    let (n, input) ← readLength input
    let (contents, input) ← take n input
    if tag.toNat % 32 = 31 then none else some ({ tag, contents }, input)

/-- The next element, which must have the shortest length. -/
def canonical : Reader Element := fun input => do
  let (e, rest) ← element input
  if e.bytes ++ rest = input then some (e, rest) else none

/-- The contents of the next element, which must have a tag. -/
def expect (next : Reader Element) (tag : UInt8) : Reader (List UInt8) := do
  let e ← next
  if e.tag = tag then return e.contents else failure

/-- Reads all bytes. -/
def whole {α : Type} (read : Reader α) (bytes : List UInt8) : Option α :=
  match read bytes with
  | some (value, []) => some value
  | _ => none

/-- Reads a front part of the bytes and lets the rest be. -/
def front {α : Type} (read : Reader α) (bytes : List UInt8) : Option α := (read bytes).map Prod.fst

/-- Reads the contents of an element with a tag; they may hold more. -/
def inside {α : Type} (tag : UInt8) (read : Reader α) : Reader α := do
  front read (← expect element tag)

/-- Reads the contents of an element with a tag, written in the shortest form, and all of them. -/
def filling {α : Type} (tag : UInt8) (read : Reader α) : Reader α := do
  whole read (← expect canonical tag)

/-- Whether the next element has a tag. -/
def startsWith (tag : UInt8) : Reader Bool := fun input => some (input.head? == some tag, input)

def atEnd : Reader Bool := fun input => some (input.isEmpty, input)

/-- At most `n` values, up to the first that cannot be read. -/
def atMost {α : Type} (read : Reader α) : (n : Nat) → List UInt8 → List α × List UInt8
  | 0, input => ([], input)
  | n + 1, input =>
    match read input with
    | some (value, input) =>
      let (values, input) := atMost read n input
      (value :: values, input)
    | none => ([], input)

/-- Values up to the first that cannot be read. Each is taken to need at least one byte. -/
def many {α : Type} (read : Reader α) : Reader (List α) := fun input => some (atMost read input.length input)

/-- A bit string as bytes. Bits that are not used must be zero. -/
def bits (contents : List UInt8) : Option (List UInt8) :=
  match contents with
  | [] => none
  | unused :: bytes =>
    if unused.toNat < 8 ∧ (bytes.getLast?.getD 0).toNat % Nat.pow 2 unused.toNat = 0 ∧ (unused = 0 ∨ bytes ≠ []) then
      some bytes
    else none

/-- A bit string of whole bytes. -/
def wholeBits (contents : List UInt8) : Option (List UInt8) :=
  match contents with
  | unused :: bytes => if unused = 0 then some bytes else none
  | [] => none

/-- A natural number in the shortest form. -/
def natural : Reader Nat := do
  match ← expect canonical Tag.integer with
  | [] => failure
  | [b] => if b.toNat < 128 then return b.toNat else failure
  | b :: c :: rest =>
    if b.toNat < 128 ∧ (b ≠ 0 ∨ 128 ≤ c.toNat) then return Octets.toNat (b :: c :: rest) else failure

/-- The bytes of an element around parts. -/
def build (tag : UInt8) (parts : List (List UInt8)) : List UInt8 := (Element.mk tag parts.flatten).bytes

def sequence (parts : List (List UInt8)) : List UInt8 := build Tag.sequence parts

/-- A natural number. A zero byte keeps its first bit from being taken for a sign. -/
def integer (n : Nat) : List UInt8 :=
  let digits := Octets.digits n
  build Tag.integer [if digits = [] ∨ 128 ≤ (digits.headD 0).toNat then 0 :: digits else digits]

def bitString (bytes : List UInt8) : List UInt8 := build Tag.bitString [0 :: bytes]

def octetString (bytes : List UInt8) : List UInt8 := build Tag.octetString [bytes]

/-- Groups of seven bits of a number, each marked as not the last. -/
def leadingGroups : (count n : Nat) → List UInt8
  | 0, _ => []
  | count + 1, n => leadingGroups count (n / 128) ++ [UInt8.ofNat (128 + n % 128)]

/-- An arc of an object identifier. -/
def arcBytes (n : Nat) : List UInt8 := leadingGroups (Nat.log2 n / 7) (n / 128) ++ [UInt8.ofNat (n % 128)]

/-- The contents of an object identifier. The first two arcs share a number. -/
def oidContents : List Nat → List UInt8
  | first :: second :: rest => arcBytes (40 * first + second) ++ rest.flatMap arcBytes
  | _ => []

def oid (arcs : List Nat) : List UInt8 := build Tag.oid [oidContents arcs]

end Graft.Der
