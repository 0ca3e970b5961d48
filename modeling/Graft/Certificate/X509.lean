import Graft.Pem
import Graft.Signature
import Graft.Certificate.Error
import Graft.Text.Utf8
import Graft.Time.Calendar

namespace Graft.Certificate

open Der (Element)

/-- A part of a name: what it tells, and the element that tells it. -/
structure Attribute where
  kind : List UInt8
  value : Element
deriving DecidableEq, Repr

/-- The text of an attribute, if it is of a form whose bytes are UTF-8. -/
def Attribute.text? (a : Attribute) : Option String :=
  if a.value.tag ∈ [Der.Tag.numericString, Der.Tag.printableString, Der.Tag.utf8String, Der.Tag.ia5String] then
    Text.Utf8.decode? a.value.contents
  else none

/-- The identifier of the common name. -/
def commonNameArcs : List Nat := [2, 5, 4, 3]

/-- A certificate. Times are in seconds since the start of 1970. -/
structure X509 where
  /-- The bytes that the signature covers. -/
  signed : List UInt8
  notBefore : Int
  notAfter : Int
  subject : List Attribute
  /-- The subject as it is written. -/
  subjectBytes : List UInt8
  publicKey : PublicKeyInfo
  algorithm : AlgorithmId
  signature : List UInt8
deriving DecidableEq, Repr

namespace X509

/-- A number of two digits, and the characters after it. -/
def twoDigits? : List UInt8 → Option (Nat × List UInt8)
  | a :: b :: rest =>
    if 48 ≤ a.toNat ∧ a.toNat ≤ 57 ∧ 48 ≤ b.toNat ∧ b.toNat ≤ 57 then
      some (10 * (a.toNat - 48) + (b.toNat - 48), rest)
    else none
  | _ => none

/-- Two digits, or zero if less than two characters are left. -/
def twoDigitsOrZero? (cs : List UInt8) : Option (Nat × List UInt8) :=
  if 2 ≤ cs.length then twoDigits? cs else some (0, cs)

/-- The offset of the local time in seconds: `Z`, or a sign, hours and minutes. -/
def offset? : List UInt8 → Option Int
  | [90] => some 0
  | sign :: cs => do
    let (hours, cs) ← twoDigits? cs
    let (minutes, cs) ← twoDigits? cs
    let seconds : Int := (hours * 3600 + minutes * 60 : Nat)
    if cs ≠ [] ∨ 25 < hours ∨ 59 < minutes then none
    else if sign = 43 then some seconds
    else if sign = 45 then some (-seconds)
    else none
  | [] => none

/-- The point in time of a date and a time of day, if there is such a date. -/
def moment? (year : Int) (month day hour minute second : Nat) : Option Int :=
  let date : Time.Date := { year, month, day }
  if date.valid ∧ hour < 24 ∧ minute < 60 ∧ second < 60 then some (Time.unixSeconds date hour minute second) else none

/-- The short form of a time, whose years lie between 1950 and 2049. -/
def shortTime? (cs : List UInt8) : Option Int := do
  let (year, cs) ← twoDigits? cs
  let (month, cs) ← twoDigits? cs
  let (day, cs) ← twoDigits? cs
  let (hour, cs) ← twoDigits? cs
  let (minute, cs) ← twoDigits? cs
  let (second, cs) ← twoDigitsOrZero? cs
  let year : Int := if year < 50 then 2000 + year else 1900 + year
  return (← moment? year month day hour minute second) - (← offset? cs)

/-- Passes the fraction of a second, of up to three digits. -/
def skipFraction? : List UInt8 → Option (List UInt8)
  | 46 :: cs =>
    let digits := cs.takeWhile fun c => decide (48 ≤ c.toNat ∧ c.toNat ≤ 57)
    if digits.length ≤ 3 then some (cs.drop digits.length) else none
  | cs => some cs

/-- The long form of a time, always in UTC. -/
def longTime? (cs : List UInt8) : Option Int := do
  let (century, cs) ← twoDigits? cs
  let (year, cs) ← twoDigits? cs
  let (month, cs) ← twoDigits? cs
  let (day, cs) ← twoDigits? cs
  let (hour, cs) ← twoDigits? cs
  let (minute, cs) ← twoDigitsOrZero? cs
  let (second, cs) ← twoDigitsOrZero? cs
  let cs ← skipFraction? cs
  if cs = [90] then moment? (100 * century + year : Nat) month day hour minute second else none

def readTime : Der.Reader Int := do
  let e ← Der.element
  if e.tag = Der.Tag.utcTime then shortTime? e.contents
  else if e.tag = Der.Tag.generalizedTime then longTime? e.contents
  else failure

def readAttribute : Der.Reader Attribute := Der.inside Der.Tag.sequence do
  return { kind := ← Der.expect Der.element Der.Tag.oid, value := ← Der.element }

/-- One level of a name: at least one attribute. -/
def readLevel : Der.Reader (List Attribute) := Der.inside Der.Tag.set do
  let attributes ← Der.many readAttribute
  if attributes = [] then failure else return attributes

def readName : Der.Reader (List Attribute) := Der.inside Der.Tag.sequence do
  return (← Der.many readLevel).flatten

/-- An extension is only checked for its form. -/
def readExtension : Der.Reader Unit := Der.inside Der.Tag.sequence do
  let _ ← Der.expect Der.element Der.Tag.oid
  if ← Der.startsWith Der.Tag.boolean then
    let _ ← Der.element
  let _ ← Der.expect Der.element Der.Tag.octetString

/-- Extensions, if there are any, close what is signed. -/
def readExtensions : Der.Reader Unit := do
  if ← Der.atEnd then return ()
  let wrapped ← Der.expect Der.element (Der.Tag.wrapped 3)
  let list ← Der.whole (Der.expect Der.element Der.Tag.sequence) wrapped
  let _ ← Der.whole (Der.many readExtension) list
  if ← Der.atEnd then return () else failure

/-- Passes an element that need not be there. -/
def skip (tag : UInt8) : Der.Reader Unit := do
  if ← Der.startsWith tag then
    let _ ← Der.element

/-- A value with the bytes it was read from. -/
def withBytes {α : Type} (read : Der.Reader α) : Der.Reader (α × List UInt8) := fun input => do
  let (value, rest) ← read input
  return ((value, input.take (input.length - rest.length)), rest)

/-- The signed part. What follows it is not known yet. -/
def readSigned : Der.Reader X509 := Der.inside Der.Tag.sequence do
  if ← Der.startsWith (Der.Tag.wrapped 0) then
    let _ ← Der.whole (Der.expect Der.element Der.Tag.integer) (← Der.expect Der.element (Der.Tag.wrapped 0))
  let _ ← Der.expect Der.element Der.Tag.integer
  let algorithm ← AlgorithmId.read
  let _ ← readName
  let (notBefore, notAfter) ← Der.inside Der.Tag.sequence do return (← readTime, ← readTime)
  let (subject, subjectBytes) ← withBytes readName
  let publicKey ← PublicKeyInfo.read
  skip (Der.Tag.numbered 1)
  skip (Der.Tag.numbered 2)
  readExtensions
  return { signed := [], notBefore, notAfter, subject, subjectBytes, publicKey, algorithm, signature := [] }

def read : Der.Reader X509 := Der.inside Der.Tag.sequence do
  let (certificate, signed) ← withBytes readSigned
  let algorithm ← AlgorithmId.read
  let signature ← Der.bits (← Der.expect Der.element Der.Tag.bitString)
  return { certificate with signed, algorithm, signature }

/-- Reads a certificate; bytes after it do not count. -/
def ofBytes? (bytes : List UInt8) : Option X509 := Der.front read bytes

/-- Reads a certificate from PEM. `part` names it in a complaint. -/
def ofText (part : Part) (text : String) : Except Error X509 :=
  match Pem.parse? text with
  | none => .error (.unreadable .pem)
  | some block =>
    match ofBytes? block.contents with
    | none => .error (.unreadable part)
    | some certificate => .ok certificate

/-- The first common name, or nothing if it is no readable text. -/
def commonName (c : X509) : String :=
  ((c.subject.find? fun a => a.kind == Der.oidContents commonNameArcs).bind Attribute.text?).getD ""

/-- Whether the certificate was signed with the secret of another one's public key. -/
def isSignedBy (c authority : X509) : Bool := Signature.verify c.algorithm authority.publicKey c.signed c.signature

/-- Less than so many days are left at a time before the certificate expires. -/
def expiresWithin (c : X509) (now days : Int) : Bool := c.notAfter - now < days * 86400

end X509

/-- Whether a certificate given in PEM was signed by the authority of another. -/
def isSignedBy (cert caCert : String) : Except Error Bool := do
  let certificate ← X509.ofText .certificate cert
  let authority ← X509.ofText .caCertificate caCert
  return certificate.isSignedBy authority

end Graft.Certificate
