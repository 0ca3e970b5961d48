import Graft.Certificate.X509
import Graft.PrivateKey
import Graft.Text.Utf8
import Graft.Time.Timestamp

namespace Graft.Certificate

/-- What a certificate is to say. -/
structure Draft where
  commonName : String
  /-- The names under which a server can be reached. -/
  names : List String := []
  isAuthority : Bool
deriving DecidableEq, Repr

namespace Draft

/-- How long a certificate is valid. -/
def validityDays : Int := 730

/-- How long before its making a certificate is valid already, in seconds, for the sake of clocks that are slow. -/
def leeway : Int := 300

def nameBytes (commonName : String) : List UInt8 :=
  Der.sequence [Der.build Der.Tag.set [Der.sequence [Der.oid commonNameArcs,
    Der.build Der.Tag.utf8String [Text.Utf8.encode commonName]]]]

/-- A time to the second, in the short form for the years that it can hold. -/
def timeBytes (seconds : Int) : List UInt8 :=
  let date := Time.Date.ofDays (seconds / 86400)
  let second := (seconds % 86400).toNat
  let two (n : Nat) : List Char := Time.Timestamp.padded 2 n
  let rest := two date.month ++ two date.day ++ two (second / 3600) ++ two (second / 60 % 60) ++ two (second % 60)
    ++ ['Z']
  let bytes (cs : List Char) : List UInt8 := Text.Utf8.encode (String.ofList cs)
  if 1950 ≤ date.year ∧ date.year < 2050 then
    Der.build Der.Tag.utcTime [bytes (two (date.year % 100).toNat ++ rest)]
  else Der.build Der.Tag.generalizedTime [bytes (Time.Timestamp.padded 4 date.year.toNat ++ rest)]

/-- A serial number that follows from the key. -/
def serial (key : PublicKeyInfo) : Nat :=
  Octets.toNat ((Hash.sha256.digest key.key).take 20) % Nat.pow 2 159

def yes : List UInt8 := Der.build Der.Tag.boolean [[0xff]]

/-- An extension; one that is critical must be understood by whoever reads the certificate. -/
def extension (arcs : List Nat) (critical : Bool) (value : List UInt8) : List UInt8 :=
  Der.sequence [Der.oid arcs, if critical then yes else [], Der.octetString value]

/-- What the key may be used for. An authority signs certificates and revocation lists besides. -/
def keyUsage (d : Draft) : List UInt8 :=
  Der.build Der.Tag.bitString [if d.isAuthority then [1, 0xa6] else [5, 0xa0]]

def extensions (d : Draft) (key : PublicKeyInfo) : List (List UInt8) :=
  let names := if d.names = [] then [] else [extension [2, 5, 29, 17] false
    (Der.sequence (d.names.map fun name => Der.build (Der.Tag.numbered 2) [Text.Utf8.encode name]))]
  let role := if d.isAuthority then
      [extension [2, 5, 29, 14] false (Der.octetString ((Hash.sha256.digest key.key).take 20)),
        extension [2, 5, 29, 19] true (Der.sequence [yes])]
    else [extension [2, 5, 29, 37] false (Der.sequence [Der.oid [1, 3, 6, 1, 5, 5, 7, 3, 1]])]
  names ++ extension [2, 5, 29, 15] true d.keyUsage :: role

/-- The part that is signed. `issuer` is the name of the signer as it is written. -/
def signedBytes (d : Draft) (issuer : List UInt8) (scheme : Signature.Scheme) (key : PublicKeyInfo) (now : Int) :
    List UInt8 :=
  Der.sequence [
    Der.build (Der.Tag.wrapped 0) [Der.integer 2],
    Der.integer (serial key),
    scheme.algorithmId.bytes,
    issuer,
    Der.sequence [timeBytes (now - leeway), timeBytes (now + validityDays * 86400)],
    nameBytes d.commonName,
    key.bytes,
    Der.build (Der.Tag.wrapped 3) [Der.sequence (d.extensions key)]]

/-- The certificate of a key, signed by another key. -/
def sign (d : Draft) (issuer : List UInt8) (issuerKey : PrivateKey) (key : PublicKeyInfo) (now : Int) :
    List UInt8 :=
  let signed := d.signedBytes issuer issuerKey.scheme key now
  Der.sequence [signed, issuerKey.scheme.algorithmId.bytes, Der.bitString (issuerKey.sign signed)]

end Draft

end Graft.Certificate
