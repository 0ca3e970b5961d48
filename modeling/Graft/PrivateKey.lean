import Graft.Pem
import Graft.Signature

namespace Graft

open Signature

inductive PrivateKey where
  | ed25519 (seed : List UInt8)
  | ecdsa (curve : Ecdsa.Named) (secret : Nat)
  | rsa (key : Rsa.PublicKey) (secret : Nat)
deriving DecidableEq, Repr

namespace PrivateKey

/-- The identifiers of the kinds of keys. -/
def ed25519Algorithm : AlgorithmId := Scheme.ed25519.algorithmId

def ecdsaAlgorithm (named : Ecdsa.Named) : AlgorithmId where
  oid := Der.oidContents [1, 2, 840, 10045, 2, 1]
  parameters := some { tag := Der.Tag.oid, contents := Der.oidContents named.arcs }

def rsaAlgorithm : AlgorithmId where
  oid := Der.oidContents [1, 2, 840, 113549, 1, 1, 1]
  parameters := some { tag := Der.Tag.null, contents := [] }

/-- The public key that goes with a key: a bit string under a number, or one that is wrapped. -/
def readStatedKey : Der.Reader (List UInt8) := do
  if ← Der.startsWith (Der.Tag.wrapped 1) then
    Der.filling (Der.Tag.wrapped 1) do Der.wholeBits (← Der.expect Der.canonical Der.Tag.bitString)
  else Der.wholeBits (← Der.expect Der.canonical (Der.Tag.numbered 1))

/-- The inner part of a key of an algorithm, and the public key that goes with it; only the second version of the
form has one, and then it must. -/
def unwrap (algorithm : AlgorithmId) (secondVersion : Bool) : Der.Reader (List UInt8 × Option (List UInt8)) :=
  Der.filling Der.Tag.sequence do
    let version ← Der.natural
    let stated ← Der.canonical
    if stated.bytes ≠ algorithm.bytes then failure
    let inner ← Der.expect Der.canonical Der.Tag.octetString
    if ← Der.startsWith (Der.Tag.wrapped 0) then
      let _ ← Der.canonical
    if version = 0 then return (inner, none)
    else if version = 1 ∧ secondVersion then return (inner, some (← readStatedKey))
    else failure

def readEd25519 : Der.Reader PrivateKey := do
  let (inner, stated) ← unwrap ed25519Algorithm true
  let seed ← Der.whole (Der.expect Der.canonical Der.Tag.octetString) inner
  if seed.length = 32 ∧ (stated.all fun key => key == Ed25519.publicKey seed) then return ed25519 seed else failure

/-- The inner part of a key on a curve: a secret number below the order, and the public key. -/
def readEcdsaInner (named : Ecdsa.Named) : Der.Reader PrivateKey := Der.filling Der.Tag.sequence do
  let version ← Der.natural
  let bytes ← Der.expect Der.canonical Der.Tag.octetString
  if ← Der.startsWith (Der.Tag.wrapped 0) then
    let stated ← Der.expect Der.canonical (Der.Tag.wrapped 0)
    if stated ≠ Der.oid named.arcs then failure
  let key ← Der.filling (Der.Tag.wrapped 1) do Der.wholeBits (← Der.expect Der.canonical Der.Tag.bitString)
  let curve := named.curve
  let secret := Octets.toNat bytes
  if version = 1 ∧ bytes.length = curve.width ∧ 0 < secret ∧ secret < curve.order
      ∧ key = Ecdsa.publicKey curve secret then
    return ecdsa named secret
  else failure

def readEcdsa (named : Ecdsa.Named) : Der.Reader PrivateKey := do
  let (inner, _) ← unwrap (ecdsaAlgorithm named) false
  Der.whole (readEcdsaInner named) inner

/-- How many bits a number has. -/
def bitLength (n : Nat) : Nat := if n = 0 then 0 else Nat.log2 n + 1

/-- Whether the parts of an RSA key agree: the primes are of half the size of the modulus, which they make up,
and the exponents are odd and below what they are taken modulo. -/
def rsaFits (key : Rsa.PublicKey) (secret p q exponentP exponentQ coefficient : Nat) : Bool :=
  let half := (bitLength key.modulus + 1) / 2
  key.fits 2048 4096 65537 && p % 2 == 1 && q % 2 == 1 && bitLength p == half && bitLength q == half
    && half % 512 == 0 && p * q == key.modulus
    && secret % 2 == 1 && half < bitLength secret && secret < key.modulus
    && exponentP % 2 == 1 && exponentP < p && exponentQ % 2 == 1 && exponentQ < q
    && coefficient < p && coefficient * q % p == 1

def readRsaInner : Der.Reader PrivateKey := Der.filling Der.Tag.sequence do
  let version ← Der.natural
  let key : Rsa.PublicKey := { modulus := ← Der.natural, exponent := ← Der.natural }
  let secret ← Der.natural
  let p ← Der.natural
  let q ← Der.natural
  let exponentP ← Der.natural
  let exponentQ ← Der.natural
  let coefficient ← Der.natural
  if version = 0 ∧ rsaFits key secret p q exponentP exponentQ coefficient then return rsa key secret else failure

def readRsa : Der.Reader PrivateKey := do
  let (inner, _) ← unwrap rsaAlgorithm false
  Der.whole readRsaInner inner

/-- Reads a key of any kind in the form PKCS #8. A key is read only if its parts agree with one another. -/
def ofBytes? (bytes : List UInt8) : Option PrivateKey :=
  [readEd25519, readEcdsa .p256, readEcdsa .p384, readRsa].findSome? fun read => Der.whole read bytes

/-- Reads a key from PEM, whatever its label. -/
def ofText? (text : String) : Option PrivateKey := (Pem.parse? text).bind fun p => ofBytes? p.contents

def publicKey : PrivateKey → PublicKeyInfo
  | ed25519 seed => { algorithm := ed25519Algorithm, key := Ed25519.publicKey seed }
  | ecdsa named secret => { algorithm := ecdsaAlgorithm named, key := Ecdsa.publicKey named.curve secret }
  | rsa key _ => { algorithm := rsaAlgorithm, key := Der.sequence [Der.integer key.modulus, Der.integer key.exponent] }

/-- The scheme by which a key signs. -/
def scheme : PrivateKey → Scheme
  | ed25519 _ => .ed25519
  | ecdsa named _ => .ecdsa named.hash
  | rsa .. => .rsa .sha256

def sign : PrivateKey → List UInt8 → List UInt8
  | ed25519 seed, message => Ed25519.sign seed message
  | ecdsa named secret, message => Ecdsa.sign named.curve named.hash secret message
  | rsa key secret, message => (Rsa.sign? .sha256 key secret message).getD []

/-- The form in which a key on a curve is kept. -/
def ecdsaBytes (named : Ecdsa.Named) (secret : Nat) : List UInt8 :=
  Der.sequence [Der.integer 0, (ecdsaAlgorithm named).bytes, Der.octetString (Der.sequence [Der.integer 1,
    Der.octetString (Octets.ofNat named.curve.width secret),
    Der.build (Der.Tag.wrapped 1) [Der.bitString (Ecdsa.publicKey named.curve secret)]])]

end PrivateKey

end Graft
