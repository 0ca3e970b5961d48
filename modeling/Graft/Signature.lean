import Graft.Signature.Ecdsa
import Graft.Signature.Ed25519
import Graft.Signature.Rsa

namespace Graft

/-- An algorithm by its identifier, and what it is made specific with. -/
structure AlgorithmId where
  oid : List UInt8
  parameters : Option Der.Element := none
deriving DecidableEq, Repr, Inhabited

/-- A public key as bytes whose meaning depends on its algorithm. -/
structure PublicKeyInfo where
  algorithm : AlgorithmId
  key : List UInt8
deriving DecidableEq, Repr, Inhabited

namespace AlgorithmId

def read : Der.Reader AlgorithmId := Der.inside Der.Tag.sequence do
  let oid ← Der.expect Der.element Der.Tag.oid
  if ← Der.atEnd then return { oid } else return { oid, parameters := some (← Der.element) }

def bytes (a : AlgorithmId) : List UInt8 :=
  Der.sequence [Der.build Der.Tag.oid [a.oid], (a.parameters.map Der.Element.bytes).getD []]

end AlgorithmId

namespace PublicKeyInfo

def read : Der.Reader PublicKeyInfo := Der.inside Der.Tag.sequence do
  let algorithm ← AlgorithmId.read
  return { algorithm, key := ← Der.bits (← Der.expect Der.element Der.Tag.bitString) }

def bytes (k : PublicKeyInfo) : List UInt8 := Der.sequence [k.algorithm.bytes, Der.bitString k.key]

/-- The curve that a key says it lies on. -/
def curve? (k : PublicKeyInfo) : Option Signature.Ecdsa.Named := do
  let parameters ← k.algorithm.parameters
  [Signature.Ecdsa.Named.p256, .p384].find? fun named =>
    parameters == { tag := Der.Tag.oid, contents := Der.oidContents named.arcs }

end PublicKeyInfo

namespace Signature

/-- How a signature is made. -/
inductive Scheme where
  | rsa (hash : Hash)
  | ecdsa (hash : Hash)
  | ed25519
deriving DecidableEq, Repr

namespace Scheme

def arcs : Scheme → List Nat
  | rsa .sha1 => [1, 2, 840, 113549, 1, 1, 5]
  | rsa .sha256 => [1, 2, 840, 113549, 1, 1, 11]
  | rsa .sha384 => [1, 2, 840, 113549, 1, 1, 12]
  | rsa .sha512 => [1, 2, 840, 113549, 1, 1, 13]
  | ecdsa .sha1 => [1, 2, 840, 10045, 4, 1]
  | ecdsa .sha256 => [1, 2, 840, 10045, 4, 3, 2]
  | ecdsa .sha384 => [1, 2, 840, 10045, 4, 3, 3]
  | ecdsa .sha512 => [1, 2, 840, 10045, 4, 3, 4]
  | ed25519 => [1, 3, 101, 112]

/-- The schemes that are accepted. -/
def accepted : List Scheme :=
  [rsa .sha1, rsa .sha256, rsa .sha384, rsa .sha512, ecdsa .sha256, ecdsa .sha384, ed25519]

/-- Another identifier of the oldest scheme. -/
def formerSha1Arcs : List Nat := [1, 3, 14, 3, 2, 29]

def ofOid? (oid : List UInt8) : Option Scheme :=
  if oid = Der.oidContents formerSha1Arcs then some (rsa .sha1)
  else accepted.find? fun scheme => Der.oidContents scheme.arcs == oid

/-- The identifier as it is written. Only RSA has parameters, and they say nothing. -/
def algorithmId (scheme : Scheme) : AlgorithmId where
  oid := Der.oidContents scheme.arcs
  parameters := match scheme with
    | rsa _ => some { tag := Der.Tag.null, contents := [] }
    | _ => none

end Scheme

/-- Whether a signature of a message was made with the secret of a public key. What an algorithm cannot make
sense of is no signature. -/
def verify (algorithm : AlgorithmId) (key : PublicKeyInfo) (message signature : List UInt8) : Bool :=
  match Scheme.ofOid? algorithm.oid with
  | some (.rsa hash) =>
    match Rsa.PublicKey.ofBytes? key.key with
    | some rsaKey => Rsa.verify hash rsaKey message signature
    | none => false
  | some (.ecdsa hash) =>
    match key.curve? with
    | some named => Ecdsa.verify named.curve hash key.key message signature
    | none => false
  | some .ed25519 => Ed25519.verify key.key message signature
  | none => false

end Signature

end Graft
