import Graft.Curve.Weierstrass
import Graft.Der
import Graft.Digest

namespace Graft.Signature.Ecdsa

open Curve (Weierstrass)

/-- The curves in use. -/
inductive Named where
  | p256
  | p384
deriving DecidableEq, Repr, Inhabited

namespace Named

def curve : Named → Weierstrass
  | p256 => .p256
  | p384 => .p384

/-- The identifier of the curve. -/
def arcs : Named → List Nat
  | p256 => [1, 2, 840, 10045, 3, 1, 7]
  | p384 => [1, 3, 132, 0, 34]

/-- The digest that goes with the curve. -/
def hash : Named → Hash
  | p256 => .sha256
  | p384 => .sha384

end Named

/-- The digest as a number of at most the width of the curve. -/
def digestNat (c : Weierstrass) (hash : Hash) (message : List UInt8) : Nat :=
  Octets.toNat ((hash.digest message).take c.width) % c.order

/-- The two numbers of a signature. -/
def numbers? : List UInt8 → Option (Nat × Nat) :=
  Der.whole (Der.filling Der.Tag.sequence do return (← Der.natural, ← Der.natural))

def verifyNumbers (c : Weierstrass) (digest : Nat) (key : Weierstrass.Point) (r s : Nat) : Bool :=
  let w := Modular.inverse c.order s
  let p := c.add (c.times (digest * w % c.order) c.base) (c.times (r * w % c.order) key)
  0 < r && r < c.order && 0 < s && s < c.order && match c.affine? p with
    | some (x, _) => x % c.order == r
    | none => false

def verify (c : Weierstrass) (hash : Hash) (key message signature : List UInt8) : Bool :=
  match c.point? key, numbers? signature with
  | some point, some (r, s) => verifyNumbers c (digestNat c hash message) point r s
  | _, _ => false

/-- The public key of a secret number. -/
def publicKey (c : Weierstrass) (secret : Nat) : List UInt8 := c.pointBytes (c.times secret c.base)

/-- The number that only one signature may use, drawn from the secret and the message. -/
def nonce (c : Weierstrass) (secret : Nat) (message : List UInt8) : Nat :=
  1 + Octets.toNat (Hash.sha512.digest (Octets.ofNat c.width secret ++ message)) % (c.order - 1)

def sign (c : Weierstrass) (hash : Hash) (secret : Nat) (message : List UInt8) : List UInt8 :=
  let k := nonce c secret message
  let r := ((c.affine? (c.times k c.base)).map fun p => p.1 % c.order).getD 0
  let s := Modular.inverse c.order k * (digestNat c hash message + r * secret) % c.order
  Der.sequence [Der.integer r, Der.integer s]

end Graft.Signature.Ecdsa
