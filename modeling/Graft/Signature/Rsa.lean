import Graft.Der
import Graft.Digest
import Graft.Modular

namespace Graft.Signature.Rsa

structure PublicKey where
  modulus : Nat
  exponent : Nat
deriving DecidableEq, Repr, Inhabited

namespace PublicKey

/-- How many bytes the modulus takes. -/
def width (k : PublicKey) : Nat := Octets.width k.modulus

/-- Whether a key is fit for use: an odd modulus of `least` to `most` bits, where a part of a byte counts as a
byte for the lower bound, and an odd exponent in bounds. -/
def fits (least most leastExponent : Nat) (k : PublicKey) : Bool :=
  k.modulus % 2 == 1 && least ≤ 8 * k.width && k.modulus < Nat.pow 2 most
    && k.exponent % 2 == 1 && leastExponent ≤ k.exponent && k.exponent < Nat.pow 2 33

def ofBytes? : List UInt8 → Option PublicKey :=
  Der.whole (Der.filling Der.Tag.sequence do return { modulus := ← Der.natural, exponent := ← Der.natural })

end PublicKey

/-- A digest with the name of its function. -/
def digestInfo (hash : Hash) (message : List UInt8) : List UInt8 :=
  Der.sequence [Der.sequence [Der.oid hash.arcs, Der.build Der.Tag.null []], Der.octetString (hash.digest message)]

/-- The block that is signed, if the width has room for it: the digest, named by its function, at the end of bytes that
are filled up with ones (PKCS #1). -/
def block? (hash : Hash) (width : Nat) (message : List UInt8) : Option Nat :=
  let info := digestInfo hash message
  if info.length + 11 ≤ width then
    some (Octets.toNat (0 :: 1 :: List.replicate (width - info.length - 3) 0xff ++ 0 :: info))
  else none

/-- The least size of a modulus in bits. Keys for the oldest function may be short. -/
def leastBits : Hash → Nat
  | .sha1 => 1024
  | _ => 2048

def verify (hash : Hash) (key : PublicKey) (message signature : List UInt8) : Bool :=
  let s := Octets.toNat signature
  key.fits (leastBits hash) 8192 3 && signature.length == key.width && 0 < s && s < key.modulus
    && block? hash key.width message == some (Modular.pow key.modulus s key.exponent)

/-- A signature by a private exponent, if the modulus has room for the digest. -/
def sign? (hash : Hash) (key : PublicKey) (secret : Nat) (message : List UInt8) : Option (List UInt8) :=
  (block? hash key.width message).map fun block => Octets.ofNat key.width (Modular.pow key.modulus block secret)

end Graft.Signature.Rsa
