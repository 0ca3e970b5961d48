import Graft.Curve.Edwards
import Graft.Digest

namespace Graft.Signature.Ed25519

open Curve

/-- A digest as a number. -/
def digestNat (bytes : List UInt8) : Nat := Edwards.littleNat (Hash.sha512.digest bytes) % Edwards.order

/-- The two halves of what a seed is spread to: the secret number and a tag for nonces. -/
def spread (seed : List UInt8) : Nat × List UInt8 :=
  let digest := Hash.sha512.digest seed
  let n := Edwards.littleNat (digest.take 32) % Nat.pow 2 254
  (n / 8 * 8 + Nat.pow 2 254, digest.drop 32)

def publicKey (seed : List UInt8) : List UInt8 := Edwards.bytes (Edwards.times (spread seed).1 Edwards.base)

def verify (key message signature : List UInt8) : Bool :=
  let commitment := signature.take 32
  let s := Edwards.littleNat (signature.drop 32)
  match Edwards.point? key with
  | some point =>
    let challenge := digestNat (commitment ++ key ++ message)
    signature.length == 64 && s < Edwards.order
      && Edwards.bytes (Edwards.add (Edwards.times s Edwards.base) (Edwards.times challenge (Edwards.negate point)))
        == commitment
  | none => false

def sign (seed message : List UInt8) : List UInt8 :=
  let (secret, tag) := spread seed
  let r := digestNat (tag ++ message)
  let commitment := Edwards.bytes (Edwards.times r Edwards.base)
  let challenge := digestNat (commitment ++ publicKey seed ++ message)
  commitment ++ Edwards.littleBytes 32 ((r + challenge * secret) % Edwards.order)

end Graft.Signature.Ed25519
