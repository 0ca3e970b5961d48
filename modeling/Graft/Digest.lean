import Graft.Digest.Sha1
import Graft.Digest.Sha256
import Graft.Digest.Sha512

namespace Graft

inductive Hash where
  | sha1
  | sha256
  | sha384
  | sha512
deriving DecidableEq, Repr, Inhabited

namespace Hash

open Digest

/-- The digest of a message by the name of the function. -/
def digest : Hash → List UInt8 → List UInt8
  | sha1 => Sha1.digest
  | sha256 => Sha256.digest
  | sha384 => Sha512.shortDigest
  | sha512 => Sha512.digest

/-- The identifier of the function. -/
def arcs : Hash → List Nat
  | sha1 => [1, 3, 14, 3, 2, 26]
  | sha256 => [2, 16, 840, 1, 101, 3, 4, 2, 1]
  | sha384 => [2, 16, 840, 1, 101, 3, 4, 2, 2]
  | sha512 => [2, 16, 840, 1, 101, 3, 4, 2, 3]

end Hash

end Graft
