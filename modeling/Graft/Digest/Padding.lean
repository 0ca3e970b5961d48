import Graft.Octets

namespace Graft.Digest

/-- The message filled up to whole blocks: a one bit, zeros, and its length in bits. `block` is the size of a block and
`count` that of the length, in bytes. -/
def padded (block count : Nat) (message : List UInt8) : List UInt8 :=
  let zeros := (2 * block - 1 - count - message.length % block) % block
  message ++ 0x80 :: List.replicate zeros 0 ++ Octets.ofNat count (8 * message.length)

/-- The first `n` pieces of a size. -/
def pieces (size : Nat) : (n : Nat) → List UInt8 → List (List UInt8)
  | 0, _ => []
  | n + 1, bytes => bytes.take size :: pieces size n (bytes.drop size)

/-- The blocks of a message. -/
def blocks (block count : Nat) (message : List UInt8) : List (List UInt8) :=
  let bytes := padded block count message
  pieces block (bytes.length / block) bytes

end Graft.Digest
