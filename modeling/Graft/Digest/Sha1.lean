import Graft.Digest.Padding

namespace Graft.Digest.Sha1

structure State where
  a : UInt32
  b : UInt32
  c : UInt32
  d : UInt32
  e : UInt32
deriving DecidableEq, Repr

def start : State := ⟨0x67452301, 0xefcdab89, 0x98badcfe, 0x10325476, 0xc3d2e1f0⟩

def rotate (x : UInt32) (n : UInt32) : UInt32 := (x <<< n) ||| (x >>> (32 - n))

/-- The words of a block, in order. -/
def words (block : List UInt8) : List UInt32 := (pieces 4 16 block).map fun piece => UInt32.ofNat (Octets.toNat piece)

/-- Puts the next word in front of words that stand in reverse. -/
def extend (reversed : List UInt32) : List UInt32 :=
  let at_ (n : Nat) : UInt32 := reversed.getD n 0
  rotate (at_ 2 ^^^ at_ 7 ^^^ at_ 13 ^^^ at_ 15) 1 :: reversed

/-- The eighty words of a block, in order. -/
def schedule (block : List UInt8) : List UInt32 :=
  ((List.range 64).foldl (fun reversed _ => extend reversed) (words block).reverse).reverse

/-- The mixing function and the constant of a round. -/
def mix (round : Nat) (b c d : UInt32) : UInt32 :=
  if round < 20 then ((b &&& c) ||| (~~~b &&& d)) + 0x5a827999
  else if round < 40 then (b ^^^ c ^^^ d) + 0x6ed9eba1
  else if round < 60 then ((b &&& c) ||| (b &&& d) ||| (c &&& d)) + 0x8f1bbcdc
  else (b ^^^ c ^^^ d) + 0xca62c1d6

def step (s : State) (word : UInt32 × Nat) : State :=
  ⟨rotate s.a 5 + mix word.2 s.b s.c s.d + s.e + word.1, s.a, rotate s.b 30, s.c, s.d⟩

def compress (s : State) (block : List UInt8) : State :=
  let t := (schedule block).zipIdx.foldl step s
  ⟨s.a + t.a, s.b + t.b, s.c + t.c, s.d + t.d, s.e + t.e⟩

/-- The SHA-1 digest of a message, twenty bytes. -/
def digest (message : List UInt8) : List UInt8 :=
  let s := (blocks 64 8 message).foldl compress start
  [s.a, s.b, s.c, s.d, s.e].flatMap fun word => Octets.ofNat 4 word.toNat

end Graft.Digest.Sha1
