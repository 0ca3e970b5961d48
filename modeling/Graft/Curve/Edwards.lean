import Graft.Modular
import Graft.Octets

namespace Graft.Curve.Edwards

def prime : Nat := 0x7fffffffffffffffffffffffffffffffffffffffffffffffffffffffffffffed

def d : Nat := 0x52036cee2b6ffe738cc740797779e89800700a4d4141d8ab75eb4dca135978a3

/-- How many multiples the base point has, a prime. -/
def order : Nat := 0x1000000000000000000000000000000014def9dea2f79cd65812631a5cf5d3ed

/-- A square root of −1. -/
def root : Nat := 0x2b8324804fc1df0b2b4d00993dfbd7a72f431806ad2fe478c4ee1b274a0ea0b0

/-- A point of the twisted Edwards curve −x² + y² = 1 + d·x²·y² over the field of 2²⁵⁵ − 19 elements. It stands for
(x/z, y/z), with t = x·y/z, so that one formula adds any two points. -/
structure Point where
  x : Nat
  y : Nat
  z : Nat
  t : Nat
deriving DecidableEq, Repr

def mul (x y : Nat) : Nat := x * y % prime

def sub (x y : Nat) : Nat := Modular.sub prime x y

def zero : Point := ⟨0, 1, 1, 0⟩

def ofAffine (x y : Nat) : Point := ⟨x, y, 1, mul x y⟩

def base : Point := ofAffine 0x216936d3cd6e53fec0a4e231fdd6dc5c692cc7609525a7b2c9562d608f25d51a
  0x6666666666666666666666666666666666666666666666666666666666666658

def add (p q : Point) : Point :=
  let a := mul (sub p.y p.x) (sub q.y q.x)
  let b := mul (p.y + p.x) (q.y + q.x)
  let c := mul (mul 2 d) (mul p.t q.t)
  let e := mul 2 (mul p.z q.z)
  ⟨mul (sub b a) (sub e c), mul (e + c) (b + a), mul (sub e c) (e + c), mul (sub b a) (b + a)⟩

/-- A multiple by doubling and adding, for numbers of fewer than `bits` bits. -/
def timesBits : (bits n : Nat) → Point → Point
  | 0, _, _ => zero
  | bits + 1, n, p =>
    let rest := timesBits bits (n / 2) (add p p)
    if n % 2 = 1 then add p rest else rest

def times (n : Nat) (p : Point) : Point := timesBits (Nat.log2 n + 1) n p

def negate (p : Point) : Point := ⟨sub 0 p.x, p.y, p.z, sub 0 p.t⟩

/-- The number of bytes that start with the least significant one. -/
def littleNat (bytes : List UInt8) : Nat := Octets.toNat bytes.reverse

def littleBytes (width n : Nat) : List UInt8 := (Octets.ofNat width n).reverse

/-- The bytes of a point: its second coordinate, and whether the first is odd as the last bit. -/
def bytes (p : Point) : List UInt8 :=
  let inverse := Modular.inverse prime p.z
  littleBytes 32 (mul p.y inverse + mul p.x inverse % 2 * Nat.pow 2 255)

/-- A square root of `u / v`, if there is one. -/
def quotientRoot? (u v : Nat) : Option Nat :=
  let x := Modular.pow prime (mul u (Modular.inverse prime v)) ((prime + 3) / 8)
  let square := mul v (mul x x)
  if square = u % prime then some x else if square = sub 0 (u % prime) then some (mul x root) else none

/-- The point that bytes stand for. The second coordinate is taken modulo the prime. -/
def point? (bytes : List UInt8) : Option Point :=
  let n := littleNat bytes
  let y := n % Nat.pow 2 255 % prime
  let square := mul y y
  if bytes.length = 32 then
    (quotientRoot? (sub square 1) (mul d square + 1)).map fun x =>
      ofAffine (if x % 2 = n / Nat.pow 2 255 then x else sub 0 x) y
  else none

end Graft.Curve.Edwards
