import Graft.Modular
import Graft.Octets

namespace Graft.Curve

/-- An elliptic curve y² = x³ + a·x + b over a prime field, with a base point. `order` is the number of multiples of the
base point, a prime. `width` is how many bytes a coordinate takes. -/
structure Weierstrass where
  prime : Nat
  a : Nat
  b : Nat
  order : Nat
  baseX : Nat
  baseY : Nat
  width : Nat
deriving DecidableEq, Repr

namespace Weierstrass

/-- The point (x/z², y/z³); with z = 0 the point at infinity. In these coordinates adding needs no division. -/
structure Point where
  x : Nat
  y : Nat
  z : Nat
deriving DecidableEq, Repr

def infinity : Point := ⟨1, 1, 0⟩

def base (c : Weierstrass) : Point := ⟨c.baseX, c.baseY, 1⟩

def mul (c : Weierstrass) (x y : Nat) : Nat := x * y % c.prime

def sub (c : Weierstrass) (x y : Nat) : Nat := Modular.sub c.prime x y

/-- Whether coordinates below the prime solve the equation. -/
def contains (c : Weierstrass) (x y : Nat) : Bool :=
  c.mul y y == (c.mul (c.mul x x) x + c.mul c.a x + c.b) % c.prime

def double (c : Weierstrass) (p : Point) : Point :=
  let yy := c.mul p.y p.y
  let s := c.mul 4 (c.mul p.x yy)
  let zz := c.mul p.z p.z
  let m := (3 * c.mul p.x p.x + c.mul c.a (c.mul zz zz)) % c.prime
  let x := c.sub (c.mul m m) (c.mul 2 s)
  ⟨x, c.sub (c.mul m (c.sub s x)) (c.mul 8 (c.mul yy yy)), c.mul 2 (c.mul p.y p.z)⟩

def add (c : Weierstrass) (p q : Point) : Point :=
  if p.z = 0 then q
  else if q.z = 0 then p
  else
    let pz := c.mul p.z p.z
    let qz := c.mul q.z q.z
    let u := c.mul p.x qz
    let s := c.mul p.y (c.mul qz q.z)
    let h := c.sub (c.mul q.x pz) u
    let r := c.sub (c.mul q.y (c.mul pz p.z)) s
    if h = 0 then if r = 0 then c.double p else infinity
    else
      let hh := c.mul h h
      let hhh := c.mul hh h
      let uhh := c.mul u hh
      let x := c.sub (c.sub (c.mul r r) hhh) (c.mul 2 uhh)
      ⟨x, c.sub (c.mul r (c.sub uhh x)) (c.mul s hhh), c.mul h (c.mul p.z q.z)⟩

/-- A multiple by doubling and adding, for numbers of fewer than `bits` bits. -/
def timesBits (c : Weierstrass) : (bits n : Nat) → Point → Point
  | 0, _, _ => infinity
  | bits + 1, n, p =>
    let rest := c.timesBits bits (n / 2) (c.double p)
    if n % 2 = 1 then c.add p rest else rest

def times (c : Weierstrass) (n : Nat) (p : Point) : Point := c.timesBits (Nat.log2 n + 1) n p

/-- The coordinates of a point, unless it is at infinity. -/
def affine? (c : Weierstrass) (p : Point) : Option (Nat × Nat) :=
  if p.z = 0 then none
  else
    let inverse := Modular.inverse c.prime p.z
    let square := c.mul inverse inverse
    some (c.mul p.x square, c.mul p.y (c.mul square inverse))

/-- The point that bytes stand for: a mark and both coordinates. -/
def point? (c : Weierstrass) (bytes : List UInt8) : Option Point :=
  match bytes with
  | [] => none
  | mark :: coordinates =>
    let x := Octets.toNat (coordinates.take c.width)
    let y := Octets.toNat (coordinates.drop c.width)
    if mark = 4 ∧ coordinates.length = 2 * c.width ∧ x < c.prime ∧ y < c.prime ∧ c.contains x y then
      some ⟨x, y, 1⟩
    else none

/-- The bytes of a point; of the point at infinity a single zero. -/
def pointBytes (c : Weierstrass) (p : Point) : List UInt8 :=
  match c.affine? p with
  | some (x, y) => 4 :: Octets.ofNat c.width x ++ Octets.ofNat c.width y
  | none => [0]

/-- The curve P-256. -/
def p256 : Weierstrass where
  prime := 0xffffffff00000001000000000000000000000000ffffffffffffffffffffffff
  a := 0xffffffff00000001000000000000000000000000fffffffffffffffffffffffc
  b := 0x5ac635d8aa3a93e7b3ebbd55769886bc651d06b0cc53b0f63bce3c3e27d2604b
  order := 0xffffffff00000000ffffffffffffffffbce6faada7179e84f3b9cac2fc632551
  baseX := 0x6b17d1f2e12c4247f8bce6e563a440f277037d812deb33a0f4a13945d898c296
  baseY := 0x4fe342e2fe1a7f9b8ee7eb4a7c0f9e162bce33576b315ececbb6406837bf51f5
  width := 32

/-- The curve P-384. -/
def p384 : Weierstrass where
  prime := 0xfffffffffffffffffffffffffffffffffffffffffffffffffffffffffffffffeffffffff0000000000000000ffffffff
  a := 0xfffffffffffffffffffffffffffffffffffffffffffffffffffffffffffffffeffffffff0000000000000000fffffffc
  b := 0xb3312fa7e23ee7e4988e056be3f82d19181d9c6efe8141120314088f5013875ac656398d8a2ed19d2a85c8edd3ec2aef
  order := 0xffffffffffffffffffffffffffffffffffffffffffffffffc7634d81f4372ddf581a0db248b0a77aecec196accc52973
  baseX := 0xaa87ca22be8b05378eb1c71ef320ad746e1d3b628ba79b9859f741e082542a385502f25dbf55296c3a545e3872760ab7
  baseY := 0x3617de4a96262c6f5d9e98bf9292dc29f8f41dbd289a147ce9da3113b5f0b8c00a60b1ce1d7e819d7a431d7c90ea0e5f
  width := 48

end Weierstrass

end Graft.Curve
