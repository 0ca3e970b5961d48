namespace Graft

/-- A double. A finite one is `units` steps of 2⁻¹⁰⁷⁴ with a sign, and zero has both signs. So sums, products and
quotients are taken exactly on natural numbers and rounded once, to nearest, a tie going to the even neighbour. -/
inductive Double where
  | finite (negative : Bool) (units : Nat)
  | infinite (negative : Bool)
  | nan
deriving DecidableEq, Repr, Inhabited

namespace Double

/-- Powers of two and of ten. -/
def pow2 (n : Nat) : Nat := Nat.pow 2 n

def pow10 (n : Nat) : Nat := Nat.pow 10 n

/-- The number of low bits that a magnitude has beyond the 53 that a double keeps. -/
def excess (units : Nat) : Nat := units.log2 - 52

/-- The distance between neighbouring doubles at a magnitude, in units. -/
def spacing (units : Nat) : Nat := pow2 (excess units)

/-- The magnitude nearest to `num / den` units that a double can hold. -/
def nearest (num den : Nat) : Nat :=
  let step := spacing (num / den)
  let low := num / (den * step)
  let twice := 2 * (num % (den * step))
  if den * step < twice ∨ twice = den * step ∧ low % 2 = 1 then (low + 1) * step else low * step

/-- The units in 1. -/
def one : Nat := pow2 1074

/-- The least magnitude beyond every finite double, in units. -/
def bound : Nat := pow2 2098

def ofMagnitude (negative : Bool) (units : Nat) : Double :=
  if units < bound then .finite negative units else .infinite negative

def zero : Double := .finite false 0

/-- The double nearest to a whole number. -/
def ofInt (value : Int) : Double :=
  ofMagnitude (decide (value < 0)) (nearest (value.natAbs * one) 1)

/-- The signed number of units of a finite double; the two zeros agree. -/
def signed (negative : Bool) (units : Nat) : Int :=
  if negative then -(units : Int) else units

/-- The exact sum rounded once. A sum of zero is negative only if both terms are. -/
def add : Double → Double → Double
  | .finite s a, .finite t b =>
    let sum := signed s a + signed t b
    if sum = 0 then .finite (s && t) 0 else ofMagnitude (decide (sum < 0)) (nearest sum.natAbs 1)
  | .nan, _ => .nan
  | _, .nan => .nan
  | .infinite s, .infinite t => if s = t then .infinite s else .nan
  | .infinite s, .finite _ _ => .infinite s
  | .finite _ _, .infinite t => .infinite t

instance : Add Double := ⟨add⟩

/-- The exact product rounded once. -/
def mul : Double → Double → Double
  | .finite s a, .finite t b => ofMagnitude (s != t) (nearest (a * b) one)
  | .nan, _ => .nan
  | _, .nan => .nan
  | .infinite s, .infinite t => .infinite (s != t)
  | .infinite s, .finite t b => if b = 0 then .nan else .infinite (s != t)
  | .finite s a, .infinite t => if a = 0 then .nan else .infinite (s != t)

/-- The exact quotient rounded once. -/
def div : Double → Double → Double
  | .finite s a, .finite t b =>
    if b = 0 then if a = 0 then .nan else .infinite (s != t)
    else ofMagnitude (s != t) (nearest (a * one) b)
  | .nan, _ => .nan
  | _, .nan => .nan
  | .infinite _, .infinite _ => .nan
  | .infinite s, .finite t _ => .infinite (s != t)
  | .finite s _, .infinite t => .finite (s != t) 0

/-- Equality of values: the two zeros are one value, and no value equals `nan`. -/
def same : Double → Double → Bool
  | .finite s a, .finite t b => signed s a == signed t b
  | .infinite s, .infinite t => s == t
  | _, _ => false

/-- The whole number that a double is, if it is one smaller in size than 2⁵³ and not the negative zero. -/
def exactInt? : Double → Option Int
  | .finite negative units =>
    if units % one = 0 ∧ units / one < pow2 53 ∧ (negative = false ∨ units ≠ 0) then
      some (signed negative (units / one))
    else none
  | _ => none

/-- The 64 bits of the interchange format. -/
def bits : Double → Nat
  | .nan => 0xfff8000000000000
  | .infinite negative => (if negative then pow2 63 else 0) + 0x7ff0000000000000
  | .finite negative units =>
    (if negative then pow2 63 else 0) +
      if units < pow2 52 then units else (excess units + 1) * pow2 52 + (units / spacing units - pow2 52)

/-- The bits in sixteen hexadecimal digits. -/
def bitsText (d : Double) : List Char :=
  let digits := Nat.toDigits 16 d.bits
  List.replicate (16 - digits.length) '0' ++ digits

end Double

end Graft
