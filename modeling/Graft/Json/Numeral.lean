import Graft.Json

namespace Graft.Json

/-- A numeral as written. Digits stand in reading order. -/
structure Numeral where
  negative : Bool := false
  whole : List Nat := []
  fraction : List Nat := []
  exponentNegative : Bool := false
  exponent : List Nat := []
  /-- Whether there is a fraction or an exponent, which makes the number a double. -/
  fractional : Bool := false
deriving Repr, Inhabited

namespace Numeral

/-- How far the reading of a numeral has come. -/
inductive Stage where
  | sign | zero | whole | point | fraction | mark | exponentSign | exponent
deriving DecidableEq, Repr

/-- Whether a numeral may end here. -/
def Stage.final : Stage → Bool
  | .zero | .whole | .fraction | .exponent => true
  | _ => false

def digit? (c : Char) : Option Nat :=
  if '0' ≤ c ∧ c ≤ '9' then some (c.toNat - '0'.toNat) else none

/-- What a character does to an unfinished numeral. -/
inductive Outcome where
  | more (stage : Stage) (numeral : Numeral)
  | ended
  | bad

/-- The first character of a numeral. -/
def start (c : Char) : Option (Stage × Numeral) :=
  if c = '-' then some (.sign, { negative := true })
  else match digit? c with
    | some 0 => some (.zero, { whole := [0] })
    | some d => some (.whole, { whole := [d] })
    | none => none

def markOrEnd (n : Numeral) (c : Char) : Outcome :=
  if c = 'e' ∨ c = 'E' then .more .mark { n with fractional := true } else .ended

/-- The next character of a numeral. -/
def advance (stage : Stage) (n : Numeral) (c : Char) : Outcome :=
  match stage, digit? c with
  | .sign, some 0 => .more .zero { n with whole := [0] }
  | .sign, some d => .more .whole { n with whole := [d] }
  | .sign, none => .bad
  | .zero, some _ => .bad
  | .zero, none => if c = '.' then .more .point { n with fractional := true } else markOrEnd n c
  | .whole, some d => .more .whole { n with whole := n.whole ++ [d] }
  | .whole, none => if c = '.' then .more .point { n with fractional := true } else markOrEnd n c
  | .point, some d => .more .fraction { n with fraction := [d] }
  | .point, none => .bad
  | .fraction, some d => .more .fraction { n with fraction := n.fraction ++ [d] }
  | .fraction, none => markOrEnd n c
  | .mark, some d => .more .exponent { n with exponent := [d] }
  | .mark, none =>
    if c = '+' then .more .exponentSign n
    else if c = '-' then .more .exponentSign { n with exponentNegative := true }
    else .bad
  | .exponentSign, some d => .more .exponent { n with exponent := [d] }
  | .exponentSign, none => .bad
  | .exponent, some d => .more .exponent { n with exponent := n.exponent ++ [d] }
  | .exponent, none => .ended

def natOfDigits (digits : List Nat) : Nat := digits.foldl (fun n d => 10 * n + d) 0

/-- Appends digits to a significand for as long as it fits in 64 bits; returns it with the digits left. -/
def appendDigits (significand : Nat) : List Nat → Nat × List Nat
  | [] => (significand, [])
  | d :: rest =>
    if 10 * significand + d < Double.pow2 64 then appendDigits (10 * significand + d) rest else (significand, d :: rest)

/-- The magnitude `10 ^ n` as a double, for `n` up to 308. -/
def power (n : Nat) : Nat := Double.nearest (Double.pow10 n * Double.one) 1

/-- Multiplies a magnitude by a power of ten, `none` beyond the range of doubles. A large power is one
rounded factor; a small one is one rounded divisor after divisions by `10 ^ 308`. -/
def scale? (fuel : Nat) (units : Nat) (exponent : Int) : Option Nat :=
  if exponent.natAbs ≤ 308 then
    if 0 ≤ exponent then
      let product := Double.nearest (units * power exponent.natAbs) Double.one
      if product < Double.bound then some product else none
    else some (Double.nearest (units * Double.one) (power exponent.natAbs))
  else if units = 0 then some 0
  else if 0 ≤ exponent then none
  else match fuel with
    | 0 => some 0
    | fuel + 1 => scale? fuel (Double.nearest (units * Double.one) (power 308)) (exponent + 308)

/-- The nearest signed number of 32 bits. -/
def clamp32 (value : Int) : Int :=
  if value < -0x80000000 then -0x80000000 else if 0x7fffffff < value then 0x7fffffff else value

/-- The double that a significand times a power of ten denotes. Ten divisions by `10 ^ 308` leave zero. -/
def double? (negative : Bool) (significand : Nat) (exponent : Int) : Option Number :=
  (scale? 10 (Double.nearest (significand * Double.one) 1) exponent).map fun units =>
    .double (.finite negative units)

/-- The number that a numeral denotes. Whole numbers of at most 64 bits are integers, except `-0`; the
others are doubles made from the leading digits that fit in 64 bits. `none` is a number too large. -/
def value? (n : Numeral) : Option Number :=
  let (significand, dropped) := appendDigits 0 n.whole
  if n.fractional = false ∧ dropped = [] then
    if n.negative = false then some (.int significand)
    else if significand = 0 then some (.double (.finite true 0))
    else if significand ≤ Double.pow2 63 then some (.int (-(significand : Int)))
    else double? true significand 0
  else
    let (significand, cut) := appendDigits significand n.fraction
    let start : Int := (dropped.length : Int) - (n.fraction.length - cut.length : Nat)
    let exponent := natOfDigits n.exponent
    if n.exponent ≠ [] ∧ Double.pow2 31 ≤ exponent then
      if significand ≠ 0 ∧ n.exponentNegative = false then none else some (.double (.finite n.negative 0))
    else
      double? n.negative significand (clamp32 (if n.exponentNegative then start - exponent else start + exponent))

end Numeral

end Graft.Json
