import Graft.Double

namespace Graft.Double

/-- A positive decimal `digits · 10 ^ exponent`. -/
structure Decimal where
  digits : Nat
  exponent : Int
deriving DecidableEq, Repr

/-- The digit count of a natural number; zero has one digit. -/
def digitCount (n : Nat) : Nat := (Nat.toDigits 10 n).length

/-- Whether the decimal `digits · 10 ^ exponent` rounds to the magnitude `units`. The ends of the interval
of reals that do belong to it when the last bit of the magnitude is even; below a power of two it is half
as wide. -/
def roundsTo (units digits : Nat) (exponent : Int) : Bool :=
  let step := spacing units
  let up := 4 * units + 2 * step
  let down := 4 * units - if units = pow2 52 * step ∧ 1 < step then step else 2 * step
  let scale := pow10 exponent.natAbs
  let value := if exponent < 0 then 4 * one * digits else 4 * one * digits * scale
  let den := if exponent < 0 then scale else 1
  if units / step % 2 = 0 then down * den ≤ value ∧ value ≤ up * den
  else down * den < value ∧ value < up * den

/-- The place of the leading decimal digit of a positive magnitude. -/
def leadingPlace (units : Nat) : Int := digitCount (units * pow10 330 / one) - 331

/-- The decimal of `count` digits nearest to the magnitude, if one rounds to it. -/
def candidate? (units count : Nat) : Option Decimal :=
  let exponent := leadingPlace units - count + 1
  let scale := pow10 exponent.natAbs
  let num := if exponent < 0 then units * scale else units
  let den := if exponent < 0 then one else one * scale
  let low := num / den
  let near := if 2 * (num % den) < den ∨ 2 * (num % den) = den ∧ low % 2 = 0 then low else low + 1
  let far := if near = low then low + 1 else low
  if roundsTo units near exponent then some ⟨near, exponent⟩
  else if roundsTo units far exponent then some ⟨far, exponent⟩
  else none

/-- Moves the zeros at the end of the digits into the exponent. -/
def Decimal.trim (fuel : Nat) (d : Decimal) : Decimal :=
  match fuel with
  | 0 => d
  | fuel + 1 => if d.digits ≠ 0 ∧ d.digits % 10 = 0 then trim fuel ⟨d.digits / 10, d.exponent + 1⟩ else d

/-- The decimal with the fewest digits that rounds to a positive magnitude; seventeen always suffice. -/
def shortest (units : Nat) : Decimal :=
  (((List.range 17).findSome? fun n => candidate? units (n + 1)).getD ⟨units, 0⟩).trim 20

/-- Decimals with a leading place from -5 to 15 are written positionally with at least one place after the
point, others with one digit before it and an exponent. -/
def Decimal.text (d : Decimal) : String :=
  let digits := toString d.digits
  let count : Int := digits.length
  let point := count + d.exponent
  if 0 ≤ d.exponent ∧ point ≤ 16 then
    digits ++ String.ofList (List.replicate d.exponent.toNat '0') ++ ".0"
  else if 0 < point ∧ point ≤ 16 then
    String.ofList (digits.toList.take point.toNat) ++ "." ++ String.ofList (digits.toList.drop point.toNat)
  else if -5 < point ∧ point ≤ 0 then
    "0." ++ String.ofList (List.replicate (-point).toNat '0') ++ digits
  else
    let tail := String.ofList (digits.toList.drop 1)
    String.ofList (digits.toList.take 1) ++ (if tail = "" then "" else "." ++ tail) ++ "e" ++ toString (point - 1)

/-- The shortest decimal text that reads back as a finite double; there is none for the others. -/
def text? : Double → Option String
  | .finite negative units =>
    let body := if units = 0 then "0.0" else (shortest units).text
    some (if negative then "-" ++ body else body)
  | _ => none

end Graft.Double
