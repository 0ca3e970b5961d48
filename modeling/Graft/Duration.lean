import Graft.Double

namespace Graft

/-- A length of time in whole nanoseconds, of less than 2⁶⁴ seconds. Arithmetic that would go beyond the greatest one
stays there. -/
structure Duration where
  nanoseconds : Nat
  le_limit : nanoseconds ≤ 18446744073709551615999999999 := by decide
deriving DecidableEq, Repr

namespace Duration

/-- The greatest number of nanoseconds. -/
def limit : Nat := 18446744073709551615999999999

/-- The length of that many nanoseconds, or the greatest one. -/
def ofNanoseconds (n : Nat) : Duration :=
  if h : n ≤ limit then ⟨n, h⟩ else ⟨limit, Nat.le_refl limit⟩

def ofMilliseconds (n : Nat) : Duration := ofNanoseconds (n * 1000000)

instance : Inhabited Duration := ⟨ofNanoseconds 0⟩

/-- Whole seconds, and the nanoseconds beyond them. -/
def seconds (d : Duration) : Nat := d.nanoseconds / 1000000000

def subseconds (d : Duration) : Nat := d.nanoseconds % 1000000000

def scale (d : Duration) (factor : Nat) : Duration := ofNanoseconds (d.nanoseconds * factor)

/-- The shorter of two. -/
def least (a b : Duration) : Duration := if a.nanoseconds ≤ b.nanoseconds then a else b

theorem nanoseconds_ofNanoseconds (n : Nat) :
    (ofNanoseconds n).nanoseconds = if n ≤ limit then n else limit := by
  unfold ofNanoseconds
  split <;> rfl

theorem nanoseconds_scale (d : Duration) (factor : Nat) :
    (d.scale factor).nanoseconds = min (d.nanoseconds * factor) limit := by
  rw [scale, nanoseconds_ofNanoseconds, Nat.min_def]

theorem nanoseconds_least (a b : Duration) : (least a b).nanoseconds = min a.nanoseconds b.nanoseconds := by
  rw [least, Nat.min_def]
  split <;> rfl

theorem subseconds_lt (d : Duration) : d.subseconds < 1000000000 := Nat.mod_lt _ (by decide)

theorem seconds_add_subseconds (d : Duration) : d.seconds * 1000000000 + d.subseconds = d.nanoseconds :=
  Nat.div_add_mod' d.nanoseconds 1000000000

/-- Seconds as a double: the whole seconds and the fraction are rounded, and so is their sum. -/
def toDouble (d : Duration) : Double :=
  Double.ofInt d.seconds + (Double.ofInt d.subseconds).div (Double.ofInt 1000000000)

/-- The length nearest to a number of seconds, a tie going to an even number of nanoseconds. No length is
negative. -/
def ofDouble : Double → Duration
  | .finite negative units =>
    if negative then ofNanoseconds 0
    else
      let low := units * 1000000000 / Double.one
      let twice := 2 * (units * 1000000000 % Double.one)
      ofNanoseconds (if Double.one < twice ∨ twice = Double.one ∧ low % 2 = 1 then low + 1 else low)
  | .infinite negative => ofNanoseconds (if negative then 0 else limit)
  | .nan => ofNanoseconds 0

/-- A multiple, computed in doubles. -/
def times (d : Duration) (factor : Double) : Duration := ofDouble (factor.mul d.toDouble)

end Duration

end Graft
