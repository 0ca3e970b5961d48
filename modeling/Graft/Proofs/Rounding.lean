import Graft.Dialogue
import Graft.Proofs.Tally
import Mathlib.Algebra.Order.Field.Rat
import Mathlib.Tactic.FieldSimp
import Mathlib.Tactic.Linarith
import Mathlib.Tactic.NormNum
import Mathlib.Tactic.Positivity
import Mathlib.Tactic.Ring
import Mathlib.Tactic.GCongr

namespace Graft

namespace Double

section Rounded

/-- A quotient rounded to a whole number, a tie going to the even one. -/
def rounded (num den : Nat) : Nat :=
  let low := num / den
  let twice := 2 * (num % den)
  if den < twice ∨ twice = den ∧ low % 2 = 1 then low + 1 else low

theorem rounded_cases (num den : Nat) :
    rounded num den = num / den ∧ 2 * (num % den) ≤ den ∨
      rounded num den = num / den + 1 ∧ den ≤ 2 * (num % den) := by
  unfold rounded
  simp only []
  split
  · exact .inr ⟨rfl, by omega⟩
  · exact .inl ⟨rfl, by omega⟩

theorem rounded_off (num : Nat) {den : Nat} (positive : 0 < den) :
    2 * num ≤ 2 * (den * rounded num den) + den ∧ 2 * (den * rounded num den) ≤ 2 * num + den := by
  have parts := Nat.div_add_mod num den
  have rest := Nat.mod_lt num positive
  rcases rounded_cases num den with ⟨down, less⟩ | ⟨up, more⟩
  · rw [down]
    omega
  · rw [up, Nat.mul_add]
    omega

theorem rounded_mul {den : Nat} (positive : 0 < den) (n : Nat) : rounded (den * n) den = n := by
  unfold rounded
  rw [Nat.mul_div_cancel_left n positive, Nat.mul_mod_right]
  exact if_neg (by omega)

theorem rounded_mono {num num' : Nat} (den : Nat) (le : num ≤ num') : rounded num den ≤ rounded num' den := by
  have parts := Nat.div_add_mod num den
  have parts' := Nat.div_add_mod num' den
  rcases Nat.lt_or_eq_of_le (Nat.div_le_div_right (c := den) le) with less | same
  · rcases rounded_cases num den with h | h <;> rcases rounded_cases num' den with h' | h' <;> omega
  · have rest : num % den ≤ num' % den := by
      rw [same] at parts
      omega
    unfold rounded
    simp only [same]
    split <;> split <;> omega

end Rounded

theorem nearest_eq (num den : Nat) :
    nearest num den = rounded num (den * spacing (num / den)) * spacing (num / den) := by
  unfold nearest rounded
  simp only []
  split <;> rfl

theorem nearest_zero (den : Nat) : nearest 0 den = 0 := by
  rw [nearest_eq, Nat.zero_div]
  simp [rounded]

section Powers

theorem nearest_pow2 (k : Nat) : nearest (pow2 k) 1 = pow2 k := by
  have held := spacing_dvd (by decide : 1 ≤ pow2 53) k
  rw [Nat.one_mul] at held
  exact nearest_of_dvd held

theorem pow2_add (m n : Nat) : pow2 (m + n) = pow2 m * pow2 n := Nat.pow_add 2 m n

theorem pow2_le_pow2 {m n : Nat} (le : m ≤ n) : pow2 m ≤ pow2 n := Nat.pow_le_pow_right (by decide) le

theorem pow2_lt_pow2 {m n : Nat} (less : m < n) : pow2 m < pow2 n := Nat.pow_lt_pow_right (by decide) less

theorem pow_mul_one (k : Nat) : 2 ^ k * one = pow2 (k + 1074) := (pow2_add k 1074).symm

theorem nearest_pow_mul_one (k : Nat) : nearest (2 ^ k * one) 1 = 2 ^ k * one := by rw [pow_mul_one, nearest_pow2]

theorem one_lt_bound : one < bound := pow2_lt_pow2 (by decide)

theorem pow_mul_one_lt_bound {k : Nat} (small : k < 1024) : 2 ^ k * one < bound := by
  rw [pow_mul_one]
  exact pow2_lt_pow2 (by omega)

theorem pow_le_one {k : Nat} (small : k ≤ 1074) : pow2 k ≤ one := pow2_le_pow2 small

/-- The factors of pauses are multiples of the second number. -/
theorem one_eq : one = 4503599627370496 * pow2 1022 := by
  rw [show 4503599627370496 = pow2 52 from rfl, ← pow2_add]
  rfl

theorem billion_pos : 0 < 1000000000 * one := Nat.mul_pos (by decide) one_pos

end Powers

theorem log2_le_log2 {units units' : Nat} (le : units ≤ units') : units.log2 ≤ units'.log2 := by
  rcases Nat.eq_zero_or_pos units with rfl | positive
  · exact Nat.zero_le _
  · have lower : 2 ^ units.log2 ≤ units' := (Nat.log2_self_le (Nat.ne_of_gt positive)).trans le
    exact (Nat.le_log2 (Nat.ne_of_gt (Nat.lt_of_lt_of_le positive le))).mpr lower

theorem spacing_pos (units : Nat) : 0 < spacing units := Nat.two_pow_pos _

/-- From where on the bits of a double do not suffice, the spacing takes up the rest, and it is a small part of the
magnitude. -/
theorem spacing_le {units : Nat} (large : 2 ^ 52 ≤ units) : 2 ^ 52 * spacing units ≤ units := by
  have nonzero : units ≠ 0 := Nat.ne_of_gt (Nat.lt_of_lt_of_le (Nat.two_pow_pos 52) large)
  have log : 52 ≤ units.log2 := (Nat.le_log2 nonzero).mpr large
  calc 2 ^ 52 * spacing units = 2 ^ (52 + (units.log2 - 52)) := (Nat.pow_add 2 52 _).symm
    _ = 2 ^ units.log2 := by rw [Nat.add_sub_cancel' log]
    _ ≤ units := Nat.log2_self_le nonzero

theorem spacing_dvd_pow {units bits : Nat} (log : units.log2 ≤ bits) : spacing units ∣ 2 ^ bits :=
  Nat.pow_dvd_pow 2 (by rw [excess]; omega)

theorem nearest_mono {num num' den : Nat} (positive : 0 < den) (le : num ≤ num') :
    nearest num den ≤ nearest num' den := by
  have quotients : num / den ≤ num' / den := Nat.div_le_div_right le
  rw [nearest_eq, nearest_eq]
  by_cases same : spacing (num / den) = spacing (num' / den)
  · rw [same]
    exact Nat.mul_le_mul_right _ (rounded_mono _ le)
  · -- A power of two lies between the two numbers, and it is a multiple of either spacing.
    have logs : (num / den).log2 < (num' / den).log2 := by
      refine Nat.lt_of_not_le fun more => same ?_
      have less := log2_le_log2 quotients
      rw [spacing, spacing, excess, excess, Nat.le_antisymm less more]
    have nonzero : num' / den ≠ 0 := fun zero => by simp [zero] at logs
    have above : num ≤ den * 2 ^ (num' / den).log2 := by
      have small : num / den < 2 ^ (num' / den).log2 :=
        Nat.lt_of_lt_of_le Nat.lt_log2_self (Nat.pow_le_pow_right (by decide) logs)
      rw [Nat.mul_comm]
      exact Nat.le_of_lt ((Nat.div_lt_iff_lt_mul positive).mp small)
    have below : den * 2 ^ (num' / den).log2 ≤ num' := by
      rw [Nat.mul_comm]
      exact (Nat.le_div_iff_mul_le positive).mp (Nat.log2_self_le nonzero)
    have held {units : Nat} (log : units.log2 ≤ (num' / den).log2) :
        rounded (den * 2 ^ (num' / den).log2) (den * spacing units) * spacing units = 2 ^ (num' / den).log2 := by
      obtain ⟨n, eq⟩ := spacing_dvd_pow log
      rw [eq, ← Nat.mul_assoc, rounded_mul (Nat.mul_pos positive (spacing_pos units)), Nat.mul_comm]
    calc rounded num (den * spacing (num / den)) * spacing (num / den)
      _ ≤ rounded (den * 2 ^ (num' / den).log2) (den * spacing (num / den)) * spacing (num / den) :=
        Nat.mul_le_mul_right _ (rounded_mono _ above)
      _ = rounded (den * 2 ^ (num' / den).log2) (den * spacing (num' / den)) * spacing (num' / den) := by
        rw [held (Nat.le_of_lt logs), held (Nat.le_refl _)]
      _ ≤ rounded num' (den * spacing (num' / den)) * spacing (num' / den) :=
        Nat.mul_le_mul_right _ (rounded_mono _ below)

/-- The relative error of one rounding. -/
def roundoff : ℚ := 1 / 2 ^ 53

theorem roundoff_pos : 0 < roundoff := by norm_num [roundoff]

theorem roundoff_lt_one : roundoff < 1 := by norm_num [roundoff]

theorem roundings_shrink : 1 - 1 / 2 ^ 50 ≤ (1 - roundoff) ^ 3 := by norm_num [roundoff]

/-- The greatest factor is a unit short of three halves, which makes up for one of the roundings. -/
theorem roundings_grow : (1 + roundoff) ^ 3 * (3 - 4 * roundoff) ≤ 3 + 1 / 2 ^ 50 := by norm_num [roundoff]

/-- A value that some roundings make of another. -/
structure Near (roundings : Nat) (value exact : ℚ) : Prop where
  above : (1 - roundoff) ^ roundings * exact ≤ value
  below : value ≤ (1 + roundoff) ^ roundings * exact

namespace Near

variable {m n : Nat} {x y z x' y' : ℚ}

theorem trans (first : Near m x y) (second : Near n y z) : Near (m + n) x z where
  above := calc
    (1 - roundoff) ^ (m + n) * z = (1 - roundoff) ^ m * ((1 - roundoff) ^ n * z) := by ring
    _ ≤ (1 - roundoff) ^ m * y :=
      mul_le_mul_of_nonneg_left second.above (pow_nonneg (sub_nonneg.mpr roundoff_lt_one.le) m)
    _ ≤ x := first.above
  below := calc
    x ≤ (1 + roundoff) ^ m * y := first.below
    _ ≤ (1 + roundoff) ^ m * ((1 + roundoff) ^ n * z) :=
      mul_le_mul_of_nonneg_left second.below (pow_nonneg (add_nonneg zero_le_one roundoff_pos.le) m)
    _ = (1 + roundoff) ^ (m + n) * z := by ring

theorem add (first : Near n x y) (second : Near n x' y') : Near n (x + x') (y + y') where
  above := by
    rw [mul_add]
    exact add_le_add first.above second.above
  below := by
    rw [mul_add]
    exact add_le_add first.below second.below

theorem scale (near : Near n x y) {factor : ℚ} (nonneg : 0 ≤ factor) : Near n (factor * x) (factor * y) where
  above := by
    rw [mul_left_comm]
    exact mul_le_mul_of_nonneg_left near.above nonneg
  below := by
    rw [mul_left_comm]
    exact mul_le_mul_of_nonneg_left near.below nonneg

end Near

/-- Rounding to a double, above the magnitudes whose spacing does not shrink any more, changes a value by at most one
part in 2⁵³. Zero is not changed at all. -/
theorem near_nearest {num den : Nat} (positive : 0 < den) (large : num = 0 ∨ 2 ^ 52 ≤ num / den) :
    Near 1 (nearest num den) (num / den) := by
  rcases large with rfl | large
  · constructor <;> simp [nearest_zero]
  · -- The spacing is a part in 2⁵² of the quotient at most, and no more than one half of it is lost.
    have step : 2 ^ 52 * (den * spacing (num / den)) ≤ num := calc
      2 ^ 52 * (den * spacing (num / den)) = den * (2 ^ 52 * spacing (num / den)) := Nat.mul_left_comm ..
      _ ≤ den * (num / den) := Nat.mul_le_mul_left den (spacing_le large)
      _ ≤ num := Nat.mul_div_le num den
    have off := rounded_off num (Nat.mul_pos positive (spacing_pos (num / den)))
    have product : den * spacing (num / den) * rounded num (den * spacing (num / den)) = den * nearest num den := by
      rw [nearest_eq, Nat.mul_assoc, Nat.mul_comm (spacing _)]
    rw [product] at off
    have lower : (2 ^ 53 - 1) * num ≤ 2 ^ 53 * (den * nearest num den) := by omega
    have upper : 2 ^ 53 * (den * nearest num den) ≤ (2 ^ 53 + 1) * num := by omega
    have positive' : (0 : ℚ) < den := by exact_mod_cast positive
    have lower' : ((2 ^ 53 - 1) * num : ℚ) ≤ 2 ^ 53 * (den * nearest num den) := by
      have := (Nat.cast_le (α := ℚ)).mpr lower
      push_cast at this
      linarith
    have upper' : (2 ^ 53 * (den * nearest num den) : ℚ) ≤ (2 ^ 53 + 1) * num := by exact_mod_cast upper
    constructor
    · rw [pow_one, ← mul_div_assoc, div_le_iff₀ positive', roundoff]
      linarith
    · rw [pow_one, ← mul_div_assoc, le_div_iff₀ positive', roundoff]
      linarith

end Double

namespace Duration

open Double

section Seconds

variable (d : Duration)

/-- The whole seconds of a duration, as a double holds them. -/
def secondsUnits : Nat := nearest (d.seconds * one) 1

def subsecondsUnits : Nat := nearest (d.subseconds * one * one) (1000000000 * one)

/-- The length of a duration in seconds, as a double holds it. -/
def units : Nat := nearest (d.secondsUnits + d.subsecondsUnits) 1

theorem secondsUnits_le : d.secondsUnits ≤ 2 ^ 64 * one := by
  have small : d.seconds ≤ 2 ^ 64 := by
    have := d.le_limit
    rw [seconds]
    omega
  calc d.secondsUnits ≤ nearest (2 ^ 64 * one) 1 := nearest_mono Nat.one_pos (Nat.mul_le_mul_right one small)
    _ = 2 ^ 64 * one := nearest_pow_mul_one 64

theorem subsecondsUnits_le : d.subsecondsUnits ≤ one := by
  have small : d.subseconds ≤ 1000000000 := d.subseconds_lt.le
  calc d.subsecondsUnits ≤ nearest (1000000000 * one * one) (1000000000 * one) :=
        nearest_mono billion_pos (Nat.mul_le_mul_right one (Nat.mul_le_mul_right one small))
    _ = one := by decide +kernel

theorem units_le : d.units ≤ 2 ^ 65 * one := by
  have double (n : Nat) : 2 ^ 64 * n + 2 ^ 64 * n = 2 ^ 65 * n := by omega
  have sum : d.secondsUnits + d.subsecondsUnits ≤ 2 ^ 65 * one := calc
    d.secondsUnits + d.subsecondsUnits ≤ 2 ^ 64 * one + 2 ^ 64 * one :=
      Nat.add_le_add d.secondsUnits_le (d.subsecondsUnits_le.trans (Nat.le_mul_of_pos_left one (by decide)))
    _ = 2 ^ 65 * one := double one
  calc d.units ≤ nearest (2 ^ 65 * one) 1 := nearest_mono Nat.one_pos sum
    _ = 2 ^ 65 * one := nearest_pow_mul_one 65

theorem toDouble_eq : d.toDouble = .finite false d.units := by
  have seconds : ofInt d.seconds = .finite false d.secondsUnits := by
    have finite : d.secondsUnits < bound := Nat.lt_of_le_of_lt d.secondsUnits_le (pow_mul_one_lt_bound (by decide))
    rw [ofInt_natCast, ofMagnitude]
    exact if_pos finite
  have subseconds : (ofInt d.subseconds).div (ofInt 1000000000) = .finite false d.subsecondsUnits := by
    have room : 1000000000 ≤ pow2 53 := by decide
    have small : d.subseconds ≤ pow2 53 := d.subseconds_lt.le.trans room
    have billion : ofInt 1000000000 = .finite false (1000000000 * one) := ofInt_eq (n := 1000000000) room
    have finite : d.subsecondsUnits < bound := Nat.lt_of_le_of_lt d.subsecondsUnits_le one_lt_bound
    rw [ofInt_eq small, billion, div, if_neg (Nat.ne_of_gt billion_pos)]
    exact if_pos finite
  have finite : d.units < bound := Nat.lt_of_le_of_lt d.units_le (pow_mul_one_lt_bound (by decide))
  rw [toDouble, seconds, subseconds]
  by_cases zero : d.secondsUnits + d.subsecondsUnits = 0
  · obtain ⟨first, second⟩ := Nat.add_eq_zero_iff.mp zero
    rw [units, first, second, nearest_zero]
    rfl
  · rw [finite_add_finite zero]
    exact if_pos finite

/-- Both parts are above the magnitudes with the least spacing, unless they are zero. -/
theorem large_of_pos (positive : 0 < d.nanoseconds) : 2 ^ 200 ≤ d.secondsUnits + d.subsecondsUnits := by
  have parts := d.seconds_add_subseconds
  rcases Nat.eq_zero_or_pos d.seconds with none | some
  · have some : 1 ≤ d.subseconds := by omega
    calc 2 ^ 200 ≤ nearest (1 * one * one) (1000000000 * one) := by decide +kernel
      _ ≤ d.subsecondsUnits :=
        nearest_mono billion_pos (Nat.mul_le_mul_right one (Nat.mul_le_mul_right one some))
      _ ≤ d.secondsUnits + d.subsecondsUnits := Nat.le_add_left ..
  · calc 2 ^ 200 ≤ one := pow_le_one (by decide : 200 ≤ 1074)
      _ = nearest (1 * one) 1 := by rw [Nat.one_mul, one, nearest_pow2]
      _ ≤ d.secondsUnits := nearest_mono Nat.one_pos (Nat.mul_le_mul_right one some)
      _ ≤ d.secondsUnits + d.subsecondsUnits := Nat.le_add_right ..

theorem units_of_pos (positive : 0 < d.nanoseconds) : 2 ^ 200 ≤ d.units := calc
  2 ^ 200 = nearest (2 ^ 200) 1 := (nearest_pow2 200).symm
  _ ≤ d.units := nearest_mono Nat.one_pos (d.large_of_pos positive)

theorem parts_of_zero (zero : d.nanoseconds = 0) : d.secondsUnits + d.subsecondsUnits = 0 := by
  have parts := d.seconds_add_subseconds
  have none : d.seconds = 0 := by omega
  have none' : d.subseconds = 0 := by omega
  rw [secondsUnits, subsecondsUnits, none, none', Nat.zero_mul, Nat.zero_mul, nearest_zero, nearest_zero]

theorem near_secondsUnits : Near 1 d.secondsUnits (d.seconds * one : ℚ) := by
  have large : d.seconds * one = 0 ∨ 2 ^ 52 ≤ d.seconds * one / 1 := by
    refine (Nat.eq_zero_or_pos d.seconds).imp (fun none => by rw [none, Nat.zero_mul]) fun some => ?_
    rw [Nat.div_one]
    exact (pow_le_one (by decide : 52 ≤ 1074)).trans (Nat.le_mul_of_pos_left one some)
  have near := near_nearest Nat.one_pos large
  rw [Nat.cast_one, div_one, Nat.cast_mul] at near
  exact near

theorem near_subsecondsUnits : Near 1 d.subsecondsUnits (d.subseconds / 1000000000 * one : ℚ) := by
  have large : d.subseconds * one * one = 0 ∨ 2 ^ 52 ≤ d.subseconds * one * one / (1000000000 * one) := by
    refine (Nat.eq_zero_or_pos d.subseconds).imp (fun none => by rw [none, Nat.zero_mul, Nat.zero_mul]) fun some => ?_
    refine Nat.le_trans (by decide +kernel : 2 ^ 52 ≤ 1 * one * one / (1000000000 * one)) ?_
    exact Nat.div_le_div_right (Nat.mul_le_mul_right one (Nat.mul_le_mul_right one some))
  have near := near_nearest billion_pos large
  have unit : (one : ℚ) ≠ 0 := by exact_mod_cast Nat.ne_of_gt Double.one_pos
  have quotient : ((d.subseconds * one * one : ℕ) / (1000000000 * one : ℕ) : ℚ) =
      d.subseconds / 1000000000 * one := by
    push_cast
    field_simp
  rw [quotient] at near
  exact near

/-- The parts are rounded once each, and so is their sum, which makes two roundings for each part. -/
theorem near_units : Near 2 d.units (d.nanoseconds / 1000000000 * one : ℚ) := by
  have large : d.secondsUnits + d.subsecondsUnits = 0 ∨ 2 ^ 52 ≤ (d.secondsUnits + d.subsecondsUnits) / 1 := by
    rw [Nat.div_one]
    rcases Nat.eq_zero_or_pos d.nanoseconds with zero | positive
    · exact .inl (d.parts_of_zero zero)
    · exact .inr (Nat.le_trans (by decide) (d.large_of_pos positive))
  have sum := near_nearest Nat.one_pos large
  rw [Nat.cast_one, div_one, Nat.cast_add] at sum
  have parts : (d.seconds * one + d.subseconds / 1000000000 * one : ℚ) = d.nanoseconds / 1000000000 * one := by
    rw [← d.seconds_add_subseconds]
    push_cast
    ring
  rw [← parts]
  exact sum.trans (d.near_secondsUnits.add d.near_subsecondsUnits)

end Seconds

section Multiples

variable (d : Duration) {factor : Nat}

/-- A multiple in seconds, as a double holds it. Factors are in units, too. -/
def productUnits (factor : Nat) : Nat := nearest (factor * d.units) one

/-- The number of nanoseconds that a multiple comes to. -/
def multiple (factor : Nat) : Nat := rounded (d.productUnits factor * 1000000000) one

theorem productUnits_lt (small : factor ≤ 2 * one) : d.productUnits factor < bound := calc
  d.productUnits factor ≤ nearest (2 * one * (2 ^ 65 * one)) one :=
    nearest_mono Double.one_pos (Nat.mul_le_mul small d.units_le)
  _ < bound := by decide +kernel

theorem ofDouble_finite (units : Nat) :
    ofDouble (.finite false units) = ofNanoseconds (rounded (units * 1000000000) one) := by
  simp only [ofDouble, rounded, Bool.false_eq_true, if_false]

theorem times_eq (small : factor ≤ 2 * one) : d.times (.finite false factor) = ofNanoseconds (d.multiple factor) := by
  have product : mul (.finite false factor) d.toDouble = .finite false (d.productUnits factor) := by
    rw [toDouble_eq, mul]
    exact if_pos (d.productUnits_lt small)
  rw [times, product, ofDouble_finite]
  rfl

theorem ofNanoseconds_mono {m n : Nat} (le : m ≤ n) : (ofNanoseconds m).nanoseconds ≤ (ofNanoseconds n).nanoseconds := by
  rw [nanoseconds_ofNanoseconds, nanoseconds_ofNanoseconds]
  split <;> split <;> omega

theorem times_mono {factor' : Nat} (le : factor ≤ factor') (small : factor' ≤ 2 * one) :
    (d.times (.finite false factor)).nanoseconds ≤ (d.times (.finite false factor')).nanoseconds := by
  have product : d.productUnits factor ≤ d.productUnits factor' :=
    nearest_mono Double.one_pos (Nat.mul_le_mul_right _ le)
  rw [d.times_eq (le.trans small), d.times_eq small]
  exact ofNanoseconds_mono (rounded_mono one (Nat.mul_le_mul_right _ product))

end Multiples

section Bounds

variable (d : Duration) {factor : Nat}

/-- A factor as a number. -/
def ratio (factor : Nat) : ℚ := factor / one

theorem near_productUnits (least : 2251799813685248 * pow2 1022 ≤ factor) :
    Near 3 (d.productUnits factor) (ratio factor * (d.nanoseconds / 1000000000 * one)) := by
  have large : factor * d.units = 0 ∨ 2 ^ 52 ≤ factor * d.units / one := by
    rcases Nat.eq_zero_or_pos d.nanoseconds with zero | positive
    · have none : d.units = 0 := by
        rw [units, d.parts_of_zero zero, nearest_zero]
      exact .inl (by rw [none, Nat.mul_zero])
    · refine .inr (Nat.le_trans (by decide +kernel : 2 ^ 52 ≤ 2251799813685248 * pow2 1022 * 2 ^ 200 / one) ?_)
      exact Nat.div_le_div_right (Nat.mul_le_mul least (d.units_of_pos positive))
  have product := near_nearest Double.one_pos large
  rw [Nat.cast_mul, mul_div_right_comm] at product
  exact product.trans (d.near_units.scale (div_nonneg (Nat.cast_nonneg _) (Nat.cast_nonneg _)))

/-- A multiple is off the exact one by three roundings and half a nanosecond. The factor must be at least one half, or
its spacing would matter too. -/
theorem multiple_near (least : 2251799813685248 * pow2 1022 ≤ factor) :
    (1 - roundoff) ^ 3 * (2 * ratio factor * d.nanoseconds) ≤ 2 * d.multiple factor + 1 ∧
      2 * d.multiple factor ≤ (1 + roundoff) ^ 3 * (2 * ratio factor * d.nanoseconds) + 1 := by
  have unit : (0 : ℚ) < one := by exact_mod_cast Double.one_pos
  obtain ⟨above, below⟩ := d.near_productUnits least
  obtain ⟨lower, upper⟩ := rounded_off (d.productUnits factor * 1000000000) Double.one_pos
  have lower : (2 * (d.productUnits factor * 1000000000) : ℚ) ≤ 2 * (one * d.multiple factor) + one := by
    exact_mod_cast lower
  have upper : (2 * (one * d.multiple factor) : ℚ) ≤ 2 * (d.productUnits factor * 1000000000) + one := by
    exact_mod_cast upper
  have cleared (c unit : ℚ) : c * (2 * ratio factor * d.nanoseconds) * unit =
      2 * (c * (ratio factor * (d.nanoseconds / 1000000000 * unit)) * 1000000000) := by
    ring
  constructor
  · refine le_of_mul_le_mul_right ?_ unit
    rw [cleared]
    linarith
  · refine le_of_mul_le_mul_right ?_ unit
    rw [add_mul, cleared]
    linarith

variable (least : 2251799813685248 * pow2 1022 ≤ factor) (most : factor ≤ 6755399441055743 * pow2 1022)
include least most

/-- One half at least, and less than three halves by a step. -/
theorem ratio_bounds : 1 ≤ 2 * ratio factor ∧ 2 * ratio factor ≤ 3 - 4 * roundoff := by
  have unit : (0 : ℚ) < one := by exact_mod_cast Double.one_pos
  have lower : one ≤ 2 * factor := by
    rw [one_eq]
    omega
  have upper : 2 ^ 51 * (2 * factor) ≤ 6755399441055743 * one := by
    rw [one_eq]
    omega
  have lower : (one : ℚ) ≤ 2 * factor := by exact_mod_cast lower
  have upper : (2 ^ 51 * (2 * factor) : ℚ) ≤ 6755399441055743 * one := by exact_mod_cast upper
  rw [ratio, ← mul_div_assoc]
  constructor
  · rw [le_div_iff₀ unit]
    linarith
  · rw [div_le_iff₀ unit, roundoff]
    linarith

/-- So the multiple lies between one half and three halves, up to half a nanosecond and a part in 2⁵¹. -/
theorem multiple_bounds :
    2 ^ 50 * d.nanoseconds ≤ 2 ^ 50 * (2 * d.multiple factor + 1) + d.nanoseconds ∧
      2 ^ 50 * (2 * d.multiple factor) ≤ 2 ^ 50 * (3 * d.nanoseconds + 1) + d.nanoseconds := by
  obtain ⟨lower, upper⟩ := d.multiple_near least
  obtain ⟨half, threeHalves⟩ := ratio_bounds least most
  have length : (0 : ℚ) ≤ d.nanoseconds := Nat.cast_nonneg _
  constructor
  · have low : (1 - 1 / 2 ^ 50 : ℚ) * d.nanoseconds ≤ 2 * d.multiple factor + 1 := calc
      (1 - 1 / 2 ^ 50 : ℚ) * d.nanoseconds ≤ (1 - roundoff) ^ 3 * (1 * d.nanoseconds) := by
        rw [one_mul]
        exact mul_le_mul_of_nonneg_right roundings_shrink length
      _ ≤ (1 - roundoff) ^ 3 * (2 * ratio factor * d.nanoseconds) :=
        mul_le_mul_of_nonneg_left (mul_le_mul_of_nonneg_right half length)
          (pow_nonneg (sub_nonneg.mpr roundoff_lt_one.le) 3)
      _ ≤ 2 * d.multiple factor + 1 := lower
    have bound : (2 ^ 50 * d.nanoseconds : ℚ) ≤ 2 ^ 50 * (2 * d.multiple factor + 1) + d.nanoseconds := by linarith
    exact_mod_cast bound
  · have high : (2 * d.multiple factor : ℚ) ≤ (3 + 1 / 2 ^ 50) * d.nanoseconds + 1 := calc
      (2 * d.multiple factor : ℚ) ≤ (1 + roundoff) ^ 3 * (2 * ratio factor * d.nanoseconds) + 1 := upper
      _ ≤ (1 + roundoff) ^ 3 * ((3 - 4 * roundoff) * d.nanoseconds) + 1 :=
        add_le_add_left (mul_le_mul_of_nonneg_left (mul_le_mul_of_nonneg_right threeHalves length)
          (pow_nonneg (add_nonneg zero_le_one roundoff_pos.le) 3)) 1
      _ ≤ (3 + 1 / 2 ^ 50) * d.nanoseconds + 1 := by
        rw [← mul_assoc]
        exact add_le_add_left (mul_le_mul_of_nonneg_right roundings_grow length) 1
    have bound : (2 ^ 50 * (2 * d.multiple factor) : ℚ) ≤ 2 ^ 50 * (3 * d.nanoseconds + 1) + d.nanoseconds := by
      linarith
    exact_mod_cast bound

end Bounds

def half : Double := .finite false (one / 2)

def threeHalves : Double := .finite false (3 * (one / 2))

/-- A delay between one half and three halves of a nominal one. As numbers the bounds cannot be taken to the letter: a
delay is a whole number of nanoseconds, and a double of 53 bits stood in between. -/
structure Around (nominal delay : Duration) : Prop where
  /-- Between the lengths that the two multiples come to. -/
  between : (nominal.times half).nanoseconds ≤ delay.nanoseconds ∧
    delay.nanoseconds ≤ (nominal.times threeHalves).nanoseconds
  atLeast : nominal.nanoseconds ≤ 2 * delay.nanoseconds + 1 + nominal.nanoseconds / 2 ^ 50
  atMost : 2 * delay.nanoseconds ≤ 3 * nominal.nanoseconds + 1 + nominal.nanoseconds / 2 ^ 50
  /-- To the letter where the bounds are whole numbers that are not too large. -/
  exactly : 2 ∣ nominal.nanoseconds → nominal.nanoseconds < 2 ^ 50 →
    nominal.nanoseconds ≤ 2 * delay.nanoseconds ∧ 2 * delay.nanoseconds ≤ 3 * nominal.nanoseconds
  /-- The delay is not cut off at the greatest length of time. -/
  uncut : delay.nanoseconds < limit

section Around

variable {d : Duration} (fits : 3 * d.nanoseconds ≤ 2 * limit)
include fits

/-- The greatest double that is a number of seconds whose one and a half fold is a length of time. -/
def greatestUnits : Nat := 12297829382473033728 * one

theorem units_le_greatest : d.units ≤ greatestUnits := by
  have small : d.seconds ≤ 12297829382473034410 := by
    rw [limit] at fits
    rw [seconds]
    omega
  have whole : d.secondsUnits ≤ greatestUnits := calc
    d.secondsUnits ≤ nearest (12297829382473034410 * one) 1 := nearest_mono Nat.one_pos (Nat.mul_le_mul_right one small)
    _ = greatestUnits := by decide +kernel
  -- A further second is less than half the spacing there.
  calc d.units ≤ nearest (greatestUnits + one) 1 :=
        nearest_mono Nat.one_pos (Nat.add_le_add whole d.subsecondsUnits_le)
    _ = greatestUnits := by decide +kernel

theorem multiple_lt_limit {factor : Nat} (most : factor ≤ 6755399441055743 * pow2 1022) : d.multiple factor < limit := by
  have product : d.productUnits factor ≤ nearest (6755399441055743 * pow2 1022 * greatestUnits) one :=
    nearest_mono Double.one_pos (Nat.mul_le_mul most (units_le_greatest fits))
  calc d.multiple factor
    _ ≤ rounded (nearest (6755399441055743 * pow2 1022 * greatestUnits) one * 1000000000) one :=
      rounded_mono one (Nat.mul_le_mul_right _ product)
    _ < limit := by decide +kernel

/-- A random multiple of a duration lies around it, when one and a half of it is a length of time. Without that the
greatest length would cut some multiples short. -/
theorem around_times (j : Jitter) : Around d (d.times j.factor) := by
  have least : 2251799813685248 * pow2 1022 ≤ (2251799813685248 + j.steps) * pow2 1022 :=
    Nat.mul_le_mul_right _ (Nat.le_add_right _ _)
  have most : (2251799813685248 + j.steps) * pow2 1022 ≤ 6755399441055743 * pow2 1022 := by
    have := j.lt_range
    exact Nat.mul_le_mul_right _ (by omega)
  have halved : one / 2 = 2251799813685248 * pow2 1022 := by
    rw [one_eq]
    omega
  have doubled : 2 * one = 9007199254740992 * pow2 1022 := by
    rw [one_eq]
    omega
  have small : (2251799813685248 + j.steps) * pow2 1022 ≤ 2 * one := by omega
  have uncut := multiple_lt_limit fits most
  have length : (d.times j.factor).nanoseconds = d.multiple ((2251799813685248 + j.steps) * pow2 1022) := by
    rw [Jitter.factor, d.times_eq small, nanoseconds_ofNanoseconds]
    exact if_pos (Nat.le_of_lt uncut)
  obtain ⟨lower, upper⟩ := d.multiple_bounds least most
  rw [← length] at uncut lower upper
  constructor
  · rw [half, threeHalves, halved]
    exact ⟨d.times_mono least small, d.times_mono (by omega) (by omega)⟩
  · omega
  · omega
  · omega
  · exact uncut

end Around

end Duration

end Graft
