import Graft.Proofs.Registry
import Graft.Heartbeat

namespace Graft

namespace Double

/-- The double that a count of `n` events reaches. From 2⁵³ on it stays, for a double does not change any more when one
is added to it. -/
def counted (n : Nat) : Double := ofInt (min n (pow2 53) : Nat)

/-- A magnitude that can be held is the nearest one. -/
theorem nearest_of_dvd {units : Nat} (held : spacing units ∣ units) : nearest units 1 = units := by
  obtain ⟨quotient, eq⟩ := held
  have positive : 0 < spacing units := Nat.two_pow_pos _
  unfold nearest
  simp only [Nat.div_one, Nat.one_mul]
  generalize spacing units = step at eq positive
  have low : units / step = quotient := by rw [eq, Nat.mul_div_cancel_left _ positive]
  have rest : units % step = 0 := by rw [eq, Nat.mul_mod_right]
  rw [low, rest, if_neg (by omega), Nat.mul_comm, eq]

/-- A double has room for the bits of a whole number up to 2⁵³, at any scale. -/
theorem spacing_dvd {n : Nat} (small : n ≤ pow2 53) (scale : Nat) : spacing (n * pow2 scale) ∣ n * pow2 scale := by
  change n ≤ 2 ^ 53 at small
  change 2 ^ ((n * 2 ^ scale).log2 - 52) ∣ n * 2 ^ scale
  rcases Nat.eq_zero_or_pos n with rfl | positive
  · simp
  rcases Nat.lt_or_eq_of_le small with less | rfl
  · have nonzero : n * 2 ^ scale ≠ 0 := Nat.ne_of_gt (Nat.mul_pos positive (Nat.two_pow_pos scale))
    have log : (n * 2 ^ scale).log2 < 53 + scale := by
      rw [Nat.log2_lt nonzero, Nat.pow_add]
      exact Nat.mul_lt_mul_of_pos_right less (Nat.two_pow_pos scale)
    exact Nat.dvd_mul_left_of_dvd (Nat.pow_dvd_pow 2 (by omega)) n
  · rw [← Nat.pow_add, Nat.log2_two_pow]
    exact Nat.pow_dvd_pow 2 (by omega)

theorem one_pos : 0 < one := by decide +kernel

theorem ofInt_natCast (n : Nat) : ofInt n = ofMagnitude false (nearest (n * one) 1) := by
  have positive : ¬ (n : Int) < 0 := by omega
  rw [ofInt, Int.natAbs_natCast, decide_eq_false positive]

theorem ofInt_eq {n : Nat} (small : n ≤ pow2 53) : ofInt n = .finite false (n * one) := by
  have finite : n * one < bound := calc
    n * one ≤ pow2 53 * one := Nat.mul_le_mul_right _ small
    _ < bound := by decide +kernel
  have held : nearest (n * one) 1 = n * one := nearest_of_dvd (spacing_dvd small 1074)
  rw [ofInt_natCast, held, ofMagnitude, if_pos finite]

theorem finite_add_finite {a b : Nat} (positive : a + b ≠ 0) :
    (.finite false a + .finite false b : Double) = ofMagnitude false (nearest (a + b) 1) := by
  change (if (a + b : Int) = 0 then _ else ofMagnitude (decide ((a + b : Int) < 0)) (nearest (a + b : Int).natAbs 1)) = _
  have natAbs : (a + b : Int).natAbs = a + b := by omega
  rw [if_neg (by omega), natAbs, decide_eq_false (by omega)]

theorem counted_zero : counted 0 = zero := by decide +kernel

/-- One more event. This holds of any count, also of one that has come to its end. -/
theorem counted_add_one (n : Nat) : counted n + ofInt 1 = counted (n + 1) := by
  rcases Nat.lt_or_ge n (pow2 53) with less | full
  · have positive : n * one + 1 * one ≠ 0 := by
      rw [← Nat.add_mul]
      exact Nat.mul_ne_zero (Nat.succ_ne_zero n) (Nat.ne_of_gt one_pos)
    rw [counted, counted, Nat.min_eq_left (Nat.le_of_lt less), Nat.min_eq_left less, ofInt_eq (Nat.le_of_lt less),
      show (1 : Int) = (1 : Nat) from rfl, ofInt_eq (by decide), finite_add_finite positive, ofInt_natCast,
      ← Nat.add_mul]
  · -- Both neighbours of 2⁵³ + 1 are as near to it, and 2⁵³ is the even one.
    rw [counted, counted, Nat.min_eq_right full, Nat.min_eq_right (Nat.le_succ_of_le full)]
    decide +kernel

end Double

namespace Heartbeat

/-- What a metric has reached. One that nothing was added to is zero. -/
def value (h : Heartbeat) (metric : Metric) : Double := (h.metrics.get? metric).getD Double.zero

theorem value_count (h : Heartbeat) (metric other : Metric) :
    (h.count metric).value other = if metric = other then h.value other + Double.ofInt 1 else h.value other := by
  unfold value count add
  rw [Assoc.get?_set]
  split
  · rename_i same
    rw [same, Option.getD_some]
  · rfl

@[simp] theorem value_append (h : Heartbeat) (log : ErrorLog) (entry : String) (metric : Metric) :
    (h.append log entry).value metric = h.value metric := rfl

/-- Whether a metric has counted a number of events. -/
def Counted (h : Heartbeat) (metric : Metric) (n : Nat) : Prop := h.value metric = Double.counted n

theorem counted_empty (bound : Nat) (metric : Metric) : Counted { bound } metric 0 := Double.counted_zero.symm

/-- An event that is counted or is not, as one step of a count. -/
theorem Counted.step {h after : Heartbeat} {metric : Metric} {n : Nat} (counted : h.Counted metric n) {counts : Bool}
    (step : after.value metric = if counts then h.value metric + Double.ofInt 1 else h.value metric) :
    after.Counted metric (n + if counts then 1 else 0) := by
  rw [Counted] at counted ⊢
  cases counts with
  | false => exact step.trans counted
  | true =>
    rw [step, if_pos rfl, counted, Double.counted_add_one]
    rfl

end Heartbeat

end Graft
