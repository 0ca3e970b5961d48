import Graft.Backoff
import Mathlib.Algebra.Group.Nat.Defs

namespace Graft

namespace Duration

/-- A length of time in machine words: whole seconds, and the nanoseconds beyond them. -/
structure Words where
  seconds : UInt64
  subseconds : UInt32
  lt_second : subseconds.toNat < 1000000000
deriving DecidableEq

namespace Words

def nanoseconds (w : Words) : Nat := w.seconds.toNat * 1000000000 + w.subseconds.toNat

theorem nanoseconds_le (w : Words) : w.nanoseconds ≤ limit := by
  have seconds := w.seconds.toNat_lt
  have subseconds := w.lt_second
  simp only [nanoseconds, limit]
  omega

theorem eq_of_nanoseconds {a b : Words} (same : a.nanoseconds = b.nanoseconds) : a = b := by
  obtain ⟨seconds, subseconds, lt⟩ := a
  obtain ⟨seconds', subseconds', lt'⟩ := b
  simp only [nanoseconds] at same
  obtain rfl : seconds = seconds' := UInt64.toNat.inj (by omega)
  obtain rfl : subseconds = subseconds' := UInt32.toNat.inj (by omega)
  rfl

/-- The greatest length. -/
def greatest : Words := ⟨18446744073709551615, 999999999, by decide⟩

/-- The shorter of two, by the seconds first. -/
def least (a b : Words) : Words :=
  if a.seconds < b.seconds ∨ a.seconds = b.seconds ∧ a.subseconds ≤ b.subseconds then a else b

theorem nanoseconds_least (a b : Words) : (least a b).nanoseconds = min a.nanoseconds b.nanoseconds := by
  have lt := a.lt_second
  have lt' := b.lt_second
  have shorter : (a.seconds < b.seconds ∨ a.seconds = b.seconds ∧ a.subseconds ≤ b.subseconds) ↔
      a.nanoseconds ≤ b.nanoseconds := by
    rw [UInt64.lt_iff_toNat_lt, ← UInt64.toNat_inj, UInt32.le_iff_toNat_le]
    simp only [nanoseconds]
    omega
  rw [least, Nat.min_def]
  simp only [shorter]
  split <;> rfl

/-- The result of an operation on words, unless it has wrapped around. -/
def checked (number : Nat) (wrapped : UInt64) : Option UInt64 := if number < UInt64.size then some wrapped else none

theorem checked_eq_some_iff {number : Nat} {wrapped result : UInt64} (wraps : wrapped.toNat = number % UInt64.size) :
    checked number wrapped = some result ↔ result.toNat = number := by
  have fits := result.toNat_lt_size
  rw [checked]
  split
  · rename_i less
    rw [Option.some.injEq, ← UInt64.toNat_inj, wraps, Nat.mod_eq_of_lt less, eq_comm]
  · simp only [reduceCtorEq, false_iff]
    omega

def sum? (a b : UInt64) : Option UInt64 := checked (a.toNat + b.toNat) (a + b)

def product? (a b : UInt64) : Option UInt64 := checked (a.toNat * b.toNat) (a * b)

theorem sum?_eq_some_iff {a b c : UInt64} : sum? a b = some c ↔ c.toNat = a.toNat + b.toNat :=
  checked_eq_some_iff (UInt64.toNat_add a b)

theorem product?_eq_some_iff {a b c : UInt64} : product? a b = some c ↔ c.toNat = a.toNat * b.toNat :=
  checked_eq_some_iff (UInt64.toNat_mul a b)

theorem toNat_remainder (n : UInt64) : (n % 1000000000).toUInt32.toNat = n.toNat % 1000000000 := by
  rw [UInt64.toNat_toUInt32, UInt64.toNat_mod]
  have less := Nat.mod_lt n.toNat (show 0 < 1000000000 by decide)
  exact Nat.mod_eq_of_lt (Nat.lt_trans less (by decide))

/-- A multiple, unless the seconds overflow. The nanoseconds are multiplied in a wider word, and those that make up
seconds are carried. -/
def multiple? (w : Words) (factor : UInt32) : Option Words := do
  let part := w.subseconds.toUInt64 * factor.toUInt64
  let seconds ← sum? (← product? w.seconds factor.toUInt64) (part / 1000000000)
  return ⟨seconds, (part % 1000000000).toUInt32, toNat_remainder part ▸ Nat.mod_lt _ (by decide)⟩

/-- The exact multiple, if words can hold it. The nanoseconds of the product never overflow the wider word. -/
theorem multiple?_eq_some_iff {w product : Words} {factor : UInt32} :
    w.multiple? factor = some product ↔ product.nanoseconds = w.nanoseconds * factor.toNat := by
  have fits : w.subseconds.toNat * factor.toNat < 2 ^ 64 := calc
    w.subseconds.toNat * factor.toNat < 2 ^ 32 * 2 ^ 32 := Nat.mul_lt_mul'' w.subseconds.toNat_lt factor.toNat_lt
    _ = 2 ^ 64 := by decide
  have part : (w.subseconds.toUInt64 * factor.toUInt64).toNat = w.subseconds.toNat * factor.toNat := by
    rw [UInt64.toNat_mul, UInt32.toNat_toUInt64, UInt32.toNat_toUInt64, Nat.mod_eq_of_lt fits]
  have whole : w.nanoseconds * factor.toNat =
      w.seconds.toNat * factor.toNat * 1000000000 + w.subseconds.toNat * factor.toNat := by
    rw [nanoseconds, Nat.add_mul, Nat.mul_right_comm]
  have second : UInt64.toNat 1000000000 = 1000000000 := rfl
  simp only [multiple?, Option.bind_eq_bind, Option.bind_eq_some_iff, product?_eq_some_iff, sum?_eq_some_iff,
    Option.pure_def, Option.some.injEq, UInt64.toNat_div, UInt32.toNat_toUInt64, part, second, whole]
  constructor
  · rintro ⟨seconds, isProduct, total, isSum, rfl⟩
    simp only [nanoseconds, toNat_remainder, part, isSum, isProduct]
    omega
  · intro same
    have below := product.lt_second
    have bound := product.seconds.toNat_lt
    rw [nanoseconds] at same
    -- Division by a second gives the words of the product back.
    have seconds : w.seconds.toNat * factor.toNat < 2 ^ 64 := by omega
    refine ⟨.ofNat (w.seconds.toNat * factor.toNat), UInt64.toNat_ofNat_of_lt' seconds, product.seconds, ?_,
      eq_of_nanoseconds ?_⟩
    · rw [UInt64.toNat_ofNat_of_lt' seconds]
      omega
    · simp only [nanoseconds, toNat_remainder, part]
      omega

end Words

def words (d : Duration) : Words where
  seconds := .ofNat d.seconds
  subseconds := .ofNat d.subseconds
  lt_second := Nat.lt_of_le_of_lt (Nat.mod_le _ _) d.subseconds_lt

theorem nanoseconds_words (d : Duration) : d.words.nanoseconds = d.nanoseconds := by
  have most := d.le_limit
  have less := d.subseconds_lt
  have parts := d.seconds_add_subseconds
  have seconds : d.seconds < 2 ^ 64 := by omega
  have subseconds : d.subseconds < 2 ^ 32 := by omega
  rw [Words.nanoseconds, words, UInt64.toNat_ofNat_of_lt' seconds, UInt32.toNat_ofNat_of_lt' subseconds, parts]

/-- A multiple that words cannot hold stays at the greatest length. -/
theorem multiple?_words (d : Duration) (factor : UInt32) :
    (d.words.multiple? factor).getD .greatest = (d.scale factor.toNat).words := by
  apply Words.eq_of_nanoseconds
  rw [nanoseconds_words, nanoseconds_scale]
  cases made : d.words.multiple? factor with
  | some product =>
    have same := Words.multiple?_eq_some_iff.mp made
    have most := product.nanoseconds_le
    rw [nanoseconds_words] at same
    rw [Option.getD_some, ← same, Nat.min_eq_left most]
  | none =>
    have beyond : limit < d.nanoseconds * factor.toNat := by
      refine Nat.lt_of_not_le fun within => ?_
      have held : (words ⟨_, within⟩).nanoseconds = d.words.nanoseconds * factor.toNat := by
        rw [nanoseconds_words, nanoseconds_words]
      rw [Words.multiple?_eq_some_iff.mpr held] at made
      cases made
    rw [Option.getD_none, Nat.min_eq_right (Nat.le_of_lt beyond)]
    decide

theorem least_words (a b : Duration) : a.words.least b.words = (a.least b).words := by
  apply Words.eq_of_nanoseconds
  rw [Words.nanoseconds_least, nanoseconds_words, nanoseconds_words, nanoseconds_words, nanoseconds_least]

end Duration

namespace Backoff

theorem doublings_eq (failures : UInt32) : doublings failures = min (failures.toNat - 1) 16 := by
  unfold doublings
  split <;> omega

/-- How far a one is shifted for the factor: one place less than there are failures, if there are any, and sixteen
at most. -/
def places (failures : UInt32) : UInt32 := min (if failures = 0 then 0 else failures - 1) 16

theorem toNat_places (failures : UInt32) : (places failures).toNat = doublings failures := by
  have less : (if failures = 0 then 0 else failures - 1).toNat = failures.toNat - 1 := by
    split
    · rename_i isZero
      rw [isZero]
      rfl
    · rename_i isNotZero
      have positive : 1 ≤ failures := UInt32.le_iff_toNat_le.mpr <| Nat.one_le_iff_ne_zero.mpr fun isZero =>
        isNotZero (UInt32.toNat.inj isZero)
      rw [UInt32.toNat_sub_of_le _ _ positive, UInt32.toNat_one]
  rw [doublings_eq, ← less, Nat.min_def]
  exact apply_ite UInt32.toNat (_ ≤ (16 : UInt32)) _ _

/-- A one shifted to the left, unless the word has no such place. -/
def shifted? (places : UInt32) : Option UInt32 := if places < 32 then some (1 <<< places) else none

theorem shifted?_eq_some_iff {places power : UInt32} :
    shifted? places = some power ↔ power.toNat = 2 ^ places.toNat := by
  have fits := power.toNat_lt
  rw [shifted?]
  split
  · rename_i less
    have places_lt : places.toNat < 32 := UInt32.lt_iff_toNat_lt.mp less
    have shifted : ((1 : UInt32) <<< places).toNat = 2 ^ places.toNat := by
      rw [UInt32.toNat_shiftLeft, Nat.mod_eq_of_lt places_lt, UInt32.toNat_one, Nat.one_shiftLeft,
        Nat.mod_eq_of_lt (Nat.pow_lt_pow_right (by decide) places_lt)]
    rw [Option.some.injEq, ← UInt32.toNat_inj, shifted, eq_comm]
  · rename_i beyond
    have wide : 2 ^ 32 ≤ 2 ^ places.toNat :=
      Nat.pow_le_pow_right (by decide) (Nat.le_of_not_lt fun less => beyond (UInt32.lt_iff_toNat_lt.mpr less))
    simp only [reduceCtorEq, false_iff]
    omega

/-- The delay after that many failures as machine words have it; there is none if the shift leaves its word. -/
def nominalWords? (b : Backoff) (failures : UInt32) : Option Duration.Words := do
  let factor ← shifted? (places failures)
  return ((b.initial.words.multiple? factor).getD .greatest).least b.longest.words

/-- The delay computed in words is the delay: the shift always stays in its word. -/
theorem nominalWords?_eq (b : Backoff) (failures : UInt32) :
    b.nominalWords? failures = some (b.nominalDelay failures).words := by
  have few : doublings failures ≤ 16 := doublings_eq failures ▸ Nat.min_le_right _ _
  have fits : 2 ^ doublings failures < 2 ^ 32 := Nat.pow_lt_pow_right (by decide) (Nat.lt_of_le_of_lt few (by decide))
  have power : (UInt32.ofNat (2 ^ doublings failures)).toNat = Double.pow2 (doublings failures) :=
    UInt32.toNat_ofNat_of_lt' fits
  have shift : shifted? (places failures) = some (.ofNat (2 ^ doublings failures)) :=
    shifted?_eq_some_iff.mpr (by rw [power, toNat_places]; rfl)
  rw [nominalWords?, shift, nominalDelay, ← Duration.least_words, ← power, ← Duration.multiple?_words]
  rfl

/-- What words cannot hold is beyond the cap too, so the delay is that of exact arithmetic, whatever the cap. -/
theorem nanoseconds_nominalDelay (b : Backoff) (failures : UInt32) :
    (b.nominalDelay failures).nanoseconds =
      min (b.initial.nanoseconds * 2 ^ doublings failures) b.longest.nanoseconds := by
  have most : b.longest.nanoseconds ≤ Duration.limit := b.longest.le_limit
  rw [nominalDelay, Duration.nanoseconds_least, Duration.nanoseconds_scale, Nat.min_assoc,
    Nat.min_eq_right most]
  rfl

theorem nominalDelay_le (b : Backoff) (failures : UInt32) :
    (b.nominalDelay failures).nanoseconds ≤ b.longest.nanoseconds := by
  rw [nanoseconds_nominalDelay]
  exact Nat.min_le_right _ _

theorem nominalDelay_mono (b : Backoff) {m n : UInt32} (le : m ≤ n) :
    (b.nominalDelay m).nanoseconds ≤ (b.nominalDelay n).nanoseconds := by
  have fewer : doublings m ≤ doublings n := by
    have le := UInt32.le_iff_toNat_le.mp le
    rw [doublings_eq, doublings_eq]
    omega
  have shorter : b.initial.nanoseconds * 2 ^ doublings m ≤ b.initial.nanoseconds * 2 ^ doublings n :=
    Nat.mul_le_mul_left _ (Nat.pow_le_pow_right (by decide) fewer)
  rw [nanoseconds_nominalDelay, nanoseconds_nominalDelay]
  omega

/-- What the delays of a schedule are. -/
structure Doubling (b : Backoff) : Prop where
  /-- Words have this delay too: the shift stays in its word, and nothing of the multiple wraps around. -/
  words : ∀ failures, b.nominalWords? failures = some (b.nominalDelay failures).words
  capped : ∀ failures, (b.nominalDelay failures).nanoseconds ≤ b.longest.nanoseconds
  mono : ∀ m n, m ≤ n → (b.nominalDelay m).nanoseconds ≤ (b.nominalDelay n).nanoseconds
  doubled : ∀ failures, 1 ≤ failures.toNat → failures.toNat ≤ 17 → (b.nominalDelay failures).nanoseconds =
    min (b.initial.nanoseconds * 2 ^ (failures.toNat - 1)) b.longest.nanoseconds
  constant : ∀ failures, 17 ≤ failures.toNat → b.nominalDelay failures = b.nominalDelay 17

/-- Computed as a machine has them, in words of seconds and of nanoseconds, the delays double exactly up to the cap and
are the same from the seventeenth failure on. Nothing is assumed of the schedule; where a multiple would overflow, the
cap hides it. -/
theorem doubles_up_to_longest (b : Backoff) : b.Doubling where
  words := b.nominalWords?_eq
  capped := b.nominalDelay_le
  mono _ _ := b.nominalDelay_mono
  doubled failures _ few := by
    have often : doublings failures = failures.toNat - 1 := if_pos few
    rw [nanoseconds_nominalDelay, often]
  constant failures many := by
    have often : doublings failures = doublings 17 := by
      rw [doublings_eq, Nat.min_eq_right (Nat.le_sub_one_of_lt many)]
      rfl
    rw [nominalDelay, nominalDelay, often]

/-- The longest delays: the multiple overflows, and the cap is the greatest length itself. -/
example : nominalWords? ⟨6, ⟨Duration.limit, Nat.le_refl _⟩, ⟨Duration.limit, Nat.le_refl _⟩⟩ 4294967295 =
    some .greatest := by decide

end Backoff

end Graft
