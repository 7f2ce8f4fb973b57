import PgJson.Proofs.Number.Binary64
import Mathlib.Algebra.Order.Field.Rat
import Mathlib.Data.Rat.Cast.Order
import Mathlib.Order.Monotone.Basic
import Mathlib.Tactic.FieldSimp
import Mathlib.Tactic.Linarith
import Mathlib.Tactic.Positivity

/-! Rounding a number to a double gives the one double that is nearest to it. -/

namespace PgJson

theorem multiple_cases (q d k : Nat) :
    (k < q → k * d + d ≤ q * d) ∧ (k = q → k * d = q * d) ∧ (k = q + 1 → k * d = q * d + d) ∧
      (q + 1 < k → q * d + d + d ≤ k * d) := by
  refine ⟨?_, ?_, ?_, ?_⟩
  · intro less
    rw [← Nat.succ_mul]
    exact Nat.mul_le_mul_right d less
  · rintro rfl
    rfl
  · rintro rfl
    exact Nat.succ_mul q d
  · intro more
    rw [← Nat.succ_mul, ← Nat.succ_mul]
    exact Nat.mul_le_mul_right d more

/-- No multiple of `d` is nearer to `n` than the one taken, and of two as near it is an even one. -/
theorem divideToEven_nearest (n d k : Nat) (pos : 0 < d) :
    ((divideToEven n d * d : Nat) - n : ℤ).natAbs ≤ ((k * d : Nat) - n : ℤ).natAbs ∧
      (k ≠ divideToEven n d →
        ((k * d : Nat) - n : ℤ).natAbs = ((divideToEven n d * d : Nat) - n : ℤ).natAbs →
        divideToEven n d % 2 = 0) := by
  have whole : n / d * d + n % d = n := Nat.div_add_mod' n d
  have rest : n % d < d := Nat.mod_lt n pos
  unfold divideToEven
  generalize n / d = q at *
  generalize n % d = r at *
  have around := multiple_cases q d k
  have above : (q + 1) * d = q * d + d := Nat.succ_mul q d
  simp only
  split
  · omega
  · rw [above]
    omega

theorem divideToEven_half (n d : Nat) (pos : 0 < d) :
    ((divideToEven n d * d : Nat) - n : ℤ).natAbs * 2 ≤ d := by
  have whole : n / d * d + n % d = n := Nat.div_add_mod' n d
  have rest : n % d < d := Nat.mod_lt n pos
  unfold divideToEven
  generalize n / d = q at *
  generalize n % d = r at *
  have above : (q + 1) * d = q * d + d := Nat.succ_mul q d
  simp only
  split
  · omega
  · rw [above]
    omega

theorem le_divideToEven (n d : Nat) : n / d ≤ divideToEven n d := by
  simp only [divideToEven]
  split
  · exact Nat.le_refl _
  · exact Nat.le_succ _

namespace Magnitude

theorem fractions_eq : fractions = 0x10000000000000 := rfl

theorem units_carry (exponent significand : Nat) (most : significand ≤ 2 * fractions)
    (normal : exponent = 0 ∨ fractions ≤ significand) :
    units (exponent * fractions + significand) = significand * 2 ^ exponent := by
  unfold units
  simp only [Nat.pow_eq]
  rcases Nat.lt_or_ge significand fractions with small | large
  · have zero : exponent = 0 := normal.resolve_right (Nat.not_le.mpr small)
    have low : (exponent * fractions + significand) / fractions = 0 := by
      rw [zero, Nat.zero_mul, Nat.zero_add]
      exact Nat.div_eq_of_lt small
    rw [if_pos low, zero, Nat.zero_mul, Nat.zero_add, pow_zero, Nat.mul_one]
  · rcases Nat.lt_or_ge significand (2 * fractions) with inside | top
    · have quotient : (exponent * fractions + significand) / fractions = exponent + 1 := by
        unfold fractions at *
        omega
      have rest : fractions + (exponent * fractions + significand) % fractions = significand := by
        unfold fractions at *
        omega
      rw [if_neg (by omega), quotient, rest, Nat.add_sub_cancel]
    · have whole : significand = 2 * fractions := Nat.le_antisymm most top
      have quotient : (exponent * fractions + significand) / fractions = exponent + 2 := by
        unfold fractions at *
        omega
      have rest : (exponent * fractions + significand) % fractions = 0 := by
        unfold fractions at *
        omega
      rw [if_neg (by omega), quotient, rest, whole, Nat.add_zero]
      show fractions * 2 ^ (exponent + 1) = _
      rw [pow_succ]
      ring

theorem units_lt_succ (m : Nat) : units m < units (m + 1) := by
  by_cases low : m < fractions
  · have here := units_carry 0 m (by omega) (.inl rfl)
    have next := units_carry 0 (m + 1) (by unfold fractions at *; omega) (.inl rfl)
    rw [Nat.zero_mul, Nat.zero_add, pow_zero, Nat.mul_one] at here next
    omega
  · obtain ⟨exponent, significand, parts, least, most⟩ : ∃ exponent significand,
        m = exponent * fractions + significand ∧ fractions ≤ significand ∧
          significand < 2 * fractions := by
      refine ⟨m / fractions - 1, fractions + m % fractions, ?_, ?_, ?_⟩ <;>
        unfold fractions at * <;> omega
    have here := units_carry exponent significand (by omega) (.inr least)
    have next := units_carry exponent (significand + 1) (by omega) (.inr (by omega))
    rw [parts, here, Nat.add_assoc, next]
    exact Nat.mul_lt_mul_of_pos_right (Nat.lt_succ_self _) (Nat.two_pow_pos _)

theorem units_strictMono : StrictMono units := strictMono_nat_of_lt_succ units_lt_succ

theorem units_grid (exponent m : Nat) :
    (∃ k, units m = k * 2 ^ exponent) ∨ 0 < exponent ∧ units m < fractions * 2 ^ exponent := by
  by_cases below : m < exponent * fractions + fractions
  · by_cases zero : exponent = 0
    · exact .inl ⟨units m, by rw [zero, pow_zero, Nat.mul_one]⟩
    · refine .inr ⟨Nat.pos_of_ne_zero zero, ?_⟩
      rw [← units_carry exponent fractions (by omega) (.inr (Nat.le_refl _))]
      exact units_strictMono below
  · left
    obtain ⟨higher, significand, parts, least, most⟩ : ∃ higher significand,
        m = (exponent + higher) * fractions + significand ∧ fractions ≤ significand ∧
          significand < 2 * fractions := by
      refine ⟨m / fractions - 1 - exponent, fractions + m % fractions, ?_, ?_, ?_⟩ <;>
        unfold fractions at * <;> omega
    refine ⟨significand * 2 ^ higher, ?_⟩
    rw [parts, units_carry _ _ (by omega) (.inr least), pow_add]
    ring

/-- The magnitude nearest to `n / d` if there were no end to the numbers. -/
def rounded (n d : Nat) : Nat :=
  ((n / d).log2 - 52) * fractions + divideToEven n (d * 2 ^ ((n / d).log2 - 52))

theorem nearest_eq_min (n d : Nat) : nearest n d = min (rounded n d) infinite := rfl

theorem normal_quotient (n d : Nat) (pos : 0 < d) (positive : 0 < (n / d).log2 - 52) :
    fractions * (d * 2 ^ ((n / d).log2 - 52)) ≤ n := by
  have quotient : n / d ≠ 0 := by
    intro zero
    rw [zero, Nat.log2_zero] at positive
    omega
  have least := Nat.log2_self_le quotient
  have size : (n / d).log2 = 52 + ((n / d).log2 - 52) := by omega
  generalize (n / d).log2 - 52 = exponent at *
  rw [size, pow_add, Nat.le_div_iff_mul_le pos] at least
  calc fractions * (d * 2 ^ exponent) = 2 ^ 52 * 2 ^ exponent * d := by
        rw [fractions_eq]
        ring
    _ ≤ n := least

theorem units_rounded (n d : Nat) (pos : 0 < d) :
    units (rounded n d) =
      divideToEven n (d * 2 ^ ((n / d).log2 - 52)) * 2 ^ ((n / d).log2 - 52) := by
  have normal := normal_quotient n d pos
  have upper : n / d < 2 ^ ((n / d).log2 + 1) := Nat.lt_log2_self
  have log : (n / d).log2 + 1 ≤ 53 + ((n / d).log2 - 52) := by omega
  unfold rounded
  generalize (n / d).log2 - 52 = exponent at *
  have scaled : n / (d * 2 ^ exponent) < 2 * fractions := by
    rw [← Nat.div_div_eq_div_mul, Nat.div_lt_iff_lt_mul (Nat.two_pow_pos _)]
    calc n / d < 2 ^ ((n / d).log2 + 1) := upper
      _ ≤ 2 ^ (53 + exponent) := Nat.pow_le_pow_right (by decide) log
      _ = 2 * fractions * 2 ^ exponent := by rw [pow_add]; rfl
  have step : 0 < d * 2 ^ exponent := Nat.mul_pos pos (Nat.two_pow_pos _)
  apply units_carry
  · exact (divideToEven_le _ _).trans scaled
  · rcases Nat.eq_zero_or_pos exponent with zero | positive
    · exact .inl zero
    · exact .inr (((Nat.le_div_iff_mul_le step).mpr (normal positive)).trans (le_divideToEven _ _))

/-- No magnitude is nearer to `n / d` than the one it is rounded to, and of two as near that one is
even. -/
theorem rounded_nearest (n d m : Nat) (pos : 0 < d) :
    ((units (rounded n d) * d : Nat) - n : ℤ).natAbs ≤ ((units m * d : Nat) - n : ℤ).natAbs ∧
      (m ≠ rounded n d →
        ((units m * d : Nat) - n : ℤ).natAbs =
          ((units (rounded n d) * d : Nat) - n : ℤ).natAbs →
        rounded n d % 2 = 0) := by
  have value := units_rounded n d pos
  have normal := normal_quotient n d pos
  have parts : rounded n d = ((n / d).log2 - 52) * fractions +
    divideToEven n (d * 2 ^ ((n / d).log2 - 52)) := rfl
  generalize (n / d).log2 - 52 = exponent at *
  have step : 0 < d * 2 ^ exponent := Nat.mul_pos pos (Nat.two_pow_pos _)
  have product (k : Nat) : k * 2 ^ exponent * d = k * (d * 2 ^ exponent) := by ring
  -- A magnitude off the grid lies below all of its significands, the least of which is nearer.
  rcases units_grid exponent m with ⟨k, multiple⟩ | ⟨positive, below⟩
  · obtain ⟨near, even⟩ := divideToEven_nearest n (d * 2 ^ exponent) k step
    rw [value, multiple, product, product]
    refine ⟨near, ?_⟩
    intro other tie
    have different : k ≠ divideToEven n (d * 2 ^ exponent) := by
      rintro rfl
      exact other (units_strictMono.injective (multiple.trans value.symm))
    have parity := even different tie
    rw [parts]
    unfold fractions
    omega
  · have near := (divideToEven_nearest n (d * 2 ^ exponent) fractions step).1
    have under : units m * d < fractions * (d * 2 ^ exponent) := by
      rw [← product]
      exact Nat.mul_lt_mul_of_pos_right below pos
    have inside := normal positive
    rw [value, product]
    omega

theorem nearest_eq_rounded (n d : Nat) (finite : nearest n d < infinite) :
    nearest n d = rounded n d := by
  rw [nearest_eq_min] at finite ⊢
  exact Nat.min_eq_left (Nat.le_of_lt (min_lt_iff.mp finite |>.resolve_right (Nat.lt_irrefl _)))

theorem nearest_nearest (n d m : Nat) (pos : 0 < d) (finite : nearest n d < infinite) :
    ((units (nearest n d) * d : Nat) - n : ℤ).natAbs ≤ ((units m * d : Nat) - n : ℤ).natAbs ∧
      (m ≠ nearest n d →
        ((units m * d : Nat) - n : ℤ).natAbs =
          ((units (nearest n d) * d : Nat) - n : ℤ).natAbs →
        nearest n d % 2 = 0) := by
  rw [nearest_eq_rounded n d finite]
  exact rounded_nearest n d m pos

theorem rounded_mono (n n' d : Nat) (pos : 0 < d) (larger : n ≤ n') :
    rounded n d ≤ rounded n' d := by
  by_contra less
  have below := units_strictMono (Nat.lt_of_not_le less)
  have apart := Nat.mul_lt_mul_of_pos_right below pos
  have near := (rounded_nearest n d (rounded n' d) pos).1
  have near' := (rounded_nearest n' d (rounded n d) pos).1
  have same : n = n' := by omega
  rw [same] at less
  exact less (Nat.le_refl _)

theorem nearest_mono (n n' d : Nat) (pos : 0 < d) (larger : n ≤ n') :
    nearest n d ≤ nearest n' d := by
  rw [nearest_eq_min, nearest_eq_min]
  exact min_le_min_right infinite (rounded_mono n n' d pos larger)

theorem rounded_error (n d : Nat) (pos : 0 < d) :
    ((units (rounded n d) * d : Nat) - n : ℤ).natAbs * 2 ≤ d ∨
      ((units (rounded n d) * d : Nat) - n : ℤ).natAbs * 0x20000000000000 ≤ n := by
  have normal := normal_quotient n d pos
  rw [units_rounded n d pos]
  generalize (n / d).log2 - 52 = exponent at *
  have step : 0 < d * 2 ^ exponent := Nat.mul_pos pos (Nat.two_pow_pos _)
  have half := divideToEven_half n (d * 2 ^ exponent) step
  have product : divideToEven n (d * 2 ^ exponent) * 2 ^ exponent * d =
      divideToEven n (d * 2 ^ exponent) * (d * 2 ^ exponent) := by ring
  rw [product]
  rcases Nat.eq_zero_or_pos exponent with rfl | positive
  · left
    simp only [pow_zero, Nat.mul_one] at half ⊢
    exact half
  · right
    have least := normal positive
    unfold fractions at least
    omega

end Magnitude

namespace Binary64

theorem oneInUnits_pos : (0 : ℚ) < oneInUnits := by
  unfold oneInUnits
  generalize 1074 = exponent
  exact_mod_cast Nat.two_pow_pos exponent

def size (x : Binary64) : ℚ := x.units / oneInUnits

def value (x : Binary64) : ℚ := if x.negative then -x.size else x.size

/-- The double that a number within the range of the doubles is read as: the nearest one, of two as
near the one whose fraction is even, and a negative one only for a negative number. -/
structure Nearest (x : Binary64) (q : ℚ) : Prop where
  finite : x.IsFinite
  sign : x.negative = true ↔ q < 0
  near : ∀ y : Binary64, y.IsFinite → |x.value - q| ≤ |y.value - q|
  even : ∀ y : Binary64, y.IsFinite → y.magnitude ≠ x.magnitude →
    |y.value - q| = |x.value - q| → x.magnitude.val % 2 = 0

theorem size_nonneg (x : Binary64) : 0 ≤ x.size :=
  div_nonneg (Nat.cast_nonneg _) (le_of_lt oneInUnits_pos)

theorem size_lt_size (x y : Binary64) (less : x.magnitude.val < y.magnitude.val) :
    x.size < y.size := by
  have units : Magnitude.units x.magnitude < Magnitude.units y.magnitude :=
    Magnitude.units_strictMono less
  exact div_lt_div_of_pos_right (by exact_mod_cast units) oneInUnits_pos

theorem abs_value_sub (x : Binary64) (q : ℚ) (sign : x.negative = true ↔ q < 0) :
    |x.value - q| = |x.size - abs q| := by
  unfold value
  by_cases negative : q < 0
  · rw [if_pos (sign.mpr negative), abs_of_neg negative, abs_sub_comm (-x.size) q,
      sub_neg_eq_add, sub_neg_eq_add, add_comm]
  · rw [if_neg (fun set => negative (sign.mp set)), abs_of_nonneg (not_lt.mp negative)]

theorem abs_size_sub_le (x : Binary64) (q : ℚ) : |x.size - abs q| ≤ |x.value - q| := by
  have size : |x.value| = x.size := by
    unfold value
    split
    · rw [abs_neg, abs_of_nonneg x.size_nonneg]
    · exact abs_of_nonneg x.size_nonneg
  rw [← size]
  exact abs_abs_sub_abs_le x.value q

theorem abs_sub_lt_of_between (a b c r : ℚ) (left : a < b) (right : b < c)
    (tie : |a - r| = |c - r|) : |b - r| < |a - r| := by
  rcases abs_eq_abs.mp tie with same | opposite
  · linarith
  · rw [abs_of_nonpos (by linarith : a - r ≤ 0), abs_lt]
    constructor <;> linarith

theorem nearest_unique (x y : Binary64) (q : ℚ) (first : x.Nearest q) (second : y.Nearest q) :
    x = y := by
  have tie : |x.value - q| = |y.value - q| :=
    le_antisymm (first.near y second.finite) (second.near x first.finite)
  have sign : x.negative = y.negative := Bool.eq_iff_iff.mpr (first.sign.trans second.sign.symm)
  -- Between two with even fractions lies a third, which would be nearer.
  have gap : ∀ x y : Binary64, x.Nearest q → y.Nearest q → |x.value - q| = |y.value - q| →
      ¬ x.magnitude.val < y.magnitude.val := by
    intro x y first second tie less
    have different : x.magnitude ≠ y.magnitude := fun same => absurd less (by rw [same]; omega)
    have evenFirst := first.even y second.finite different.symm tie.symm
    have evenSecond := second.even x first.finite different tie
    have below := y.magnitude.isLt
    have finite : x.magnitude.val + 1 < Magnitude.infinite :=
      lt_of_le_of_lt less second.finite
    let z : Binary64 := ⟨x.negative, ⟨x.magnitude.val + 1, by omega⟩⟩
    have left : x.size < z.size := size_lt_size x z (Nat.lt_succ_self _)
    have right : z.size < y.size := size_lt_size z y (by show x.magnitude.val + 1 < _; omega)
    have nearer := first.near z finite
    rw [abs_value_sub x q first.sign, abs_value_sub y q second.sign] at tie
    rw [abs_value_sub x q first.sign, abs_value_sub z q first.sign] at nearer
    exact absurd (abs_sub_lt_of_between _ _ _ _ left right tie) (not_lt.mpr nearer)
  have magnitude : x.magnitude = y.magnitude := by
    rcases Nat.lt_trichotomy x.magnitude.val y.magnitude.val with less | same | more
    · exact absurd less (gap x y first second tie)
    · exact Fin.ext same
    · exact absurd more (gap y x second first tie.symm)
  cases x
  cases y
  cases sign
  cases magnitude
  rfl

theorem units_sub_div (m n d : Nat) (pos : 0 < d) :
    |(m : ℚ) / oneInUnits - n / (oneInUnits * d)| =
      (((m * d : Nat) - n : ℤ).natAbs : ℚ) / (oneInUnits * d) := by
  have unit := oneInUnits_pos
  have denominator : (0 : ℚ) < d := by exact_mod_cast pos
  generalize oneInUnits = one at *
  have common : (0 : ℚ) < one * d := mul_pos unit denominator
  have difference : (m : ℚ) / one - n / (one * d) = (m * d - n) / (one * d) := by
    field_simp
  rw [difference, abs_div, abs_of_pos common, Nat.cast_natAbs, Int.cast_abs]
  push_cast
  rfl

theorem size_sub_div (x : Binary64) (n d : Nat) (pos : 0 < d) :
    |x.size - n / d| =
      (((Magnitude.units x.magnitude * d : Nat) - (n * oneInUnits : Nat) : ℤ).natAbs : ℚ) /
        (oneInUnits * d) := by
  have unit := oneInUnits_pos
  have quotient : (n : ℚ) / d = (n * oneInUnits : Nat) / (oneInUnits * d) := by
    push_cast
    field_simp
  rw [quotient]
  exact units_sub_div _ _ d pos

theorem nearest_of_magnitude (x : Binary64) (q : ℚ) (n d : Nat) (pos : 0 < d)
    (size : |q| = n / d) (sign : x.negative = true ↔ q < 0)
    (magnitude : x.magnitude.val = Magnitude.nearest (n * oneInUnits) d) (finite : x.IsFinite) :
    x.Nearest q := by
  have denominator : (0 : ℚ) < d := by exact_mod_cast pos
  have common : (0 : ℚ) < oneInUnits * d := mul_pos oneInUnits_pos denominator
  have below : Magnitude.nearest (n * oneInUnits) d < Magnitude.infinite := magnitude ▸ finite
  have near (y : Binary64) : |x.size - n / d| ≤ |y.size - n / d| := by
    rw [size_sub_div x n d pos, size_sub_div y n d pos, magnitude]
    apply div_le_div_of_nonneg_right _ (le_of_lt common)
    exact_mod_cast (Magnitude.nearest_nearest (n * oneInUnits) d y.magnitude pos below).1
  refine ⟨finite, sign, ?_, ?_⟩
  · intro y _
    rw [abs_value_sub x q sign, size]
    exact (near y).trans (size ▸ abs_size_sub_le y q)
  · intro y _ other tie
    rw [abs_value_sub x q sign, size] at tie
    have same : |y.size - n / d| = |x.size - n / d| :=
      le_antisymm (tie ▸ size ▸ abs_size_sub_le y q) (near y)
    rw [size_sub_div x n d pos, size_sub_div y n d pos, div_left_inj' (ne_of_gt common),
      magnitude] at same
    rw [magnitude]
    refine (Magnitude.nearest_nearest (n * oneInUnits) d y.magnitude pos below).2 ?_
      (by exact_mod_cast same)
    rw [← magnitude]
    exact fun equal => other (Fin.ext equal)

/-- A quotient is rounded to the nearest double; a zero takes no sign. -/
theorem nearest_ofRatio (negative : Bool) (n d : Nat) (pos : 0 < d)
    (signed : negative = true → 0 < n) (finite : (ofRatio negative n d).IsFinite) :
    (ofRatio negative n d).Nearest ((if negative then -1 else 1) * (n / d : ℚ)) := by
  have denominator : (0 : ℚ) < d := by exact_mod_cast pos
  have nonneg : (0 : ℚ) ≤ n / d := by positivity
  apply nearest_of_magnitude _ _ n d pos _ _ rfl finite
  · cases negative <;> simp [abs_of_nonneg nonneg]
  · show negative = true ↔ _
    cases negative with
    | false => simpa using nonneg
    | true =>
        have numerator : (0 : ℚ) < n := by exact_mod_cast signed rfl
        simpa using div_pos numerator denominator

end Binary64
end PgJson
