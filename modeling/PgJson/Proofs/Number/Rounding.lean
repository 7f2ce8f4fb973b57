import PgJson.Proofs.Number.Nearest
import Mathlib.Tactic.NormNum.Pow

namespace PgJson

/-- `a` differs from `b` by no more than a part of `b` and a fixed distance. -/
def Within (part distance a b : ℚ) : Prop := |a - b| ≤ b * part + distance

namespace Within

theorem self (part distance a : ℚ) (positive : 0 ≤ a) (parts : 0 ≤ part) (far : 0 ≤ distance) :
    Within part distance a a := by
  unfold Within
  rw [sub_self, abs_zero]
  positivity

theorem mono (part part' distance distance' a b : ℚ) (positive : 0 ≤ b) (parts : part ≤ part')
    (distances : distance ≤ distance') (within : Within part distance a b) :
    Within part' distance' a b := by
  have scaled := mul_le_mul_of_nonneg_left parts positive
  unfold Within at *
  linarith

theorem trans (part part' distance distance' a b c : ℚ) (parts : 0 ≤ part)
    (first : Within part distance a b) (second : Within part' distance' b c) :
    Within (part + part' + part * part') (distance + distance' + distance' * part) a c := by
  unfold Within at *
  have sum := abs_sub_le a b c
  have above : b ≤ c + (c * part' + distance') := by
    have := (abs_le.mp second).2
    linarith
  have scaled := mul_le_mul_of_nonneg_right above parts
  calc |a - c| ≤ |a - b| + |b - c| := sum
    _ ≤ b * part + distance + (c * part' + distance') := add_le_add first second
    _ ≤ (c + (c * part' + distance')) * part + distance + (c * part' + distance') := by linarith
    _ = c * (part + part' + part * part') + (distance + distance' + distance' * part) := by ring

theorem mul (part part' a b a' b' : ℚ) (positive : 0 ≤ b) (positive' : 0 ≤ b')
    (first : Within part 0 a b) (second : Within part' 0 a' b') :
    Within (part + part' + part * part') 0 (a * a') (b * b') := by
  unfold Within at *
  rw [add_zero] at *
  have split : a * a' - b * b' = (a - b) * b' + b * (a' - b') + (a - b) * (a' - b') := by ring
  have left := mul_le_mul_of_nonneg_right first positive'
  have right := mul_le_mul_of_nonneg_left second positive
  have both := mul_le_mul first second (abs_nonneg _) ((abs_nonneg _).trans first)
  calc |a * a' - b * b'| = |(a - b) * b' + b * (a' - b') + (a - b) * (a' - b')| := by rw [split]
    _ ≤ |(a - b) * b'| + |b * (a' - b')| + |(a - b) * (a' - b')| := abs_add_three _ _ _
    _ = |a - b| * b' + b * |a' - b'| + |a - b| * |a' - b'| := by
      rw [abs_mul, abs_mul, abs_mul, abs_of_nonneg positive, abs_of_nonneg positive']
    _ ≤ b * part * b' + b * (b' * part') + b * part * (b' * part') :=
      add_le_add (add_le_add left right) both
    _ = b * b' * (part + part' + part * part') := by ring

theorem div (part part' distance a b p q : ℚ) (positive : 0 ≤ b) (divisor : 0 < q)
    (parts : 0 ≤ part) (parts' : 0 ≤ part') (half : part' ≤ 1 / 2) (far : 0 ≤ distance)
    (first : Within part distance a b) (second : Within part' 0 p q) :
    Within ((part + part') * (1 + 2 * part')) (distance / q * (1 + 2 * part')) (a / p) (b / q) := by
  unfold Within at *
  rw [add_zero] at second
  have below : q * (1 - part') ≤ p := by
    have := (abs_le.mp second).1
    linarith
  have denominator : 0 < p := lt_of_lt_of_le (mul_pos divisor (by linarith)) below
  have inverse : 1 / p ≤ 1 / q * (1 + 2 * part') := by
    rw [div_le_iff₀ denominator]
    have scaled : 1 / q * (1 + 2 * part') * (q * (1 - part')) = 1 + part' * (1 - 2 * part') := by
      field_simp
      ring
    have factor : 0 ≤ 1 / q * (1 + 2 * part') := by positivity
    have least := mul_le_mul_of_nonneg_left below factor
    have more : 0 ≤ part' * (1 - 2 * part') := mul_nonneg parts' (by linarith)
    linarith
  have split : a / p - b / q = (a - b + b / q * (q - p)) * (1 / p) := by
    field_simp
    ring
  have numerator : |a - b + b / q * (q - p)| ≤ b * (part + part') + distance := by
    have other : |b / q * (q - p)| ≤ b * part' := by
      rw [abs_mul, abs_of_nonneg (div_nonneg positive (le_of_lt divisor)), abs_sub_comm q p]
      have scaled := mul_le_mul_of_nonneg_left second (div_nonneg positive (le_of_lt divisor))
      have same : b / q * (q * part') = b * part' := by field_simp
      linarith
    have sum := abs_add_le (a - b) (b / q * (q - p))
    linarith
  have whole : 0 ≤ b * (part + part') + distance := by positivity
  calc |a / p - b / q| = |a - b + b / q * (q - p)| * (1 / p) := by
        rw [split, abs_mul, abs_of_pos (one_div_pos.mpr denominator)]
    _ ≤ (b * (part + part') + distance) * (1 / q * (1 + 2 * part')) :=
        mul_le_mul numerator inverse (le_of_lt (one_div_pos.mpr denominator)) whole
    _ = b / q * ((part + part') * (1 + 2 * part')) + distance / q * (1 + 2 * part') := by ring

end Within

namespace Binary64

def roundoff : ℚ := 1 / 0x20000000000000

def leastSize : ℚ := 1 / oneInUnits

theorem leastSize_eq : leastSize = 1 / 2 ^ 1074 := by
  unfold leastSize oneInUnits
  generalize 1074 = n
  rw [Nat.pow_eq, Nat.cast_pow, Nat.cast_ofNat]

theorem leastSize_pos : 0 < leastSize := one_div_pos.mpr oneInUnits_pos

def unbounded (n d : Nat) : ℚ := Magnitude.units (Magnitude.rounded n d) / oneInUnits

theorem size_ofUnits (negative : Bool) (n d : Nat) (finite : (ofUnits negative n d).IsFinite) :
    (ofUnits negative n d).size = unbounded n d := by
  have below : Magnitude.nearest n d < Magnitude.infinite := finite
  unfold size units unbounded
  rw [← Magnitude.nearest_eq_rounded n d below]
  rfl

def limit : ℚ := Magnitude.units Magnitude.infinite / oneInUnits

theorem limit_eq : limit = 2 ^ 1024 := by
  have units : Magnitude.units Magnitude.infinite = Magnitude.fractions * 2 ^ 2046 :=
    Magnitude.units_carry 2046 Magnitude.fractions (by decide) (.inr (Nat.le_refl _))
  have powers : Magnitude.fractions * 2 ^ 2046 = 2 ^ 1024 * oneInUnits := by decide +kernel
  have unit := oneInUnits_pos
  unfold limit
  rw [units, powers, Nat.cast_mul, Nat.cast_pow, Nat.cast_ofNat]
  exact mul_div_cancel_right₀ _ (ne_of_gt unit)

theorem pow_le_limit (n : Nat) (small : n ≤ 1024) : (2 : ℚ) ^ n ≤ limit := by
  rw [limit_eq]
  exact pow_le_pow_right₀ (by norm_num) small

theorem leastSize_le_one : leastSize ≤ 1 := by
  have one : (1 : ℚ) ≤ oneInUnits := by
    have positive : 0 < oneInUnits := by exact_mod_cast oneInUnits_pos
    exact_mod_cast positive
  exact div_le_one_of_le₀ one (le_of_lt oneInUnits_pos)

theorem limit_le_unbounded (negative : Bool) (n d : Nat)
    (infinite : ¬(ofUnits negative n d).IsFinite) : limit ≤ unbounded n d := by
  have above : Magnitude.infinite ≤ Magnitude.nearest n d := Nat.le_of_not_lt infinite
  have rounded : Magnitude.infinite ≤ Magnitude.rounded n d :=
    above.trans (Nat.min_le_left _ _)
  have units := Magnitude.units_strictMono.monotone rounded
  apply div_le_div_of_nonneg_right _ (le_of_lt oneInUnits_pos)
  exact_mod_cast units

theorem unbounded_sub (n d : Nat) (pos : 0 < d) :
    |unbounded n d - n / (oneInUnits * d)| =
      (((Magnitude.units (Magnitude.rounded n d) * d : Nat) - n : ℤ).natAbs : ℚ) /
        (oneInUnits * d) :=
  units_sub_div _ n d pos

theorem unbounded_within (n d : Nat) (pos : 0 < d) :
    Within roundoff (leastSize / 2) (unbounded n d) (n / (oneInUnits * d)) := by
  have unit := oneInUnits_pos
  have denominator : (0 : ℚ) < d := by exact_mod_cast pos
  have error := Magnitude.rounded_error n d pos
  unfold Within leastSize roundoff
  rw [unbounded_sub n d pos]
  generalize ((Magnitude.units (Magnitude.rounded n d) * d : Nat) - n : ℤ).natAbs = off at *
  generalize oneInUnits = one at *
  have numerator : (0 : ℚ) ≤ n := Nat.cast_nonneg n
  rcases error with half | part
  · have half : (off : ℚ) * 2 ≤ d := by exact_mod_cast half
    have bound : (off : ℚ) / (one * d) ≤ 1 / one / 2 := by
      rw [div_div, div_le_div_iff₀ (by positivity) (by positivity)]
      nlinarith
    have rest : 0 ≤ (n : ℚ) / (one * d) * (1 / 0x20000000000000) := by positivity
    linarith
  · have part : (off : ℚ) * 0x20000000000000 ≤ n := by exact_mod_cast part
    have bound : (off : ℚ) / (one * d) ≤ (n : ℚ) / (one * d) * (1 / 0x20000000000000) := by
      rw [div_mul_div_comm, div_le_div_iff₀ (by positivity) (by positivity)]
      nlinarith [mul_pos unit denominator]
    have rest : 0 ≤ 1 / (one : ℚ) / 2 := by positivity
    linarith

/-- The size of a double if it is finite, and what it stands for if it is not. -/
structure Rounds (x : Binary64) (size : ℚ) : Prop where
  finite : x.IsFinite → x.size = size
  infinite : ¬x.IsFinite → limit ≤ size

theorem rounds_ofUnits (negative : Bool) (n d : Nat) :
    (ofUnits negative n d).Rounds (unbounded n d) :=
  ⟨size_ofUnits negative n d, limit_le_unbounded negative n d⟩

theorem ofNat_within (n : Nat) (finite : (ofNat n).IsFinite) :
    Within roundoff 0 (ofNat n).size n := by
  have unit := oneInUnits_pos
  have whole : (n : ℚ) = ((n * oneInUnits : Nat) : ℚ) / (oneInUnits * (1 : Nat)) := by
    push_cast
    field_simp
  have size : (ofNat n).size = unbounded (n * oneInUnits) 1 := size_ofUnits false _ 1 finite
  have error := Magnitude.rounded_error (n * oneInUnits) 1 Nat.one_pos
  unfold Within roundoff
  rw [size, whole, unbounded_sub _ 1 Nat.one_pos, add_zero]
  generalize ((Magnitude.units (Magnitude.rounded (n * oneInUnits) 1) * 1 : Nat) -
    (n * oneInUnits : Nat) : ℤ).natAbs = off at *
  have part : off * 0x20000000000000 ≤ n * oneInUnits := by omega
  have part : (off : ℚ) * 0x20000000000000 ≤ (n * oneInUnits : Nat) := by exact_mod_cast part
  generalize ((n * oneInUnits : Nat) : ℚ) = m at *
  generalize oneInUnits = one at *
  rw [Nat.cast_one, mul_one, div_mul_div_comm, mul_one, div_le_div_iff₀ unit (by positivity)]
  nlinarith

theorem mul_rounds (x y : Binary64) :
    ∃ size, (x.mul y).Rounds size ∧ Within roundoff (leastSize / 2) size (x.size * y.size) := by
  refine ⟨_, rounds_ofUnits _ _ _, ?_⟩
  have unit : 0 < oneInUnits := by exact_mod_cast oneInUnits_pos
  have product : x.size * y.size =
      ((x.units * y.units : Nat) : ℚ) / (oneInUnits * oneInUnits) := by
    unfold size
    rw [div_mul_div_comm]
    push_cast
    rfl
  rw [product]
  exact unbounded_within _ _ unit

theorem div_rounds (x y : Binary64) (nonzero : 0 < y.units) :
    ∃ size, (x.div y).Rounds size ∧ Within roundoff (leastSize / 2) size (x.size / y.size) := by
  refine ⟨_, rounds_ofUnits _ _ _, ?_⟩
  have unit := oneInUnits_pos
  have divisor : (0 : ℚ) < y.units := by exact_mod_cast nonzero
  have quotient : x.size / y.size =
      ((x.units * oneInUnits : Nat) : ℚ) / (oneInUnits * y.units) := by
    unfold size
    push_cast
    field_simp
  rw [quotient]
  exact unbounded_within _ _ nonzero

end Binary64
end PgJson
