import PgJson.Number.Binary64
import Mathlib.Data.Nat.Log
import Mathlib.Tactic.Linarith
import Mathlib.Tactic.Ring

namespace PgJson

theorem divideToEven_le (n d : Nat) : divideToEven n d ≤ n / d + 1 := by
  simp only [divideToEven]
  split
  · exact Nat.le_succ _
  · exact Nat.le_refl _

theorem divideToEven_mul (q d : Nat) (pos : 0 < d) : divideToEven (q * d) d = q := by
  have rest : q * d % d = 0 := Nat.mul_mod_left q d
  have quotient : q * d / d = q := Nat.mul_div_cancel q pos
  simp only [divideToEven, rest, quotient]
  rw [if_pos (.inl (by omega))]

namespace Magnitude

theorem nearest_lt_infinite (n d k : Nat) (small : n / d < 2 ^ k) (bound : k ≤ 2097) :
    nearest n d < infinite := by
  have log : (n / d).log2 ≤ 2096 := by
    by_cases zero : n / d = 0
    · rw [zero]
      exact Nat.zero_le _
    · have below : (n / d).log2 < k := (Nat.log2_lt zero).mpr small
      omega
  have upper : n / d < 2 ^ ((n / d).log2 + 1) := Nat.lt_log2_self
  simp only [nearest, Nat.pow_eq]
  generalize exponent : (n / d).log2 - 52 = e
  have significand : divideToEven n (d * 2 ^ e) ≤ 2 ^ 53 := by
    have quotient : n / (d * 2 ^ e) < 2 ^ 53 := by
      rw [← Nat.div_div_eq_div_mul, Nat.div_lt_iff_lt_mul (by positivity), ← pow_add]
      exact lt_of_lt_of_le upper (Nat.pow_le_pow_right (by decide) (by omega))
    exact le_trans (divideToEven_le _ _) quotient
  have normal : e ≤ 2044 := by omega
  apply lt_of_le_of_lt (Nat.min_le_left _ _)
  generalize divideToEven n (d * 2 ^ e) = rounded at significand
  norm_num at significand
  unfold infinite fractions
  omega

end Magnitude

namespace Binary64

theorem ofBits_bits (x : Binary64) : ofBits x.bits = x := by
  obtain ⟨negative, magnitude, below⟩ := x
  cases negative with
  | false =>
      have same : magnitude % 0x8000000000000000 = magnitude := Nat.mod_eq_of_lt below
      have positive : ¬ signBit ≤ magnitude % (2 * signBit) := by
        unfold signBit
        omega
      simp only [bits, ofBits, Bool.false_eq_true, if_false, Nat.zero_add, positive,
        decide_false, mk.injEq, Fin.mk.injEq, true_and]
      exact same
  | true =>
      have set : signBit ≤ (signBit + magnitude) % (2 * signBit) := by
        unfold signBit
        omega
      have same : (signBit + magnitude) % signBit = magnitude := by
        unfold signBit
        omega
      simp only [bits, ofBits, if_true, set, decide_true, mk.injEq, Fin.mk.injEq, true_and]
      exact same

theorem bits_lt (x : Binary64) : x.bits < 2 ^ 64 := by
  have below := x.magnitude.isLt
  unfold bits signBit
  split <;> omega

theorem isFinite_ofBits (bits : Nat) :
    (ofBits bits).IsFinite ↔ bits / 2 ^ 52 % 2 ^ 11 ≠ 2047 := by
  show bits % 0x8000000000000000 < 2047 * 0x10000000000000 ↔ _
  norm_num
  omega

theorem isFinite_ofRatio (negative : Bool) (n d k : Nat) (small : n < 2 ^ k * d)
    (bound : k ≤ 1023) : (ofRatio negative n d).IsFinite := by
  have pos : 0 < d := by
    by_contra none
    simp [Nat.eq_zero_of_not_pos none] at small
  obtain ⟨unit, one⟩ : oneInUnits = 2 ^ 1074 ∧ 0 < oneInUnits := by
    unfold oneInUnits
    generalize 1074 = exponent
    exact ⟨rfl, Nat.two_pow_pos exponent⟩
  apply Magnitude.nearest_lt_infinite _ _ (k + 1074) _ (by omega)
  rw [Nat.div_lt_iff_lt_mul pos, pow_add, ← unit, Nat.mul_right_comm]
  exact Nat.mul_lt_mul_of_pos_right small one

theorem isFinite_ofNat (n k : Nat) (small : n < 2 ^ k) (bound : k ≤ 1023) :
    (ofNat n).IsFinite := by
  apply isFinite_ofRatio false n 1 k _ bound
  rw [Nat.mul_one]
  exact small

/-- A float of 32 bits has a finite double exactly if it is finite itself. -/
theorem isFinite_ofBits32 (bits : Nat) :
    (ofBits32 bits).IsFinite ↔ bits / 2 ^ 23 % 2 ^ 8 ≠ 255 := by
  simp only [ofBits32]
  by_cases set : bits / 0x800000 % 0x100 = 255
  · rw [if_pos set, isFinite_ofBits]
    have exponent : bits / 2 ^ 23 % 2 ^ 8 = 255 := set
    simp only [exponent, ne_eq, not_true_eq_false, iff_false, not_not]
    unfold signBit Magnitude.infinite Magnitude.fractions
    split <;> omega
  · rw [if_neg set]
    have exponent : bits / 2 ^ 23 % 2 ^ 8 ≠ 255 := set
    simp only [exponent, ne_eq, not_false_eq_true, iff_true]
    have fraction : bits % 0x800000 < 2 ^ 23 := Nat.mod_lt _ (by decide)
    have normal : 0x800000 + bits % 0x800000 < 2 ^ 24 := by omega
    split
    · apply isFinite_ofRatio _ _ _ 0 _ (by decide)
      rw [Nat.pow_eq, pow_zero, Nat.one_mul]
      exact lt_of_lt_of_le fraction (Nat.pow_le_pow_right (by decide) (by decide))
    · apply isFinite_ofRatio _ _ _ 128 _ (by decide)
      rw [Nat.pow_eq, Nat.pow_eq]
      calc
        (0x800000 + bits % 0x800000) * 2 ^ (bits / 0x800000 % 0x100 - 1) <
            2 ^ 24 * 2 ^ (bits / 0x800000 % 0x100 - 1) :=
          Nat.mul_lt_mul_of_pos_right normal (Nat.two_pow_pos _)
        _ ≤ 2 ^ 24 * 2 ^ 253 :=
          Nat.mul_le_mul_left _ (Nat.pow_le_pow_right (by decide) (by omega))
        _ = 2 ^ 128 * 2 ^ 149 := by rw [← pow_add, ← pow_add]

end Binary64
end PgJson
