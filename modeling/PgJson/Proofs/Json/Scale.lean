import PgJson.Proofs.Json.Gathered

namespace PgJson.Json

open Text

namespace Literal

/-! ## Scaling -/

open Binary64 in
theorem power_mono (n m : Nat) (larger : n ≤ m) :
    (power n).magnitude.val ≤ (power m).magnitude.val := by
  have powers : Nat.pow 10 n ≤ Nat.pow 10 m := Nat.pow_le_pow_right (by decide) larger
  exact Magnitude.nearest_mono (Nat.pow 10 n * oneInUnits) (Nat.pow 10 m * oneInUnits) 1 Nat.one_pos
    (Nat.mul_le_mul_right _ powers)

theorem power_finite (n : Nat) (small : n ≤ 308) : (power n).IsFinite := by
  have last : (power 308).IsFinite := by decide +kernel
  exact Nat.lt_of_le_of_lt (power_mono n 308 small) last

open Binary64 in
theorem power_within (n : Nat) (small : n ≤ 308) : Within roundoff 0 (power n).size (10 ^ n) := by
  have near := ofNat_within (Nat.pow 10 n) (power_finite n small)
  have cast : ((Nat.pow 10 n : Nat) : ℚ) = 10 ^ n := by
    rw [Nat.pow_eq, Nat.cast_pow, Nat.cast_ofNat]
  rwa [cast] at near

open Binary64 in
theorem power_pos (n : Nat) (small : n ≤ 308) : 0 < (power n).units := by
  by_contra zero
  have none : (power n).size = 0 := by
    unfold Binary64.size
    rw [Nat.eq_zero_of_not_pos zero, Nat.cast_zero, zero_div]
  have near := power_within n small
  have positive : (0 : ℚ) < 10 ^ n := by positivity
  unfold Within roundoff at near
  rw [none, zero_sub, abs_neg, abs_of_pos positive] at near
  linarith

theorem significand_finite (significand : Nat) (fits : significand < limit64) :
    (Binary64.ofNat significand).IsFinite :=
  Binary64.isFinite_ofNat significand 64 fits (by decide)

open Binary64 in
theorem mul_power (significand n : Nat) (fits : significand < limit64) (small : n ≤ 308) :
    ∃ size, ((Binary64.ofNat significand).mul (power n)).Rounds size ∧
      Within (7 * roundoff) leastSize size (significand * 10 ^ n) := by
  obtain ⟨size, rounds, near⟩ := mul_rounds (Binary64.ofNat significand) (power n)
  have first := ofNat_within significand (significand_finite significand fits)
  have product := Within.mul _ _ _ _ _ _ (Nat.cast_nonneg _) (by positivity) first
    (power_within n small)
  have positive : (0 : ℚ) ≤ significand * 10 ^ n := by positivity
  have whole := Within.trans _ _ _ _ _ _ _ (by unfold roundoff; norm_num) near product
  refine ⟨size, rounds, Within.mono _ _ _ _ _ _ positive ?_ ?_ whole⟩
  · unfold roundoff
    norm_num
  · have := leastSize_pos
    linarith

open Binary64 in
theorem div_power (x : Binary64) (n : Nat) (part distance q : ℚ) (small : n ≤ 308)
    (positive : 0 ≤ q) (parts : 0 ≤ part) (parts' : part ≤ 1 / 16) (far : 0 ≤ distance)
    (near : Within part distance x.size q) :
    ∃ size, (x.div (power n)).Rounds size ∧
      Within (part + 5 / 2 * roundoff) (distance / 10 ^ n * (1 + 4 * roundoff) + leastSize / 2) size
        (q / 10 ^ n) := by
  obtain ⟨size, rounds, last⟩ := div_rounds x (power n) (power_pos n small)
  have divisor : (0 : ℚ) < 10 ^ n := by positivity
  have quotient := Within.div _ _ _ _ _ _ _ positive divisor parts (by unfold roundoff; norm_num)
    (by unfold roundoff; norm_num) far near (power_within n small)
  have whole := Within.trans _ _ _ _ _ _ _ (by unfold roundoff; norm_num) last quotient
  refine ⟨size, rounds, Within.mono _ _ _ _ _ _ (by positivity) ?_ ?_ whole⟩
  · unfold roundoff
    linarith
  · have share : 0 ≤ distance / 10 ^ n := by positivity
    unfold roundoff
    linarith

theorem roundoff_small : 0 ≤ Binary64.roundoff ∧ Binary64.roundoff ≤ 1 / 128 := by
  unfold Binary64.roundoff
  norm_num

open Binary64 in
theorem rest_le_leastSize (significand n : Nat) (fits : significand < limit64) (large : 616 < n) :
    (significand : ℚ) / 10 ^ n ≤ leastSize := by
  have powers : limit64 * oneInUnits ≤ 10 ^ 617 := by decide +kernel
  have more : 10 ^ 617 ≤ 10 ^ n := pow_le_pow_right₀ (by decide) large
  have below : significand * oneInUnits ≤ 10 ^ n :=
    (Nat.mul_le_mul_right _ (Nat.le_of_lt fits)).trans (powers.trans more)
  have below : (significand : ℚ) * oneInUnits ≤ 10 ^ n := by exact_mod_cast below
  unfold leastSize
  rw [div_le_div_iff₀ (by positivity) oneInUnits_pos, one_mul]
  exact below

open Binary64 in
/-- Divided by 10^308, and what is left once more; the error of the first division shrinks with it. -/
theorem div_power_twice (significand m : Nat) (fits : significand < limit64) (more : m ≠ 0)
    (small : m ≤ 308) :
    ∃ size, (((Binary64.ofNat significand).div (power 308)).div (power m)).Rounds size ∧
      Within (7 * roundoff) leastSize size (significand / 10 ^ (308 + m)) := by
  have first := ofNat_within significand (significand_finite significand fits)
  have positive : (0 : ℚ) ≤ significand := Nat.cast_nonneg _
  have least := leastSize_pos
  have parts := roundoff_small
  obtain ⟨half, rounds, near⟩ := div_power _ 308 _ _ _ (le_refl _) positive parts.1 (by linarith)
    (le_refl _) first
  have front : (1 : ℚ) ≤ 10 ^ 308 := one_le_pow₀ (by norm_num)
  rw [zero_div, zero_mul, zero_add] at near
  rw [pow_add, ← div_div]
  generalize (10 : ℚ) ^ 308 = P at *
  have share : (significand : ℚ) / P ≤ 2 ^ 64 := by
    have below : (significand : ℚ) ≤ 2 ^ 64 := by exact_mod_cast Nat.le_of_lt fits
    exact (div_le_self positive front).trans below
  have nonneg : 0 ≤ (significand : ℚ) / P := by positivity
  -- The second division needs a first quotient that is a number, and it is below 2^65.
  have finite : ((Binary64.ofNat significand).div (power 308)).IsFinite := by
    by_contra infinite
    have large := rounds.infinite infinite
    have limit := pow_le_limit 66 (by decide)
    have bound := (abs_le.mp near).2
    have part := mul_le_of_le_one_right nonneg
      (show roundoff + 5 / 2 * roundoff ≤ 1 by linarith)
    have one := leastSize_le_one
    norm_num at share limit
    linarith
  rw [← rounds.finite finite] at near
  obtain ⟨last, rounds', near'⟩ := div_power _ m _ _ _ small nonneg (by linarith) (by linarith)
    (by linarith) near
  refine ⟨last, rounds', ?_⟩
  have tenth : leastSize / 2 / 10 ^ m ≤ leastSize / 20 := by
    have ten : (10 : ℚ) ≤ 10 ^ m := le_self_pow₀ (by norm_num) more
    rw [div_div, div_le_div_iff_of_pos_left least (by positivity) (by norm_num)]
    linarith
  refine Within.mono _ _ _ _ _ _ (by positivity) (by linarith) ?_ near'
  nlinarith

open Binary64 in
theorem scaleDown_rounds (significand n : Nat) (fits : significand < limit64) :
    ∃ size, (scaleDown (Binary64.ofNat significand) n).Rounds size ∧
      Within (7 * roundoff) leastSize size (significand / 10 ^ n) := by
  have parts := roundoff_small
  have least := leastSize_pos
  unfold scaleDown
  split
  · next small =>
    have first := ofNat_within significand (significand_finite significand fits)
    obtain ⟨size, rounds, near⟩ := div_power _ n _ _ _ small (Nat.cast_nonneg _) parts.1
      (by linarith) (le_refl _) first
    refine ⟨size, rounds, Within.mono _ _ _ _ _ _ (by positivity) (by linarith) ?_ near⟩
    rw [zero_div, zero_mul]
    linarith
  split
  · next above small =>
    obtain ⟨m, rfl⟩ : ∃ m, n = 308 + m := ⟨n - 308, by omega⟩
    rw [Nat.add_sub_cancel_left]
    exact div_power_twice significand m fits (by omega) (by omega)
  · next _ large =>
    refine ⟨0, ⟨fun _ => ?_, fun infinite => absurd (by decide) infinite⟩, ?_⟩
    · unfold Binary64.size
      have none : Binary64.zero.units = 0 := rfl
      rw [none, Nat.cast_zero, zero_div]
    · have rest := rest_le_leastSize significand n fits (by omega)
      have share : 0 ≤ (significand : ℚ) / 10 ^ n := by positivity
      unfold Within
      rw [zero_sub, abs_neg, abs_of_nonneg share]
      nlinarith

theorem negative_scaleDown (x : Binary64) (n : Nat) (positive : x.negative = false) :
    (scaleDown x n).negative = false := by
  have quotient (x : Binary64) (n : Nat) (positive : x.negative = false) :
      (x.div (power n)).negative = false := by
    show (x.negative != false) = false
    rw [positive]
    rfl
  unfold scaleDown
  split
  · exact quotient x n positive
  split
  · exact quotient _ _ (quotient x 308 positive)
  · rfl

open Binary64 in
theorem size_of_isZero (x : Binary64) (zero : x.isZero) : x.size = 0 := by
  have magnitude : x.magnitude.val = 0 := beq_iff_eq.mp zero
  have units : Magnitude.units 0 = 0 := rfl
  unfold Binary64.size Binary64.units
  rw [magnitude, units, Nat.cast_zero, zero_div]

open Binary64 in
theorem isZero_significand (significand : Nat) (fits : significand < limit64)
    (nonzero : significand ≠ 0) : (Binary64.ofNat significand).isZero = false := by
  rw [Bool.eq_false_iff]
  intro isZero
  have near := ofNat_within significand (significand_finite significand fits)
  have positive : (0 : ℚ) < significand := by exact_mod_cast Nat.pos_of_ne_zero nonzero
  unfold Within roundoff at near
  rw [size_of_isZero _ isZero, zero_sub, abs_neg, abs_of_pos positive] at near
  linarith

open Binary64 in
theorem limit_le_scaled (significand n : Nat) (nonzero : significand ≠ 0) (large : 308 < n) :
    limit ≤ significand * 10 ^ n := by
  have powers : 2 ^ 1024 ≤ 10 ^ 309 := by decide +kernel
  have more : 10 ^ 309 ≤ 10 ^ n := pow_le_pow_right₀ (by decide) large
  have one : 1 * 10 ^ n ≤ significand * 10 ^ n :=
    Nat.mul_le_mul_right _ (Nat.pos_of_ne_zero nonzero)
  rw [Nat.one_mul] at one
  rw [limit_eq]
  exact_mod_cast powers.trans (more.trans one)

open Binary64 in
theorem scale?_rounds (significand : Nat) (exponent : Int) (fits : significand < limit64) :
    ∃ size, Within (7 * roundoff) leastSize size (significand * 10 ^ exponent) ∧
      match scale? significand exponent with
      | some x => x.negative = false ∧ x.Rounds size
      | none => limit ≤ size := by
  have first := ofNat_within significand (significand_finite significand fits)
  have parts : 0 ≤ 7 * roundoff := mul_nonneg (by norm_num) roundoff_small.1
  have least := leastSize_pos
  cases exponent with
  | negSucc n =>
      obtain ⟨size, rounds, near⟩ := scaleDown_rounds significand (n + 1) fits
      rw [zpow_negSucc, ← div_eq_mul_inv]
      exact ⟨size, near, negative_scaleDown _ _ rfl, rounds⟩
  | ofNat n =>
      have cast : (10 : ℚ) ^ (Int.ofNat n) = 10 ^ n := zpow_natCast 10 n
      rw [cast]
      simp only [scale?]
      by_cases small : n ≤ 308
      · obtain ⟨size, rounds, near⟩ := mul_power significand n fits small
        refine ⟨size, near, ?_⟩
        rw [if_pos small]
        split
        · next x taken =>
          split at taken
          · cases taken
            exact ⟨rfl, rounds⟩
          · cases taken
        · next none =>
          split at none
          · cases none
          · next infinite => exact rounds.infinite infinite
      rw [if_neg small]
      by_cases zero : significand = 0
      · subst zero
        have isZero : (Binary64.ofNat 0).isZero := by decide +kernel
        rw [if_pos isZero]
        refine ⟨0, ?_, rfl, fun _ => size_of_isZero _ isZero, fun infinite => ?_⟩
        · rw [Nat.cast_zero, zero_mul]
          exact Within.self _ _ 0 (le_refl _) parts (le_of_lt least)
        · exact absurd (significand_finite 0 fits) infinite
      · have nonzero := isZero_significand significand fits zero
        rw [nonzero, if_neg Bool.false_ne_true]
        exact ⟨significand * 10 ^ n, Within.self _ _ _ (by positivity) parts (le_of_lt least),
          limit_le_scaled significand n zero (Nat.lt_of_not_le small)⟩

theorem isFinite_signed (negative : Bool) (x : Binary64) :
    (signed negative x).IsFinite ↔ x.IsFinite := by
  cases negative <;> exact Iff.rfl

open Binary64 in
theorem size_signed (negative : Bool) (x : Binary64) : (signed negative x).size = x.size := by
  cases negative <;> rfl

open Binary64 in
/-- The double of a literal is near the number that the literal writes, and an infinite one is
refused. -/
theorem float?_near (l : Literal) (decimal : ∀ d ∈ l.whole ++ l.places, d < 10) :
    ∃ size, Within (1 / 0x4000000000000) leastSize size l.size ∧
      match l.float? with
      | some (.float x _) => x.negative = l.negative ∧ x.size = size
      | some (.integer ..) => False
      | none => limit ≤ size := by
  obtain ⟨fits, written⟩ := scaled_within l decimal
  obtain ⟨size, near, rounds⟩ := scale?_rounds l.scaled.1 l.scaled.2 fits
  have positive : 0 ≤ l.size :=
    mul_nonneg (Nat.cast_nonneg _) (zpow_nonneg (by norm_num) _)
  have whole := Within.trans _ _ _ _ _ _ _ (by unfold roundoff; norm_num) near written
  refine ⟨size, Within.mono _ _ _ _ _ _ positive (by unfold roundoff; norm_num) (by linarith) whole, ?_⟩
  unfold float?
  generalize scale? l.scaled.1 l.scaled.2 = scaled at *
  cases scaled with
  | none => exact rounds
  | some x =>
      obtain ⟨unsigned, rounds⟩ := rounds
      have sign : (signed l.negative x).negative = l.negative := by
        cases l.negative with
        | false => exact unsigned
        | true =>
            show (!x.negative) = true
            rw [unsigned]
            rfl
      rw [Option.bind_some]
      dsimp only
      by_cases finite : (signed l.negative x).IsFinite
      · rw [dif_pos finite]
        exact ⟨sign, (size_signed _ x).trans (rounds.finite ((isFinite_signed _ x).mp finite))⟩
      · rw [dif_neg finite]
        exact rounds.infinite (fun small => finite ((isFinite_signed _ x).mpr small))

end Literal

end PgJson.Json
