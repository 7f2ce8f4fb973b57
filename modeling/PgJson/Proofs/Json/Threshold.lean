import PgJson.Proofs.Json.Accuracy

/-!
The literals of whole numbers that are beyond the doubles. The significand is rounded and the power
of ten is, and their product passes the greatest double a little early: from
17976931348623156225 * 10^289 on, where the nearest double is finite for some way still.
-/

namespace PgJson.Json

open Text

namespace Literal

/-- The least whole number whose literal is read as no number. -/
@[irreducible]
def threshold : Nat := 17976931348623156225 * 10 ^ 289

open Binary64 in
theorem mul_mono (significand significand' n m : Nat) (larger : significand ≤ significand')
    (longer : n ≤ m) :
    ((Binary64.ofNat significand).mul (power n)).magnitude.val ≤
      ((Binary64.ofNat significand').mul (power m)).magnitude.val := by
  have front : (Binary64.ofNat significand).magnitude.val ≤
      (Binary64.ofNat significand').magnitude.val :=
    Magnitude.nearest_mono _ _ 1 Nat.one_pos (Nat.mul_le_mul_right _ larger)
  have unit : 0 < oneInUnits := by exact_mod_cast oneInUnits_pos
  exact Magnitude.nearest_mono _ _ _ unit (Nat.mul_le_mul
    (Magnitude.units_strictMono.monotone front)
    (Magnitude.units_strictMono.monotone (power_mono n m longer)))

theorem mul_finite_of_short (significand n : Nat) (fits : significand < limit64) (short : n ≤ 288) :
    ((Binary64.ofNat significand).mul (power n)).IsFinite := by
  have last : ((Binary64.ofNat 18446744073709551615).mul (power 288)).IsFinite := by decide +kernel
  have top : significand ≤ 18446744073709551615 := Nat.le_pred_of_lt fits
  exact Nat.lt_of_le_of_lt (mul_mono significand _ n 288 top short) last

theorem mul_finite_iff (significand : Nat) :
    ((Binary64.ofNat significand).mul (power 289)).IsFinite ↔
      significand < 17976931348623156225 := by
  have last : ((Binary64.ofNat 17976931348623156224).mul (power 289)).IsFinite := by decide +kernel
  have first : ¬((Binary64.ofNat 17976931348623156225).mul (power 289)).IsFinite := by
    decide +kernel
  constructor
  · intro finite
    by_contra large
    exact first (Nat.lt_of_le_of_lt
      (mul_mono _ significand 289 289 (Nat.le_of_not_lt large) (Nat.le_refl _)) finite)
  · intro small
    have top : significand ≤ 17976931348623156224 := Nat.le_pred_of_lt small
    exact Nat.lt_of_le_of_lt (mul_mono significand _ 289 289 top (Nat.le_refl _)) last

theorem mul_infinite_of_long (significand n : Nat) (full : limit64 ≤ significand * 10 + 9)
    (long : 290 ≤ n) : ¬((Binary64.ofNat significand).mul (power n)).IsFinite := by
  have first : ¬((Binary64.ofNat 1844674407370955161).mul (power 290)).IsFinite := by decide +kernel
  intro finite
  have larger : 1844674407370955161 ≤ significand := by
    unfold limit64 at *
    omega
  exact first (Nat.lt_of_le_of_lt (mul_mono _ significand 290 n larger long) finite)

/-- A significand and the digits dropped behind it reach the threshold as their product passes the
doubles. -/
theorem scale?_isSome_iff (significand n rest : Nat) (fits : significand < limit64)
    (full : n ≠ 0 → limit64 ≤ significand * 10 + 9) (small : rest < 10 ^ n) :
    (scale? significand n).isSome ↔ significand * 10 ^ n + rest < threshold := by
  have scaled : (scale? significand n).isSome ↔
      n ≤ 308 ∧ ((Binary64.ofNat significand).mul (power n)).IsFinite ∨
        ¬n ≤ 308 ∧ (Binary64.ofNat significand).isZero := by
    show (scale? significand (Int.ofNat n)).isSome ↔ _
    simp only [scale?]
    by_cases within : n ≤ 308
    · rw [if_pos within]
      by_cases finite : ((Binary64.ofNat significand).mul (power n)).IsFinite
      · simp [within, finite]
      · simp [within, finite]
    · rw [if_neg within]
      by_cases zero : (Binary64.ofNat significand).isZero
      · simp [within, zero]
      · simp [within, zero]
  rw [scaled]
  have above : significand * 10 ^ n + rest < (significand + 1) * 10 ^ n := by
    rw [Nat.succ_mul]
    omega
  -- Below 10^289 every product is finite, and above it none of a full significand is.
  rcases Nat.lt_or_ge n 289 with short | long
  · have finite := mul_finite_of_short significand n fits (Nat.le_of_lt_succ short)
    have powers : 10 ^ n ≤ 10 ^ 288 := pow_le_pow_right₀ (by decide) (Nat.le_of_lt_succ short)
    have top : limit64 * 10 ^ 288 ≤ threshold := by decide +kernel
    have below : significand * 10 ^ n + rest < threshold :=
      above.trans_le ((Nat.mul_le_mul fits powers).trans top)
    exact ⟨fun _ => below, fun _ => .inl ⟨by omega, finite⟩⟩
  rcases Nat.eq_or_lt_of_le long with same | longer
  · subst same
    rw [mul_finite_iff]
    unfold threshold
    generalize 10 ^ 289 = step at *
    constructor
    · rintro (⟨_, less⟩ | ⟨outside, _⟩)
      · exact above.trans_le (Nat.mul_le_mul_right step less)
      · exact absurd (by decide) outside
    · intro less
      refine .inl ⟨by decide, ?_⟩
      exact Nat.lt_of_mul_lt_mul_right ((Nat.le_add_right _ rest).trans_lt less)
  · have large := full (by omega)
    have infinite := mul_infinite_of_long significand n large longer
    have least : 1844674407370955161 ≤ significand := by
      unfold limit64 at large
      omega
    have powers : 10 ^ 290 ≤ 10 ^ n := pow_le_pow_right₀ (by decide) longer
    have bottom : threshold ≤ 1844674407370955161 * 10 ^ 290 := by decide +kernel
    have reached : threshold ≤ significand * 10 ^ n := bottom.trans (Nat.mul_le_mul least powers)
    have nonzero := isZero_significand significand fits (by omega)
    constructor
    · rintro (⟨_, finite⟩ | ⟨_, zero⟩)
      · exact absurd finite infinite
      · rw [nonzero] at zero
        cases zero
    · intro less
      omega

theorem scale?_finite (significand n : Nat) (fits : significand < limit64) (x : Binary64)
    (scaled : scale? significand n = some x) : x.IsFinite := by
  have scaled : scale? significand (Int.ofNat n) = some x := scaled
  simp only [scale?] at scaled
  split at scaled
  · split at scaled
    · next finite =>
      cases scaled
      exact finite
    · cases scaled
  · split at scaled
    · cases scaled
      exact significand_finite significand fits
    · cases scaled

theorem float?_isSome_iff (l : Literal) (places : l.fraction = none) (exponent : l.exponent = none)
    (decimal : ∀ d ∈ l.whole, d < 10) : l.float?.isSome ↔ digits l.whole < threshold := by
  obtain ⟨taken, whole, first, fits, full⟩ := gather_parts 0 l.whole (by decide)
  have scaled : l.scaled = ((gather 0 l.whole).1, ((gather 0 l.whole).2.length : Int)) := by
    rw [scaled_eq, Literal.places, shift, places, exponent]
    simp [gather]
  have written : digits l.whole =
      (gather 0 l.whole).1 * 10 ^ (gather 0 l.whole).2.length + digits (gather 0 l.whole).2 := by
    conv_lhs => rw [whole, digits_append]
    rw [first, Nat.zero_mul, Nat.zero_add]
  have rest := digits_lt (gather 0 l.whole).2 fun d member => decimal d (by
    rw [whole]
    exact List.mem_append_right _ member)
  have large : (gather 0 l.whole).2.length ≠ 0 → limit64 ≤ (gather 0 l.whole).1 * 10 + 9 := by
    intro present
    obtain ⟨d, member, past⟩ := full fun none => present (List.length_eq_zero_iff.mpr none)
    have := decimal d member
    omega
  rw [written, ← scale?_isSome_iff _ _ _ fits large rest, float?, scaled]
  dsimp only
  cases done : scale? (gather 0 l.whole).1 (gather 0 l.whole).2.length with
  | none => rfl
  | some x =>
      have finite := (isFinite_signed l.negative x).mpr (scale?_finite _ _ fits x done)
      rw [Option.bind_some, dif_pos finite]
      rfl

end Literal
end PgJson.Json
