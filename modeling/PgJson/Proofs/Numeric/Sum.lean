import PgJson.Numeric.Wire
import PgJson.Proofs.Number.Binary64
import Mathlib.Algebra.Field.Rat
import Mathlib.Algebra.Order.Field.Power
import Mathlib.Algebra.Order.Field.Rat
import Mathlib.Tactic.FieldSimp
import Mathlib.Tactic.Linarith
import Mathlib.Tactic.Positivity
import Mathlib.Tactic.Ring

/-! Sums of base-10000 digits in a decimal of 96 bits: which are held, and which are exact. -/

namespace PgJson

theorem le_divideToEven_iff (limit n d : Nat) (even : limit % 2 = 0) (least : 0 < limit)
    (pos : 0 < d) : limit ≤ divideToEven n d ↔ (2 * limit - 1) * d ≤ 2 * n := by
  have whole : d * (n / d) + n % d = n := Nat.div_add_mod n d
  have rest : n % d < d := Nat.mod_lt n pos
  simp only [divideToEven]
  generalize n / d = q at *
  generalize n % d = r at *
  obtain ⟨k, half⟩ : ∃ k, limit = 2 * k + 2 := ⟨limit / 2 - 1, by omega⟩
  have odd : 2 * limit - 1 = 4 * k + 3 := by omega
  rw [odd]
  rcases Nat.lt_trichotomy q (2 * k + 1) with below | same | above
  · have product : d * (q + 1) ≤ d * (2 * k + 1) := Nat.mul_le_mul_left d below
    have apart : ¬ (4 * k + 3) * d ≤ 2 * n := by nlinarith
    split
    · exact iff_of_false (by omega) apart
    · exact iff_of_false (by omega) apart
  · subst same
    have twice : 2 * n = (4 * k + 2) * d + 2 * r := by
      rw [← whole]
      ring
    have parts : (4 * k + 3) * d = (4 * k + 2) * d + d := by ring
    rw [twice, parts, Nat.add_le_add_iff_left]
    split
    · exact iff_of_false (by omega) (by omega)
    · exact iff_of_true (by omega) (by omega)
  · have product : d * (2 * k + 2) ≤ d * q := Nat.mul_le_mul_left d above
    have reached : (4 * k + 3) * d ≤ 2 * n := by nlinarith
    split
    · exact iff_of_true (by omega) reached
    · exact iff_of_true (by omega) reached

namespace Numeric

def digitsValue (weight : Int) : List Int → ℚ
  | [] => 0
  | digit :: rest => digit * 10000 ^ weight + digitsValue (weight - 1) rest

namespace Sum

def value (s : Sum) : ℚ := s.mantissa / 10 ^ s.scale

/-- A sum of digits above a weight: 96 bits hold it, and it has the places of these digits. -/
structure Held (s : Sum) (weight : Int) : Prop where
  nonneg : 0 ≤ s.mantissa
  below : s.mantissa < Decimal.limit
  places : s.scale ≤ (-4 * (weight + 1)).toNat

/-! ## Rounding to 96 bits -/

theorem eq_mul_pow (n m places fewer : Nat) (le : fewer ≤ places)
    (equal : (n : ℚ) / 10 ^ places = m / 10 ^ fewer) : n = m * 10 ^ (places - fewer) := by
  have power : (10 : ℚ) ^ places = 10 ^ (places - fewer) * 10 ^ fewer := by
    rw [← pow_add, Nat.sub_add_cancel le]
  rw [power, div_eq_div_iff (by positivity) (by positivity), ← mul_assoc] at equal
  have product := mul_right_cancel₀ (by positivity) equal
  exact_mod_cast product

theorem sign_mul_divideToEven (m : Int) (d : Nat) (nonneg : 0 ≤ m) (pos : 0 < d) :
    m.sign * (divideToEven m.natAbs d : Int) = divideToEven m.natAbs d := by
  rcases Int.lt_or_eq_of_le nonneg with positive | zero
  · rw [Int.sign_eq_one_of_pos positive, one_mul]
  · have none : divideToEven 0 d = 0 := by
      have product := divideToEven_mul 0 d pos
      rwa [Nat.zero_mul] at product
    rw [← zero, Int.natAbs_zero, none]
    rfl

theorem fit?_some (s t : Sum) (nonneg : 0 ≤ s.mantissa) (fits : s.fit? = some t) :
    ∃ k ≤ s.scale, t = ⟨divideToEven s.mantissa.natAbs (10 ^ k), s.scale - k⟩ ∧
      divideToEven s.mantissa.natAbs (10 ^ k) < Decimal.limit ∧
      ∀ j < k, Decimal.limit ≤ divideToEven s.mantissa.natAbs (10 ^ j) := by
  simp only [fit?, Nat.pow_eq] at fits
  split at fits
  · next k found =>
    cases fits
    obtain ⟨small, within, fewer⟩ := List.find?_range_eq_some.mp found
    refine ⟨k, Nat.le_of_lt_succ (List.mem_range.mp within), ?_, of_decide_eq_true small, ?_⟩
    · rw [sign_mul_divideToEven _ _ nonneg (by positivity)]
    · intro j less
      have large := fewer j less
      simpa using large
  · cases fits

theorem fit?_eq_none (s : Sum) (nonneg : 0 ≤ s.mantissa) :
    s.fit? = none ↔ (Decimal.limit : ℚ) - 1 / 2 ≤ s.value := by
  have reaches : ∀ k, Decimal.limit ≤ divideToEven s.mantissa.natAbs (10 ^ k) ↔
      (2 * Decimal.limit - 1) * 10 ^ k ≤ 2 * s.mantissa.natAbs :=
    fun k => le_divideToEven_iff _ _ _ (by decide) (by decide) (by positivity)
  have most : s.fit? = none ↔
      (2 * Decimal.limit - 1) * 10 ^ s.scale ≤ 2 * s.mantissa.natAbs := by
    simp only [fit?, Nat.pow_eq]
    split
    · next k found =>
      obtain ⟨small, within, _⟩ := List.find?_range_eq_some.mp found
      have apart := (not_congr (reaches k)).mp (Nat.not_le_of_lt (of_decide_eq_true small))
      have powers : (10 : Nat) ^ k ≤ 10 ^ s.scale :=
        Nat.pow_le_pow_right (by decide) (Nat.le_of_lt_succ (List.mem_range.mp within))
      refine iff_of_false nofun fun reached => apart ?_
      exact le_trans (Nat.mul_le_mul_left _ powers) reached
    · next missing =>
      have large := List.find?_eq_none.mp missing s.scale
        (List.mem_range.mpr (Nat.lt_succ_self _))
      exact iff_of_true rfl ((reaches s.scale).mp (by simpa using large))
  have mantissa : (s.mantissa : ℚ) = (s.mantissa.natAbs : Nat) := by
    rw [← Int.cast_natCast, Int.natAbs_of_nonneg nonneg]
  have positive : (0 : ℚ) < 10 ^ s.scale := by positivity
  rw [most, value, le_div_iff₀ positive, mantissa]
  have odd : ((2 * Decimal.limit - 1 : Nat) : ℚ) = 2 * (Decimal.limit : ℚ) - 1 := by
    norm_num [Decimal.limit]
  rw [← Nat.cast_le (α := ℚ)]
  push_cast [odd]
  constructor
  · intro reached
    linarith
  · intro reached
    linarith

theorem fit?_value (s t : Sum) (nonneg : 0 ≤ s.mantissa) (fits : s.fit? = some t) (m p : Nat)
    (small : m < Decimal.limit) (most : s.value ≤ m / 10 ^ p)
    (same : 0 < s.scale → p ≤ s.scale → s.value = m / 10 ^ p) : t.value = s.value := by
  obtain ⟨k, within, rounded, _, fewest⟩ := fit?_some s t nonneg fits
  obtain ⟨mantissa, scale⟩ := s
  obtain ⟨n, rfl⟩ := Int.eq_ofNat_of_zero_le nonneg
  simp only [value, Int.natAbs_natCast, Int.cast_natCast] at *
  have exact : divideToEven n (10 ^ k) * 10 ^ k = n := by
    rcases Nat.eq_zero_or_pos k with zero | dropped
    · have all := divideToEven_mul n 1 (by decide)
      rw [zero, pow_zero, Nat.mul_one]
      rwa [Nat.mul_one] at all
    have full := fewest 0 dropped
    have all := divideToEven_mul n 1 (by decide)
    rw [Nat.mul_one] at all
    rw [pow_zero, all] at full
    by_cases few : p ≤ scale
    · have product := eq_mul_pow n m scale p few (same (Nat.lt_of_lt_of_le dropped within) few)
      have least : k ≤ scale - p := by
        by_contra more
        have large := fewest (scale - p) (Nat.lt_of_not_le more)
        rw [product, divideToEven_mul m _ (by positivity)] at large
        exact absurd small (Nat.not_lt.mpr large)
      have power : 10 ^ (scale - p) = 10 ^ (scale - p - k) * 10 ^ k := by
        rw [← pow_add, Nat.sub_add_cancel least]
      rw [product, power, ← Nat.mul_assoc, divideToEven_mul _ _ (by positivity)]
    · exfalso
      have shift : (m : ℚ) / 10 ^ p ≤ m / 10 ^ scale := by
        apply div_le_div_of_nonneg_left (by positivity) (by positivity)
        exact pow_le_pow_right₀ (by norm_num) (by omega)
      have less : (n : ℚ) ≤ m := by
        have bound := le_trans most shift
        rwa [div_le_div_iff_of_pos_right (by positivity)] at bound
      have less : n ≤ m := by exact_mod_cast less
      omega
  have power : (10 : ℚ) ^ scale = 10 ^ (scale - k) * 10 ^ k := by
    rw [← pow_add, Nat.sub_add_cancel within]
  have cast : (n : ℚ) = divideToEven n (10 ^ k) * 10 ^ k := by exact_mod_cast exact.symm
  rw [rounded, power, cast, mul_div_mul_right _ _ (by positivity), Int.cast_natCast]

/-! ## Adding a digit -/

theorem part_value (digit weight : Int) : (part digit weight).value = digit * 10000 ^ weight := by
  cases weight with
  | ofNat n =>
      show ((digit * (Nat.pow 10000 n : Nat) : Int) : ℚ) / 10 ^ 0 = _
      rw [Nat.pow_eq]
      push_cast
      rw [pow_zero, div_one, Int.ofNat_eq_natCast, zpow_natCast]
  | negSucc n =>
      show (digit : ℚ) / 10 ^ (4 * (n + 1)) = _
      rw [zpow_negSucc, pow_mul, div_eq_mul_inv]
      norm_num

theorem part_scale (digit weight : Int) : (part digit weight).scale = (-4 * weight).toNat := by
  cases weight with
  | ofNat n =>
      show 0 = _
      rw [Int.ofNat_eq_natCast]
      omega
  | negSucc n =>
      show 4 * (n + 1) = _
      rw [Int.negSucc_eq]
      omega

theorem part_nonneg (digit weight : Int) (nonneg : 0 ≤ digit) :
    0 ≤ (part digit weight).mantissa := by
  cases weight with
  | ofNat n => exact Int.mul_nonneg nonneg (Int.natCast_nonneg _)
  | negSucc n => exact nonneg

def aligned (a b : Sum) : Sum :=
  let scale := max a.scale b.scale
  ⟨a.mantissa * Nat.pow 10 (scale - a.scale) + b.mantissa * Nat.pow 10 (scale - b.scale), scale⟩

theorem aligned_value (a b : Sum) : (aligned a b).value = a.value + b.value := by
  have left : (10 : ℚ) ^ max a.scale b.scale =
      10 ^ (max a.scale b.scale - a.scale) * 10 ^ a.scale := by
    rw [← pow_add, Nat.sub_add_cancel (Nat.le_max_left ..)]
  have right : (10 : ℚ) ^ max a.scale b.scale =
      10 ^ (max a.scale b.scale - b.scale) * 10 ^ b.scale := by
    rw [← pow_add, Nat.sub_add_cancel (Nat.le_max_right ..)]
  simp only [aligned, value, Nat.pow_eq]
  push_cast
  rw [add_div]
  congr 1
  · rw [left, mul_comm, mul_div_mul_left _ _ (by positivity)]
  · rw [right, mul_comm, mul_div_mul_left _ _ (by positivity)]

theorem aligned_nonneg (a b : Sum) (left : 0 ≤ a.mantissa) (right : 0 ≤ b.mantissa) :
    0 ≤ (aligned a b).mantissa :=
  Int.add_nonneg (Int.mul_nonneg left (Int.natCast_nonneg _))
    (Int.mul_nonneg right (Int.natCast_nonneg _))

theorem value_eq_zero (s : Sum) (nothing : s.mantissa = 0) : s.value = 0 := by
  rw [value, nothing, Int.cast_zero, zero_div]

theorem value_le (s : Sum) (nonneg : 0 ≤ s.mantissa) (below : s.mantissa < Decimal.limit) :
    s.value ≤ Decimal.limit - 1 := by
  have cast : (s.mantissa : ℚ) ≤ Decimal.limit - 1 := by
    have less : s.mantissa ≤ (Decimal.limit : Int) - 1 := by omega
    exact_mod_cast less
  have positive : (0 : ℚ) ≤ s.mantissa := by exact_mod_cast nonneg
  exact le_trans (div_le_self positive (one_le_pow₀ (by norm_num))) cast

/-- Adding a digit fails where the sum reaches 2^96 less a half, and else gives a sum that is held,
exact where nothing stands after the point. -/
theorem add?_cases (total : Sum) (digit weight : Int) (held : total.Held weight)
    (nonneg : 0 ≤ digit) (small : (part digit weight).mantissa < Decimal.limit) :
    (total.add? (part digit weight) = none ∧
        (Decimal.limit : ℚ) - 1 / 2 ≤ total.value + digit * 10000 ^ weight) ∨
      ∃ t, total.add? (part digit weight) = some t ∧ t.Held (weight - 1) ∧
        total.value + digit * 10000 ^ weight < (Decimal.limit : ℚ) - 1 / 2 ∧
        (0 ≤ weight → t.value = total.value + digit * 10000 ^ weight) := by
  have positive := part_nonneg digit weight nonneg
  have scale := part_scale digit weight
  have places := held.places
  rw [← part_value]
  generalize part digit weight = p at *
  have half : (1 : ℚ) / 2 < 1 := by norm_num
  -- A zero on either side is passed over, so only two parts that are there can be rounded.
  by_cases nothing : p.mantissa = 0
  · right
    have zero := value_eq_zero p nothing
    have bound := value_le total held.nonneg held.below
    refine ⟨total, if_pos nothing, ⟨held.nonneg, held.below, by omega⟩, ?_, ?_⟩
    · rw [zero]
      linarith
    · intro _
      rw [zero, add_zero]
  by_cases first : total.mantissa = 0
  · right
    have zero := value_eq_zero total first
    have bound := value_le p positive small
    refine ⟨p, ?_, ⟨positive, small, by omega⟩, ?_, ?_⟩
    · rw [add?, if_neg nothing, if_pos first]
    · rw [zero]
      linarith
    · intro _
      rw [zero, zero_add]
  have added : total.add? p = (aligned total p).fit? := by
    rw [add?, if_neg nothing, if_neg first]
    rfl
  have sum := aligned_value total p
  have both := aligned_nonneg total p held.nonneg positive
  have alignedScale : (aligned total p).scale = p.scale := Nat.max_eq_right (by omega)
  have wide := fit?_eq_none (aligned total p) both
  rw [sum] at wide
  rw [added]
  cases fits : (aligned total p).fit? with
  | none => exact .inl ⟨rfl, wide.mp fits⟩
  | some t =>
      right
      obtain ⟨k, within, rounded, fitting, _⟩ := fit?_some _ t both fits
      refine ⟨t, rfl, ⟨?_, ?_, ?_⟩, ?_, ?_⟩
      · rw [rounded]
        exact Int.natCast_nonneg _
      · rw [rounded]
        show ((divideToEven _ _ : Nat) : Int) < _
        exact_mod_cast fitting
      · rw [rounded]
        show (aligned total p).scale - k ≤ _
        omega
      · by_contra large
        have failed := wide.mpr (not_lt.mp large)
        rw [fits] at failed
        cases failed
      · intro whole
        have unscaled : (aligned total p).scale = 0 := by omega
        rw [← sum]
        have least : k = 0 := by omega
        have exact := divideToEven_mul (aligned total p).mantissa.natAbs 1 (by decide)
        rw [Nat.mul_one] at exact
        rw [rounded, least, pow_zero, exact, value, value, Nat.sub_zero, Int.natAbs_of_nonneg both]

theorem add?_value (total t : Sum) (digit weight : Int) (held : total.Held weight)
    (nonneg : 0 ≤ digit) (added : total.add? (part digit weight) = some t) (m p : Nat)
    (small : m < Decimal.limit) (most : total.value + digit * 10000 ^ weight ≤ m / 10 ^ p)
    (same : weight < 0 → p ≤ (-4 * weight).toNat →
      total.value + digit * 10000 ^ weight = m / 10 ^ p) :
    t.value = total.value + digit * 10000 ^ weight := by
  have positive := part_nonneg digit weight nonneg
  have scale := part_scale digit weight
  have places := held.places
  rw [← part_value] at most same ⊢
  generalize part digit weight = q at *
  unfold add? at added
  split at added
  · next nothing =>
    cases added
    rw [value_eq_zero q nothing, add_zero]
  split at added
  · next first =>
    cases added
    rw [value_eq_zero total first, zero_add]
  have alignedScale : (aligned total q).scale = q.scale := Nat.max_eq_right (by omega)
  rw [← aligned_value] at most same ⊢
  apply fit?_value (aligned total q) t (aligned_nonneg total q held.nonneg positive) added m p small
    most
  intro fine few
  exact same (by omega) (by omega)

end Sum

/-! ## Sums of all digits -/

def IsDigit (digit : Int) : Prop := 0 ≤ digit ∧ digit < 10000

theorem digitsValue_bounds (digits : List Int) (weight : Int) (range : ∀ d ∈ digits, IsDigit d) :
    0 ≤ digitsValue weight digits ∧ digitsValue weight digits < 10000 ^ (weight + 1) := by
  induction digits generalizing weight with
  | nil => exact ⟨le_refl _, zpow_pos (by norm_num) _⟩
  | cons digit rest ih =>
      obtain ⟨low, high⟩ := range digit (List.mem_cons_self ..)
      have others := ih (weight - 1) fun d member => range d (List.mem_cons_of_mem _ member)
      rw [sub_add_cancel] at others
      have power : (10000 : ℚ) ^ (weight + 1) = 10000 ^ weight * 10000 :=
        zpow_add_one₀ (by norm_num) weight
      have positive : (0 : ℚ) < 10000 ^ weight := zpow_pos (by norm_num) _
      have low : (0 : ℚ) ≤ digit := by exact_mod_cast low
      have high : (digit : ℚ) ≤ 9999 := by
        have most : digit ≤ 9999 := by omega
        exact_mod_cast most
      rw [digitsValue, power]
      constructor
      · have product := mul_nonneg low positive.le
        linarith
      · have product := mul_le_mul_of_nonneg_right high positive.le
        linarith

theorem digit_mul_bounds (digit weight : Int) (range : IsDigit digit) :
    0 ≤ (digit : ℚ) * 10000 ^ weight ∧ (digit : ℚ) * 10000 ^ weight < 10000 ^ (weight + 1) := by
  have bounds := digitsValue_bounds [digit] weight
    fun d member => List.mem_singleton.mp member ▸ range
  rwa [digitsValue, digitsValue, add_zero] at bounds

theorem zpow_of_neg (weight : Int) (negative : weight < 0) :
    (10000 : ℚ) ^ weight = 1 / 10 ^ (-4 * weight).toNat := by
  obtain ⟨n, rfl⟩ : ∃ n : Nat, weight = -n := ⟨(-weight).toNat, by omega⟩
  have places : (-4 * -(n : Int)).toNat = 4 * n := by omega
  rw [places, zpow_neg, zpow_natCast, pow_mul, one_div]
  norm_num

theorem eq_of_places (a b : Int) (places : Nat) (le : (a : ℚ) / 10 ^ places ≤ b / 10 ^ places)
    (lt : (b : ℚ) / 10 ^ places < a / 10 ^ places + 1 / 10 ^ places) : a = b := by
  have positive : (0 : ℚ) < 10 ^ places := by positivity
  rw [div_le_div_iff_of_pos_right positive] at le
  rw [← add_div, div_lt_div_iff_of_pos_right positive] at lt
  have le : a ≤ b := by exact_mod_cast le
  have lt : b < a + 1 := by exact_mod_cast lt
  omega

theorem sum_cons (total : Sum) (digit weight : Int) (rest : List Int) (low : -8 < weight)
    (high : weight < 8) (small : (part digit weight).mantissa.natAbs < Decimal.limit) :
    sum total weight (digit :: rest) = match total.add? (part digit weight) with
      | none => Outcome.fail .numericTooWide
      | some total => sum total (weight - 1) rest := by
  have inside : ¬ (8 ≤ weight ∨ weight ≤ -8) := by omega
  exact (if_neg inside).trans (if_neg (Nat.not_le.mpr small))

theorem sum_cons_ok (total t : Sum) (digit weight : Int) (rest : List Int)
    (done : sum total weight (digit :: rest) = .ok t) :
    -8 < weight ∧ (part digit weight).mantissa.natAbs < Decimal.limit ∧
      ∃ next, total.add? (part digit weight) = some next ∧
        sum next (weight - 1) rest = .ok t := by
  rw [sum] at done
  split at done
  · cases done
  simp only at done
  split at done
  · cases done
  split at done
  · cases done
  · next next added =>
    exact ⟨by omega, by omega, next, added, done⟩

theorem sum_value (digits : List Int) (total t : Sum) (weight : Int)
    (range : ∀ d ∈ digits, IsDigit d) (held : total.Held weight) (m p : Nat)
    (small : m < Decimal.limit) (whole : total.value + digitsValue weight digits = m / 10 ^ p)
    (done : sum total weight digits = .ok t) : t.value = m / 10 ^ p := by
  -- The sum and the digits that are left stand for the number together.
  induction digits generalizing total weight with
  | nil =>
      cases done
      rw [← whole, digitsValue, add_zero]
  | cons digit rest ih =>
      obtain ⟨digitLow, _⟩ := range digit (List.mem_cons_self ..)
      have others : ∀ d ∈ rest, IsDigit d := fun d member => range d (List.mem_cons_of_mem _ member)
      obtain ⟨tailLow, tailHigh⟩ := digitsValue_bounds rest (weight - 1) others
      obtain ⟨low, fits, next, added, remaining⟩ := sum_cons_ok total t digit weight rest done
      rw [digitsValue, ← add_assoc] at whole
      rw [sub_add_cancel] at tailHigh
      have next_held : next.Held (weight - 1) := by
        rcases Sum.add?_cases total digit weight held digitLow (by omega) with
          ⟨none, _⟩ | ⟨other, same, kept, _⟩
        · rw [added] at none
          cases none
        · rw [added] at same
          cases same
          exact kept
      have exact : next.value = total.value + digit * 10000 ^ weight := by
        apply Sum.add?_value total next digit weight held digitLow added m p small
        · linarith
        · intro negative few
          -- both are decimals of as many places, and the rest is less than one of the last of them
          have places := held.places
          have scale : (total.aligned (part digit weight)).scale = (-4 * weight).toNat := by
            show max total.scale (part digit weight).scale = _
            rw [Sum.part_scale]
            omega
          have sum : total.value + digit * 10000 ^ weight =
              (total.aligned (part digit weight)).mantissa / 10 ^ (-4 * weight).toNat := by
            rw [← Sum.part_value, ← Sum.aligned_value, Sum.value, scale]
          have number : (m : ℚ) / 10 ^ p =
              ((m * 10 ^ ((-4 * weight).toNat - p) : Nat) : Int) / 10 ^ (-4 * weight).toNat := by
            have power : (10 : ℚ) ^ (-4 * weight).toNat =
                10 ^ ((-4 * weight).toNat - p) * 10 ^ p := by
              rw [← pow_add, Nat.sub_add_cancel few]
            rw [power]
            push_cast
            rw [mul_comm (m : ℚ), mul_div_mul_left _ _ (by positivity)]
          rw [zpow_of_neg weight negative] at tailHigh
          rw [sum, number] at whole ⊢
          have same := eq_of_places (total.aligned (part digit weight)).mantissa
            (m * 10 ^ ((-4 * weight).toNat - p) : Nat) (-4 * weight).toNat (by linarith)
            (by linarith)
          rw [same]
      exact ih next (weight - 1) others next_held (by rw [exact, whole]) remaining

/-! ## Which sums are held -/

theorem Sum.Held.mono {s : Sum} {weight lower : Int} (held : s.Held weight) (le : lower ≤ weight) :
    s.Held lower := by
  have places := held.places
  exact ⟨held.nonneg, held.below, by omega⟩

/-- Far enough behind the point a digit never takes a sum beyond 96 bits. -/
theorem sum_low (digits : List Int) (total : Sum) (weight : Int) (range : ∀ d ∈ digits, IsDigit d)
    (held : total.Held weight) (least : -8 ≤ weight) (most : weight ≤ -2) :
    (∃ t, sum total weight digits = .ok t ∧ t.Held (-8) ∧ (digits.length : Int) ≤ weight + 8) ∨
      sum total weight digits = Outcome.fail .numericTooWide ∧
        ¬ (digits.length : Int) ≤ weight + 8 := by
  induction digits generalizing total weight with
  | nil =>
      left
      refine ⟨total, rfl, held.mono least, ?_⟩
      rw [List.length_nil]
      omega
  | cons digit rest ih =>
      rw [List.length_cons]
      push_cast
      rcases Int.lt_or_eq_of_le least with above | lowest
      · obtain ⟨digitLow, digitHigh⟩ := range digit (List.mem_cons_self ..)
        have others : ∀ d ∈ rest, IsDigit d :=
          fun d member => range d (List.mem_cons_of_mem _ member)
        obtain ⟨n, negative⟩ : ∃ n, weight = Int.negSucc n := ⟨(-weight - 1).toNat, by omega⟩
        have mantissa : (part digit weight).mantissa = digit := by
          rw [negative]
          rfl
        have small : digit < Decimal.limit := by
          unfold Decimal.limit
          omega
        rw [sum_cons total digit weight rest above (by omega) (by rw [mantissa]; omega)]
        rcases Sum.add?_cases total digit weight held digitLow (by rw [mantissa]; exact small) with
          ⟨_, large⟩ | ⟨next, added, kept, _⟩
        · exfalso
          -- A digit here is worth less than a half, and a held sum is one or more below the limit.
          have bound := Sum.value_le total held.nonneg held.below
          have single := (digit_mul_bounds digit weight ⟨digitLow, digitHigh⟩).2
          have power : (10000 : ℚ) ^ (weight + 1) ≤ 10000 ^ (-1 : Int) :=
            zpow_le_zpow_right₀ (by norm_num) (by omega)
          norm_num at power
          linarith
        · rw [added]
          rcases ih next (weight - 1) others kept (by omega) (by omega) with
            ⟨t, done, tail, few⟩ | ⟨failed, many⟩
          · exact .inl ⟨t, done, tail, by omega⟩
          · exact .inr ⟨failed, by omega⟩
      · right
        refine ⟨?_, by omega⟩
        rw [sum, if_pos (by omega)]

/-- What a sum and further digits must satisfy to be held: no digit is of a weight below -7, and
together they stay below 2^96 less a half. -/
def Fits (total : Sum) (weight : Int) (digits : List Int) : Prop :=
  (digits.length : Int) ≤ weight + 8 ∧
    total.value + digitsValue weight digits < (Decimal.limit : ℚ) - 1 / 2

theorem part_small (digit weight : Int) (range : IsDigit digit) (most : weight ≤ 6) :
    (part digit weight).mantissa < Decimal.limit := by
  obtain ⟨low, high⟩ := range
  cases weight with
  | negSucc n =>
      show digit < _
      unfold Decimal.limit
      omega
  | ofNat n =>
      have power : (10000 : Int) ^ n ≤ 10000 ^ 6 :=
        pow_le_pow_right₀ (by norm_num) (by rw [Int.ofNat_eq_natCast] at most; omega)
      show digit * ((Nat.pow 10000 n : Nat) : Int) < _
      rw [Nat.pow_eq]
      push_cast
      calc
        digit * 10000 ^ n ≤ 9999 * 10000 ^ 6 :=
          mul_le_mul (by omega) power (by positivity) (by norm_num)
        _ < Decimal.limit := by norm_num [Decimal.limit]

/-- Nothing that is held before the point comes closer to 2^96 less a half than the last place of
the first digit behind it. -/
theorem apart_of_whole (total : Sum) (digit : Int) (held : total.Held (-1))
    (below : total.value + digit * 10000 ^ (-1 : Int) < (Decimal.limit : ℚ) - 1 / 2) :
    total.value + digit * 10000 ^ (-1 : Int) + 10000 ^ (-1 : Int) ≤
      (Decimal.limit : ℚ) - 1 / 2 := by
  have whole : total.scale = 0 := Nat.le_zero.mp held.places
  have value : total.value = total.mantissa := by rw [Sum.value, whole, pow_zero, div_one]
  have last : (10000 : ℚ) ^ (-1 : Int) = 1 / 10000 := by norm_num
  have half : (Decimal.limit : ℚ) - 1 / 2 =
      ((10000 * Decimal.limit - 5000 : Int) : ℚ) / 10000 := by
    push_cast
    ring
  have sum : total.value + digit * 10000 ^ (-1 : Int) =
      ((10000 * total.mantissa + digit : Int) : ℚ) / 10000 := by
    rw [value, last]
    push_cast
    ring
  rw [sum, half] at below ⊢
  have places : (10000 * total.mantissa + digit : Int) < 10000 * Decimal.limit - 5000 := by
    rw [div_lt_div_iff_of_pos_right (by norm_num)] at below
    exact_mod_cast below
  have step : ((10000 * total.mantissa + digit + 1 : Int) : ℚ) ≤
      (10000 * Decimal.limit - 5000 : Int) := by
    exact_mod_cast places
  rw [last]
  push_cast at step ⊢
  linarith

theorem sum_high (digits : List Int) (total : Sum) (weight : Int) (range : ∀ d ∈ digits, IsDigit d)
    (held : total.Held weight) (least : -1 ≤ weight) (most : weight ≤ 6) :
    (∃ t, sum total weight digits = .ok t ∧ t.Held (-8) ∧ Fits total weight digits) ∨
      sum total weight digits = Outcome.fail .numericTooWide ∧ ¬ Fits total weight digits := by
  induction digits generalizing total weight with
  | nil =>
      left
      have bound := Sum.value_le total held.nonneg held.below
      refine ⟨total, rfl, held.mono (by omega), by rw [List.length_nil]; omega, ?_⟩
      rw [digitsValue]
      linarith
  | cons digit rest ih =>
      have digitRange := range digit (List.mem_cons_self ..)
      have others : ∀ d ∈ rest, IsDigit d :=
        fun d member => range d (List.mem_cons_of_mem _ member)
      have small := part_small digit weight digitRange most
      have positive := Sum.part_nonneg digit weight digitRange.1
      obtain ⟨tailLow, tailHigh⟩ := digitsValue_bounds rest (weight - 1) others
      rw [sub_add_cancel] at tailHigh
      rw [Fits, digitsValue, ← add_assoc, List.length_cons, sum_cons total digit weight rest
        (by omega) (by omega) (by omega)]
      push_cast
      rcases Sum.add?_cases total digit weight held digitRange.1 small with
        ⟨missing, large⟩ | ⟨next, added, kept, below, exact⟩
      · rw [missing]
        right
        refine ⟨rfl, fun fits => ?_⟩
        linarith [fits.2]
      · rw [added]
        rcases Int.lt_or_eq_of_le least with above | last
        · have value := exact (by omega)
          rcases ih next (weight - 1) others kept (by omega) (by omega) with
            ⟨t, done, tail, few, inside⟩ | ⟨failed, outside⟩
          · rw [value] at inside
            exact .inl ⟨t, done, tail, by omega, inside⟩
          · refine .inr ⟨failed, fun fits => outside ⟨by omega, ?_⟩⟩
            rw [value]
            exact fits.2
        · subst last
          -- From here on no sum fails but for the number of the digits.
          have apart := apart_of_whole total digit held below
          rcases sum_low rest next (-1 - 1) others kept (by omega) (by omega) with
            ⟨t, done, tail, few⟩ | ⟨failed, many⟩
          · have inside := lt_of_lt_of_le (add_lt_add_right tailHigh _) apart
            exact .inl ⟨t, done, tail, by omega, inside⟩
          · exact .inr ⟨failed, fun fits => many (by omega)⟩

/-- Digits that a decimal takes in: none is of a weight above 7 or below -7, and together they stay
below 2^96 less a half. -/
def InRange (weight : Int) (digits : List Int) : Prop :=
  weight < 8 ∧ (digits.length : Int) ≤ weight + 8 ∧
    digitsValue weight digits < (Decimal.limit : ℚ) - 1 / 2

def TooLarge (weight : Int) (digits : List Int) : Prop :=
  weight = 7 ∧ ∃ first rest, digits = first :: rest ∧ 8 ≤ first

theorem zero_held (weight : Int) : (Sum.mk 0 0).Held weight :=
  ⟨le_refl _, by decide, Nat.zero_le _⟩

theorem zero_value : (Sum.mk 0 0).value = 0 := by rw [Sum.value, Int.cast_zero, zero_div]

theorem sum_seven (first : Int) (rest : List Int) (range : ∀ d ∈ first :: rest, IsDigit d) :
    (∃ t, sum ⟨0, 0⟩ 7 (first :: rest) = .ok t ∧ t.Held (-8) ∧ InRange 7 (first :: rest)) ∨
      (sum ⟨0, 0⟩ 7 (first :: rest) = Outcome.fail .numericTooWide ∧
        ¬ InRange 7 (first :: rest) ∧ first < 8) ∨
      sum ⟨0, 0⟩ 7 (first :: rest) = Outcome.crash ∧ ¬ InRange 7 (first :: rest) ∧ 8 ≤ first := by
  obtain ⟨low, high⟩ := range first (List.mem_cons_self ..)
  have others : ∀ d ∈ rest, IsDigit d := fun d member => range d (List.mem_cons_of_mem _ member)
  obtain ⟨tailLow, _⟩ := digitsValue_bounds rest 6 others
  have mantissa : (part first 7).mantissa = first * 10000 ^ 7 := by
    show first * ((Nat.pow 10000 7 : Nat) : Int) = _
    rw [Nat.pow_eq]
    push_cast
    rfl
  have power : (10000 : ℚ) ^ (7 : Int) = 10000 ^ 7 := by norm_num
  by_cases large : 8 ≤ first
  · refine .inr (.inr ⟨?_, ?_, large⟩)
    · have crashes : Decimal.limit ≤ (part first 7).mantissa.natAbs := by
        rw [mantissa]
        norm_num [Decimal.limit]
        omega
      rw [sum, if_neg (by omega), if_pos crashes]
    · rintro ⟨_, _, inside⟩
      have cast : (8 : ℚ) ≤ first := by exact_mod_cast large
      rw [digitsValue, power] at inside
      norm_num [Decimal.limit] at inside
      linarith
  · have small : (part first 7).mantissa < Decimal.limit := by
      rw [mantissa]
      norm_num [Decimal.limit]
      omega
    have positive := Sum.part_nonneg first 7 low
    rw [sum_cons ⟨0, 0⟩ first 7 rest (by omega) (by omega) (by omega)]
    rcases Sum.add?_cases ⟨0, 0⟩ first 7 (zero_held 7) low small with
      ⟨_, reached⟩ | ⟨next, added, kept, _, exact⟩
    · exfalso
      have cast : (first : ℚ) ≤ 7 := by exact_mod_cast Int.lt_add_one_iff.mp (not_le.mp large)
      rw [zero_value, power] at reached
      norm_num [Decimal.limit] at reached
      linarith
    · have value := exact (by omega)
      rw [zero_value, zero_add] at value
      rw [added, InRange, digitsValue, List.length_cons]
      push_cast
      rcases sum_high rest next (7 - 1) others kept (by omega) (by omega) with
        ⟨t, done, tail, few, inside⟩ | ⟨failed, outside⟩
      · rw [value] at inside
        exact .inl ⟨t, done, tail, by decide, by omega, inside⟩
      · refine .inr (.inl ⟨failed, fun fits => outside ⟨by omega, ?_⟩, by omega⟩)
        rw [value]
        exact fits.2.2

/-- Adding up digits succeeds exactly in range, and crashes exactly on a first digit too large. -/
theorem sum_cases (digits : List Int) (weight : Int) (range : ∀ d ∈ digits, IsDigit d)
    (present : digits ≠ []) :
    (∃ t, sum ⟨0, 0⟩ weight digits = .ok t ∧ t.Held (-8) ∧ InRange weight digits) ∨
      (sum ⟨0, 0⟩ weight digits = Outcome.fail .numericTooWide ∧ ¬ InRange weight digits ∧
        ¬ TooLarge weight digits) ∨
      sum ⟨0, 0⟩ weight digits = Outcome.crash ∧ ¬ InRange weight digits ∧
        TooLarge weight digits := by
  obtain ⟨first, rest, rfl⟩ := List.exists_cons_of_ne_nil present
  have other : weight ≠ 7 → ¬ TooLarge weight (first :: rest) := fun apart large => apart large.1
  by_cases beyond : 8 ≤ weight ∨ weight ≤ -8
  · refine .inr (.inl ⟨by rw [sum, if_pos beyond], ?_, other (by omega)⟩)
    rintro ⟨high, few, _⟩
    rw [List.length_cons] at few
    push_cast at few
    omega
  -- Behind the point alone all stays small; before it only a first digit of weight 7 can crash.
  by_cases low : weight ≤ -2
  · have below : digitsValue weight (first :: rest) < (Decimal.limit : ℚ) - 1 / 2 := by
      have bound := (digitsValue_bounds _ weight range).2
      have power : (10000 : ℚ) ^ (weight + 1) ≤ 10000 ^ (-1 : Int) :=
        zpow_le_zpow_right₀ (by norm_num) (by omega)
      norm_num at power
      norm_num [Decimal.limit]
      linarith
    rcases sum_low _ ⟨0, 0⟩ weight range (zero_held weight) (by omega) low with
      ⟨t, done, tail, few⟩ | ⟨failed, many⟩
    · exact .inl ⟨t, done, tail, by omega, few, below⟩
    · exact .inr (.inl ⟨failed, fun fits => many fits.2.1, other (by omega)⟩)
  by_cases top : weight = 7
  · subst top
    rcases sum_seven first rest range with
      held | ⟨failed, outside, small⟩ | ⟨crashed, outside, large⟩
    · exact .inl held
    · refine .inr (.inl ⟨failed, outside, ?_⟩)
      rintro ⟨_, other, _, same, reached⟩
      cases same
      omega
    · exact .inr (.inr ⟨crashed, outside, rfl, first, rest, rfl, large⟩)
  · rcases sum_high _ ⟨0, 0⟩ weight range (zero_held weight) (by omega) (by omega) with
      ⟨t, done, tail, few, inside⟩ | ⟨failed, outside⟩
    · rw [zero_value, zero_add] at inside
      exact .inl ⟨t, done, tail, by omega, few, inside⟩
    · refine .inr (.inl ⟨failed, fun fits => outside ⟨fits.2.1, ?_⟩, other top⟩)
      rw [zero_value, zero_add]
      exact fits.2.2

end Numeric
end PgJson
