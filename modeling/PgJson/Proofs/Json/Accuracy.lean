import PgJson.Proofs.Json.Scale

namespace PgJson.Json

open Text

namespace Literal

def integer (l : Literal) : Int := if l.negative then -digits l.whole else digits l.whole

def Small (l : Literal) : Prop :=
  (l.fraction = none ∧ l.exponent = none) ∧
    (-0x8000000000000000 ≤ l.integer ∧ l.integer < 0x10000000000000000) ∧
    ¬(l.negative = true ∧ l.integer = 0)

theorem value?_small (l : Literal) (small : l.Small) :
    l.value? = some (.integer l.integer small.2.1) := by
  obtain ⟨digits, range, signed⟩ := small
  unfold value?
  rw [if_pos ⟨Option.isNone_iff_eq_none.mpr digits.1, Option.isNone_iff_eq_none.mpr digits.2⟩]
  exact dif_pos ⟨range, signed⟩

theorem value?_other (l : Literal) (other : ¬l.Small) : l.value? = l.float? := by
  unfold value?
  split
  · next digits =>
    apply dif_neg
    rintro ⟨range, signed⟩
    exact other ⟨⟨Option.isNone_iff_eq_none.mp digits.1, Option.isNone_iff_eq_none.mp digits.2⟩,
      range, signed⟩
  · rfl

end Literal

namespace Numeral

def rational (n : Numeral) : ℚ := if n.negative then -n.literal.size else n.literal.size

def IsInteger (n : Numeral) : Prop :=
  n.places = none ∧ n.exponent = none ∧ -0x8000000000000000 ≤ n.rational ∧
    n.rational < 0x10000000000000000 ∧ ¬(n.negative = true ∧ n.rational = 0)

/-- What a literal is read as: its integer, else a double of its sign near the number written, and
nothing only near the infinities. -/
def Near (n : Numeral) : Option Number → Prop
  | some (.integer i _) => n.IsInteger ∧ i = n.rational
  | some (.float x _) => ¬n.IsInteger ∧ x.negative = n.negative ∧
      |x.value - n.rational| ≤ |n.rational| / 2 ^ 50 + 1 / 2 ^ 1074
  | none => ¬n.IsInteger ∧ 2 ^ 1024 * (1 - 1 / 2 ^ 50) ≤ |n.rational|

theorem size_nonneg (n : Numeral) : 0 ≤ n.literal.size :=
  mul_nonneg (Nat.cast_nonneg _) (zpow_nonneg (by norm_num) _)

theorem abs_rational (n : Numeral) : |n.rational| = n.literal.size := by
  have positive := n.size_nonneg
  unfold rational
  split
  · rw [abs_neg, abs_of_nonneg positive]
  · exact abs_of_nonneg positive

theorem decimal_values (d : Digits) : ∀ v ∈ d.values, v < 10 := by
  intro v member
  obtain ⟨c, inside, rfl⟩ := List.mem_map.mp member
  have bounds := isDigit_bounds c (d.digits c inside)
  omega

theorem decimal_literal (n : Numeral) :
    ∀ d ∈ n.literal.whole ++ n.literal.places, d < 10 := by
  intro d member
  rcases List.mem_append.mp member with whole | places
  · exact decimal_values n.whole d whole
  · unfold Literal.places Numeral.literal at places
    cases written : n.places with
    | none =>
        rw [written] at places
        cases places
    | some digits =>
        rw [written] at places
        exact decimal_values digits d places

theorem rational_of_digits (n : Numeral) (places : n.places = none) (exponent : n.exponent = none) :
    n.rational = n.literal.integer := by
  have size : n.literal.size = Literal.digits n.literal.whole := by
    unfold Literal.size Literal.places Literal.shift literal
    rw [places, exponent]
    simp
  unfold rational Literal.integer
  rw [size]
  show (if n.negative then _ else _) = ((if n.negative then _ else _ : Int) : ℚ)
  split
  · rw [Int.cast_neg, Int.cast_natCast]
  · exact (Int.cast_natCast _).symm

theorem isInteger_iff (n : Numeral) : n.IsInteger ↔ n.literal.Small := by
  have parts : n.literal.fraction = none ∧ n.literal.exponent = none ↔
      n.places = none ∧ n.exponent = none := by
    unfold literal
    rw [Option.map_eq_none_iff, Option.map_eq_none_iff]
  unfold IsInteger Literal.Small
  rw [parts, and_assoc]
  refine and_congr_right fun places => and_congr_right fun exponent => ?_
  rw [rational_of_digits n places exponent, and_assoc]
  show _ ↔ _ ∧ _ ∧ ¬(n.negative = true ∧ _)
  exact_mod_cast Iff.rfl

theorem large_of_within (size q : ℚ)
    (near : Within (1 / 0x4000000000000) Binary64.leastSize size q)
    (large : Binary64.limit ≤ size) : 2 ^ 1024 * (1 - 1 / 2 ^ 50) ≤ q := by
  have bound := (abs_le.mp near).2
  have one := Binary64.leastSize_le_one
  have room := Binary64.pow_le_limit 101 (by decide)
  rw [← Binary64.limit_eq]
  generalize Binary64.limit = limit at *
  norm_num at bound room ⊢
  linarith

theorem abs_value_sub_rational (n : Numeral) (x : Binary64) (sign : x.negative = n.negative) :
    |x.value - n.rational| = |x.size - n.literal.size| := by
  unfold Binary64.value rational
  rw [sign]
  split
  · rw [neg_sub_neg, abs_sub_comm]
  · rfl

theorem near_float? (n : Numeral) (other : ¬n.IsInteger) : n.Near n.literal.float? := by
  obtain ⟨size, near, read⟩ := n.literal.float?_near n.decimal_literal
  cases done : n.literal.float? with
  | none =>
      rw [done] at read
      refine ⟨other, ?_⟩
      rw [abs_rational]
      exact large_of_within size _ near read
  | some v =>
      rw [done] at read
      cases v with
      | integer i range => exact read.elim
      | float x finite =>
          refine ⟨other, read.1, ?_⟩
          rw [abs_value_sub_rational n x read.1, abs_rational, read.2, ← Binary64.leastSize_eq]
          unfold Within at near
          norm_num at near ⊢
          linarith

/-- A literal is read as what it writes, or as near to that as the roundings of its significand, of
a power of ten and of their product leave it. -/
theorem value?_near (n : Numeral) : n.Near n.value? := by
  unfold value?
  by_cases small : n.literal.Small
  · rw [Literal.value?_small _ small]
    have integer := n.isInteger_iff.mpr small
    exact ⟨integer, (n.rational_of_digits integer.1 integer.2.1).symm⟩
  · rw [Literal.value?_other _ small]
    exact n.near_float? fun integer => small (n.isInteger_iff.mp integer)

end Numeral

end PgJson.Json
