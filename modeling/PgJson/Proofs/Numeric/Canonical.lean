import PgJson.Proofs.Numeric.Decimal
import PgJson.Proofs.Number.Nearest
import PgJson.Proofs.Text.Plain

/-! The JSON form of a decimal is a function of its number alone, and no two numbers share one. -/

namespace PgJson

def Integral64 (q : ℚ) : Prop :=
  ∃ n : Int, -0x8000000000000000 ≤ n ∧ n < 0x8000000000000000 ∧ (n : ℚ) = q

/-- The JSON form of a number: an integer if 64 bits hold it, else the double read from its plain
text if that prints as the same text, else the text. -/
inductive Json.Canonical (q : ℚ) : Json → Prop where
  | integer (n : Int) (bounds : -0x8000000000000000 ≤ n ∧ n < 0x10000000000000000)
      (small : n < 0x8000000000000000) (value : (n : ℚ) = q) :
      Canonical q (.number (.integer n bounds))
  | float (x : Binary64) (finite : x.IsFinite) (other : ¬ Integral64 q) (read : x.Nearest q)
      (prints : Text.IsPlain q x.plainText) : Canonical q (.number (.float x finite))
  | text (s : String) (other : ¬ Integral64 q) (plain : Text.IsPlain q s.toList)
      (differs : ∀ x : Binary64, x.Nearest q → x.plainText ≠ s.toList) : Canonical q (.string s)

theorem Json.canonical_unique (q : ℚ) (v w : Json) (first : Canonical q v)
    (second : Canonical q w) : v = w := by
  cases first with
  | integer n bounds small value =>
      have whole : Integral64 q := ⟨n, bounds.1, small, value⟩
      cases second with
      | integer m bounds' _ value' =>
          have same : n = m := by exact_mod_cast value.trans value'.symm
          subst same
          rfl
      | float _ _ other _ _ => exact absurd whole other
      | text _ other _ _ => exact absurd whole other
  | float x finite other read prints =>
      cases second with
      | integer m bounds small value => exact absurd ⟨m, bounds.1, small, value⟩ other
      | float y _ _ read' _ =>
          have same := Binary64.nearest_unique x y q read read'
          subst same
          rfl
      | text s _ plain differs =>
          exact absurd (Text.isPlain_unique q _ _ prints plain) (differs x read)
  | text s other plain differs =>
      cases second with
      | integer m bounds small value => exact absurd ⟨m, bounds.1, small, value⟩ other
      | float x _ _ read prints =>
          exact absurd (Text.isPlain_unique q _ _ prints plain) (differs x read)
      | text t _ plain' _ =>
          rw [String.toList_injective (Text.isPlain_unique q _ _ plain plain')]

namespace Decimal

theorem reduce_reduced (coefficient scale : Nat) :
    (reduce coefficient scale).2 = 0 ∨ (reduce coefficient scale).1 % 10 ≠ 0 := by
  induction scale generalizing coefficient with
  | zero => exact .inl rfl
  | succ scale ih =>
      rw [reduce]
      split
      · exact ih (coefficient / 10)
      · next odd => exact .inr odd

theorem normalize_reduced (d : Decimal) :
    d.normalize.scale = 0 ∨ d.normalize.coefficient % 10 ≠ 0 :=
  reduce_reduced d.coefficient d.scale

theorem normalize_coefficient_pos (d : Decimal) (negative : d.normalize.negative = true) :
    0 < d.normalize.coefficient := by
  have present : d.coefficient ≠ 0 := by
    intro zero
    simp [normalize, zero] at negative
  apply Nat.pos_of_ne_zero
  intro zero
  have same := reduce_value d.coefficient d.scale
  have gone : (reduce d.coefficient d.scale).1 = 0 := zero
  rw [gone, Nat.cast_zero, zero_div, eq_comm, div_eq_zero_iff] at same
  rcases same with none | power
  · exact present (by exact_mod_cast none)
  · exact absurd power (by positivity)

theorem normalize_negative (d : Decimal) : d.normalize.negative = true ↔ d.value < 0 := by
  rw [← normalize_value]
  cases sign : d.normalize.negative with
  | false =>
      refine iff_of_false Bool.false_ne_true (not_lt.mpr ?_)
      rw [value, sign, if_neg Bool.false_ne_true, one_mul]
      positivity
  | true =>
      refine iff_of_true rfl ?_
      have pos : (0 : ℚ) < d.normalize.coefficient := by
        exact_mod_cast d.normalize_coefficient_pos sign
      rw [value, sign, if_pos rfl, neg_one_mul]
      exact neg_lt_zero.mpr (by positivity)

theorem isPlain_text (d : Decimal) : Text.IsPlain d.value d.normalize.text :=
  Scientific.isPlain_plain d.normalize.negative d.normalize.coefficient d.normalize.scale d.value
    d.normalize_value d.normalize_negative d.normalize_reduced

theorem nearest_toDouble (d : Decimal) : d.normalize.toDouble.Nearest d.value := by
  have power : 0 < 10 ^ d.normalize.scale := Nat.pow_pos (by decide)
  have finite : d.normalize.toDouble.IsFinite := by
    apply Binary64.isFinite_ofRatio _ _ _ 96 _ (by decide)
    have below : d.normalize.coefficient < 2 ^ 96 := d.normalize.coefficient_lt
    exact lt_of_lt_of_le below (Nat.le_mul_of_pos_right _ power)
  have nearest := Binary64.nearest_ofRatio d.normalize.negative d.normalize.coefficient
    (10 ^ d.normalize.scale) power d.normalize_coefficient_pos finite
  rw [← normalize_value, value]
  push_cast at nearest
  exact nearest

theorem normalize_scale_of_integer (d : Decimal) (n : Int) (same : (n : ℚ) = d.value) :
    d.normalize.scale = 0 := by
  have size : (d.normalize.coefficient : ℚ) / 10 ^ d.normalize.scale = n.natAbs := by
    rw [← abs_of_nonneg (a := (d.normalize.coefficient : ℚ) / _) (by positivity),
      Nat.cast_natAbs, Int.cast_abs, same, ← normalize_value, value, abs_mul]
    split <;> simp
  rw [div_eq_iff (by positivity)] at size
  have product : d.normalize.coefficient = n.natAbs * 10 ^ d.normalize.scale := by
    exact_mod_cast size
  rcases d.normalize_reduced with none | odd
  · exact none
  · cases places : d.normalize.scale with
    | zero => rfl
    | succ k =>
        rw [product, places, pow_succ, ← Nat.mul_assoc] at odd
        exact absurd (Nat.mul_mod_left _ _) odd

theorem toInt?_normalize (d : Decimal) (n : Int) :
    d.normalize.toInt? = some n ↔ (n : ℚ) = d.value := by
  constructor
  · intro whole
    rw [toInt?_value d.normalize n whole, normalize_value]
  · intro same
    obtain ⟨m, whole⟩ : ∃ m, d.normalize.toInt? = some m :=
      ⟨_, if_pos (d.normalize_scale_of_integer n same)⟩
    have value := toInt?_value d.normalize m whole
    rw [normalize_value, ← same] at value
    rw [whole, show m = n by exact_mod_cast value]

/-- Every decimal has the form of its number. -/
theorem toJson_canonical (d : Decimal) : Json.Canonical d.value d.toJson := by
  have asText (other : ¬ Integral64 d.value) : Json.Canonical d.value
      (if d.normalize.toDouble.IsFinite ∧ d.normalize.toDouble.plainText = d.normalize.text then
        Json.ofDouble d.normalize.toDouble else .string (.ofList d.normalize.text)) := by
    have plain := d.isPlain_text
    have read := d.nearest_toDouble
    split
    · next form =>
      rw [Json.ofDouble, dif_pos form.1]
      exact .float _ _ other read (form.2 ▸ plain)
    · next form =>
      refine .text _ other (by rwa [String.toList_ofList]) ?_
      intro x nearest same
      rw [Binary64.nearest_unique x _ _ nearest read, String.toList_ofList] at same
      exact form ⟨read.finite, same⟩
  unfold toJson
  simp only
  split
  · next n whole =>
    have value := (d.toInt?_normalize n).mp whole
    split
    · next range =>
      rw [Json.ofInt, dif_pos ⟨range.1, by omega⟩]
      exact .integer n _ range.2 value
    · next outside =>
      apply asText
      rintro ⟨m, low, high, same⟩
      have equal : m = n := by exact_mod_cast same.trans value.symm
      exact outside (equal ▸ ⟨low, high⟩)
  · next none =>
    apply asText
    rintro ⟨m, _, _, same⟩
    rw [(d.toInt?_normalize m).mpr same] at none
    cases none

/-- The JSON form of a decimal is the one form of its number, so two decimals have one form exactly
if they are one number. -/
theorem toJson_lossless :
    (∀ (d : Decimal) (v : Json), d.toJson = v ↔ Json.Canonical d.value v) ∧
      ∀ d e : Decimal, d.toJson = e.toJson ↔ d.value = e.value := by
  constructor
  · intro d v
    constructor
    · rintro rfl
      exact d.toJson_canonical
    · exact Json.canonical_unique d.value _ v d.toJson_canonical
  · intro d e
    constructor
    · intro same
      have denoted := (toJson_denotes e e.value).mpr rfl
      rw [← same] at denoted
      exact (toJson_denotes d e.value).mp denoted
    · intro same
      exact Json.canonical_unique e.value _ _ (same ▸ d.toJson_canonical) e.toJson_canonical

end Decimal
end PgJson
