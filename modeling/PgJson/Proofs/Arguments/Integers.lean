import PgJson.Proofs.Arguments.Numerals
import PgJson.Proofs.Arguments.Parameter
import PgJson.Proofs.Json.Threshold
import PgJson.Proofs.Parameter.RoundTrip

/-!
Integers among the arguments, as they are sent: in eight bytes with a sign if these hold them, else
as a double near them, and as their own text where that would be an infinity. That is the case from
the threshold of the literals on, a little below the numbers whose nearest double is infinite.
-/

namespace PgJson

namespace Json.Numeral

open Text

def integer (n : Numeral) : Int := n.literal.integer

structure Whole (n : Numeral) : Prop where
  places : n.places = none
  exponent : n.exponent = none
  signed : ¬(n.negative = true ∧ n.integer = 0)

theorem natAbs_integer (n : Numeral) :
    n.integer.natAbs = Literal.digits n.literal.whole := by
  unfold integer Literal.integer
  split
  · rw [Int.natAbs_neg, Int.natAbs_natCast]
  · exact Int.natAbs_natCast _

theorem integer_ofNat (negative : Bool) (k : Nat) :
    (ofNat negative k).integer = if negative then -(k : Int) else k := by
  have digits : Literal.digits (ofNat negative k).literal.whole = k := by
    show Literal.digits ((decimal k).map fun c => c.toNat - 48) = k
    rw [Reader.digits_map, digitsNumber_decimal]
  unfold integer Literal.integer
  rw [digits]
  rfl

theorem whole_ofNat (negative : Bool) (k : Nat) (signed : negative = true → k ≠ 0) :
    (ofNat negative k).Whole := by
  refine ⟨rfl, rfl, ?_⟩
  rintro ⟨minus, zero⟩
  have minus : negative = true := minus
  rw [integer_ofNat, if_pos minus] at zero
  exact signed minus (by omega)

theorem negative_iff (n : Numeral) (whole : n.Whole) : n.negative = true ↔ n.integer < 0 := by
  have signed := whole.signed
  have size : n.integer = if n.negative then -(Literal.digits n.literal.whole : Int)
    else Literal.digits n.literal.whole := rfl
  cases sign : n.negative with
  | false =>
      rw [sign, if_neg Bool.false_ne_true] at size
      simp only [Bool.false_eq_true, false_iff]
      omega
  | true =>
      rw [sign, if_pos rfl] at size
      have nonzero : n.integer ≠ 0 := fun zero => signed ⟨sign, zero⟩
      simp only [true_iff]
      omega

theorem value?_whole (n : Numeral) (whole : n.Whole)
    (range : -0x8000000000000000 ≤ n.integer ∧ n.integer < 0x10000000000000000) :
    n.value? = some (.integer n.integer range) := by
  have fraction : n.literal.fraction = none := congrArg (Option.map _) whole.places
  have exponent : n.literal.exponent = none := congrArg (Option.map _) whole.exponent
  exact Literal.value?_small n.literal ⟨⟨fraction, exponent⟩, range, whole.signed⟩

theorem value?_beyond (n : Numeral)
    (outside : n.integer < -0x8000000000000000 ∨ 0x10000000000000000 ≤ n.integer) :
    n.value? = n.literal.float? := by
  apply Literal.value?_other
  rintro ⟨_, range, _⟩
  have low : -0x8000000000000000 ≤ n.integer := range.1
  have high : n.integer < 0x10000000000000000 := range.2
  omega

theorem float?_isSome_iff (n : Numeral) (whole : n.Whole) :
    n.literal.float?.isSome ↔ n.integer.natAbs < Literal.threshold := by
  have fraction : n.literal.fraction = none := congrArg (Option.map _) whole.places
  have exponent : n.literal.exponent = none := congrArg (Option.map _) whole.exponent
  rw [natAbs_integer]
  exact Literal.float?_isSome_iff n.literal fraction exponent (decimal_values n.whole)

end Json.Numeral

namespace Arguments

open Json

def Signed64 (i : Int) : Prop := -0x8000000000000000 ≤ i ∧ i < 0x8000000000000000

instance (i : Int) : Decidable (Signed64 i) := inferInstanceAs (Decidable (_ ∧ _))

/-- How the integer of a literal is sent: in eight bytes if these hold it, and else as a double of
its sign near it, below the threshold, or as its text; as its text at any rate if its nearest double
is infinite. -/
structure SentAs (n : Numeral) (p : Parameter) : Prop where
  int8 : Signed64 n.integer → p.typeName = "INT8" ∧
    ∃ bytes, p.bytes? = some bytes ∧ bytes.length = 8 ∧ Wire.signed bytes = n.integer
  float8 : ¬Signed64 n.integer → n.integer.natAbs < Literal.threshold → p.typeName = "FLOAT8" ∧
    ∃ x : Binary64, p.bytes? = some (Wire.ofNat x.bits 8) ∧ x.IsFinite ∧
      (x.negative = true ↔ n.integer < 0) ∧ |x.value - n.integer| ≤ |(n.integer : ℚ)| / 2 ^ 49
  text : Literal.threshold ≤ n.integer.natAbs →
    p.typeName = "TEXT" ∧ p.bytes? = some (Utf8.encode n.text)
  infinite : ¬(Binary64.ofInt n.integer).IsFinite → p.typeName = "TEXT"

theorem int8_of_signed (n : Numeral) (whole : n.Whole) (range : Signed64 n.integer) :
    Parameter.ofJson (parameter n.argument) = .int8 n.integer := by
  obtain ⟨low, high⟩ := range
  have value := n.value?_whole whole ⟨low, by omega⟩
  rw [parameter_numeral n _ value, Parameter.ofJson, if_pos high]

theorem float_unsigned (n : Numeral) (whole : n.Whole)
    (range : 0x8000000000000000 ≤ n.integer ∧ n.integer < 0x10000000000000000) :
    ∃ x : Binary64, Parameter.ofJson (parameter n.argument) = .float8 x ∧ x.IsFinite ∧
      (x.negative = true ↔ n.integer < 0) ∧ |x.value - n.integer| ≤ |(n.integer : ℚ)| / 2 ^ 49 := by
  have value := n.value?_whole whole ⟨by omega, range.2⟩
  have sent : Parameter.ofJson (parameter n.argument) = .float8 (.ofInt n.integer) := by
    rw [parameter_numeral n _ value, Parameter.ofJson, if_neg (by omega)]
  have finite := Parameter.finite_of_float8 _ _ sent
  refine ⟨_, sent, finite, ?_⟩
  obtain ⟨k, same⟩ : ∃ k : Nat, n.integer = k := ⟨n.integer.toNat, by omega⟩
  rw [same] at finite ⊢
  have near := Binary64.ofNat_within k finite
  have positive : (0 : ℚ) ≤ k := Nat.cast_nonneg k
  have unsigned : (Binary64.ofInt k).value = (Binary64.ofNat k).size := rfl
  constructor
  · constructor
    · intro negative
      cases negative
    · intro negative
      omega
  · unfold Within Binary64.roundoff at near
    rw [unsigned, Int.cast_natCast, abs_of_nonneg positive]
    norm_num at near ⊢
    linarith

theorem float_beyond (n : Numeral) (whole : n.Whole)
    (outside : n.integer < -0x8000000000000000 ∨ 0x10000000000000000 ≤ n.integer)
    (below : n.integer.natAbs < Literal.threshold) :
    ∃ x : Binary64, Parameter.ofJson (parameter n.argument) = .float8 x ∧ x.IsFinite ∧
      (x.negative = true ↔ n.integer < 0) ∧ |x.value - n.integer| ≤ |(n.integer : ℚ)| / 2 ^ 49 := by
  obtain ⟨v, value⟩ := Option.isSome_iff_exists.mp ((n.float?_isSome_iff whole).mpr below)
  rw [← n.value?_beyond outside] at value
  have near := n.value?_near
  rw [value] at near
  have written : n.rational = n.integer := n.rational_of_digits whole.places whole.exponent
  cases v with
  | integer i range =>
      obtain ⟨⟨_, _, low, high, _⟩, _⟩ := near
      rw [written] at low high
      have low : -0x8000000000000000 ≤ n.integer := by exact_mod_cast low
      have high : n.integer < 0x10000000000000000 := by exact_mod_cast high
      omega
  | float x finite =>
      obtain ⟨_, sign, distance⟩ := near
      refine ⟨x, by rw [parameter_numeral n _ value]; rfl, finite, ?_, ?_⟩
      · rw [sign]
        exact n.negative_iff whole
      · rw [written] at distance
        have large : (1 : ℚ) ≤ |(n.integer : ℚ)| / 2 ^ 50 := by
          have large : (0x8000000000000000 : ℚ) ≤ |(n.integer : ℚ)| := by
            have size : 0x8000000000000000 ≤ n.integer.natAbs := by omega
            rw [← Int.cast_abs, Int.abs_eq_natAbs, Int.cast_natCast]
            exact_mod_cast size
          rw [one_le_div₀ (by positivity)]
          norm_num
          linarith
        have least := Binary64.leastSize_le_one
        rw [← Binary64.leastSize_eq] at distance
        have halves : |(n.integer : ℚ)| / 2 ^ 49 = |(n.integer : ℚ)| / 2 ^ 50 * 2 := by ring
        linarith

/-- From the threshold on a literal is its own text. -/
theorem text_beyond (n : Numeral) (whole : n.Whole)
    (above : Literal.threshold ≤ n.integer.natAbs) :
    Parameter.ofJson (parameter n.argument) = .text n.argument := by
  have high : 0x10000000000000000 ≤ Literal.threshold := by decide +kernel
  have none : n.value? = none := by
    rw [n.value?_beyond (by omega), ← Option.not_isSome_iff_eq_none, n.float?_isSome_iff whole]
    exact Nat.not_lt.mpr above
  obtain ⟨e, refused⟩ := parse_refused n none
  rw [parameter_of_refused n.argument e (by rwa [Numeral.argument, String.toList_ofList])]
  rfl

theorem ofInt_finite (i : Int) (below : i.natAbs < Literal.threshold) :
    (Binary64.ofInt i).IsFinite := by
  have last : (Binary64.ofNat (Literal.threshold - 1)).IsFinite := by decide +kernel
  have finite : (Binary64.ofNat i.natAbs).IsFinite := by
    have top : i.natAbs ≤ Literal.threshold - 1 := Nat.le_pred_of_lt below
    exact Nat.lt_of_le_of_lt
      (Magnitude.nearest_mono _ _ 1 Nat.one_pos (Nat.mul_le_mul_right _ top)) last
  cases i with
  | ofNat k => exact finite
  | negSucc k => exact finite

theorem integer_sent (n : Numeral) (whole : n.Whole) :
    SentAs n (.ofJson (parameter n.argument)) where
  int8 range := by
    obtain ⟨low, high⟩ := range
    rw [int8_of_signed n whole ⟨low, high⟩]
    exact ⟨rfl, _, rfl, Wire.length_ofNat _ _,
      Wire.signed_ofInt n.integer 8 (by norm_num; omega) (by norm_num; omega)⟩
  float8 outside below := by
    unfold Signed64 at outside
    have double : ∃ x : Binary64, Parameter.ofJson (parameter n.argument) = .float8 x ∧
        x.IsFinite ∧ (x.negative = true ↔ n.integer < 0) ∧
        |x.value - n.integer| ≤ |(n.integer : ℚ)| / 2 ^ 49 := by
      by_cases unsigned : 0x8000000000000000 ≤ n.integer ∧ n.integer < 0x10000000000000000
      · exact float_unsigned n whole unsigned
      · exact float_beyond n whole (by omega) below
    obtain ⟨x, sent, rest⟩ := double
    rw [sent]
    exact ⟨rfl, x, rfl, rest⟩
  text above := by
    rw [text_beyond n whole above]
    refine ⟨rfl, ?_⟩
    rw [Parameter.bytes?, Utf8.encodeString, Numeral.argument, String.toList_ofList]
  infinite infinite := by
    rw [text_beyond n whole (Nat.le_of_not_lt fun below => infinite (ofInt_finite _ below))]
    rfl

theorem integer_sent_limits :
    let greatest : Nat := (2 ^ 53 - 1) * 2 ^ 971
    (Parameter.ofJson (parameter "-9223372036854775808")).typeName = "INT8" ∧
      (Parameter.ofJson (parameter "9223372036854775808")).typeName = "FLOAT8" ∧
      (Binary64.ofNat greatest).IsFinite ∧
      (Parameter.ofJson (parameter (Numeral.ofNat false greatest).argument)).typeName = "TEXT" := by
  have least := (integer_sent _ (Numeral.whole_ofNat true 0x8000000000000000 (by decide))).int8
  have unsigned (k : Nat) := integer_sent _ (Numeral.whole_ofNat false k fun sign => nomatch sign)
  have integer (k : Nat) : (Numeral.ofNat false k).integer = k := Numeral.integer_ofNat false k
  have small : 0x8000000000000000 < Literal.threshold := by decide +kernel
  have beyond : Literal.threshold ≤ (2 ^ 53 - 1) * 2 ^ 971 := by decide +kernel
  have minus : (Numeral.ofNat true 0x8000000000000000).argument = "-9223372036854775808" := by
    decide +kernel
  have plus : (Numeral.ofNat false 0x8000000000000000).argument = "9223372036854775808" := by
    decide +kernel
  rw [Numeral.integer_ofNat, minus] at least
  refine ⟨(least (by decide)).1, ?_, by decide +kernel, ?_⟩
  · have first := (unsigned 0x8000000000000000).float8
    rw [integer, plus] at first
    exact (first (by decide) small).1
  · have last := (unsigned ((2 ^ 53 - 1) * 2 ^ 971)).text
    rw [integer] at last
    exact (last beyond).1

end Arguments
end PgJson
