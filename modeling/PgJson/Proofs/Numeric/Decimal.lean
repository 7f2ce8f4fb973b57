import PgJson.Numeric.Decimal
import PgJson.Proofs.Text.Decimal

namespace PgJson

/-- The number that a JSON value denotes: an integer itself, a double what its shortest decimal text
denotes, and a string what it denotes as a decimal text. -/
def Json.Denotes (q : ℚ) : Json → Prop
  | .number (.integer n _) => (n : ℚ) = q
  | .number (.float x _) => Text.decimalValue? x.plainText = some q
  | .string s => Text.decimalValue? s.toList = some q
  | _ => False

namespace Decimal

def value (d : Decimal) : ℚ := (if d.negative then -1 else 1) * (d.coefficient / 10 ^ d.scale : ℚ)

theorem reduce_value (coefficient scale : Nat) :
    ((reduce coefficient scale).1 : ℚ) / 10 ^ (reduce coefficient scale).2 =
      coefficient / 10 ^ scale := by
  induction scale generalizing coefficient with
  | zero => rfl
  | succ scale ih =>
      rw [reduce]
      split
      · next zero =>
        have tens : coefficient = coefficient / 10 * 10 := by omega
        have cast : (coefficient : ℚ) = (coefficient / 10 : Nat) * 10 := by exact_mod_cast tens
        rw [ih, cast, pow_succ]
        field_simp
      · rfl

theorem normalize_value (d : Decimal) : d.normalize.value = d.value := by
  have magnitude := reduce_value d.coefficient d.scale
  show (if (d.negative && d.coefficient != 0) = true then -1 else 1) *
    ((reduce d.coefficient d.scale).1 / 10 ^ (reduce d.coefficient d.scale).2 : ℚ) = _
  rw [magnitude, value]
  by_cases zero : d.coefficient = 0
  · rw [zero]
    simp
  · simp [zero]

theorem text_value (d : Decimal) : Text.decimalValue? d.text = some d.value :=
  Scientific.decimalValue?_plain d.negative d.coefficient d.scale

theorem toInt?_value (d : Decimal) (n : Int) (whole : d.toInt? = some n) : (n : ℚ) = d.value := by
  unfold toInt? at whole
  split at whole
  · next scale =>
    cases whole
    rw [value, scale, pow_zero, div_one]
    cases d.negative with
    | false => simp
    | true => simp
  · cases whole

theorem toJson_denotes (d : Decimal) (q : ℚ) : d.toJson.Denotes q ↔ d.value = q := by
  rw [← normalize_value d]
  generalize normal : d.normalize = e
  have asText : (if e.toDouble.IsFinite ∧ e.toDouble.plainText = e.text then
      Json.ofDouble e.toDouble else .string (.ofList e.text)).Denotes q ↔ e.value = q := by
    split
    · next form =>
      rw [Json.ofDouble, dif_pos form.1]
      show Text.decimalValue? e.toDouble.plainText = some q ↔ _
      rw [form.2, text_value, Option.some.injEq]
    · show Text.decimalValue? (String.ofList e.text).toList = some q ↔ _
      rw [String.toList_ofList, text_value, Option.some.injEq]
  unfold toJson
  simp only [normal]
  cases whole : e.toInt? with
  | none => exact asText
  | some n =>
      show (if _ then Json.ofInt n else _).Denotes q ↔ _
      split
      · next range =>
        rw [Json.ofInt, dif_pos ⟨range.1, by omega⟩, ← toInt?_value e n whole]
        rfl
      · exact asText

end Decimal
end PgJson
