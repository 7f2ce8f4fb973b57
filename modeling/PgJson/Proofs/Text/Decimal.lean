import PgJson.Number.Layout
import PgJson.Proofs.Text.Digits
import PgJson.Proofs.Text.Fields
import Mathlib.Algebra.Field.Rat
import Mathlib.Tactic.FieldSimp
import Mathlib.Tactic.Ring

namespace PgJson

namespace Text

def numeral? (s : List Char) : Option Nat := if s = [] then none else digitsValue? s

def magnitude? (s : List Char) : Option ℚ :=
  match cut (· == '.') s with
  | (whole, none) => (numeral? whole).map fun n : Nat => (n : ℚ)
  | (whole, some places) => do
    let n ← numeral? whole
    let p ← numeral? places
    return (n : ℚ) + p / 10 ^ places.length

def decimalValue? : List Char → Option ℚ
  | '-' :: s => (magnitude? s).map fun q => -q
  | s => magnitude? s

theorem ne_point_of_isDigit (c : Char) (digit : c.isDigit) : c ≠ '.' := by
  rintro rfl
  exact absurd digit (by decide)

theorem numeral?_digits (s : List Char) (present : s ≠ []) (digits : ∀ c ∈ s, c.isDigit) :
    numeral? s = some (digitsNumber s) := by
  rw [numeral?, if_neg present, digitsValue?_isDigit s digits]

theorem magnitude?_digits (s : List Char) (present : s ≠ []) (digits : ∀ c ∈ s, c.isDigit) :
    magnitude? s = some (digitsNumber s : ℚ) := by
  have points : ∀ c ∈ s, c ≠ '.' := fun c member => ne_point_of_isDigit c (digits c member)
  rw [magnitude?, cut_none '.' s points]
  simp only [numeral?_digits s present digits, Option.map_some]

theorem magnitude?_places (whole places : List Char) (front : whole ≠ []) (back : places ≠ [])
    (digits : ∀ c ∈ whole ++ places, c.isDigit) :
    magnitude? (whole ++ '.' :: places) =
      some ((digitsNumber (whole ++ places) : ℚ) / 10 ^ places.length) := by
  have wholeDigits : ∀ c ∈ whole, c.isDigit :=
    fun c member => digits c (List.mem_append_left _ member)
  have placesDigits : ∀ c ∈ places, c.isDigit :=
    fun c member => digits c (List.mem_append_right _ member)
  have points : ∀ c ∈ whole, c ≠ '.' :=
    fun c member => ne_point_of_isDigit c (wholeDigits c member)
  rw [magnitude?, cut_separator '.' whole places points, digitsNumber_append]
  simp only [numeral?_digits whole front wholeDigits, numeral?_digits places back placesDigits,
    bind, Option.bind, pure, Option.some.injEq]
  push_cast
  field_simp

theorem decimalValue?_digit (c : Char) (s : List Char) (digit : c.isDigit) :
    decimalValue? (c :: s) = magnitude? (c :: s) := by
  have plus : c ≠ '-' := by
    rintro rfl
    exact absurd digit (by decide)
  unfold decimalValue?
  split
  · next same => exact absurd (List.cons.inj same).1 plus
  · rfl

end Text

namespace Scientific

open Text

/-- A plain text of places is its digits with a point among them. -/
theorem plain_places (digits places : Nat) :
    ∃ whole fraction, plain ⟨digits, -((places + 1 : Nat) : Int)⟩ = whole ++ '.' :: fraction ∧
      whole ≠ [] ∧ fraction.length = places + 1 ∧
      whole ++ fraction = padded (places + 2) digits := by
  have width := le_length_padded (places + 2) digits
  have taken := List.length_take (i := (padded (places + 2) digits).length - (places + 1))
    (l := padded (places + 2) digits)
  refine ⟨(padded (places + 2) digits).take ((padded (places + 2) digits).length - (places + 1)),
    (padded (places + 2) digits).drop ((padded (places + 2) digits).length - (places + 1)), rfl,
    ?_, ?_, List.take_append_drop _ _⟩
  · intro empty
    rw [empty, List.length_nil] at taken
    omega
  · rw [List.length_drop]
    omega

theorem plain_whole (digits : Nat) : plain ⟨digits, -((0 : Nat) : Int)⟩ = decimal digits := by
  show (if digits = 0 then ['0'] else decimal digits ++ []) = decimal digits
  split
  · next zero =>
    rw [zero]
    rfl
  · exact List.append_nil _

theorem decimalValue?_plain (negative : Bool) (digits places : Nat) :
    decimalValue? ((if negative then ['-'] else []) ++ plain ⟨digits, -(places : Int)⟩) =
      some ((if negative then -1 else 1) * (digits / 10 ^ places : ℚ)) := by
  obtain ⟨first, rest, written, digit, value⟩ : ∃ first rest,
      plain ⟨digits, -(places : Int)⟩ = first :: rest ∧ first.isDigit ∧
        magnitude? (first :: rest) = some (digits / 10 ^ places : ℚ) := by
    cases places with
    | zero =>
        have all := isDigit_of_mem_decimal digits
        have read := magnitude?_digits (decimal digits) Nat.toDigits_ne_nil all
        rw [digitsNumber_decimal] at read
        rw [plain_whole]
        cases text : decimal digits with
        | nil => exact absurd text Nat.toDigits_ne_nil
        | cons c s =>
            rw [text] at all read
            refine ⟨c, s, rfl, all c (List.mem_cons_self ..), ?_⟩
            rw [read, pow_zero, div_one]
    | succ places =>
        obtain ⟨whole, fraction, written, front, size, joined⟩ := plain_places digits places
        have all : ∀ c ∈ whole ++ fraction, c.isDigit := by
          rw [joined]
          exact isDigit_of_mem_padded _ _
        have back : fraction ≠ [] := by
          intro empty
          rw [empty] at size
          cases size
        have read := magnitude?_places whole fraction front back all
        rw [joined, digitsNumber_padded, size] at read
        rw [written]
        cases whole with
        | nil => exact absurd rfl front
        | cons c s => exact ⟨c, s ++ '.' :: fraction, rfl, all c (List.mem_cons_self ..), read⟩
  cases negative with
  | false =>
      rw [if_neg Bool.false_ne_true, if_neg Bool.false_ne_true, List.nil_append, written,
        decimalValue?_digit first rest digit, value, one_mul]
  | true =>
      rw [if_pos rfl, if_pos rfl, List.singleton_append, written, neg_one_mul]
      show (magnitude? (first :: rest)).map _ = _
      rw [value, Option.map_some]

end Scientific
end PgJson
