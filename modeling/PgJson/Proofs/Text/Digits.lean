import PgJson.Text.Digits
import Mathlib.Data.Nat.Digits.Defs

namespace PgJson.Text

/-- The number that a list of digits denotes, whatever other characters stand among them. -/
abbrev digitsNumber (s : List Char) : Nat := Nat.ofDigitChars 10 s 0

theorem isDigit_bounds (c : Char) (digit : c.isDigit) : 48 ≤ c.toNat ∧ c.toNat ≤ 57 :=
  Char.isDigit_iff_toNat.mp digit

theorem digitValue?_isDigit (c : Char) (digit : c.isDigit) :
    digitValue? c = some (c.toNat - '0'.toNat) := by
  rw [Char.isDigit_iff_toNat] at digit
  exact if_pos digit

theorem digitsValue?_isDigit (s : List Char) (digits : ∀ c ∈ s, c.isDigit) :
    digitsValue? s = some (digitsNumber s) := by
  have general : ∀ value, s.foldlM (fun value c => (digitValue? c).map (value * 10 + ·)) value =
      some (Nat.ofDigitChars 10 s value) := by
    induction s with
    | nil =>
        intro value
        simp
    | cons c s ih =>
        intro value
        have first := digitValue?_isDigit c (digits c (List.mem_cons_self ..))
        have others := ih (fun d member => digits d (List.mem_cons_of_mem _ member))
        rw [List.foldlM_cons, first, Nat.ofDigitChars_cons, Nat.mul_comm 10 value]
        exact others _
  exact general 0

/-! ## Numbers -/

theorem isDigit_of_mem_decimal (n : Nat) : ∀ c ∈ decimal n, c.isDigit := by
  intro c member
  exact Nat.isDigit_of_mem_toDigits (by decide) (by decide) member

theorem digitsNumber_decimal (n : Nat) : digitsNumber (decimal n) = n :=
  Nat.ofDigitChars_ten_toDigits

theorem digitsNumber_append (front back : List Char) :
    digitsNumber (front ++ back) = digitsNumber front * 10 ^ back.length + digitsNumber back := by
  rw [digitsNumber, Nat.ofDigitChars_append, Nat.ofDigitChars_eq_ofDigitChars_zero, Nat.mul_comm]

theorem decimal_pos (n : Nat) (pos : 0 < n) :
    ∃ first others, decimal n = first :: others ∧ '1'.toNat ≤ first.toNat := by
  induction n using Nat.base_induction 10 (by decide) with
  | single m small =>
      refine ⟨m.digitChar, [], Nat.toDigits_of_lt_base small, ?_⟩
      rw [Nat.toNat_digitChar_of_lt_ten small]
      show 49 ≤ _
      omega
  | digit m k small posM ih =>
      obtain ⟨first, others, written, leading⟩ := ih posM
      refine ⟨first, others ++ decimal k, ?_, leading⟩
      rw [← List.cons_append, ← written]
      exact (Nat.toDigits_append_toDigits (by decide) posM small).symm

theorem decimal_leading (n : Nat) (zero : (decimal n).head? = some '0') : decimal n = ['0'] := by
  rcases Nat.eq_zero_or_pos n with none | pos
  · rw [none]
    rfl
  · obtain ⟨first, others, written, leading⟩ := decimal_pos n pos
    rw [written, List.head?_cons, Option.some.injEq] at zero
    rw [zero] at leading
    exact absurd leading (by decide)

theorem padded_zero (n : Nat) : padded 0 n = decimal n := by
  rw [padded, Nat.zero_sub, List.replicate_zero, List.nil_append]

theorem padded_ne_nil (width n : Nat) : padded width n ≠ [] :=
  List.append_ne_nil_of_right_ne_nil _ Nat.toDigits_ne_nil

theorem isDigit_of_mem_padded (width n : Nat) : ∀ c ∈ padded width n, c.isDigit := by
  intro c member
  rcases List.mem_append.mp member with zero | digit
  · rw [List.eq_of_mem_replicate zero]
    rfl
  · exact isDigit_of_mem_decimal n c digit

theorem digitsNumber_padded (width n : Nat) : digitsNumber (padded width n) = n := by
  rw [padded, digitsNumber_append, digitsNumber_decimal, digitsNumber,
    Nat.ofDigitChars_replicate_zero]
  omega

theorem le_length_padded (width n : Nat) : width ≤ (padded width n).length := by
  rw [padded, List.length_append, List.length_replicate]
  omega

theorem length_padded (width n : Nat) (wide : 0 < width) (small : n < 10 ^ width) :
    (padded width n).length = width := by
  have most : (decimal n).length ≤ width := Nat.toDigits_length 10 n width wide small
  rw [padded, List.length_append, List.length_replicate]
  omega

end PgJson.Text
