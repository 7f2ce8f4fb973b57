import PgJson.Proofs.Text.Decimal
import Mathlib.Data.List.Induction

namespace PgJson

namespace Text

/-- How a text of digits is cut: at least one before the point and no needless zero in front, and
places that do not end in a zero. -/
structure Reduced (whole places : List Char) : Prop where
  present : whole ≠ []
  digits : ∀ c ∈ whole ++ places, c.isDigit
  leading : whole.head? = some '0' → whole = ['0']
  trailing : places.getLast? ≠ some '0'

def pointed (negative : Bool) (whole places : List Char) : List Char :=
  (if negative then ['-'] else []) ++ (whole ++ if places = [] then [] else '.' :: places)

/-- The text that shows a number with all its places and no more: no needless zeros on either side,
no point without places, and a minus only before a negative number. -/
def IsPlain (q : ℚ) (s : List Char) : Prop :=
  decimalValue? s = some q ∧
    ∃ whole places, Reduced whole places ∧ s = pointed (decide (q < 0)) whole places

/-! ## Digits -/

theorem digitsNumber_concat (s : List Char) (c : Char) :
    digitsNumber (s ++ [c]) = digitsNumber s * 10 + (c.toNat - 48) := by
  have last : digitsNumber [c] = c.toNat - 48 := by
    rw [digitsNumber, Nat.ofDigitChars_cons, Nat.ofDigitChars_nil, Nat.mul_zero, Nat.zero_add]
    rfl
  rw [digitsNumber_append, List.length_singleton, pow_one, last]

theorem digitsNumber_lt (s : List Char) (digits : ∀ c ∈ s, c.isDigit) :
    digitsNumber s < 10 ^ s.length := by
  induction s using List.reverseRecOn with
  | nil => decide
  | append_singleton s c ih =>
      have front := ih fun d member => digits d (List.mem_append_left _ member)
      have digit := digits c (List.mem_append_right _ (List.mem_singleton_self c))
      have bounds := isDigit_bounds c digit
      rw [digitsNumber_concat, List.length_append, List.length_singleton, pow_succ]
      omega

theorem digitChar_digit (c : Char) (digit : c.isDigit) : (c.toNat - 48).digitChar = c := by
  have all : ∀ n < 10, (Nat.digitChar n).toNat = n + 48 := by decide
  have bounds := isDigit_bounds c digit
  apply Char.toNat_inj.mp
  rw [all _ (by omega)]
  omega

theorem decimal_digitsNumber (s : List Char) (present : s ≠ []) (digits : ∀ c ∈ s, c.isDigit)
    (leading : s.head? = some '0' → s = ['0']) : decimal (digitsNumber s) = s := by
  induction s using List.reverseRecOn with
  | nil => exact absurd rfl present
  | append_singleton s c ih =>
      have digit := digits c (List.mem_append_right _ (List.mem_singleton_self c))
      have char := digitChar_digit c digit
      have bounds := isDigit_bounds c digit
      have small : c.toNat - 48 < 10 := by omega
      rw [digitsNumber_concat]
      by_cases single : s = []
      · rw [single]
        show Nat.toDigits 10 (0 * 10 + (c.toNat - 48)) = [c]
        rw [Nat.zero_mul, Nat.zero_add, Nat.toDigits_of_lt_base small, char]
      · have head : (s ++ [c]).head? = s.head? := List.head?_append_of_ne_nil _ single
        have noZero : s.head? ≠ some '0' := by
          intro zero
          have short := congrArg List.length (leading (head.trans zero))
          rw [List.length_append, List.length_singleton, List.length_singleton] at short
          exact single (List.length_eq_zero_iff.mp (by omega))
        have front := ih single (fun d member => digits d (List.mem_append_left _ member))
          fun zero => absurd zero noZero
        have pos : 0 < digitsNumber s := by
          by_contra none
          rw [Nat.eq_zero_of_not_pos none] at front
          rw [← front] at noZero
          exact noZero rfl
        rw [Nat.mul_comm]
        show Nat.toDigits 10 _ = _
        rw [← Nat.toDigits_append_toDigits (by decide) pos small,
          Nat.toDigits_of_lt_base small, char]
        exact congrArg (· ++ [c]) front

theorem digitsNumber_inj (s t : List Char) (first : ∀ c ∈ s, c.isDigit)
    (second : ∀ c ∈ t, c.isDigit) (length : s.length = t.length)
    (same : digitsNumber s = digitsNumber t) : s = t := by
  induction s using List.reverseRecOn generalizing t with
  | nil => exact (List.length_eq_zero_iff.mp length.symm).symm
  | append_singleton s c ih =>
      cases t using List.reverseRecOn with
      | nil => simp at length
      | append_singleton t d =>
          have digitC := first c (List.mem_append_right _ (List.mem_singleton_self c))
          have digitD := second d (List.mem_append_right _ (List.mem_singleton_self d))
          have charC := digitChar_digit c digitC
          have charD := digitChar_digit d digitD
          have boundsC := isDigit_bounds c digitC
          have boundsD := isDigit_bounds d digitD
          rw [digitsNumber_concat, digitsNumber_concat] at same
          have last : c.toNat - 48 = d.toNat - 48 := by omega
          have front := ih t (fun e member => first e (List.mem_append_left _ member))
            (fun e member => second e (List.mem_append_left _ member))
            (by simpa using length) (by omega)
          rw [front, ← charC, ← charD, last]

theorem padded_digitsNumber (s : List Char) (present : s ≠ []) (digits : ∀ c ∈ s, c.isDigit) :
    padded s.length (digitsNumber s) = s := by
  have wide : 0 < s.length := List.length_pos_iff.mpr present
  have length := length_padded s.length _ wide (digitsNumber_lt s digits)
  exact digitsNumber_inj _ _ (isDigit_of_mem_padded _ _) digits length (digitsNumber_padded _ _)

theorem digitsNumber_mod (s : List Char) (digits : ∀ c ∈ s, c.isDigit) (present : s ≠ [])
    (trailing : s.getLast? ≠ some '0') : digitsNumber s % 10 ≠ 0 := by
  cases s using List.reverseRecOn with
  | nil => exact absurd rfl present
  | append_singleton s c =>
      have digit := digits c (List.mem_append_right _ (List.mem_singleton_self c))
      have char := digitChar_digit c digit
      rw [List.getLast?_append, List.getLast?_singleton, Option.some_or] at trailing
      have bounds := isDigit_bounds c digit
      have zero : c.toNat - 48 ≠ 0 := by
        intro zero
        rw [zero] at char
        exact trailing (congrArg some char.symm)
      rw [digitsNumber_concat]
      omega

/-! ## Uniqueness -/

theorem magnitude?_pointed (whole places : List Char) (reduced : Reduced whole places) :
    magnitude? (whole ++ if places = [] then [] else '.' :: places) =
      some (digitsNumber (whole ++ places) / 10 ^ places.length : ℚ) := by
  by_cases none : places = []
  · rw [if_pos none, none, List.append_nil, List.length_nil, pow_zero, div_one]
    apply magnitude?_digits whole reduced.present
    exact fun c member => reduced.digits c (List.mem_append_left _ member)
  · rw [if_neg none]
    exact magnitude?_places whole places reduced.present none reduced.digits

theorem decimalValue?_pointed (negative : Bool) (whole places : List Char)
    (reduced : Reduced whole places) :
    decimalValue? (pointed negative whole places) = some ((if negative then -1 else 1) *
      (digitsNumber (whole ++ places) / 10 ^ places.length : ℚ)) := by
  have value := magnitude?_pointed whole places reduced
  cases negative with
  | false =>
      rw [if_neg Bool.false_ne_true, one_mul, ← value]
      cases written : whole with
      | nil => exact absurd written reduced.present
      | cons c rest =>
          have digit := reduced.digits c (by simp [written])
          exact decimalValue?_digit c _ digit
  | true =>
      rw [if_pos rfl, neg_one_mul]
      show (magnitude? (whole ++ if places = [] then [] else '.' :: places)).map _ = _
      rw [value, Option.map_some]

theorem reduced_unique (whole places whole' places' : List Char) (first : Reduced whole places)
    (second : Reduced whole' places')
    (same : (digitsNumber (whole ++ places) / 10 ^ places.length : ℚ) =
      digitsNumber (whole' ++ places') / 10 ^ places'.length) :
    whole = whole' ∧ places = places' := by
  have cross : digitsNumber (whole ++ places) * 10 ^ places'.length =
      digitsNumber (whole' ++ places') * 10 ^ places.length := by
    rw [div_eq_div_iff (by positivity) (by positivity)] at same
    exact_mod_cast same
  -- The places of one cannot go on behind those of the other.
  have longest : ∀ w p w' p' : List Char, Reduced w p → Reduced w' p' →
      digitsNumber (w ++ p) * 10 ^ p'.length = digitsNumber (w' ++ p') * 10 ^ p.length →
      p.length ≤ p'.length := by
    intro w p w' p' first second cross
    by_contra more
    obtain ⟨k, longer⟩ : ∃ k, p.length = p'.length + (k + 1) :=
      ⟨p.length - p'.length - 1, by omega⟩
    have present : p ≠ [] := by
      rintro rfl
      simp at longer
    have last : (w ++ p).getLast? ≠ some '0' := by
      rw [List.getLast?_append_of_ne_nil _ present]
      exact first.trailing
    have odd := digitsNumber_mod (w ++ p) first.digits
      (List.append_ne_nil_of_right_ne_nil _ present) last
    rw [longer, pow_add, ← Nat.mul_assoc, Nat.mul_right_comm] at cross
    have divided := Nat.eq_of_mul_eq_mul_right (Nat.pow_pos (by decide)) cross
    rw [divided, pow_succ, ← Nat.mul_assoc, Nat.mul_mod_left] at odd
    exact odd rfl
  have length : places.length = places'.length :=
    Nat.le_antisymm (longest _ _ _ _ first second cross) (longest _ _ _ _ second first cross.symm)
  have digits (c) (member : c ∈ whole) := first.digits c (List.mem_append_left _ member)
  have digits' (c) (member : c ∈ whole') := second.digits c (List.mem_append_left _ member)
  have behind (c) (member : c ∈ places) := first.digits c (List.mem_append_right _ member)
  have behind' (c) (member : c ∈ places') := second.digits c (List.mem_append_right _ member)
  rw [length] at cross
  have number := Nat.eq_of_mul_eq_mul_right (Nat.pow_pos (by decide)) cross
  have below := digitsNumber_lt places behind
  have below' := digitsNumber_lt places' behind'
  rw [digitsNumber_append, digitsNumber_append, length] at number
  rw [length] at below
  have fronts : digitsNumber whole = digitsNumber whole' := by
    have parts := congrArg (· / 10 ^ places'.length) number
    simpa [Nat.add_comm (_ * _), Nat.add_mul_div_right, Nat.div_eq_of_lt, below, below'] using parts
  refine ⟨?_, digitsNumber_inj places places' behind behind' length ?_⟩
  · rw [← decimal_digitsNumber whole first.present digits first.leading, fronts,
      decimal_digitsNumber whole' second.present digits' second.leading]
  · rw [fronts] at number
    exact Nat.add_left_cancel number

theorem isPlain_unique (q : ℚ) (s t : List Char) (first : IsPlain q s) (second : IsPlain q t) :
    s = t := by
  obtain ⟨value, whole, places, reduced, cut⟩ := first
  obtain ⟨value', whole', places', reduced', cut'⟩ := second
  rw [cut, decimalValue?_pointed _ _ _ reduced, Option.some.injEq] at value
  rw [cut', decimalValue?_pointed _ _ _ reduced', Option.some.injEq] at value'
  have sign : (if decide (q < 0) then -1 else 1 : ℚ) ≠ 0 := by split <;> norm_num
  obtain ⟨fronts, backs⟩ := reduced_unique _ _ _ _ reduced reduced'
    (mul_left_cancel₀ sign (value.trans value'.symm))
  rw [cut, cut', fronts, backs]

end Text

namespace Scientific

open Text

/-- Digits of which the last place is not zero are cut without needless zeros. -/
theorem plain_reduced (digits places : Nat) (reduced : places = 0 ∨ digits % 10 ≠ 0) :
    ∃ whole fraction, Reduced whole fraction ∧
      plain ⟨digits, -(places : Int)⟩ =
        whole ++ if fraction = [] then [] else '.' :: fraction := by
  cases places with
  | zero =>
      refine ⟨decimal digits, [], ⟨Nat.toDigits_ne_nil, ?_, decimal_leading digits, nofun⟩, ?_⟩
      · rw [List.append_nil]
        exact isDigit_of_mem_decimal digits
      · rw [if_pos rfl, List.append_nil]
        exact plain_whole digits
  | succ places =>
      obtain ⟨whole, fraction, written, front, size, joined⟩ := plain_places digits places
      have back : fraction ≠ [] := by
        rintro rfl
        simp at size
      refine ⟨whole, fraction, ⟨front, ?_, ?_, ?_⟩, ?_⟩
      · rw [joined]
        exact isDigit_of_mem_padded _ _
      · intro zero
        -- A zero in front is the whole part by itself, or else the number would start with it.
        by_cases short : (decimal digits).length ≤ places + 2
        · have length := congrArg List.length joined
          rw [List.length_append, size, padded, List.length_append, List.length_replicate] at length
          obtain ⟨c, single⟩ : ∃ c, whole = [c] := List.length_eq_one_iff.mp (by omega)
          rw [single, List.head?_cons, Option.some.injEq] at zero
          rw [single, zero]
        · rw [padded, Nat.sub_eq_zero_of_le (by omega), List.replicate_zero, List.nil_append]
            at joined
          have head : (decimal digits).head? = some '0' := by
            rw [← joined, List.head?_append_of_ne_nil _ front, zero]
          rw [decimal_leading digits head] at short
          exact absurd (Nat.le_add_left 1 (places + 1)) short
      · intro zero
        have odd := reduced.resolve_left (Nat.succ_ne_zero places)
        rw [← digitsNumber_padded (places + 2) digits, ← joined] at odd
        rw [← List.dropLast_append_getLast? '0' zero, ← List.append_assoc, digitsNumber_concat]
          at odd
        exact odd (Nat.mul_mod_left _ _)
      · rw [if_neg back]
        exact written

theorem isPlain_plain (negative : Bool) (digits places : Nat) (q : ℚ)
    (value : (if negative then -1 else 1) * (digits / 10 ^ places : ℚ) = q)
    (sign : negative = true ↔ q < 0) (reduced : places = 0 ∨ digits % 10 ≠ 0) :
    IsPlain q ((if negative then ['-'] else []) ++ plain ⟨digits, -(places : Int)⟩) := by
  obtain ⟨whole, fraction, cut, written⟩ := plain_reduced digits places reduced
  refine ⟨?_, whole, fraction, cut, ?_⟩
  · rw [decimalValue?_plain, value]
  · rw [written, pointed]
    simp only [← sign, Bool.decide_eq_true]

end Scientific
end PgJson
