import PgJson.Proofs.Text.Digits
import PgJson.Text.Blank
import Mathlib.Data.List.TakeWhile

namespace PgJson.Text

theorem isDigit_of_digitValue? (c : Char) (d : Nat) (value : digitValue? c = some d) :
    c.isDigit ∧ d = c.toNat - '0'.toNat := by
  unfold digitValue? at value
  split at value
  · next range =>
    cases value
    exact ⟨Char.isDigit_iff_toNat.mpr range, rfl⟩
  · cases value

theorem le_ofDigitChars (digits : List Char) (value : Nat) :
    value ≤ Nat.ofDigitChars 10 digits value := by
  rw [Nat.ofDigitChars_eq_ofDigitChars_zero]
  have positive : 0 < 10 ^ digits.length := Nat.pow_pos (by decide)
  calc
    value ≤ 10 ^ digits.length * value := Nat.le_mul_of_pos_left _ positive
    _ ≤ 10 ^ digits.length * value + Nat.ofDigitChars 10 digits 0 := Nat.le_add_right ..

theorem boundedDigits_ok_iff (limit value n : Nat) (digits : List Char) (small : value < limit) :
    boundedDigits limit value digits = .ok n ↔
      (∀ c ∈ digits, c.isDigit) ∧ Nat.ofDigitChars 10 digits value = n ∧ n < limit := by
  induction digits generalizing value with
  | nil =>
      simp only [boundedDigits, Nat.ofDigitChars_nil, Except.ok.injEq]
      constructor
      · rintro rfl
        exact ⟨nofun, rfl, small⟩
      · exact fun read => read.2.1
  | cons c rest ih =>
      unfold boundedDigits
      cases digit : digitValue? c with
      | none =>
          refine ⟨(nomatch ·), ?_⟩
          rintro ⟨all, _⟩
          rw [digitValue?_isDigit c (all c (List.mem_cons_self ..))] at digit
          cases digit
      | some d =>
          obtain ⟨isDigit, rfl⟩ := isDigit_of_digitValue? c d digit
          rw [Nat.ofDigitChars_cons, Nat.mul_comm 10 value, List.forall_mem_cons]
          dsimp only
          split
          · next next_small =>
            rw [ih _ next_small]
            exact ⟨fun ⟨all, read⟩ => ⟨⟨isDigit, all⟩, read⟩, fun ⟨all, read⟩ => ⟨all.2, read⟩⟩
          · next large =>
            refine ⟨(nomatch ·), ?_⟩
            rintro ⟨_, rfl, below⟩
            exact absurd (Nat.lt_of_le_of_lt (le_ofDigitChars rest _) below) large

theorem isBlank_of_isDigit (c : Char) (digit : c.isDigit) : isBlank c = false := by
  have range := isDigit_bounds c digit
  simp only [isBlank, Bool.or_eq_false_iff, Bool.and_eq_false_iff, decide_eq_false_iff_not,
    beq_eq_false_iff_ne]
  omega

theorem dropWhile_blank (s : List Char) (first : ∀ c ∈ s.head?, isBlank c = false) :
    s.dropWhile isBlank = s := by
  cases s with
  | nil => rfl
  | cons c rest => rw [List.dropWhile_cons, first c rfl, if_neg nofun]

theorem trim_around (before core after : List Char) (front : ∀ c ∈ before, isBlank c)
    (back : ∀ c ∈ after, isBlank c) (first : ∀ c ∈ core.head?, isBlank c = false)
    (last : ∀ c ∈ core.getLast?, isBlank c = false) : trim (before ++ (core ++ after)) = core := by
  have behind : ∀ c ∈ after.reverse, isBlank c := fun c member =>
    back c (List.mem_reverse.mp member)
  have start : (core ++ after).dropWhile isBlank = if core = [] then [] else core ++ after := by
    cases core with
    | nil => exact List.dropWhile_eq_nil_iff.mpr back
    | cons c rest => exact dropWhile_blank (c :: rest ++ after) first
  rw [trim, trimStart, List.dropWhile_append_of_pos front, start]
  split
  · next none =>
    rw [none]
    rfl
  · rw [trimEnd, List.reverse_append, List.dropWhile_append_of_pos behind, dropWhile_blank,
      List.reverse_reverse]
    rwa [List.head?_reverse]

theorem exists_trim (s : List Char) : ∃ before after, s = before ++ (trim s ++ after) ∧
    (∀ c ∈ before, isBlank c) ∧ ∀ c ∈ after, isBlank c := by
  refine ⟨s.takeWhile isBlank, ((trimStart s).reverse.takeWhile isBlank).reverse, ?_, ?_, ?_⟩
  · rw [trim, trimEnd, ← List.reverse_append, List.takeWhile_append_dropWhile, List.reverse_reverse,
      trimStart, List.takeWhile_append_dropWhile]
  · exact fun c member => List.mem_takeWhile_imp member
  · exact fun c member => List.mem_takeWhile_imp (List.mem_reverse.mp member)

theorem trim_eq_nil_iff (s : List Char) : trim s = [] ↔ s.all isBlank = true := by
  rw [List.all_eq_true]
  constructor
  · intro none
    obtain ⟨before, after, parts, front, back⟩ := exists_trim s
    rw [parts, none, List.nil_append]
    intro c member
    exact (List.mem_append.mp member).elim (front c) (back c)
  · intro blank
    have whole := trim_around s [] [] blank nofun nofun nofun
    rwa [List.append_nil, List.append_nil] at whole

def afterPlus : List Char → List Char
  | '+' :: rest => rest
  | s => s

theorem afterPlus_digits (s : List Char) (digits : ∀ c ∈ s, c.isDigit) : afterPlus s = s := by
  unfold afterPlus
  split
  · exact absurd (digits '+' (List.mem_cons_self ..)) (by decide)
  · rfl

theorem exists_afterPlus (s : List Char) :
    ∃ sign, s = sign ++ afterPlus s ∧ (sign = [] ∨ sign = ['+']) := by
  unfold afterPlus
  split
  · exact ⟨['+'], rfl, .inr rfl⟩
  · exact ⟨[], rfl, .inl rfl⟩

theorem readBounded_afterPlus (limit : Nat) (s : List Char) (present : afterPlus s ≠ []) :
    readBounded limit s = boundedDigits limit 0 (afterPlus s) := by
  unfold readBounded
  split
  · exact absurd rfl present
  · exact absurd rfl present
  · rfl
  · next plus =>
    unfold afterPlus
    split
    · exact absurd rfl (plus _)
    · rfl

theorem readBounded_empty (limit n : Nat) (s : List Char) (none : afterPlus s = []) :
    readBounded limit s ≠ .ok n := by
  obtain ⟨sign, parts, plus⟩ := exists_afterPlus s
  rw [none, List.append_nil] at parts
  rcases plus with rfl | rfl
  · rw [parts]
    exact nofun
  · rw [parts]
    exact nofun

/-- One or more digits, with or without a plus in front, and the number they denote. -/
def IsNumeral (s : List Char) (n : Nat) : Prop :=
  ∃ sign digits, s = sign ++ digits ∧ (sign = [] ∨ sign = ['+']) ∧ digits ≠ [] ∧
    (∀ c ∈ digits, c.isDigit) ∧ digitsNumber digits = n

def Denotes (s : List Char) (n : Nat) : Prop :=
  ∃ before numeral after, s = before ++ (numeral ++ after) ∧ (∀ c ∈ before, isBlank c) ∧
    (∀ c ∈ after, isBlank c) ∧ IsNumeral numeral n

theorem isNumeral_iff (s : List Char) (n : Nat) :
    IsNumeral s n ↔ afterPlus s ≠ [] ∧ (∀ c ∈ afterPlus s, c.isDigit) ∧
      digitsNumber (afterPlus s) = n := by
  constructor
  · rintro ⟨sign, digits, rfl, plus, number⟩
    have behind : afterPlus (sign ++ digits) = digits := by
      rcases plus with rfl | rfl
      · exact afterPlus_digits digits number.2.1
      · rfl
    rwa [behind]
  · intro number
    obtain ⟨sign, parts, plus⟩ := exists_afterPlus s
    exact ⟨sign, afterPlus s, parts, plus, number⟩

theorem isNumeral_padded (sign : List Char) (plus : sign = [] ∨ sign = ['+']) (width n : Nat) :
    IsNumeral (sign ++ padded width n) n :=
  ⟨sign, padded width n, rfl, plus, padded_ne_nil width n, isDigit_of_mem_padded width n,
    digitsNumber_padded width n⟩

theorem readBounded_ok_iff (limit n : Nat) (s : List Char) (positive : 0 < limit) :
    readBounded limit s = .ok n ↔ IsNumeral s n ∧ n < limit := by
  rw [isNumeral_iff]
  by_cases present : afterPlus s = []
  · exact iff_of_false (readBounded_empty limit n s present) fun number => number.1.1 present
  · rw [readBounded_afterPlus limit s present, boundedDigits_ok_iff limit 0 n _ positive]
    exact ⟨fun ⟨all, number, small⟩ => ⟨⟨present, all, number⟩, small⟩,
      fun ⟨⟨_, all, number⟩, small⟩ => ⟨all, number, small⟩⟩

theorem isBlank_of_isNumeral (s : List Char) (n : Nat) (numeral : IsNumeral s n) :
    ∀ c ∈ s, isBlank c = false := by
  obtain ⟨sign, digits, rfl, plus, _, all, _⟩ := numeral
  intro c member
  rcases List.mem_append.mp member with front | digit
  · rcases plus with rfl | rfl
    · cases front
    · rw [List.mem_singleton.mp front]
      rfl
  · exact isBlank_of_isDigit c (all c digit)

theorem readBounded_trim_ok_iff (limit n : Nat) (s : List Char) (positive : 0 < limit) :
    readBounded limit (trim s) = .ok n ↔ Denotes s n ∧ n < limit := by
  rw [readBounded_ok_iff limit n _ positive]
  constructor
  · rintro ⟨numeral, small⟩
    obtain ⟨before, after, parts, front, back⟩ := exists_trim s
    exact ⟨⟨before, trim s, after, parts, front, back, numeral⟩, small⟩
  · rintro ⟨⟨before, numeral, after, rfl, front, back, number⟩, small⟩
    have visible := isBlank_of_isNumeral numeral n number
    rw [trim_around before numeral after front back
      (fun c member => visible c (List.mem_of_head? member))
      fun c member => visible c (List.mem_of_getLast? member)]
    exact ⟨number, small⟩

theorem readBounded_decimal (limit n : Nat) (small : n < limit) :
    readBounded limit (trim (decimal n)) = .ok n := by
  have numeral := isNumeral_padded [] (.inl rfl) 0 n
  rw [List.nil_append, padded_zero] at numeral
  rw [readBounded_trim_ok_iff limit n _ (Nat.zero_lt_of_lt small)]
  exact ⟨⟨[], decimal n, [], (List.append_nil _).symm, nofun, nofun, numeral⟩, small⟩

end PgJson.Text
