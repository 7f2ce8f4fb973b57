import PgJson.Proofs.Calendar.Reading
import PgJson.Proofs.Text.Order
import Mathlib.Algebra.Order.BigOperators.Group.Finset

/-!
Dates, times of day and instants in the order of their texts. Years of four digits have no sign, and
what may follow a fraction of a second stands below its point and its digits.
-/

namespace PgJson

open Text

namespace Date

/-! ## The order of days -/

theorem daysToYear_succ (year : Int) :
    daysToYear (year + 1) = daysToYear year + yearLength year := by
  have start := yearStart_eq year
  rw [daysToYear_eq, daysToYear_eq, Int.add_sub_cancel, start]
  omega

theorem daysToYear_mono (first last : Int) (le : first ≤ last) :
    daysToYear first ≤ daysToYear last := by
  apply monotone_int_of_le_succ ?_ le
  intro year
  rw [daysToYear_succ]
  omega

theorem daysToMonth_succ (year : Int) (month : Nat) (first : 1 ≤ month) :
    daysToMonth year (month + 1) = daysToMonth year month + monthLength year month := by
  cases month with
  | zero => simp at first
  | succ k => exact Finset.sum_range_succ _ k

theorem daysToMonth_mono (year : Int) (m n : Nat) (le : m ≤ n) :
    daysToMonth year m ≤ daysToMonth year n := by
  apply Finset.sum_le_sum_of_subset
  exact Finset.range_subset_range.mpr (Nat.sub_le_sub_right le 1)

theorem daysToMonth_end (year : Int) : daysToMonth year 13 = yearLength year := by
  simp only [daysToMonth, Finset.sum_range_succ, Finset.sum_range_zero, monthLength, yearLength]
  cases isLeap year with
  | true => rfl
  | false => rfl

theorem count_bounds (d : Date) (valid : d.Valid) :
    daysToYear d.year ≤ d.count ∧ d.count < daysToYear (d.year + 1) := by
  obtain ⟨first, last, day, within⟩ := valid
  have month := daysToMonth_succ d.year d.month first
  have rest : daysToMonth d.year (d.month + 1) ≤ daysToMonth d.year 13 :=
    daysToMonth_mono d.year _ _ (Nat.succ_le_succ last)
  rw [daysToMonth_end] at rest
  rw [daysToYear_succ, count]
  omega

theorem count_lt_of_year (d e : Date) (valid : d.Valid) (valid' : e.Valid)
    (earlier : d.year < e.year) : d.count < e.count := by
  calc
    d.count < daysToYear (d.year + 1) := (count_bounds d valid).2
    _ ≤ daysToYear e.year := daysToYear_mono _ _ earlier
    _ ≤ e.count := (count_bounds e valid').1

theorem count_lt_of_month (d e : Date) (valid : d.Valid) (valid' : e.Valid)
    (same : d.year = e.year) (earlier : d.month < e.month) : d.count < e.count := by
  obtain ⟨first, _, _, within⟩ := valid
  obtain ⟨_, _, day, _⟩ := valid'
  have month := daysToMonth_succ d.year d.month first
  have later : daysToMonth d.year (d.month + 1) ≤ daysToMonth d.year e.month :=
    daysToMonth_mono d.year _ _ earlier
  rw [count, count, ← same]
  omega

theorem compare_count (d e : Date) (valid : d.Valid) (valid' : e.Valid) :
    compare d.count e.count =
      (compare d.year e.year).then ((compare d.month e.month).then (compare d.day e.day)) := by
  apply compare_of_parts d.year e.year
  · exact count_lt_of_year d e valid valid'
  · exact count_lt_of_year e d valid' valid
  · intro year
    apply compare_of_parts d.month e.month
    · exact count_lt_of_month d e valid valid' year
    · exact count_lt_of_month e d valid' valid year.symm
    · intro month
      have days : d.count - d.day = e.count - e.day := by
        rw [count, count, year, month]
        omega
      rw [← Ordering.then_eq (o := compare d.day e.day)]
      apply compare_of_parts d.day e.day
      · omega
      · omega
      · intro day
        rw [compare_eq_iff_eq]
        omega

/-! ## Texts of dates -/

theorem yearText_plain (year : Int) (first : 0 ≤ year) (last : year ≤ 9999) :
    yearText year = padded 4 year.toNat := by
  cases year with
  | ofNat n => exact if_pos (Int.ofNat_le.mp last)
  | negSucc n => exact absurd first (by omega)

theorem compare_text (d e : Date) (valid : d.Valid) (valid' : e.Valid)
    (years : 0 ≤ d.year ∧ d.year ≤ 9999) (years' : 0 ≤ e.year ∧ e.year ≤ 9999) (u v : List Char) :
    compare (d.text ++ u) (e.text ++ v) = (compare d.count e.count).then (compare u v) := by
  obtain ⟨month, day⟩ := valid_bounds d valid
  obtain ⟨month', day'⟩ := valid_bounds e valid'
  have year : compare d.year.toNat e.year.toNat = compare d.year e.year := by
    rw [← Ordering.then_eq (o := compare d.year e.year)]
    apply compare_of_parts d.year e.year
    · omega
    · omega
    · intro same
      rw [same, Std.compare_self]
  rw [text_eq, text_eq, yearText_plain _ years.1 years.2, yearText_plain _ years'.1 years'.2]
  simp only [List.append_assoc, List.cons_append]
  rw [compare_padded 4 _ _ _ _ (by decide) (by omega) (by omega), List.compare_cons_cons,
    compare_padded 2 _ _ _ _ (by decide) month month', List.compare_cons_cons,
    compare_padded 2 _ _ _ _ (by decide) day day', compare_count d e valid valid', year]
  simp only [Std.compare_self, Ordering.eq_then, Ordering.then_assoc]

end Date

namespace TimeOfDay

/-! ## Texts of times of day -/

def lastPlaces (n : Nat) : List Char := if n = 0 then [] else padded 3 n

theorem padded_six (n : Nat) (small : n < 10 ^ 6) :
    padded 6 n = padded 3 (n / 1000) ++ padded 3 (n % 1000) := by
  have front := length_padded 3 (n / 1000) (by decide) (by omega)
  have back := length_padded 3 (n % 1000) (by decide) (by omega)
  apply digitsNumber_inj
  · exact isDigit_of_mem_padded 6 n
  · intro c member
    rcases List.mem_append.mp member with first | second
    · exact isDigit_of_mem_padded 3 _ c first
    · exact isDigit_of_mem_padded 3 _ c second
  · rw [List.length_append, front, back, length_padded 6 n (by decide) small]
  · rw [digitsNumber_append, back, digitsNumber_padded, digitsNumber_padded, digitsNumber_padded]
    omega

theorem fractionText_eq (micros : Nat) (positive : 0 < micros) (small : micros < 10 ^ 6) :
    fractionText micros = '.' :: (padded 3 (micros / 1000) ++ lastPlaces (micros % 1000)) := by
  rw [fractionText, if_neg (Nat.ne_of_gt positive), lastPlaces]
  split
  · rw [List.append_nil]
  · rw [padded_six micros small]

theorem compare_lastPlaces (m n : Nat) (rest : List Char) (first : m < 1000) (second : n < 1000)
    (below : Below rest '.') :
    compare (lastPlaces m ++ rest) (lastPlaces n ++ rest) = compare m n := by
  apply compare_optional lastPlaces rest m n rfl
  · intro k positive _
    have written : lastPlaces k = padded 3 k := if_neg (Nat.ne_of_gt positive)
    cases text : padded 3 k with
    | nil => exact absurd text (padded_ne_nil 3 k)
    | cons c s =>
        refine ⟨c, s, written.trans text, ?_⟩
        intro d head
        have digit := isDigit_of_mem_padded 3 k c (text ▸ List.mem_cons_self ..)
        have point : '.' < c := by
          show 46 < c.toNat
          have bounds := isDigit_bounds c digit
          omega
        exact lt_trans (below d head) point
  · intro posM posN
    rw [lastPlaces, lastPlaces, if_neg (Nat.ne_of_gt posM), if_neg (Nat.ne_of_gt posN),
      compare_padded 3 m n _ _ (by decide) first second, Std.compare_self, Ordering.then_eq]

theorem compare_fractionText (m n : Nat) (rest : List Char) (first : m < 10 ^ 6)
    (second : n < 10 ^ 6) (below : Below rest '.') :
    compare (fractionText m ++ rest) (fractionText n ++ rest) = compare m n := by
  apply compare_optional fractionText rest m n rfl
  · intro k positive within
    exact ⟨'.', _, fractionText_eq k positive (by omega), below⟩
  · intro posM posN
    rw [fractionText_eq m posM first, fractionText_eq n posN second]
    simp only [List.cons_append, List.append_assoc]
    rw [List.compare_cons_cons, Std.compare_self, Ordering.eq_then,
      compare_padded 3 _ _ _ _ (by decide) (by omega) (by omega),
      compare_lastPlaces _ _ rest (Nat.mod_lt _ (by decide)) (Nat.mod_lt _ (by decide)) below]
    exact (compare_div_mod 1000 m n (by decide)).symm

theorem compare_micros (m n : Nat) :
    compare m n =
      (compare (m / 3600000000) (n / 3600000000)).then
        ((compare (m / 60000000 % 60) (n / 60000000 % 60)).then
          ((compare (m / 1000000 % 60) (n / 1000000 % 60)).then
            (compare (m % 1000000) (n % 1000000)))) := by
  rw [compare_div_mod 1000000 m n (by decide),
    compare_div_mod 60 (m / 1000000) (n / 1000000) (by decide),
    compare_div_mod 60 (m / 1000000 / 60) (n / 1000000 / 60) (by decide)]
  simp only [Nat.div_div_eq_div_mul, Ordering.then_assoc]

theorem compare_text (s t : TimeOfDay) (rest : List Char) (below : Below rest '.') :
    compare (s.text ++ rest) (t.text ++ rest) = compare s.micros t.micros := by
  have inDay : s.micros < 86400000000 := s.micros_lt
  have inDay' : t.micros < 86400000000 := t.micros_lt
  rw [text_eq, text_eq, clockText, clockText, compare_micros]
  simp only [List.append_assoc, List.cons_append]
  rw [compare_padded 2 _ _ _ _ (by decide) (by omega) (by omega), List.compare_cons_cons,
    compare_padded 2 _ _ _ _ (by decide) (by omega) (by omega), List.compare_cons_cons,
    compare_padded 2 _ _ _ _ (by decide) (by omega) (by omega),
    compare_fractionText _ _ rest (by omega) (by omega) below]
  simp only [Std.compare_self, Ordering.eq_then]

end TimeOfDay

namespace Timestamp

theorem compare_text (m n : Int) (rest : List Char) (below : Below rest '.')
    (years : 0 ≤ (ofMicros m).date.year ∧ (ofMicros m).date.year ≤ 9999)
    (years' : 0 ≤ (ofMicros n).date.year ∧ (ofMicros n).date.year ≤ 9999) :
    compare ((ofMicros m).text ++ rest) ((ofMicros n).text ++ rest) = compare m n := by
  have size : (microsPerDay : Int) = 86400000000 := rfl
  have micros : ∀ k : Int, ((TimeOfDay.ofMicros k).micros : Int) = k % 86400000000 :=
    fun k => Int.toNat_of_nonneg (Int.emod_nonneg _ (by decide))
  have microsM := micros m
  have microsN := micros n
  have parts : compare m n = (compare (dayOf m) (dayOf n)).then
      (compare (TimeOfDay.ofMicros m).micros (TimeOfDay.ofMicros n).micros) := by
    unfold dayOf
    rw [size]
    apply compare_of_parts (m / 86400000000) (n / 86400000000)
    · omega
    · omega
    · intro same
      rw [← Ordering.then_eq (o := compare (TimeOfDay.ofMicros m).micros _)]
      apply compare_of_parts
      · omega
      · omega
      · intro _
        rw [compare_eq_iff_eq]
        omega
  have dates := Date.compare_text _ _ (Date.valid_ofDays (dayOf m)) (Date.valid_ofDays (dayOf n))
    years years' ('T' :: ((ofMicros m).time.text ++ rest)) ('T' :: ((ofMicros n).time.text ++ rest))
  rw [Date.count_ofDays, Date.count_ofDays, List.compare_cons_cons, Std.compare_self,
    Ordering.eq_then, TimeOfDay.compare_text _ _ rest below] at dates
  rw [parts, text, text, List.append_assoc, List.append_assoc]
  exact dates

end Timestamp
end PgJson
