import PgJson.Proofs.Calendar.Order
import PgJson.Proofs.Column.Calendar

namespace PgJson

open Text

/-! ## Texts of plain characters -/

theorem Text.padded_plain (width n : Nat) : ∀ c ∈ padded width n, c.toNat ≤ 0x7f := by
  intro c member
  have bounds := isDigit_bounds c (isDigit_of_mem_padded width n c member)
  omega

namespace Date

theorem text_plain (d : Date) : ∀ c ∈ d.text, c.toNat ≤ 0x7f := by
  obtain ⟨sign, year, chosen⟩ := yearText_cases d.year
  have signs : ∀ c ∈ sign, c.toNat ≤ 0x7f := by
    rw [chosen]
    split
    · simp
    · split
      · simp
      · simp
  rw [text_eq, year]
  simp only [List.forall_mem_append, List.forall_mem_cons]
  exact ⟨⟨signs, padded_plain 4 _⟩, by decide, padded_plain 2 _, by decide, padded_plain 2 _⟩

def InFourDigits (n : Int) : Prop := daysToYear 0 ≤ n ∧ n < daysToYear 10000

theorem year_of_inFourDigits (n : Int) (within : InFourDigits n) :
    0 ≤ (ofDays n).year ∧ (ofDays n).year ≤ 9999 := by
  obtain ⟨first, last⟩ := count_bounds (ofDays n) (valid_ofDays n)
  rw [count_ofDays] at first last
  constructor
  · by_contra before
    have earlier : daysToYear ((ofDays n).year + 1) ≤ daysToYear 0 := daysToYear_mono _ _ (by omega)
    exact absurd (lt_of_lt_of_le last (le_trans earlier within.1)) (lt_irrefl n)
  · by_contra after
    have later : daysToYear 10000 ≤ daysToYear (ofDays n).year := daysToYear_mono _ _ (by omega)
    exact absurd (lt_of_lt_of_le within.2 (le_trans later first)) (lt_irrefl n)

theorem range_of_inFourDigits (n : Int) (within : InFourDigits n) :
    daysToYear (-262143) ≤ n ∧ n < daysToYear 262143 :=
  ⟨le_trans (daysToYear_mono _ _ (by decide)) within.1,
    lt_of_lt_of_le within.2 (daysToYear_mono _ _ (by decide))⟩

end Date

namespace TimeOfDay

theorem text_plain (t : TimeOfDay) : ∀ c ∈ t.text, c.toNat ≤ 0x7f := by
  have fraction : ∀ c ∈ fractionText (t.micros % 1000000), c.toNat ≤ 0x7f := by
    unfold fractionText
    split
    · simp
    · split
      · rw [List.forall_mem_cons]
        exact ⟨by decide, padded_plain 3 _⟩
      · rw [List.forall_mem_cons]
        exact ⟨by decide, padded_plain 6 _⟩
  rw [text_eq, clockText]
  simp only [List.forall_mem_append, List.forall_mem_cons]
  exact ⟨⟨padded_plain 2 _, by decide, padded_plain 2 _, by decide, padded_plain 2 _⟩, fraction⟩

end TimeOfDay

namespace Timestamp

theorem text_plain (t : Timestamp) : ∀ c ∈ t.text, c.toNat ≤ 0x7f := by
  simp only [text, List.forall_mem_append, List.forall_mem_cons]
  exact ⟨t.date.text_plain, by decide, t.time.text_plain⟩

def InFourDigits (t : Int) : Prop := Date.InFourDigits (dayOf t)

theorem range_of_inFourDigits (t : Int) (within : InFourDigits t) :
    Date.daysToYear (-262143) * microsPerDay ≤ t ∧ t < Date.daysToYear 262143 * microsPerDay := by
  have positive : (0 : Int) < microsPerDay := by decide
  obtain ⟨first, last⟩ := Date.range_of_inFourDigits (dayOf t) within
  exact ⟨(Int.le_ediv_iff_mul_le positive).mp first, (Int.ediv_lt_iff_lt_mul positive).mp last⟩

end Timestamp

/-! ## Columns -/

namespace Column

/-- Two cells of a type are decoded to strings whose bytes compare as `order` says. -/
def TextsCompare (type : String) (cell cell' : Bytes) (order : Ordering) : Prop :=
  ∀ (name name' : String) (index index' : Nat), ∃ s s' : String,
    (Column.mk name (.builtIn type)).decode index (some cell) = .ok (.string s) ∧
      (Column.mk name' (.builtIn type)).decode index' (some cell') = .ok (.string s') ∧
      compare (Utf8.encodeString s) (Utf8.encodeString s') = order

theorem compare_strings (s t : List Char) (first : ∀ c ∈ s, c.toNat ≤ 0x7f)
    (second : ∀ c ∈ t, c.toNat ≤ 0x7f) :
    compare (Utf8.encodeString (.ofList s)) (Utf8.encodeString (.ofList t)) = compare s t := by
  rw [Utf8.encodeString, Utf8.encodeString, String.toList_ofList, String.toList_ofList,
    Utf8.compare_encode s t first second]

theorem timestamps_compare (t t' : Int) (within : Timestamp.InFourDigits t)
    (within' : Timestamp.InFourDigits t') :
    TextsCompare "TIMESTAMP" (Wire.ofInt t 8) (Wire.ofInt t' 8) (compare t t') ∧
      TextsCompare "TIMESTAMPTZ" (Wire.ofInt t 8) (Wire.ofInt t' 8) (compare t t') := by
  obtain ⟨first, last⟩ := Timestamp.range_of_inFourDigits t within
  obtain ⟨first', last'⟩ := Timestamp.range_of_inFourDigits t' within'
  have sorted : ∀ rest : List Char, Below rest '.' →
      compare ((Timestamp.ofMicros t).text ++ rest) ((Timestamp.ofMicros t').text ++ rest) =
        compare t t' := by
    intro rest below
    exact Timestamp.compare_text t t' rest below (Date.year_of_inFourDigits _ within)
      (Date.year_of_inFourDigits _ within')
  constructor
  · intro name name' index index'
    refine ⟨_, _, (decode_timestamp name index t first last).1,
      (decode_timestamp name' index' t' first' last').1, ?_⟩
    have plain := sorted [] (by simp [Below])
    rw [List.append_nil, List.append_nil] at plain
    rw [compare_strings _ _ (Timestamp.text_plain _) (Timestamp.text_plain _), plain]
  · intro name name' index index'
    refine ⟨_, _, (decode_timestamp name index t first last).2,
      (decode_timestamp name' index' t' first' last').2, ?_⟩
    have offset : ∀ c ∈ "+00:00".toList, c.toNat ≤ 0x7f := by simp
    have zoned : ∀ u : Int, ∀ c ∈ (Timestamp.ofMicros u).text ++ "+00:00".toList,
        c.toNat ≤ 0x7f := by
      intro u
      rw [List.forall_mem_append]
      exact ⟨Timestamp.text_plain _, offset⟩
    have below : Below "+00:00".toList '.' := by
      intro d head
      cases head
      decide
    rw [compare_strings _ _ (zoned t) (zoned t'), sorted _ below]

theorem dates_compare (n n' : Int) (within : Date.InFourDigits n)
    (within' : Date.InFourDigits n') :
    TextsCompare "DATE" (Wire.ofInt n 4) (Wire.ofInt n' 4) (compare n n') := by
  intro name name' index index'
  obtain ⟨first, last⟩ := Date.range_of_inFourDigits n within
  obtain ⟨first', last'⟩ := Date.range_of_inFourDigits n' within'
  refine ⟨_, _, decode_date name index n first last, decode_date name' index' n' first' last', ?_⟩
  have sorted := Date.compare_text _ _ (Date.valid_ofDays n) (Date.valid_ofDays n')
    (Date.year_of_inFourDigits n within) (Date.year_of_inFourDigits n' within') [] []
  rw [List.append_nil, List.append_nil, List.compare_nil_nil, Ordering.then_eq, Date.count_ofDays,
    Date.count_ofDays] at sorted
  rw [compare_strings _ _ (Date.text_plain _) (Date.text_plain _), sorted]

/-- In the years 0 to 9999 the texts of two instants, with a zone or without, and those of two days
compare byte by byte as the instants and the days do, however many places their fractions have. -/
theorem decode_sorts :
    (∀ t t' : Int, Timestamp.InFourDigits t → Timestamp.InFourDigits t' →
        TextsCompare "TIMESTAMP" (Wire.ofInt t 8) (Wire.ofInt t' 8) (compare t t') ∧
          TextsCompare "TIMESTAMPTZ" (Wire.ofInt t 8) (Wire.ofInt t' 8) (compare t t')) ∧
      ∀ n n' : Int, Date.InFourDigits n → Date.InFourDigits n' →
        TextsCompare "DATE" (Wire.ofInt n 4) (Wire.ofInt n' 4) (compare n n') :=
  ⟨timestamps_compare, dates_compare⟩

theorem decode_sorts_places :
    Timestamp.InFourDigits 250000 ∧ Timestamp.InFourDigits 250001 ∧ Date.InFourDigits 59 ∧
      Date.InFourDigits 60 ∧
      TextsCompare "TIMESTAMPTZ" (Wire.ofInt 250000 8) (Wire.ofInt 250001 8) .lt ∧
      TextsCompare "DATE" (Wire.ofInt 60 4) (Wire.ofInt 59 4) .gt := by
  have first : Date.daysToYear 0 = -730485 := by
    rw [Date.daysToYear_eq]
    rfl
  have last : Date.daysToYear 10000 = 2921940 := by
    rw [Date.daysToYear_eq]
    rfl
  have days : ∀ n : Int, 0 ≤ n → n ≤ 60 → Date.InFourDigits n := by
    intro n low high
    rw [Date.InFourDigits, first, last]
    omega
  have milli : Timestamp.InFourDigits 250000 := days _ (by decide) (by decide)
  have micro : Timestamp.InFourDigits 250001 := days _ (by decide) (by decide)
  have leap : Date.InFourDigits 59 := days _ (by decide) (by decide)
  have march : Date.InFourDigits 60 := days _ (by decide) (by decide)
  exact ⟨milli, micro, leap, march, (decode_sorts.1 250000 250001 milli micro).2,
    decode_sorts.2 60 59 march leap⟩

end Column
end PgJson
