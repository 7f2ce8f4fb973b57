import PgJson.Calendar.TimeOfDay
import PgJson.Proofs.Calendar.Days
import PgJson.Proofs.Text.Decimal

namespace PgJson

open Text

def Text.Digits (width : Nat) (s : List Char) : Prop := s.length = width ∧ ∀ c ∈ s, c.isDigit

namespace Date

/-- The years 0 to 9999 have four digits. The others have a sign before four digits or more. -/
def YearForm (year : Int) (s : List Char) : Prop :=
  if 0 ≤ year ∧ year ≤ 9999 then Digits 4 s
  else ∃ digits width, s = (if year < 0 then '-' else '+') :: digits ∧ Digits width digits ∧ 4 ≤ width

def Form (d : Date) (s : List Char) : Prop :=
  ∃ year month day, s = year ++ '-' :: (month ++ '-' :: day) ∧ YearForm d.year year ∧
    Digits 2 month ∧ Digits 2 day

def readUnsigned? (sign : Int) (s : List Char) : Option Date :=
  match fields (· == '-') s with
  | [year, month, day] => do
    let d : Date := ⟨sign * (← numeral? year), ← numeral? month, ← numeral? day⟩
    if d.Valid then some d else none
  | _ => none

def read? : List Char → Option Date
  | '-' :: s => readUnsigned? (-1) s
  | '+' :: s => readUnsigned? 1 s
  | s => readUnsigned? 1 s

end Date

namespace TimeOfDay

def Form (s : List Char) : Prop :=
  ∃ hour minute second, s = hour ++ ':' :: (minute ++ ':' :: second) ∧
    Digits 2 hour ∧ Digits 2 minute ∧ Digits 2 second

def FractionForm (s : List Char) : Prop :=
  s = [] ∨ ∃ places width, s = '.' :: places ∧ Digits width places ∧ (width = 3 ∨ width = 6)

def readPlaces? : Option (List Char) → Option Nat
  | none => some 0
  | some places =>
    if places.length ≤ 6 then (numeral? places).map (· * 10 ^ (6 - places.length)) else none

def read? (s : List Char) : Option Nat :=
  match fields (· == ':') s with
  | [hour, minute, second] => do
    let h ← numeral? hour
    let m ← numeral? minute
    let s ← numeral? (cut (· == '.') second).1
    let micros ← readPlaces? (cut (· == '.') second).2
    if h < 24 ∧ m < 60 ∧ s < 60 then some (((h * 60 + m) * 60 + s) * 1000000 + micros) else none
  | _ => none

end TimeOfDay

/-- The microseconds from 2000-01-01T00:00:00 to the date and time of a text. -/
def Timestamp.read? (s : List Char) : Option Int :=
  match cut (· == 'T') s with
  | (date, some time) => do
    let d ← Date.read? date
    let micros ← TimeOfDay.read? time
    return d.count * microsPerDay + micros
  | _ => none

/-! ## Digits -/

namespace Text

theorem digits_padded (width n : Nat) (wide : 0 < width) (small : n < 10 ^ width) :
    Digits width (padded width n) :=
  ⟨length_padded width n wide small, isDigit_of_mem_padded width n⟩

theorem numeral?_padded (width n : Nat) : numeral? (padded width n) = some n := by
  rw [numeral?_digits _ (padded_ne_nil width n) (isDigit_of_mem_padded width n),
    digitsNumber_padded]

theorem padded_ne (width n : Nat) (c : Char) (separator : c.isDigit = false) :
    ∀ x ∈ padded width n, x ≠ c := by
  rintro x member rfl
  rw [isDigit_of_mem_padded width n x member] at separator
  cases separator

end Text

/-! ## Dates -/

namespace Date

theorem yearText_cases (year : Int) :
    ∃ sign : List Char, yearText year = sign ++ padded 4 year.natAbs ∧
      sign = if year < 0 then ['-'] else if 9999 < year then ['+'] else [] := by
  unfold yearText
  split
  · next n =>
    refine ⟨['-'], ?_, (if_pos (by omega)).symm⟩
    rw [Int.natAbs_negSucc]
    rfl
  · next n =>
    rw [Int.ofNat_eq_natCast]
    split
    · next small =>
      refine ⟨[], rfl, ?_⟩
      rw [if_neg (by omega), if_neg (by omega)]
    · next large =>
      refine ⟨['+'], rfl, ?_⟩
      rw [if_neg (by omega), if_pos (by omega)]

theorem yearForm_yearText (year : Int) : YearForm year (yearText year) := by
  obtain ⟨sign, text, chosen⟩ := yearText_cases year
  have least := le_length_padded 4 year.natAbs
  have all := isDigit_of_mem_padded 4 year.natAbs
  unfold YearForm
  rw [text, chosen]
  split
  · next plain =>
    rw [if_neg (by omega), if_neg (by omega)]
    exact digits_padded 4 _ (by decide) (by omega)
  · next signed =>
    refine ⟨padded 4 year.natAbs, _, ?_, ⟨rfl, all⟩, least⟩
    split
    · rfl
    · rw [if_pos (by omega)]
      rfl

theorem valid_bounds (d : Date) (valid : d.Valid) : d.month < 100 ∧ d.day < 100 := by
  obtain ⟨_, last, _, within⟩ := valid
  have short : monthLength d.year d.month ≤ 31 := by
    unfold monthLength
    split
    · split
      · decide
      · decide
    · split
      · decide
      · decide
  omega

theorem text_eq (d : Date) :
    d.text = yearText d.year ++ '-' :: (padded 2 d.month ++ '-' :: padded 2 d.day) :=
  List.append_assoc ..

theorem form_text (d : Date) (valid : d.Valid) : d.Form d.text := by
  obtain ⟨month, day⟩ := valid_bounds d valid
  exact ⟨_, _, _, d.text_eq, yearForm_yearText d.year, digits_padded 2 _ (by decide) month,
    digits_padded 2 _ (by decide) day⟩

theorem readUnsigned?_text (sign : Int) (year month day : Nat)
    (valid : Valid ⟨sign * year, month, day⟩) :
    readUnsigned? sign (padded 4 year ++ '-' :: (padded 2 month ++ '-' :: padded 2 day)) =
      some ⟨sign * year, month, day⟩ := by
  have separated : fields (· == '-')
      (padded 4 year ++ '-' :: (padded 2 month ++ '-' :: padded 2 day)) =
        [padded 4 year, padded 2 month, padded 2 day] := by
    rw [fields_separator '-' _ _ (padded_ne 4 year '-' rfl),
      fields_separator '-' _ _ (padded_ne 2 month '-' rfl),
      fields_single '-' _ (padded_ne 2 day '-' rfl)]
  rw [readUnsigned?, separated]
  dsimp only
  rw [numeral?_padded 4 year, numeral?_padded 2 month, numeral?_padded 2 day]
  exact if_pos valid

theorem read?_digit (c : Char) (s : List Char) (digit : c.isDigit) :
    read? (c :: s) = readUnsigned? 1 (c :: s) := by
  unfold read?
  split
  · next same =>
    cases same
    exact absurd digit (by decide)
  · next same =>
    cases same
    exact absurd digit (by decide)
  · rfl

theorem read?_text (d : Date) (valid : d.Valid) : read? d.text = some d := by
  obtain ⟨year, month, day⟩ := d
  obtain ⟨sign, text, chosen⟩ := yearText_cases year
  rw [text_eq]
  dsimp only
  rw [text, chosen]
  by_cases before : year < 0
  · have same : -1 * (year.natAbs : Int) = year := by omega
    rw [if_pos before]
    show readUnsigned? (-1) (padded 4 year.natAbs ++ _) = _
    rw [readUnsigned?_text (-1) year.natAbs month day (same.symm ▸ valid), same]
  · have same : 1 * (year.natAbs : Int) = year := by omega
    have whole := readUnsigned?_text 1 year.natAbs month day (same.symm ▸ valid)
    rw [if_neg before]
    split
    · show readUnsigned? 1 (padded 4 year.natAbs ++ _) = _
      rw [whole, same]
    · obtain ⟨c, digits, written⟩ := List.exists_cons_of_ne_nil (padded_ne_nil 4 year.natAbs)
      have digit := isDigit_of_mem_padded 4 year.natAbs c (written ▸ List.mem_cons_self ..)
      rw [written] at whole ⊢
      rw [List.nil_append, List.cons_append, read?_digit c _ digit, ← List.cons_append, whole, same]

end Date

/-! ## Times of day and instants -/

namespace TimeOfDay

def clockText (t : TimeOfDay) : List Char :=
  padded 2 (t.micros / 3600000000) ++ ':' :: (padded 2 (t.micros / 60000000 % 60) ++
    ':' :: padded 2 (t.micros / 1000000 % 60))

theorem text_eq (t : TimeOfDay) :
    t.text = t.clockText ++ fractionText (t.micros % 1000000) := by
  have hours : t.micros / 1000000 / 3600 = t.micros / 3600000000 := Nat.div_div_eq_div_mul ..
  have minutes : t.micros / 1000000 / 60 = t.micros / 60000000 := Nat.div_div_eq_div_mul ..
  simp only [text, clockText, hours, minutes, List.append_assoc, List.cons_append]

theorem form_clockText (t : TimeOfDay) : Form t.clockText := by
  have inDay : t.micros < 86400000000 := t.micros_lt
  refine ⟨_, _, _, rfl, ?_, ?_, ?_⟩
  · exact digits_padded 2 _ (by decide) (by omega)
  · exact digits_padded 2 _ (by decide) (by omega)
  · exact digits_padded 2 _ (by decide) (by omega)

theorem fractionText_eq_nil_iff (micros : Nat) : fractionText micros = [] ↔ micros = 0 := by
  unfold fractionText
  split
  · next whole => exact ⟨fun _ => whole, fun _ => rfl⟩
  · next part =>
    split
    · exact ⟨(nomatch ·), fun whole => absurd whole part⟩
    · exact ⟨(nomatch ·), fun whole => absurd whole part⟩

theorem form_fractionText (micros : Nat) (small : micros < 1000000) :
    FractionForm (fractionText micros) := by
  unfold fractionText
  split
  · exact .inl rfl
  · split
    · exact .inr ⟨_, 3, rfl, digits_padded 3 _ (by decide) (by omega), .inl rfl⟩
    · exact .inr ⟨_, 6, rfl, digits_padded 6 _ (by decide) (by omega), .inr rfl⟩

theorem readPlaces?_padded (width n : Nat) (wide : 0 < width) (within : width ≤ 6)
    (small : n < 10 ^ width) :
    readPlaces? (some (padded width n)) = some (n * 10 ^ (6 - width)) := by
  rw [readPlaces?, length_padded width n wide small, if_pos within, numeral?_padded width n]
  rfl

theorem read_second (second micros : Nat) (small : micros < 1000000) :
    numeral? (cut (· == '.') (padded 2 second ++ fractionText micros)).1 = some second ∧
      readPlaces? (cut (· == '.') (padded 2 second ++ fractionText micros)).2 = some micros := by
  have points := padded_ne 2 second '.' rfl
  have whole := numeral?_padded 2 second
  unfold fractionText
  split
  · next zero =>
    rw [List.append_nil, cut_none '.' _ points, zero]
    exact ⟨whole, rfl⟩
  · split
    · next millis =>
      rw [cut_separator '.' _ _ points]
      refine ⟨whole, ?_⟩
      rw [readPlaces?_padded 3 _ (by decide) (by decide) (by omega)]
      congr 1
      omega
    · rw [cut_separator '.' _ _ points]
      refine ⟨whole, ?_⟩
      rw [readPlaces?_padded 6 _ (by decide) (by decide) small, Nat.sub_self, pow_zero, Nat.mul_one]

theorem fractionText_ne (micros : Nat) (c : Char) (separator : c.isDigit = false)
    (other : c ≠ '.') : ∀ x ∈ fractionText micros, x ≠ c := by
  unfold fractionText
  split
  · exact nofun
  · split
    · rw [List.forall_mem_cons]
      exact ⟨other.symm, padded_ne 3 _ c separator⟩
    · rw [List.forall_mem_cons]
      exact ⟨other.symm, padded_ne 6 _ c separator⟩

theorem read?_text (t : TimeOfDay) : read? t.text = some t.micros := by
  have inDay : t.micros < 86400000000 := t.micros_lt
  obtain ⟨whole, fraction⟩ := read_second (t.micros / 1000000 % 60) (t.micros % 1000000) (by omega)
  have colons : ∀ x ∈ padded 2 (t.micros / 1000000 % 60) ++ fractionText (t.micros % 1000000),
      x ≠ ':' := by
    intro x member
    rcases List.mem_append.mp member with front | back
    · exact padded_ne 2 _ ':' rfl x front
    · exact fractionText_ne _ ':' rfl (by decide) x back
  have separated : fields (· == ':') t.text =
      [padded 2 (t.micros / 3600000000), padded 2 (t.micros / 60000000 % 60),
        padded 2 (t.micros / 1000000 % 60) ++ fractionText (t.micros % 1000000)] := by
    rw [text_eq, clockText, List.append_assoc, List.cons_append, List.append_assoc,
      List.cons_append, fields_separator ':' _ _ (padded_ne 2 _ ':' rfl),
      fields_separator ':' _ _ (padded_ne 2 _ ':' rfl), fields_single ':' _ colons]
  rw [read?, separated]
  dsimp only
  rw [numeral?_padded 2 _, numeral?_padded 2 _, whole, fraction]
  show (if _ then some _ else none) = _
  rw [if_pos (by omega)]
  congr 1
  omega

end TimeOfDay

namespace Timestamp

theorem date_text_ne (d : Date) : ∀ x ∈ d.text, x ≠ 'T' := by
  obtain ⟨sign, year, chosen⟩ := Date.yearText_cases d.year
  have signs : ∀ x ∈ sign, x ≠ 'T' := by
    rw [chosen]
    split
    · simp
    · split
      · simp
      · simp
  rw [Date.text_eq, year]
  simp only [List.forall_mem_append, List.forall_mem_cons]
  exact ⟨⟨signs, padded_ne 4 _ 'T' rfl⟩, by decide, padded_ne 2 _ 'T' rfl, by decide,
    padded_ne 2 _ 'T' rfl⟩

theorem read?_text (n : Int) : read? (ofMicros n).text = some n := by
  have date := Date.read?_text (.ofDays (dayOf n)) (Date.valid_ofDays _)
  have time := TimeOfDay.read?_text (.ofMicros n)
  have rest : ((TimeOfDay.ofMicros n).micros : Int) = n % microsPerDay :=
    Int.toNat_of_nonneg (Int.emod_nonneg _ (by decide))
  rw [read?, text, cut_separator 'T' _ _ (date_text_ne _)]
  dsimp only [ofMicros]
  rw [date, time]
  show some (_ * (microsPerDay : Int) + _) = _
  rw [Date.count_ofDays, rest, dayOf, Int.ediv_mul_add_emod]

end Timestamp
end PgJson
