import PgJson.Calendar.Date
import Mathlib.Algebra.BigOperators.Group.Finset.Basic
import Mathlib.Algebra.BigOperators.Intervals
import Mathlib.Tactic.IntervalCases

/-!
Days by the calendar: whole years from 2000 on or back, then whole months, then days. The formulas that
turn a number into a date and back are compared with this count.
-/

namespace PgJson.Date

def yearLength (year : Int) : Nat := if isLeap year then 366 else 365

def daysFrom2000 (n : Nat) : Nat := ∑ i ∈ Finset.range n, yearLength (2000 + i)

def daysUntil2000 (n : Nat) : Nat := ∑ i ∈ Finset.range n, yearLength (1999 - i)

def daysToYear (year : Int) : Int :=
  if 2000 ≤ year then daysFrom2000 (year - 2000).toNat else -daysUntil2000 (2000 - year).toNat

def daysToMonth (year : Int) (month : Nat) : Nat :=
  ∑ i ∈ Finset.range (month - 1), monthLength year (i + 1)

/-- Days from 2000-01-01 to a date. -/
def count (d : Date) : Int := daysToYear d.year + daysToMonth d.year d.month + d.day - 1

/-! ## From a date to its number -/

theorem isLeap_iff (year : Int) :
    isLeap year = true ↔ year % 4 = 0 ∧ (year % 100 ≠ 0 ∨ year % 400 = 0) := by
  simp [isLeap]

theorem yearStart_eq (year : Int) : yearStart year = yearStart (year - 1) + yearLength year := by
  unfold yearStart yearLength
  cases leap : isLeap year with
  | true =>
      have rule := (isLeap_iff year).mp leap
      rw [if_pos rfl]
      omega
  | false =>
      have rule : ¬ (year % 4 = 0 ∧ (year % 100 ≠ 0 ∨ year % 400 = 0)) := by
        rw [← isLeap_iff, leap]
        exact Bool.false_ne_true
      rw [if_neg Bool.false_ne_true]
      omega

theorem daysFrom2000_eq (n : Nat) : (daysFrom2000 n : Int) = yearStart (1999 + n) + 366 := by
  induction n with
  | zero => rfl
  | succ n ih =>
      have onward := yearStart_eq (2000 + n)
      rw [daysFrom2000, Finset.sum_range_succ, ← daysFrom2000, Nat.cast_add, ih]
      rw [show (2000 + n : Int) - 1 = 1999 + n by omega] at onward
      rw [show (1999 + (n + 1 : Nat) : Int) = 2000 + n by omega]
      omega

theorem daysUntil2000_eq (n : Nat) : -(daysUntil2000 n : Int) = yearStart (1999 - n) + 366 := by
  induction n with
  | zero => rfl
  | succ n ih =>
      have onward := yearStart_eq (1999 - n)
      rw [daysUntil2000, Finset.sum_range_succ, ← daysUntil2000, Nat.cast_add, neg_add, ih]
      rw [show (1999 - (n + 1 : Nat) : Int) = 1999 - n - 1 by omega]
      omega

theorem daysToYear_eq (year : Int) : daysToYear year = yearStart (year - 1) + 366 := by
  unfold daysToYear
  split
  · rw [daysFrom2000_eq]
    congr 2
    omega
  · rw [daysUntil2000_eq]
    congr 2
    omega

theorem daysToMonth_early (year : Int) (month : Nat) (first : 1 ≤ month) (last : month ≤ 2) :
    daysToMonth year month + 306 = daysBefore (month + 9) := by
  interval_cases month
  · rfl
  · simp [daysToMonth, monthLength, daysBefore]

theorem daysToMonth_late (year : Int) (month : Nat) (first : 3 ≤ month) (last : month ≤ 12) :
    daysToMonth year month + 365 = yearLength year + 59 + daysBefore (month - 3) := by
  have march : daysToMonth year 3 + 365 = yearLength year + 59 := by
    simp only [daysToMonth, Finset.sum_range_succ, Finset.sum_range_zero, monthLength, yearLength]
    cases isLeap year with
    | true => rfl
    | false => rfl
  have others : ∀ k, daysToMonth year (k + 1 + 1) =
      daysToMonth year (k + 1) + monthLength year (k + 1) := fun k => Finset.sum_range_succ _ k
  interval_cases month
  all_goals
    simp [others, monthLength, daysBefore] at march ⊢
    omega

theorem toDays_eq_count (d : Date) (first : 1 ≤ d.month) (last : d.month ≤ 12) :
    d.toDays = d.count := by
  have start := yearStart_eq d.year
  unfold toDays count
  rw [daysToYear_eq]
  split
  · next early =>
    have month := daysToMonth_early d.year d.month first early
    omega
  · next late =>
    have month := daysToMonth_late d.year d.month (by omega) last
    omega

/-! ## From a number to its date -/

/-- A day of 400 years as centuries, times of four years, years and days. Four years end with a day
365, but those at the end of a century do so in the last century alone. -/
structure Parts (n century four year day : Nat) : Prop where
  century_lt : century < 4
  four_lt : four < 25
  year_lt : year < 4
  day_lt : day < 365 ∨ day = 365 ∧ year = 3 ∧ (four < 24 ∨ century = 3)
  whole : n = 36524 * century + (1461 * four + (365 * year + day))

theorem exists_parts (n : Nat) (inEra : n < 146097) :
    ∃ century four year day, Parts n century four year day := by
  obtain ⟨c, r, centuries, inCentury, rfl⟩ :
      ∃ c r, c < 4 ∧ (r < 36524 ∨ c = 3 ∧ r = 36524) ∧ n = 36524 * c + r := by
    by_cases last : n = 146096
    · exact ⟨3, 36524, by omega, by omega, by omega⟩
    · exact ⟨n / 36524, n % 36524, by omega, by omega, by omega⟩
  obtain ⟨f, r, fours, inFour, rfl⟩ : ∃ f s, f < 25 ∧ s < 1461 ∧ r = 1461 * f + s :=
    ⟨r / 1461, r % 1461, by omega, by omega, by omega⟩
  obtain ⟨y, d, years, inYear, rfl⟩ :
      ∃ y d, y < 4 ∧ (d < 365 ∨ y = 3 ∧ d = 365) ∧ r = 365 * y + d := by
    by_cases last : r = 1460
    · exact ⟨3, 365, by omega, by omega, by omega⟩
    · exact ⟨r / 365, r % 365, by omega, by omega, by omega⟩
  exact ⟨c, f, y, d, centuries, fours, years, by omega, rfl⟩

section

variable {n century four year day : Nat} (p : Parts n century four year day)

include p

theorem Parts.div_century : n / 36524 = century + n / 146096 := by
  obtain ⟨centuries, fours, years, days, rfl⟩ := p
  have inCentury : 1461 * four + (365 * year + day) < 36524 ∨
      century = 3 ∧ 1461 * four + (365 * year + day) = 36524 := by
    rcases days with common | ⟨rfl, rfl, early | last⟩
    · omega
    · omega
    · omega
  generalize 1461 * four + (365 * year + day) = r at inCentury
  rcases inCentury with inside | ⟨rfl, rfl⟩
  · omega
  · rfl

/-- A count of 1460 days for four years is ahead by a day at most. -/
theorem Parts.div_four :
    ∃ ahead, n / 1460 = 25 * century + four + ahead ∧ ahead ≤ day ∧ day < 365 + ahead := by
  obtain ⟨centuries, fours, years, days, rfl⟩ := p
  have split : 36524 * century + (1461 * four + (365 * year + day)) =
      1460 * (25 * century + four) + (24 * century + four + 365 * year + day) := by omega
  rw [split, Nat.mul_add_div (by decide)]
  refine ⟨_, rfl, ?_, ?_⟩
  · omega
  · rcases days with common | ⟨rfl, rfl, _⟩
    · omega
    · omega

theorem Parts.year_eq :
    (n - n / 1460 + n / 36524 - n / 146096) / 365 = 100 * century + 4 * four + year := by
  have centuries := p.div_century
  obtain ⟨ahead, fours, low, high⟩ := p.div_four
  have whole := p.whole
  have days : n - n / 1460 + n / 36524 - n / 146096 =
      365 * (100 * century + 4 * four + year) + (day - ahead) := by omega
  rw [days, Nat.mul_add_div (by decide)]
  omega

theorem Parts.day_eq :
    n - (365 * (100 * century + 4 * four + year) + (100 * century + 4 * four + year) / 4 -
      (100 * century + 4 * four + year) / 100) = day := by
  obtain ⟨_, fours, years, _, rfl⟩ := p
  omega

theorem Parts.yearStart_eq (era : Int) :
    yearStart (2000 + 400 * era + (100 * century + 4 * four + year : Nat)) + day =
      146097 * era + n := by
  obtain ⟨_, fours, years, _, rfl⟩ := p
  unfold yearStart
  omega

theorem Parts.leap (era : Int) : day < 365 ∨ day = 365 ∧
    isLeap (2000 + 400 * era + (100 * century + 4 * four + year : Nat) + 1) = true := by
  obtain ⟨centuries, fours, _, days, _⟩ := p
  rcases days with common | ⟨last, rfl, long⟩
  · exact .inl common
  · refine .inr ⟨last, (isLeap_iff _).mpr ?_⟩
    rcases long with early | rfl
    · omega
    · omega

end

def fromMarch (year : Int) (day : Nat) : Date :=
  let m := (5 * day + 2) / 153
  if m < 10 then ⟨year, m + 3, day - daysBefore m + 1⟩
  else ⟨year + 1, m - 9, day - daysBefore m + 1⟩

theorem toDays_fromMarch (year : Int) (day : Nat) (inYear : day ≤ 365) :
    (fromMarch year day).toDays = yearStart year + day + 60 := by
  have before : daysBefore ((5 * day + 2) / 153) ≤ day := by
    unfold daysBefore
    omega
  unfold fromMarch toDays
  dsimp only
  split
  · next early =>
    rw [if_neg (by dsimp only; omega)]
    dsimp only
    rw [Nat.add_sub_cancel]
    omega
  · next late =>
    rw [if_pos (by dsimp only; omega)]
    dsimp only
    rw [Int.add_sub_cancel, Nat.sub_add_cancel (by omega)]
    omega

theorem daysBefore_succ (year : Int) (m : Nat) (january : m ≤ 10) :
    daysBefore (m + 1) = daysBefore m + monthLength year (if m < 10 then m + 3 else m - 9) := by
  interval_cases m
  all_goals rfl

theorem valid_fromMarch (year : Int) (day : Nat)
    (inYear : day < 365 ∨ day = 365 ∧ isLeap (year + 1) = true) : (fromMarch year day).Valid := by
  obtain ⟨m, month⟩ : ∃ m, m = (5 * day + 2) / 153 := ⟨_, rfl⟩
  have within : m ≤ 11 := by omega
  have passed : daysBefore m ≤ day := by
    unfold daysBefore
    omega
  have ahead : day < daysBefore (m + 1) := by
    unfold daysBefore
    omega
  unfold fromMarch Valid
  rw [← month]
  dsimp only
  split
  · next early =>
    have length := daysBefore_succ year m (by omega)
    rw [if_pos early] at length
    dsimp only
    omega
  · next late =>
    dsimp only
    -- January is never cut short; February ends where the year does.
    rcases Nat.lt_or_ge m 11 with january | february
    · have length := daysBefore_succ (year + 1) m (by omega)
      rw [if_neg late] at length
      omega
    · have last : m = 11 := Nat.le_antisymm within february
      subst last
      have length : monthLength (year + 1) (11 - 9) = if isLeap (year + 1) then 29 else 28 := rfl
      have start : daysBefore 11 = 337 := rfl
      rcases inYear with common | ⟨rfl, leap⟩
      · split at length
        · omega
        · omega
      · rw [if_pos leap] at length
        omega

theorem ofDays_eq (n era : Int) (k century four year day : Nat) (p : Parts k century four year day)
    (split : n - 60 = 146097 * era + k) (inEra : k < 146097) :
    ofDays n = fromMarch (2000 + 400 * era + (100 * century + 4 * four + year : Nat)) day := by
  have quotient : (n - 60) / 146097 = era := by omega
  have rest : ((n - 60) % 146097).toNat = k := by omega
  simp only [ofDays, quotient, rest, p.year_eq, p.day_eq]
  rfl

theorem ofDays_cases (n : Int) : ∃ (year : Int) (day : Nat), ofDays n = fromMarch year day ∧
    (day < 365 ∨ day = 365 ∧ isLeap (year + 1) = true) ∧ yearStart year + day = n - 60 := by
  obtain ⟨k, split, inEra⟩ : ∃ k : Nat, n - 60 = 146097 * ((n - 60) / 146097) + k ∧ k < 146097 :=
    ⟨((n - 60) % 146097).toNat, by omega, by omega⟩
  obtain ⟨century, four, year, day, p⟩ := exists_parts k inEra
  refine ⟨_, day, ofDays_eq n _ k century four year day p split inEra, p.leap _, ?_⟩
  rw [p.yearStart_eq]
  exact split.symm

theorem valid_ofDays (n : Int) : (ofDays n).Valid := by
  obtain ⟨year, day, same, inYear, _⟩ := ofDays_cases n
  rw [same]
  exact valid_fromMarch year day inYear

theorem count_ofDays (n : Int) : (ofDays n).count = n := by
  obtain ⟨first, last, _⟩ := valid_ofDays n
  rw [← toDays_eq_count _ first last]
  obtain ⟨year, day, same, inYear, whole⟩ := ofDays_cases n
  rw [same, toDays_fromMarch year day (by omega)]
  omega

end PgJson.Date
