import PgJson.Text.Digits

/-!
Days of the proleptic Gregorian calendar, counted from 2000-01-01. The year is taken to start in
March, so that the leap day is its last and 400 years repeat with a period of 146097 days.
-/

namespace PgJson

structure Date where
  year : Int
  month : Nat
  day : Nat
  deriving DecidableEq, Repr

namespace Date

def isLeap (year : Int) : Bool := year % 4 == 0 && (year % 100 != 0 || year % 400 == 0)

def monthLength (year : Int) (month : Nat) : Nat :=
  if month = 2 then if isLeap year then 29 else 28
  else if month = 4 ∨ month = 6 ∨ month = 9 ∨ month = 11 then 30
  else 31

def Valid (d : Date) : Prop :=
  1 ≤ d.month ∧ d.month ≤ 12 ∧ 1 ≤ d.day ∧ d.day ≤ monthLength d.year d.month

instance (d : Date) : Decidable d.Valid := inferInstanceAs (Decidable (_ ∧ _))

def daysBefore (m : Nat) : Nat := (153 * m + 2) / 5

def yearStart (year : Int) : Int :=
  365 * (year - 2000) + (year - 2000) / 4 - (year - 2000) / 100 + (year - 2000) / 400

/-- The number of a day; 2000-01-01 is day 0, and March 1, 2000 day 60. -/
def toDays (d : Date) : Int :=
  if d.month ≤ 2 then yearStart (d.year - 1) + daysBefore (d.month + 9) + d.day + 59
  else yearStart d.year + daysBefore (d.month - 3) + d.day + 59

def ofDays (n : Int) : Date :=
  let era := (n - 60) / 146097
  let dayOfEra := ((n - 60) % 146097).toNat
  let yearOfEra := (dayOfEra - dayOfEra / 1460 + dayOfEra / 36524 - dayOfEra / 146096) / 365
  let dayOfYear := dayOfEra - (365 * yearOfEra + yearOfEra / 4 - yearOfEra / 100)
  let m := (5 * dayOfYear + 2) / 153
  let year := 2000 + 400 * era + yearOfEra
  let day := dayOfYear - daysBefore m + 1
  if m < 10 then ⟨year, m + 3, day⟩ else ⟨year + 1, m - 9, day⟩

/-- Four digits, with a sign outside the years 0 to 9999. -/
def yearText (year : Int) : List Char :=
  match year with
  | .negSucc n => '-' :: Text.padded 4 (n + 1)
  | .ofNat n => if n ≤ 9999 then Text.padded 4 n else '+' :: Text.padded 4 n

def text (d : Date) : List Char :=
  yearText d.year ++ '-' :: Text.padded 2 d.month ++ '-' :: Text.padded 2 d.day

def firstDay : Int := toDays ⟨-262143, 1, 1⟩

def lastDay : Int := toDays ⟨262142, 12, 31⟩

end Date
end PgJson
