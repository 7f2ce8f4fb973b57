import PgJson.Calendar.Date

namespace PgJson

def microsPerDay : Nat := 86400000000

structure TimeOfDay where
  micros : Nat
  micros_lt : micros < microsPerDay
  deriving DecidableEq, Repr

namespace TimeOfDay

def ofMicros (n : Int) : TimeOfDay :=
  ⟨(n % microsPerDay).toNat, by unfold microsPerDay; omega⟩

/-- A fraction of a second: none for 0, three digits for whole milliseconds, else six. -/
def fractionText (micros : Nat) : List Char :=
  if micros = 0 then []
  else if micros % 1000 = 0 then '.' :: Text.padded 3 (micros / 1000)
  else '.' :: Text.padded 6 micros

def text (t : TimeOfDay) : List Char :=
  let seconds := t.micros / 1000000
  Text.padded 2 (seconds / 3600) ++ ':' :: Text.padded 2 (seconds / 60 % 60) ++
    ':' :: Text.padded 2 (seconds % 60) ++ fractionText (t.micros % 1000000)

end TimeOfDay

structure Timestamp where
  date : Date
  time : TimeOfDay
  deriving DecidableEq, Repr

namespace Timestamp

def dayOf (n : Int) : Int := n / microsPerDay

def ofMicros (n : Int) : Timestamp := ⟨.ofDays (dayOf n), .ofMicros n⟩

def text (t : Timestamp) : List Char := t.date.text ++ 'T' :: t.time.text

end Timestamp
end PgJson
