import PgJson.Json.Basic
import PgJson.Number.Layout

namespace PgJson

def Decimal.limit : Nat := 0x1000000000000000000000000

structure Decimal where
  negative : Bool
  coefficient : Nat
  scale : Nat
  coefficient_lt : coefficient < Decimal.limit
  scale_le : scale ≤ 28
  deriving DecidableEq, Repr

namespace Decimal

def zero : Decimal := ⟨false, 0, 0, by decide, by decide⟩

def ofParts? (negative : Bool) (coefficient scale : Nat) : Option Decimal :=
  if h : coefficient < Decimal.limit ∧ scale ≤ 28 then some ⟨negative, coefficient, scale, h.1, h.2⟩
  else none

def reduce (coefficient : Nat) : (scale : Nat) → Nat × Nat
  | 0 => (coefficient, 0)
  | scale + 1 =>
    if coefficient % 10 = 0 then reduce (coefficient / 10) scale else (coefficient, scale + 1)

theorem reduce_le (coefficient scale : Nat) :
    (reduce coefficient scale).1 ≤ coefficient ∧ (reduce coefficient scale).2 ≤ scale := by
  induction scale generalizing coefficient with
  | zero => simp [reduce]
  | succ scale ih =>
    simp only [reduce]
    split
    · have h := ih (coefficient / 10)
      omega
    · simp

def normalize (d : Decimal) : Decimal :=
  let reduced := reduce d.coefficient d.scale
  have h := reduce_le d.coefficient d.scale
  ⟨d.negative && d.coefficient != 0, reduced.1, reduced.2,
    Nat.lt_of_le_of_lt h.1 d.coefficient_lt, Nat.le_trans h.2 d.scale_le⟩

def text (d : Decimal) : List Char :=
  (if d.negative then ['-'] else []) ++ Scientific.plain ⟨d.coefficient, -d.scale⟩

def toInt? (d : Decimal) : Option Int :=
  if d.scale = 0 then some (if d.negative then -d.coefficient else d.coefficient) else none

def toDouble (d : Decimal) : Binary64 := .ofRatio d.negative d.coefficient (Nat.pow 10 d.scale)

/-- An integer of 64 bits if the number is one, else the double that prints as exactly this number,
else its text. -/
def toJson (d : Decimal) : Json :=
  let d := d.normalize
  let asText : Json :=
    let x := d.toDouble
    if x.IsFinite ∧ x.plainText = d.text then .ofDouble x else .string (.ofList d.text)
  match d.toInt? with
  | some n => if -0x8000000000000000 ≤ n ∧ n < 0x8000000000000000 then .ofInt n else asText
  | none => asText

end Decimal
end PgJson
