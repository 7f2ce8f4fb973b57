import PgJson.Number.Binary64

/-!
The shortest decimal that reads back as a given double. Every bound is a whole number of units of
10^-1075, so a decimal grid is the multiples of a power of ten.
-/

namespace PgJson

structure Scientific where
  digits : Nat
  exponent : Int
  deriving DecidableEq, Repr

inductive Tie where
  | toEven
  | up
  deriving DecidableEq, Repr

namespace Shortest

structure Interval where
  low : Nat
  value : Nat
  high : Nat
  closed : Bool
  deriving DecidableEq, Repr

/-- The numbers that round to a magnitude: up to halfway to its neighbours, and the halves too if
its significand is even. -/
def interval (magnitude : Nat) : Interval :=
  let below := Magnitude.units (magnitude - 1)
  let here := Magnitude.units magnitude
  let above := Magnitude.units (magnitude + 1)
  let scale := Nat.pow 5 1075
  ⟨(below + here) * scale, 2 * here * scale, (here + above) * scale, magnitude % 2 == 0⟩

def Interval.holds (i : Interval) (x : Nat) : Bool :=
  if i.closed then i.low ≤ x && x ≤ i.high else i.low < x && x < i.high

def nearer (tie : Tie) (i : Interval) (step q : Nat) : Nat :=
  let down := i.value - q * step
  let up := (q + 1) * step - i.value
  if down < up then q
  else if up < down then q + 1
  else match tie with
    | .toEven => if q % 2 = 0 then q else q + 1
    | .up => q + 1

/-- The multiple of `step` that stands for the value: of those next to it in the interval, the
nearer. -/
def onGrid? (tie : Tie) (i : Interval) (step : Nat) : Option Nat :=
  let q := i.value / step
  match i.holds (q * step), i.holds ((q + 1) * step) with
  | true, true => some (nearer tie i step q)
  | true, false => some q
  | false, true => some (q + 1)
  | false, false => none

/-- Tries the grids from 10^`place` down; on the grid of ones the value itself lies. -/
def search (tie : Tie) (i : Interval) : (place : Nat) → Nat × Nat
  | 0 => ((onGrid? tie i 1).getD i.value, 0)
  | place + 1 =>
    match onGrid? tie i (Nat.pow 10 (place + 1)) with
    | some n => (n, place + 1)
    | none => search tie i place

def ofMagnitude (tie : Tie) (magnitude : Nat) : Scientific :=
  let i := interval magnitude
  let (digits, place) := search tie i (Nat.toDigits 10 i.value).length
  ⟨digits, place - 1075⟩

end Shortest

def Binary64.shortest (tie : Tie) (x : Binary64) : Scientific :=
  if x.isZero then ⟨0, 0⟩ else Shortest.ofMagnitude tie x.magnitude

end PgJson
