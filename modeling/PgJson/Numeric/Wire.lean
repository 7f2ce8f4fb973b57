import PgJson.Cell.Error
import PgJson.Numeric.Decimal
import PgJson.Wire.Bytes

/-!
NUMERIC values: a count of base-10000 digits, the power of 10000 of the first, a sign and a display
scale, two bytes each, then the digits. The digits are summed up one by one in a decimal of 96 bits,
which may have to drop places on the way.
-/

namespace PgJson
namespace Numeric

structure Sent where
  weight : Int
  sign : Nat
  scale : Int
  digits : List Int
  deriving DecidableEq, Repr

def nan : Nat := 0xc000

structure Sum where
  mantissa : Int
  scale : Nat
  deriving DecidableEq, Repr

/-- Drops the fewest places after which the mantissa fits 96 bits, rounding a half to even. -/
def Sum.fit? (s : Sum) : Option Sum :=
  let rounded k := divideToEven s.mantissa.natAbs (Nat.pow 10 k)
  match (List.range (s.scale + 1)).find? (fun k => rounded k < Decimal.limit) with
  | some k => some ⟨s.mantissa.sign * rounded k, s.scale - k⟩
  | none => none

def Sum.add? (a b : Sum) : Option Sum :=
  if b.mantissa = 0 then some a
  else if a.mantissa = 0 then some b
  else
    let scale := max a.scale b.scale
    Sum.fit? ⟨a.mantissa * Nat.pow 10 (scale - a.scale) + b.mantissa * Nat.pow 10 (scale - b.scale),
      scale⟩

def part (digit weight : Int) : Sum :=
  match weight with
  | .ofNat n => ⟨digit * Nat.pow 10000 n, 0⟩
  | .negSucc n => ⟨digit, 4 * (n + 1)⟩

/-- Adds up digits of falling weight. A weight whose power of ten a decimal cannot hold is an error,
a digit too large for its weight a crash. -/
def sum (total : Sum) (weight : Int) : List Int → Outcome CellError Sum
  | [] => .ok total
  | digit :: rest =>
    if 8 ≤ weight ∨ weight ≤ -8 then Outcome.fail .numericTooWide
    else
      let p := part digit weight
      if Decimal.limit ≤ p.mantissa.natAbs then Outcome.crash
      else match total.add? p with
        | none => Outcome.fail .numericTooWide
        | some total => sum total (weight - 1) rest

def Sum.rescale (s : Sum) (scale : Nat) : Sum :=
  if s.scale ≤ scale then s
  else
    let unit := Nat.pow 10 (s.scale - scale)
    ⟨s.mantissa.sign * ((2 * s.mantissa.natAbs + unit) / (2 * unit) : Nat), scale⟩

def Sent.toDecimal (n : Sent) : Outcome CellError Decimal :=
  if n.sign = nan then Outcome.fail .notANumber
  else if n.sign ≠ 0 ∧ n.sign ≠ 0x4000 then Outcome.fail (.numericSign n.sign)
  else if n.digits = [] then .ok .zero
  else if n.scale < 0 then Outcome.fail (.numericScale n.scale)
  else do
    let total ← sum ⟨0, 0⟩ n.weight n.digits
    let total := total.rescale n.scale.toNat
    match Decimal.ofParts? (n.sign != 0) total.mantissa.natAbs total.scale with
    | some d => .ok d
    | none => Outcome.fail .numericTooWide

def digitsOf : (count : Nat) → Bytes → Option (List Int)
  | 0, _ => some []
  | count + 1, a :: b :: rest => (Wire.signed [a, b] :: ·) <$> digitsOf count rest
  | _ + 1, _ => none

def Sent.ofBytes? : Bytes → Option Sent
  | c₁ :: c₂ :: w₁ :: w₂ :: s₁ :: s₂ :: d₁ :: d₂ :: rest =>
    let sign := Wire.unsigned [s₁, s₂]
    let count := if sign = nan then 0 else Wire.unsigned [c₁, c₂]
    (⟨Wire.signed [w₁, w₂], sign, Wire.signed [d₁, d₂], ·⟩) <$> digitsOf count rest
  | _ => none

def decode (bytes : Bytes) : Outcome CellError Decimal := do
  let sent ← Outcome.orCrash (Sent.ofBytes? bytes)
  sent.toDecimal

end Numeric
end PgJson
