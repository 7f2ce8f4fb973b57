/-!
Doubles as exact numbers. A finite double is a whole number of units of 2^-1074, and rounding takes
a quotient of such numbers to the nearest double, an exact half to the even one.
-/

namespace PgJson

/-- A double: its sign, and its exponent and fraction read as one number. The order of finite
magnitudes is the order of their values. -/
structure Binary64 where
  negative : Bool
  magnitude : Fin 0x8000000000000000
  deriving DecidableEq, Repr

namespace Magnitude

def fractions : Nat := 0x10000000000000

def infinite : Nat := 2047 * fractions

def units (magnitude : Nat) : Nat :=
  let exponent := magnitude / fractions
  if exponent = 0 then magnitude
  else (fractions + magnitude % fractions) * Nat.pow 2 (exponent - 1)

end Magnitude

def divideToEven (n d : Nat) : Nat :=
  let q := n / d
  let r := n % d
  if 2 * r < d ∨ (2 * r = d ∧ q % 2 = 0) then q else q + 1

namespace Magnitude

/-- The magnitude nearest to `n / d` units. The significand is rounded to 53 bits, and one that
rounds up to 2^53 carries into the exponent. -/
def nearest (n d : Nat) : Nat :=
  let exponent := (n / d).log2 - 52
  min (exponent * fractions + divideToEven n (d * Nat.pow 2 exponent)) infinite

theorem nearest_lt (n d : Nat) : nearest n d < 0x8000000000000000 :=
  Nat.lt_of_le_of_lt (Nat.min_le_right _ _) (by decide)

end Magnitude

namespace Binary64

def signBit : Nat := 0x8000000000000000

def bits (x : Binary64) : Nat := (if x.negative then signBit else 0) + x.magnitude

def ofBits (bits : Nat) : Binary64 :=
  ⟨signBit ≤ bits % (2 * signBit), ⟨bits % signBit, Nat.mod_lt _ (by decide)⟩⟩

def IsFinite (x : Binary64) : Prop := x.magnitude.val < Magnitude.infinite

instance (x : Binary64) : Decidable x.IsFinite := inferInstanceAs (Decidable (_ < _))

def isZero (x : Binary64) : Bool := x.magnitude.val == 0

def units (x : Binary64) : Nat := Magnitude.units x.magnitude

def negate (x : Binary64) : Binary64 := { x with negative := !x.negative }

def zero : Binary64 := ⟨false, 0⟩

def ofUnits (negative : Bool) (n d : Nat) : Binary64 :=
  ⟨negative, ⟨Magnitude.nearest n d, Magnitude.nearest_lt n d⟩⟩

def oneInUnits : Nat := Nat.pow 2 1074

def ofRatio (negative : Bool) (n d : Nat) : Binary64 := ofUnits negative (n * oneInUnits) d

def ofNat (n : Nat) : Binary64 := ofRatio false n 1

def ofInt : Int → Binary64
  | .ofNat n => ofNat n
  | .negSucc n => (ofNat (n + 1)).negate

def mul (x y : Binary64) : Binary64 :=
  ofUnits (x.negative != y.negative) (x.units * y.units) oneInUnits

def div (x y : Binary64) : Binary64 :=
  ofUnits (x.negative != y.negative) (x.units * oneInUnits) y.units

/-- The double with the value of a 32-bit float given by its bits: one unit of a float is 2^-149. -/
def ofBits32 (bits : Nat) : Binary64 :=
  let negative := decide (0x80000000 ≤ bits % 0x100000000)
  let exponent := bits / 0x800000 % 0x100
  let fraction := bits % 0x800000
  let oneInUnits := Nat.pow 2 149
  if exponent = 255 then
    ofBits ((if negative then signBit else 0) + Magnitude.infinite + fraction * 0x20000000)
  else if exponent = 0 then ofRatio negative fraction oneInUnits
  else ofRatio negative ((0x800000 + fraction) * Nat.pow 2 (exponent - 1)) oneInUnits

end Binary64
end PgJson
