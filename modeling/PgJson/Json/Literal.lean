import PgJson.Json.Basic
import PgJson.Text.Digits

/-!
The value of a number literal. Its digits are gathered into a significand of 64 bits; what no longer
fits is dropped, and counted if it stands before the point. The significand is then rounded to a
double and multiplied or divided by a power of ten, rounding once more. So a literal of many digits
can differ from its nearest double in the last place.
-/

namespace PgJson
namespace Json

structure Literal where
  negative : Bool
  whole : List Nat
  fraction : Option (List Nat)
  exponent : Option (Bool × List Nat)
  deriving DecidableEq, Repr

namespace Literal

/-- Takes digits in while the significand fits 64 bits; gives back those left over. -/
def gather (significand : Nat) : List Nat → Nat × List Nat
  | [] => (significand, [])
  | d :: rest =>
    if significand * 10 + d < Text.limit64 then gather (significand * 10 + d) rest
    else (significand, d :: rest)

def digits (ds : List Nat) : Nat := ds.foldl (fun n d => n * 10 + d) 0

def power (n : Nat) : Binary64 := Binary64.ofNat (Nat.pow 10 n)

/-- `x / 10 ^ n`, dividing by at most 10^308 at a time; nothing is left of 64 bits after two such
divisions. -/
def scaleDown (x : Binary64) (n : Nat) : Binary64 :=
  if n ≤ 308 then x.div (power n)
  else if n ≤ 616 then (x.div (power 308)).div (power (n - 308))
  else Binary64.zero

def scale? (significand : Nat) : Int → Option Binary64
  | .ofNat n =>
    let x := Binary64.ofNat significand
    if n ≤ 308 then
      let y := x.mul (power n)
      if y.IsFinite then some y else none
    else if x.isZero then some x else none
  | .negSucc n => some (scaleDown (Binary64.ofNat significand) (n + 1))

def scaled (l : Literal) : Nat × Int :=
  let (significand, dropped) := gather 0 l.whole
  let (significand, places) :=
    match l.fraction with
    | some ds =>
      let (significand, rest) := gather significand ds
      (significand, ds.length - rest.length)
    | none => (significand, 0)
  let exponent : Int := match l.exponent with
    | none => 0
    | some (false, ds) => digits ds
    | some (true, ds) => -digits ds
  (significand, (dropped.length : Int) - places + exponent)

def signed (negative : Bool) (x : Binary64) : Binary64 := if negative then x.negate else x

def float? (l : Literal) : Option Number :=
  (scale? l.scaled.1 l.scaled.2).bind fun x =>
    let y := signed l.negative x
    if h : y.IsFinite then some (.float y h) else none

/-- The value of a literal: an integer if it has digits only and 64 bits hold it, else a double;
`none` if that would be infinite. A minus before zero makes a double. -/
def value? (l : Literal) : Option Number :=
  if l.fraction.isNone ∧ l.exponent.isNone then
    let n : Int := if l.negative then -digits l.whole else digits l.whole
    if h : (-0x8000000000000000 ≤ n ∧ n < 0x10000000000000000) ∧ ¬(l.negative ∧ n = 0) then
      some (.integer n h.1)
    else l.float?
  else l.float?

/-- How many digits of an exponent are read until it passes 32 bits, `none` if it never does. -/
def exponentLimit? (value count : Nat) : List Nat → Option Nat
  | [] => none
  | d :: rest =>
    if value * 10 + d < 0x80000000 then exponentLimit? (value * 10 + d) (count + 1) rest
    else some (count + 1)

end Literal
end Json
end PgJson
