import PgJson.Text.Digits
import PgJson.Text.Fields

namespace PgJson.Address

open Text

def octet? (s : List Char) : Option Nat :=
  if s = [] ∨ 3 < s.length ∨ (1 < s.length ∧ s.head? = some '0') then none
  else (digitsValue? s).filter (· < 256)

def v4? (s : List Char) : Option (List Nat) :=
  let octets := fields (· == '.') s
  if octets.length = 4 then octets.mapM octet? else none

def group? (s : List Char) : Option Nat :=
  if s = [] ∨ 4 < s.length then none
  else s.foldlM (fun n c => (hexValue? c).map (n * 16 + ·)) 0

/-- Groups between colons; the last may be a version 4 address, which counts for two. -/
def groups? (allowV4 : Bool) : List (List Char) → Option (List Nat)
  | [] => some []
  | [last] =>
    match allowV4, v4? last with
    | true, some [a, b, c, d] => some [a * 256 + b, c * 256 + d]
    | _, _ => (group? last).map ([·])
  | g :: rest => do
    let n ← group? g
    let ns ← groups? allowV4 rest
    some (n :: ns)

def side? (allowV4 : Bool) (s : List Char) : Option (List Nat) :=
  if s = [] then some [] else groups? allowV4 (fields (· == ':') s)

def splitDouble : List Char → Option (List Char × List Char)
  | ':' :: ':' :: rest => some ([], rest)
  | c :: rest => (splitDouble rest).map fun (left, right) => (c :: left, right)
  | [] => none

def v6? (s : List Char) : Option (List Nat) :=
  match splitDouble s with
  | none => if s = [] then none else (side? true s).filter (·.length = 8)
  | some (left, right) => do
    let left ← side? false left
    let right ← side? true right
    if left.length + right.length ≤ 7 then
      some (left ++ List.replicate (8 - left.length - right.length) 0 ++ right)
    else none

def isAddress (s : List Char) : Bool := (v4? s).isSome || (v6? s).isSome

def v4Text (octets : List Nat) : List Char := joined ['.'] (octets.map decimal)

def hexGroups (groups : List Nat) : List Char := joined [':'] (groups.map (Nat.toDigits 16))

def zeros (groups : List Nat) : Nat := (groups.takeWhile (· == 0)).length

def longestZeros : (place : Nat) → List Nat → Nat × Nat
  | place, [] => (place, 0)
  | place, g :: rest =>
    let later := longestZeros (place + 1) rest
    if later.2 ≤ zeros (g :: rest) then (place, zeros (g :: rest)) else later

/-- The first longest run of at least two zero groups is left out between two colons. -/
def v6Text (groups : List Nat) : List Char :=
  let (place, length) := longestZeros 0 groups
  if length < 2 then hexGroups groups
  else hexGroups (groups.take place) ++ ':' :: ':' :: hexGroups (groups.drop (place + length))

end PgJson.Address
