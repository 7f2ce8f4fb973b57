import PgJson.Text.Digits

namespace PgJson.Punycode

def digit (n : Nat) : Char := if n < 26 then .ofNat (0x61 + n) else .ofNat (0x30 + n - 26)

def shrink (delta : Nat) : Nat × Nat :=
  if delta > 455 then
    let (d, k) := shrink (delta / 35)
    (d, k + 36)
  else (delta, 0)
termination_by delta

def adapt (delta count : Nat) (first : Bool) : Nat :=
  let delta := if first then delta / 700 else delta / 2
  let (delta, k) := shrink (delta + delta / count)
  k + 36 * delta / (delta + 38)

def threshold (k bias : Nat) : Nat := max 1 (min 26 (k - bias))

theorem threshold_bounds (k bias : Nat) : 1 ≤ threshold k bias ∧ threshold k bias ≤ 26 := by
  unfold threshold
  omega

def number (q k bias : Nat) : List Char :=
  let t := threshold k bias
  if _h : q < t then [digit q]
  else digit (t + (q - t) % (36 - t)) :: number ((q - t) / (36 - t)) (k + 36) bias
termination_by q
decreasing_by
  have h := threshold_bounds k bias
  exact Nat.lt_of_le_of_lt (Nat.div_le_self _ _) (by omega)

structure State where
  delta : Nat
  bias : Nat
  written : Nat
  basic : Nat
  output : List Char

/-- Passes once over the label to write each place where the character `n` is inserted. -/
def insertions (n : Nat) (label : List Char) (s : State) : State :=
  label.foldl (fun s c =>
    if c.toNat < n then { s with delta := s.delta + 1 }
    else if c.toNat = n then
      { s with
        delta := 0
        bias := adapt s.delta (s.written + 1) (s.written == s.basic)
        written := s.written + 1
        output := s.output ++ number s.delta 36 s.bias }
    else s) s

def encodeFrom (label : List Char) : (n : Nat) → List Nat → State → State
  | _, [], s => s
  | n, m :: rest, s =>
    let s := { s with delta := s.delta + (m - n) * (s.written + 1) }
    let s := insertions m label s
    encodeFrom label (m + 1) rest { s with delta := s.delta + 1 }

def encode (label : List Char) : List Char :=
  let basic := label.filter (·.toNat < 0x80)
  let others := ((label.map Char.toNat).filter (0x80 ≤ ·)).mergeSort.eraseDups
  let start := if basic = [] then [] else basic ++ ['-']
  (encodeFrom label 0x80 others ⟨0, 72, basic.length, basic.length, start⟩).output

def encodeLimit : Nat := 1000

def decodeLimit : Nat := 2000

def encode? (label : List Char) : Option (List Char) :=
  if label.length ≤ encodeLimit then some (encode label) else none

/-! ## Reading -/

def digitValue? (c : Char) : Option Nat :=
  if c.isLower then some (c.toNat - 0x61)
  else if c.isDigit then some (c.toNat - 0x30 + 26)
  else none

/-- The label so far, the character and the place of the last insertion, and the number that is
being read: its value, the weight of its next digit and that digit's place. -/
structure Reading where
  label : List Char
  point : Nat := 0x80
  place : Nat := 0
  bias : Nat := 72
  value : Nat := 0
  weight : Nat := 1
  k : Nat := 36

def Reading.insert? (r : Reading) : Option Reading :=
  let count := r.label.length + 1
  let steps := r.place + r.value
  let point := r.point + steps / count
  let place := steps % count
  if point.isValidChar then
    some {
      label := r.label.take place ++ .ofNat point :: r.label.drop place
      point
      place := place + 1
      bias := adapt r.value count (r.point == 0x80 && r.place == 0) }
  else none

def Reading.digit? (r : Reading) (c : Char) : Option Reading := do
  let d ← digitValue? c
  let t := threshold r.k r.bias
  let r := { r with value := r.value + d * r.weight }
  if Text.limit32 ≤ r.place + r.value then none
  else if d < t then r.insert?
  else if Text.limit32 ≤ r.weight * (36 - t) then none
  else some { r with weight := r.weight * (36 - t), k := r.k + 36 }

def decode? (s : List Char) : Option (List Char) :=
  let digits := (s.reverse.takeWhile (· != '-')).reverse
  let basic := s.take (s.length - digits.length - 1)
  let digits := if basic = [] then s else digits
  if decodeLimit < s.length then none
  else do
    let r ← digits.foldlM Reading.digit? { label := basic }
    if r.k = 36 then some r.label else none

end PgJson.Punycode
