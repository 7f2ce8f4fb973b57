import PgJson.Text.Composite
import PgJson.Text.Ranges

/-!
Canonical forms. Of the texts that differ only in whether marks are part of a character, and in the
order of marks that do not meet, one is canonical: marks in the order of their classes, and as many
as possible part of a character.
-/

namespace PgJson.Text

def markClass (c : Char) : Nat := (valueIn? markClasses c).getD 0

/-! ## Syllables of Hangul -/

def syllables : Nat := 0xac00

def leads : Nat := 0x1100

def vowels : Nat := 0x1161

def tails : Nat := 0x11a7

def syllable? (n : Nat) : Option (List Char) :=
  if syllables ≤ n ∧ n < syllables + 19 * 588 then
    let i := n - syllables
    let parts := [leads + i / 588, vowels + i % 588 / 28] ++
      if i % 28 = 0 then [] else [tails + i % 28]
    some (parts.map Char.ofNat)
  else none

def syllableOf? (a b : Nat) : Option Nat :=
  if leads ≤ a ∧ a < leads + 19 ∧ vowels ≤ b ∧ b < vowels + 21 then
    some (syllables + (a - leads) * 588 + (b - vowels) * 28)
  else if syllables ≤ a ∧ a < syllables + 19 * 588 ∧ (a - syllables) % 28 = 0 ∧
      tails < b ∧ b < tails + 28 then some (a + (b - tails))
  else none

/-! ## Taking apart and putting together -/

/-- The parts of a character, where those before it in the order of code points are taken apart in
turn. -/
def parts (n : Nat) : List Char :=
  match syllable? n with
  | some parts => parts
  | none =>
    match composites.find? fun (_, _, whole) => whole == n with
    | some (first, second, _) =>
      (if _h : first < n then parts first else [.ofNat first]) ++ [.ofNat second]
    | none => [.ofNat n]
termination_by n

def place (c : Char) : List Char → List Char
  | [] => [c]
  | d :: rest =>
    if 0 < markClass d ∧ markClass d < markClass c then d :: place c rest else c :: d :: rest

def ordered (s : List Char) : List Char := s.foldr place []

def whole? (a b : Char) : Option Char :=
  match syllableOf? a.toNat b.toNat with
  | some n => some (.ofNat n)
  | none => (composites.find? fun (first, second, _) =>
      first == a.toNat && second == b.toNat).map fun (_, _, n) => .ofNat n

/-- Puts together what follows the character `base` and the `marks` that are not part of it. -/
def together (base : Char) (marks : List Char) : List Char → List Char
  | [] => base :: marks
  | c :: rest =>
    let blocked := marks.getLast?.any fun m => markClass c ≤ markClass m
    match if blocked then none else whole? base c with
    | some whole => together whole marks rest
    | none =>
      if markClass c = 0 then base :: marks ++ together c [] rest
      else together base (marks ++ [c]) rest

def canonical (s : List Char) : List Char :=
  let s := ordered (s.flatMap fun c => parts c.toNat)
  let isFree (c : Char) : Bool := markClass c != 0
  s.takeWhile isFree ++ match s.dropWhile isFree with
    | [] => []
    | c :: rest => together c [] rest

end PgJson.Text
