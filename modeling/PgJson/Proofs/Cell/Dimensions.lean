import PgJson.Proofs.Cell.Array
import Mathlib.Algebra.BigOperators.Group.List.Basic

namespace PgJson.Cell

structure SentArray where
  flags : Int
  type : Int
  dimensions : List (Nat × Int)
  elements : List (Option Bytes)

namespace SentArray

/-- Four bytes hold each number, and there are as many elements as the dimensions say; an array
without dimensions has none. -/
structure WellFormed (a : SentArray) : Prop where
  dimensions : a.dimensions.length < limit
  lengths : ∀ d ∈ a.dimensions, d.1 < limit
  lowers : ∀ d ∈ a.dimensions, -(limit : Int) ≤ d.2 ∧ d.2 < limit
  count : a.elements.length = if a.dimensions = [] then 0 else (a.dimensions.map Prod.fst).prod
  sizes : ∀ element ∈ a.elements, ∀ bytes ∈ element, bytes.length < limit

def dimensionBytes (d : Nat × Int) : Bytes := Wire.ofInt d.1 4 ++ Wire.ofInt d.2 4

def bytes (a : SentArray) : Bytes :=
  Wire.ofInt a.dimensions.length 4 ++ (Wire.ofInt a.flags 4 ++ (Wire.ofInt a.type 4 ++
    (a.dimensions.flatMap dimensionBytes ++ a.elements.flatMap elementBytes)))

theorem bytes_single (flags type : Int) (elements : List (Option Bytes)) :
    bytes ⟨flags, type, [(elements.length, 1)], elements⟩ = arrayBytes flags type elements := by
  simp [bytes, arrayBytes, dimensionBytes]

end SentArray

theorem array_dimensions (decode : Bytes → Outcome CellError Json) (n : Int) (rest : Bytes)
    (range : -0x80000000 ≤ n ∧ n < 0x80000000) (other : n ≠ 0 ∧ n ≠ 1) :
    array decode (Wire.ofInt n 4 ++ rest) = Outcome.fail (.dimensions n) := by
  have taken := takeInt_ofInt n range.1 range.2 rest
  simp only [array, taken, bind, Except.bind, if_neg other.1, ne_eq, other.2, not_false_eq_true,
    if_true]

theorem array_lowerBound (decode : Bytes → Outcome CellError Json) (flags type : Int)
    (length : Nat) (lower : Int) (rest : Bytes) (few : length < limit)
    (range : -(limit : Int) ≤ lower ∧ lower < limit) (other : lower ≠ 1) :
    array decode (Wire.ofInt 1 4 ++ (Wire.ofInt flags 4 ++ (Wire.ofInt type 4 ++
        (Wire.ofInt length 4 ++ (Wire.ofInt lower 4 ++ rest))))) =
      Outcome.fail (.lowerBound lower) := by
  have bound : length < 0x80000000 := few
  have one : ∀ rest, takeInt (Wire.ofInt 1 4 ++ rest) = .ok (1, rest) :=
    takeInt_ofInt 1 (by decide) (by decide)
  have counts : ∀ rest, takeInt (Wire.ofInt length 4 ++ rest) = .ok ((length : Int), rest) :=
    takeInt_ofInt length (by omega) (by omega)
  have lowest : ∀ rest, takeInt (Wire.ofInt lower 4 ++ rest) = .ok (lower, rest) :=
    takeInt_ofInt lower range.1 range.2
  have counted : ¬ (length : Int) < 0 := by omega
  simp only [array, one, takeInt_append flags, takeInt_append type, counts, lowest, bind,
    Except.bind, if_neg counted, ne_eq, other, not_false_eq_true, if_true]
  rfl

/-- Only arrays of one dimension that starts at 1, and those of none, are decoded. -/
theorem array_bytes (decode : Bytes → Outcome CellError Json) (a : SentArray)
    (wellFormed : a.WellFormed) :
    array decode a.bytes =
      match a.dimensions with
      | [] => .ok []
      | [(_, lower)] =>
        if lower = 1 then a.elements.mapM (element decode)
        else Outcome.fail (.lowerBound lower)
      | dimensions => Outcome.fail (.dimensions dimensions.length) := by
  obtain ⟨flags, type, dimensions, elements⟩ := a
  obtain ⟨few, lengths, lowers, count, sizes⟩ := wellFormed
  match dimensions with
  | [] =>
      have taken := takeInt_ofInt 0 (by decide) (by decide)
      simp only [SentArray.bytes, List.length_nil, Nat.cast_zero, array, taken, bind, Except.bind,
        if_true]
  | [(length, lower)] =>
      have number : length < limit := lengths (length, lower) (List.mem_singleton_self _)
      have range := lowers (length, lower) (List.mem_singleton_self _)
      have same : elements.length = length := by simpa using count
      by_cases first : lower = 1
      · subst first
        subst same
        rw [SentArray.bytes_single, array_arrayBytes decode flags type elements number sizes]
        rfl
      · have refused := array_lowerBound decode flags type length lower
          (elements.flatMap elementBytes) number range first
        simp only [first, if_false, ← refused]
        simp [SentArray.bytes, SentArray.dimensionBytes]
  | d :: e :: rest =>
      have bound : (d :: e :: rest).length < 0x80000000 := few
      have more : 2 ≤ (d :: e :: rest).length := by simp
      exact array_dimensions decode ((d :: e :: rest).length : Nat) _ ⟨by omega, by omega⟩
        ⟨by omega, by omega⟩

end PgJson.Cell
