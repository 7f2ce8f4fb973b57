import PgJson.Cell.Array
import PgJson.Proofs.Wire.Bytes
import Mathlib.Data.List.Forall2

namespace PgJson.Cell

def elementBytes : Option Bytes → Bytes
  | none => Wire.ofInt (-1) 4
  | some bytes => Wire.ofInt bytes.length 4 ++ bytes

def arrayBytes (flags type : Int) (cells : List (Option Bytes)) : Bytes :=
  Wire.ofInt 1 4 ++ (Wire.ofInt flags 4 ++ (Wire.ofInt type 4 ++ (Wire.ofInt cells.length 4 ++
    (Wire.ofInt 1 4 ++ cells.flatMap elementBytes))))

def limit : Nat := 0x80000000

def element (decode : Bytes → Outcome CellError Json) : Option Bytes → Outcome CellError Json
  | none => .ok .null
  | some bytes => decode bytes

theorem takeInt_append (n : Int) (rest : Bytes) :
    takeInt (Wire.ofInt n 4 ++ rest) = .ok (Wire.signed (Wire.ofInt n 4), rest) := by
  have size : (Wire.ofInt n 4).length = 4 := Wire.length_ofNat _ _
  have taken := Wire.split?_append (Wire.ofInt n 4) rest
  rw [size] at taken
  rw [takeInt, taken]
  rfl

theorem takeInt_ofInt (n : Int) (low : -0x80000000 ≤ n) (high : n < 0x80000000) (rest : Bytes) :
    takeInt (Wire.ofInt n 4 ++ rest) = .ok (n, rest) := by
  have value : Wire.signed (Wire.ofInt n 4) = n :=
    Wire.signed_ofInt n 4 (by norm_num; omega) (by norm_num; omega)
  rw [takeInt_append, value]

theorem takeElement_elementBytes (cell : Option Bytes) (rest : Bytes)
    (short : ∀ bytes ∈ cell, bytes.length < limit) :
    takeElement (elementBytes cell ++ rest) = .ok (cell, rest) := by
  cases cell with
  | none =>
      have size := takeInt_ofInt (-1) (by decide) (by decide) rest
      simp only [takeElement, elementBytes, size, bind, Except.bind, if_true]
  | some bytes =>
      have bound : bytes.length < 0x80000000 := short bytes rfl
      have size := takeInt_ofInt bytes.length (by omega) (by omega) (bytes ++ rest)
      have taken := Wire.split?_append bytes rest
      have present : ¬ (bytes.length : Int) = -1 := by omega
      have counted : ¬ (bytes.length : Int) < 0 := by omega
      simp only [takeElement, elementBytes, List.append_assoc, size, bind, Except.bind,
        if_neg present, if_neg counted, Int.toNat_natCast, taken]
      rfl

theorem elements_succ (decode : Bytes → Outcome CellError Json) (count : Nat) (bytes : Bytes) :
    elements decode (count + 1) bytes = (do
      let (cell, rest) ← takeElement bytes
      let value ← element decode cell
      let values ← elements decode count rest
      .ok (value :: values)) := by
  rw [elements]
  cases takeElement bytes with
  | error failure => rfl
  | ok taken =>
      obtain ⟨cell, rest⟩ := taken
      cases cell with
      | none => rfl
      | some bytes => rfl

theorem elements_flatMap (decode : Bytes → Outcome CellError Json) (cells : List (Option Bytes))
    (short : ∀ cell ∈ cells, ∀ bytes ∈ cell, bytes.length < limit) :
    elements decode cells.length (cells.flatMap elementBytes) = cells.mapM (element decode) := by
  induction cells with
  | nil => rfl
  | cons cell cells ih =>
      have taken := takeElement_elementBytes cell (cells.flatMap elementBytes)
        (short cell (List.mem_cons_self ..))
      have others := ih fun other member => short other (List.mem_cons_of_mem _ member)
      rw [List.length_cons, List.flatMap_cons, elements_succ, taken, List.mapM_cons, ← others]
      rfl

/-- An array is decoded element by element, and fails where the first of them does. -/
theorem array_arrayBytes (decode : Bytes → Outcome CellError Json) (flags type : Int)
    (cells : List (Option Bytes)) (few : cells.length < limit)
    (short : ∀ cell ∈ cells, ∀ bytes ∈ cell, bytes.length < limit) :
    array decode (arrayBytes flags type cells) = cells.mapM (element decode) := by
  have bound : cells.length < 0x80000000 := few
  have one : ∀ rest, takeInt (Wire.ofInt 1 4 ++ rest) = .ok (1, rest) :=
    takeInt_ofInt 1 (by decide) (by decide)
  have length : ∀ rest, takeInt (Wire.ofInt cells.length 4 ++ rest) = .ok (cells.length, rest) :=
    takeInt_ofInt cells.length (by omega) (by omega)
  have counted : ¬ (cells.length : Int) < 0 := by omega
  simp only [array, arrayBytes, one, takeInt_append flags, takeInt_append type, length, bind,
    Except.bind, if_neg counted, Int.toNat_natCast]
  exact elements_flatMap decode cells short

end PgJson.Cell
