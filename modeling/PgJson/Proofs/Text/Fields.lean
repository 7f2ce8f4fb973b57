import PgJson.Text.Fields
import Mathlib.Data.List.TakeWhile

namespace PgJson.Text

theorem joined_flatMap {α : Type} (separator piece : List α) (pieces : List (List α)) :
    joined separator (piece :: pieces) = piece ++ pieces.flatMap (separator ++ ·) := by
  induction pieces generalizing piece with
  | nil => simp [joined]
  | cons next pieces ih =>
      show piece ++ separator ++ joined separator (next :: pieces) = _
      rw [ih next, List.flatMap_cons]
      simp

theorem joined_cons (separator : Char) (piece : List Char) (pieces : List (List Char)) :
    joined [separator] (piece :: pieces) = piece ++ pieces.flatMap (separator :: ·) :=
  joined_flatMap [separator] piece pieces

variable {α : Type} [BEq α] [LawfulBEq α]

theorem cut_separator (c : α) (front rest : List α) (passed : ∀ x ∈ front, x ≠ c) :
    cut (· == c) (front ++ c :: rest) = (front, some rest) := by
  have others : ∀ x ∈ front, (!(x == c)) = true := by
    intro x member
    simp [passed x member]
  simp only [cut, List.dropWhile_append_of_pos others, List.takeWhile_append_of_pos others]
  simp

theorem cut_none (c : α) (s : List α) (passed : ∀ x ∈ s, x ≠ c) : cut (· == c) s = (s, none) := by
  have others : ∀ x ∈ s, (!(x == c)) = true := by
    intro x member
    simp [passed x member]
  have rest : s.dropWhile (fun x => !(x == c)) = [] := List.dropWhile_eq_nil_iff.mpr others
  simp only [cut, rest]

theorem fields_single (c : α) (piece : List α) (passed : ∀ x ∈ piece, x ≠ c) :
    fields (· == c) piece = [piece] := by
  induction piece with
  | nil => rfl
  | cons x piece ih =>
      rw [List.forall_mem_cons] at passed
      have here : (x == c) = false := beq_eq_false_iff_ne.mpr passed.1
      simp [fields, here, ih passed.2]

theorem fields_separator (c : α) (piece rest : List α) (passed : ∀ x ∈ piece, x ≠ c) :
    fields (· == c) (piece ++ c :: rest) = piece :: fields (· == c) rest := by
  induction piece with
  | nil => simp [fields]
  | cons x piece ih =>
      rw [List.forall_mem_cons] at passed
      have here : (x == c) = false := beq_eq_false_iff_ne.mpr passed.1
      simp [fields, here, ih passed.2]

end PgJson.Text
