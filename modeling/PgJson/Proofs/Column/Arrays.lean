import PgJson.Proofs.Cell.Dimensions
import PgJson.Proofs.Column.Kind
import PgJson.Proofs.Outcome

/-!
Columns of arrays against columns of their elements: an array is decoded as its elements are one by
one, except that no array of blank-padded text is decoded at all.
-/

namespace PgJson

namespace SqlType

/-- The number of blank-padded text, which goes by the name of plain `CHAR`. -/
def blankPadded : Nat := 1042

def arrays : List (Nat × Nat) :=
  [(16, 1000), (21, 1005), (23, 1007), (20, 1016), (700, 1021), (701, 1022), (1700, 1231),
    (25, 1009), (1043, 1015), (blankPadded, 1014), (19, 1003), (2950, 2951)]

end SqlType

/-- A list of cells is decoded cell by cell: to the array of their values, or with the failure of
the first that fails. -/
structure CellByCell (decode : Option Bytes → Outcome DbError Json) (cells : List (Option Bytes))
    (outcome : Outcome DbError Json) : Prop where
  values : ∀ v, outcome = .ok v ↔ ∃ items, v = .array items ∧
    List.Forall₂ (fun cell item => decode cell = .ok item) cells items
  failures : ∀ failure, outcome = .error failure ↔
    ∃ (i : Nat) (cell : Option Bytes), cells[i]? = some cell ∧ decode cell = .error failure ∧
      ∀ j < i, ∀ before, cells[j]? = some before → ∃ v, decode before = .ok v

namespace Outcome

variable {ε ε' α β : Type}

theorem mapM_ok_iff (f : α → Outcome ε β) (xs : List α) (ys : List β) :
    xs.mapM f = .ok ys ↔ List.Forall₂ (fun x y => f x = .ok y) xs ys := by
  constructor
  · exact forall₂_of_mapM f xs ys
  · intro each
    induction each with
    | nil => rfl
    | cons first _ ih =>
        rw [List.mapM_cons, first, ih]
        rfl

theorem mapCause_map (g : α → β) (f : ε → ε') (o : Outcome ε α) :
    (g <$> o).mapCause f = g <$> o.mapCause f := by
  cases o with
  | ok a => rfl
  | error failure => cases failure <;> rfl

theorem mapCause_mapM (g : α → Outcome ε β) (f : ε → ε') (xs : List α) :
    (xs.mapM g).mapCause f = xs.mapM fun x => (g x).mapCause f := by
  induction xs with
  | nil => rfl
  | cons x xs ih =>
      rw [List.mapM_cons, List.mapM_cons, ← ih]
      cases g x with
      | error failure => cases failure <;> rfl
      | ok y =>
          cases xs.mapM g with
          | error failure => cases failure <;> rfl
          | ok ys => rfl

end Outcome

theorem cellByCell_mapM (decode : Option Bytes → Outcome DbError Json)
    (cells : List (Option Bytes)) : CellByCell decode cells (Json.array <$> cells.mapM decode) where
  values v := by
    rw [Outcome.map_ok_iff]
    constructor
    · rintro ⟨items, done, same⟩
      exact ⟨items, same.symm, (Outcome.mapM_ok_iff ..).mp done⟩
    · rintro ⟨items, same, each⟩
      exact ⟨items, (Outcome.mapM_ok_iff ..).mpr each, same.symm⟩
  failures failure := by
    rw [Outcome.map_error_iff, Outcome.mapM_error_iff]

namespace Column

theorem decode_scalar (name type : String) (index : Nat) (s : Scalar)
    (kind : ColumnKind.ofName type = .scalar s) :
    (Column.mk name (.builtIn type)).decode index =
      fun cell => (Cell.element s.decode cell).mapCause (located name index) := by
  funext cell
  cases cell with
  | none => rfl
  | some bytes =>
      rw [decode_kind name type index bytes (by rw [kind]; exact nofun), kind]
      rfl

/-- The types with elements of one piece: blank-padded text, whose name has no decoder and whose
arrays do not count as text, and those whose name and whose arrays' name have decoders. -/
theorem arrays_cases (numbers : Nat × Nat) (listed : numbers ∈ SqlType.arrays) :
    numbers = (SqlType.blankPadded, 1014) ∨ numbers.1 ≠ SqlType.blankPadded ∧
      ∃ type array s, SqlType.ofNumber? numbers.1 = some (.builtIn type) ∧
        SqlType.ofNumber? numbers.2 = some (.builtIn array) ∧
        ColumnKind.ofName type = .scalar s ∧ ColumnKind.ofName array = .array s := by
  simp only [SqlType.arrays, List.mem_cons, List.not_mem_nil, or_false] at listed
  rcases listed with rfl | rfl | rfl | rfl | rfl | rfl | rfl | rfl | rfl | rfl | rfl | rfl
  case inr.inr.inr.inr.inr.inr.inr.inr.inr.inl => exact .inl rfl
  all_goals exact .inr ⟨by decide, _, _, _, rfl, rfl, rfl, rfl⟩

theorem decode_arrayKind (name type array : String) (index : Nat) (s : Scalar)
    (single : ColumnKind.ofName type = .scalar s) (many : ColumnKind.ofName array = .array s)
    (a : Cell.SentArray) (wellFormed : a.WellFormed) :
    (Column.mk name (.builtIn array)).decode index (some a.bytes) =
      match a.dimensions with
      | [] => .ok (.array [])
      | [(_, lower)] =>
        if lower = 1 then
          Json.array <$> a.elements.mapM ((Column.mk name (.builtIn type)).decode index)
        else Outcome.fail (located name index (.lowerBound lower))
      | dimensions => Outcome.fail (located name index (.dimensions dimensions.length)) := by
  rw [decode_kind name array index _ (by rw [many]; exact nofun), many,
    decode_scalar name type index s single, ← Outcome.mapCause_mapM, ← Outcome.mapCause_map]
  show (Json.array <$> Cell.array s.decode a.bytes).mapCause _ = _
  rw [Cell.array_bytes s.decode a wellFormed]
  match a.dimensions with
  | [] => rfl
  | [(_, lower)] =>
      by_cases first : lower = 1
      · simp only [if_pos first]
      · simp only [if_neg first]
        rfl
  | _ :: _ :: _ => rfl

/-- Of the types with elements of one piece, an array of no dimension, or of one with lower bound 1,
is decoded cell by cell as its elements are, and any other array fails for its dimensions or its
lower bound. Only blank-padded text is left out: each of its texts is decoded, and no array of
them. -/
theorem decode_arrays (name : String) (index : Nat) (numbers : Nat × Nat)
    (listed : numbers ∈ SqlType.arrays) (a : Cell.SentArray) (wellFormed : a.WellFormed) :
    ∃ type array, SqlType.ofNumber? numbers.1 = some type ∧
      SqlType.ofNumber? numbers.2 = some array ∧
      (numbers.1 ≠ SqlType.blankPadded →
        (a.dimensions = [] ∨ a.dimensions = [(a.elements.length, 1)] →
          CellByCell ((Column.mk name type).decode index) a.elements
            ((Column.mk name array).decode index (some a.bytes))) ∧
        (∀ length lower, a.dimensions = [(length, lower)] → lower ≠ 1 →
          (Column.mk name array).decode index (some a.bytes) =
            Outcome.fail (located name index (.lowerBound lower))) ∧
        (2 ≤ a.dimensions.length →
          (Column.mk name array).decode index (some a.bytes) =
            Outcome.fail (located name index (.dimensions a.dimensions.length)))) ∧
      (numbers.1 = SqlType.blankPadded →
        (∀ bytes text, Cell.text bytes = .ok text →
          (Column.mk name type).decode index (some bytes) = .ok (.string text)) ∧
        (Column.mk name array).decode index (some a.bytes) =
          Outcome.fail (.decode name (.unsupported array.name))) := by
  rcases arrays_cases numbers listed with rfl | ⟨other, type, array, s, first, second, single, many⟩
  · refine ⟨.builtIn "CHAR", .builtIn "CHAR[]", rfl, rfl, (absurd rfl ·), fun _ => ⟨?_, ?_⟩⟩
    · intro bytes text read
      rw [decode_other name "CHAR" index bytes rfl, read]
      rfl
    · rw [decode_other name "CHAR[]" index a.bytes rfl]
      rfl
  · refine ⟨_, _, first, second, fun _ => ?_, (absurd · other)⟩
    have decoded := decode_arrayKind name type array index s single many a wellFormed
    refine ⟨?_, ?_, ?_⟩
    · rintro (none | one)
      · have empty : a.elements = [] := by
          have count := wellFormed.count
          rw [if_pos none] at count
          exact List.length_eq_zero_iff.mp count
        rw [none] at decoded
        rw [decoded, empty]
        exact cellByCell_mapM _ []
      · rw [one] at decoded
        rw [decoded]
        exact cellByCell_mapM _ a.elements
    · intro length lower one later
      rw [one] at decoded
      rw [decoded]
      exact if_neg later
    · intro more
      match dimensions : a.dimensions with
      | [] | [_] => simp [dimensions] at more
      | _ :: _ :: _ =>
          rw [dimensions] at decoded
          exact decoded

theorem decode_arrays_integers :
    (∃ type array, SqlType.ofNumber? 23 = some type ∧ SqlType.ofNumber? 1007 = some array ∧
      CellByCell ((Column.mk "v" type).decode 0) [some [0, 0, 0, 7], none, some [255, 255, 255, 255]]
        ((Column.mk "v" array).decode 0 (some (Cell.SentArray.bytes ⟨1, 23, [(3, 1)],
          [some [0, 0, 0, 7], none, some [255, 255, 255, 255]]⟩)))) ∧
    ∃ type array, SqlType.ofNumber? 1042 = some type ∧ SqlType.ofNumber? 1014 = some array ∧
      (Column.mk "v" type).decode 0 (some [97]) = .ok (.string "a") ∧
      (Column.mk "v" array).decode 0
          (some (Cell.SentArray.bytes ⟨0, 1042, [(1, 1)], [some [97]]⟩)) =
        Outcome.fail (.decode "v" (.unsupported "CHAR[]")) := by
  constructor
  · obtain ⟨type, array, first, second, decoded, _⟩ := decode_arrays "v" 0 (23, 1007) (by decide)
      ⟨1, 23, [(3, 1)], [some [0, 0, 0, 7], none, some [255, 255, 255, 255]]⟩
      ⟨by decide, by decide, by decide, by decide, by decide⟩
    exact ⟨type, array, first, second, (decoded (by decide)).1 (.inr rfl)⟩
  · obtain ⟨type, array, first, second, _, decoded⟩ := decode_arrays "v" 0 (1042, 1014) (by decide)
      ⟨0, 1042, [(1, 1)], [some [97]]⟩ ⟨by decide, by decide, by decide, by decide, by decide⟩
    obtain ⟨texts, refused⟩ := decoded rfl
    cases second
    exact ⟨type, _, first, rfl, texts [97] "a" (by rfl), refused⟩

end Column
end PgJson
