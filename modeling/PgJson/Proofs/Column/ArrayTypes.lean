import PgJson.Proofs.Column.Arrays
import PgJson.Proofs.Pool.Rows
import Mathlib.Data.String.Basic

/-!
Which types of arrays have a decoder: those with elements of one piece. Documents and times are
decoded alone, but a single array of them fails the whole query.
-/

namespace PgJson

namespace SqlType

/-- The types of documents and times, with the numbers that a server gives to them and to their
arrays. -/
def documentsAndTimes : List (String × Nat × Nat) :=
  [("JSON", 114, 199), ("JSONB", 3802, 3807), ("TIMESTAMPTZ", 1184, 1185),
    ("TIMESTAMP", 1114, 1115), ("DATE", 1082, 1182), ("TIME", 1083, 1183)]

end SqlType

/-! ## Names of arrays -/

theorem brackets_inj (type other : String) : type ++ "[]" = other ++ "[]" ↔ type = other := by
  simp [← String.toList_inj, String.toList_append]

theorem brackets_ne (type name : String) (single : name.toList.getLast? ≠ some ']') :
    type ++ "[]" ≠ name := by
  intro same
  apply single
  rw [← same, String.toList_append, List.getLast?_append]
  rfl

theorem lookup_brackets_none {α : Type} (entries : List (String × α)) (type : String)
    (single : ∀ entry ∈ entries, entry.1.toList.getLast? ≠ some ']') :
    entries.lookup (type ++ "[]") = none := by
  rw [List.lookup_eq_none_iff]
  intro entry member
  rw [bne_iff_ne]
  exact brackets_ne type entry.1 (single entry member)

theorem lookup_brackets (entries : List (String × Scalar)) (type : String) :
    (entries.map fun (name, s) => (name ++ "[]", ColumnKind.array s)).lookup (type ++ "[]") =
      (entries.lookup type).map ColumnKind.array := by
  induction entries with
  | nil => rfl
  | cons entry entries ih =>
      obtain ⟨name, s⟩ := entry
      rw [List.map_cons, Json.lookup_cons, Json.lookup_cons, ih]
      simp only [brackets_inj, apply_ite (Option.map ColumnKind.array), Option.map_some]

namespace ColumnKind

theorem ofName_brackets (type : String) :
    ofName (type ++ "[]") = ((Scalar.names.lookup type).map array).getD .other := by
  have plain : ∀ entry ∈ Scalar.names.map (fun (name, s) => (name, scalar s)) ++ single,
      entry.1.toList.getLast? ≠ some ']' := by
    decide
  rw [ofName, names, List.lookup_append, lookup_brackets_none _ type plain, lookup_brackets]
  rfl

end ColumnKind

namespace Column

theorem decode_brackets_other (name type : String) (index : Nat) (bytes : Bytes)
    (unlisted : Scalar.names.lookup type = none) :
    (Column.mk name (.builtIn (type ++ "[]"))).decode index (some bytes) =
      Outcome.fail (.decode name (.unsupported (type ++ "[]"))) := by
  have kind : ColumnKind.ofName (type ++ "[]") = .other := by
    rw [ColumnKind.ofName_brackets, unlisted]
    rfl
  have plain : ∀ text ∈ SqlType.texts, text.toList.getLast? ≠ some ']' := by
    decide
  have textless : ¬ SqlType.texts.contains (type ++ "[]") := by
    intro listed
    exact brackets_ne type _ (plain _ (List.contains_iff_mem.mp listed)) rfl
  rw [decode_other name _ index bytes kind, if_neg textless]

/-- A type of arrays has a decoder exactly if its elements are of one piece. -/
theorem decode_brackets_iff (type : String) :
    (∃ name index bytes v,
        (Column.mk name (.builtIn (type ++ "[]"))).decode index (some bytes) = .ok v) ↔
      type ∈ Scalar.names.map Prod.fst := by
  cases listed : Scalar.names.lookup type with
  | none =>
      have absent : type ∉ Scalar.names.map Prod.fst := by
        intro member
        obtain ⟨entry, there, named⟩ := List.mem_map.mp member
        have other := List.lookup_eq_none_iff.mp listed entry there
        exact bne_iff_ne.mp other named.symm
      refine iff_of_false ?_ absent
      rintro ⟨name, index, bytes, v, decoded⟩
      rw [decode_brackets_other name type index bytes listed] at decoded
      cases decoded
  | some s =>
      obtain ⟨before, after, whole, _⟩ := List.lookup_eq_some_iff.mp listed
      have present : type ∈ Scalar.names.map Prod.fst := by
        rw [whole]
        simp
      have kind : ColumnKind.ofName (type ++ "[]") = .array s := by
        rw [ColumnKind.ofName_brackets, listed]
        rfl
      refine iff_of_true ⟨"", 0, Wire.ofInt 0 4, .array [], ?_⟩ present
      apply decode_value
      · rw [kind]
        exact nofun
      · rw [kind]
        rfl

end Column

namespace SqlType

theorem documentsAndTimes_known (type : String) (scalar array : Nat)
    (listed : (type, scalar, array) ∈ documentsAndTimes) :
    (ofNumber? scalar = some (.builtIn type) ∧ ofNumber? array = some (.builtIn (type ++ "[]"))) ∧
      ColumnKind.ofName type ≠ .other ∧ Scalar.names.lookup type = none := by
  simp only [documentsAndTimes, List.mem_cons, List.not_mem_nil, or_false, Prod.mk.injEq] at listed
  rcases listed with ⟨rfl, rfl, rfl⟩ | ⟨rfl, rfl, rfl⟩ | ⟨rfl, rfl, rfl⟩ | ⟨rfl, rfl, rfl⟩ |
    ⟨rfl, rfl, rfl⟩ | ⟨rfl, rfl, rfl⟩
  · decide
  · decide
  · decide
  · decide
  · decide
  · decide

end SqlType

/-! ## Queries -/

namespace Pool

theorem execute_cell_fails (now : Nat) (site : Site) (c : Connection) (r : Reply) (p : Pool)
    (call : Call) (columns : List Column) (rows : List Row) (i j : Nat)
    (failure : Failure DbError) (fetched : p.fetch now site c r call = .ok (columns, rows))
    (fails : Row.readAt? columns rows i j = some (.error failure)) :
    let result := (p.execute now site c r call).value.result
    (∀ values, result ≠ .ok values) ∧
      ((∀ i' j', i' < i ∨ i' = i ∧ j' < j → Row.Decodes columns rows i' j') →
        result = .error failure) := by
  intro result
  constructor
  · intro values done
    have answered : result = rows.mapM (Row.toJson columns) := by
      simp only [result, execute_result, fetched]
      rfl
    have all := (Row.exists_mapM_toJson_ok_iff columns rows).mp ⟨values, answered ▸ done⟩
    obtain ⟨v, value⟩ := all i j _ fails
    cases value
  · intro before
    exact (execute_error_iff ..).mpr (.inr ⟨columns, rows, fetched, i, j, fails, before⟩)

/-- The arrays of a type have a decoder exactly if its values are of one piece. Documents and times
are decoded alone, each type by its own decoder, but no array of them is, whatever its elements: a
query that comes upon one returns no rows and names the column. -/
theorem execute_documentsAndTimes (type : String) :
    ((∃ name index bytes v,
        (Column.mk name (.builtIn (type ++ "[]"))).decode index (some bytes) = .ok v) ↔
      type ∈ Scalar.names.map Prod.fst) ∧
    ∀ scalar array, (type, scalar, array) ∈ SqlType.documentsAndTimes →
      (SqlType.ofNumber? scalar = some (.builtIn type) ∧
        SqlType.ofNumber? array = some (.builtIn (type ++ "[]"))) ∧
      ColumnKind.ofName type ≠ .other ∧
      (∀ name index bytes, (Column.mk name (.builtIn type)).decode index (some bytes) =
        ((ColumnKind.ofName type).decode bytes).mapCause (Column.located name index)) ∧
      ∀ name bytes, let refusal := DbError.decode name (.unsupported (type ++ "[]"))
        (∀ index, (Column.mk name (.builtIn (type ++ "[]"))).decode index (some bytes) =
          Outcome.fail refusal) ∧
        ∀ now site c r p call columns rows i j row,
          fetch now site c r p call = .ok (columns, rows) →
          columns[j]? = some ⟨name, .builtIn (type ++ "[]")⟩ → rows[i]? = some row →
          row[j]? = some (some bytes) →
          (∀ values, (p.execute now site c r call).value.result ≠ .ok values) ∧
            ((∀ i' j', i' < i ∨ i' = i ∧ j' < j → Row.Decodes columns rows i' j') →
              (p.execute now site c r call).value.result = Outcome.fail refusal) := by
  refine ⟨Column.decode_brackets_iff type, ?_⟩
  intro scalar array listed
  obtain ⟨numbered, known, unlisted⟩ := SqlType.documentsAndTimes_known type scalar array listed
  refine ⟨numbered, known, ?_, ?_⟩
  · intro name index bytes
    exact Column.decode_kind name type index bytes known
  · intro name bytes refusal
    have refused (index : Nat) := Column.decode_brackets_other name type index bytes unlisted
    refine ⟨refused, ?_⟩
    intro now site c r p call columns rows i j row fetched named found cell
    apply execute_cell_fails now site c r p call columns rows i j _ fetched
    rw [Row.readAt?_eq_some_iff]
    refine ⟨row, _, found, named, ?_⟩
    rw [Row.read, cell]
    exact refused j

theorem execute_documentsAndTimes_dates :
    let p : Pool := ⟨⟨"postgres://h?host=/tmp", 1, 5⟩,
      { host := "h", socket := some "/tmp", username := "u" }, false⟩
    let s : Server := { endpoint := .socket "/tmp" 5432 }
    let days : Bytes := Cell.arrayBytes 1 1082 [some (Wire.ofInt 1 4), none]
    let r : Reply := { columns := [("v", .numbered 1182)], rows := [[some days]] }
    ("DATE", 1082, 1182) ∈ SqlType.documentsAndTimes ∧
      (Column.mk "v" (.builtIn "DATE")).decode 0 (some (Wire.ofInt 1 4)) =
        .ok (.string "2000-01-02") ∧
      (p.execute 0 { servers := [s] } {} r ⟨"SELECT v", []⟩).value.result =
        Outcome.fail (.decode "v" (.unsupported "DATE[]")) := by
  intro p s days r
  have listed : ("DATE", 1082, 1182) ∈ SqlType.documentsAndTimes := by decide
  obtain ⟨_, _, decoded, arrays⟩ := (execute_documentsAndTimes "DATE").2 1082 1182 listed
  refine ⟨listed, ?_, ?_⟩
  · rw [decoded]
    rfl
  · obtain ⟨_, queries⟩ := arrays "v" days
    apply (queries 0 { servers := [s] } {} r p ⟨"SELECT v", []⟩ [⟨"v", .builtIn "DATE[]"⟩] r.rows
      0 0 _ rfl rfl rfl rfl).2
    intro i j early
    omega

end Pool
end PgJson
