import PgJson.Column

namespace PgJson.Column

def located (name : String) (index : Nat) (e : CellError) : DbError := .decode name (.cell index e)

theorem decode_kind (name type : String) (index : Nat) (bytes : Bytes)
    (known : ColumnKind.ofName type ≠ .other) :
    (Column.mk name (.builtIn type)).decode index (some bytes) =
      ((ColumnKind.ofName type).decode bytes).mapCause (located name index) := by
  have accepted : (ColumnKind.ofName type).accepts (.builtIn type) = true := by
    cases kind : ColumnKind.ofName type with
    | other => exact absurd kind known
    | _ => rfl
  show (decodeCell (.builtIn type) index bytes).mapCause _ = _
  simp only [decodeCell, SqlType.name, accepted, if_true, known, if_false]
  cases (ColumnKind.ofName type).decode bytes with
  | ok v => rfl
  | error failure => cases failure <;> rfl

theorem decode_value (name type : String) (index : Nat) (bytes : Bytes) (v : Json)
    (known : ColumnKind.ofName type ≠ .other)
    (value : (ColumnKind.ofName type).decode bytes = .ok v) :
    (Column.mk name (.builtIn type)).decode index (some bytes) = .ok v := by
  rw [decode_kind name type index bytes known, value]
  rfl

theorem decode_other (name type : String) (index : Nat) (bytes : Bytes)
    (kind : ColumnKind.ofName type = .other) :
    (Column.mk name (.builtIn type)).decode index (some bytes) =
      if SqlType.texts.contains type then
        (Json.string <$> Cell.text bytes).mapCause fun _ => .decode name (.unsupported type)
      else Outcome.fail (.decode name (.unsupported type)) := by
  show (decodeCell (.builtIn type) index bytes).mapCause _ = _
  simp only [decodeCell, SqlType.name, kind, ColumnKind.accepts, SqlType.readsAsText, if_true]
  split
  · show ((Json.string <$> Cell.text bytes).mapCause _).mapCause _ = _
    cases Json.string <$> Cell.text bytes with
    | ok v => rfl
    | error failure => cases failure <;> rfl
  · rfl

end PgJson.Column
