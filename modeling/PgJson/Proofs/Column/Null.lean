import PgJson.Column
import PgJson.Proofs.Cell.Array
import PgJson.Proofs.Number.Binary64
import PgJson.Proofs.Outcome

namespace PgJson

namespace Scalar

def NotFinite (bytes : Bytes) : Scalar → Prop
  | float4 => 4 ≤ bytes.length ∧ Wire.unsigned (bytes.take 4) / 2 ^ 23 % 2 ^ 8 = 255
  | float8 => 8 ≤ bytes.length ∧ Wire.unsigned (bytes.take 8) / 2 ^ 52 % 2 ^ 11 = 2047
  | _ => False

end Scalar

namespace Json

theorem ofDouble_eq_null (x : Binary64) : ofDouble x = .null ↔ ¬ x.IsFinite := by
  unfold ofDouble
  by_cases finite : x.IsFinite
  · simp [finite]
  · simp [finite]

theorem ofInt_ne_null (n : Int) (low : -0x8000000000000000 ≤ n) (high : n < 0x10000000000000000) :
    ofInt n ≠ .null := by
  unfold ofInt
  rw [dif_pos ⟨low, high⟩]
  exact nofun

end Json

theorem Cell.integer_bounds (width : Nat) (bytes : Bytes) (n : Int)
    (read : integer width bytes = .ok n) :
    -(2 ^ (8 * width - 1)) ≤ n ∧ n < 2 ^ (8 * width - 1) := by
  unfold integer at read
  split at read
  · cases read
  split at read
  · cases read
  simp only [Nat.pow_eq, Nat.cast_pow, Nat.cast_ofNat] at read
  split at read
  · cases read
  split at read
  · cases read
  cases read
  omega

theorem Decimal.toJson_cases (d : Decimal) :
    (∃ n : Int, -0x8000000000000000 ≤ n ∧ n < 0x8000000000000000 ∧ d.toJson = .ofInt n) ∨
      (∃ x : Binary64, x.IsFinite ∧ d.toJson = .ofDouble x) ∨ ∃ s, d.toJson = .string s := by
  rw [toJson]
  dsimp only
  generalize d.normalize.toDouble = x
  have asText : (∃ y : Binary64, y.IsFinite ∧
        (if x.IsFinite ∧ x.plainText = d.normalize.text then Json.ofDouble x
          else .string (.ofList d.normalize.text)) = .ofDouble y) ∨
      ∃ s, (if x.IsFinite ∧ x.plainText = d.normalize.text then Json.ofDouble x
        else .string (.ofList d.normalize.text)) = .string s := by
    split
    · next form => exact .inl ⟨x, form.1, rfl⟩
    · exact .inr ⟨_, rfl⟩
  split
  · split
    · next range => exact .inl ⟨_, range.1, range.2, rfl⟩
    · exact .inr asText
  · exact .inr asText

theorem Decimal.toJson_ne_null (d : Decimal) : d.toJson ≠ .null := by
  rcases d.toJson_cases with ⟨n, low, high, whole⟩ | ⟨x, finite, double⟩ | ⟨s, text⟩
  · rw [whole]
    exact Json.ofInt_ne_null n low (by omega)
  · rw [double]
    intro null
    exact (Json.ofDouble_eq_null x).mp null finite
  · rw [text]
    exact nofun

/-- Of the scalar types only floats become null, and those exactly where they are not finite. -/
theorem Scalar.decode_eq_null (s : Scalar) (bytes : Bytes) :
    s.decode bytes = .ok .null ↔ s.NotFinite bytes := by
  have never : ∀ {α : Type} (f : α → Json) (o : Outcome CellError α),
      (∀ a, o = .ok a → f a ≠ .null) → ¬ f <$> o = .ok .null := by
    intro α f o other null
    obtain ⟨a, read, same⟩ := (Outcome.map_ok_iff f o .null).mp null
    exact other a read same
  have integers : ∀ width ≤ 8, 0 < width →
      ¬ Json.ofInt <$> Cell.integer width bytes = .ok .null := by
    intro width most least
    apply never
    intro n read
    have bounds := Cell.integer_bounds width bytes n read
    have power : (2 : Int) ^ (8 * width - 1) ≤ 2 ^ 63 := by
      exact_mod_cast Nat.pow_le_pow_right (by decide) (by omega)
    norm_num at power
    exact Json.ofInt_ne_null n (by omega) (by omega)
  cases s with
  | bool => exact iff_of_false (never _ _ fun _ _ => nofun) id
  | int2 => exact iff_of_false (integers 2 (by decide) (by decide)) id
  | int4 => exact iff_of_false (integers 4 (by decide) (by decide)) id
  | int8 => exact iff_of_false (integers 8 (by decide) (by decide)) id
  | numeric => exact iff_of_false (never _ _ fun d _ => d.toJson_ne_null) id
  | text => exact iff_of_false (never _ _ fun _ _ => nofun) id
  | uuid => exact iff_of_false (never _ _ fun _ _ => nofun) id
  | float4 =>
      show Json.ofDouble <$> Cell.float4 bytes = .ok .null ↔ _
      rw [Outcome.map_ok_iff]
      simp only [Json.ofDouble_eq_null, Scalar.NotFinite, Cell.float4, Wire.split?]
      by_cases enough : 4 ≤ bytes.length
      · simp [enough, Outcome.orCrash, Binary64.isFinite_ofBits32]
      · simp [enough, Outcome.orCrash, Outcome.crash]
  | float8 =>
      show Json.ofDouble <$> Cell.float8 bytes = .ok .null ↔ _
      rw [Outcome.map_ok_iff]
      simp only [Json.ofDouble_eq_null, Scalar.NotFinite, Cell.float8, Wire.split?]
      by_cases enough : 8 ≤ bytes.length
      · simp [enough, Outcome.orCrash, Binary64.isFinite_ofBits]
      · simp [enough, Outcome.orCrash, Outcome.crash]

namespace ColumnKind

/-- The bytes of cells that are not null and become null in JSON: documents that are null
themselves, and floats without a JSON form. -/
def NullBytes (bytes : Bytes) : ColumnKind → Prop
  | scalar s => s.NotFinite bytes
  | json => Json.parse bytes = .ok .null
  | jsonb => ∃ text, bytes = 1 :: text ∧ Json.parse text = .ok .null
  | _ => False

theorem cell_json_eq_null (bytes : Bytes) :
    Cell.json bytes = .ok .null ↔ Json.parse bytes = .ok .null := by
  unfold Cell.json
  cases Json.parse bytes with
  | ok v => exact ⟨fun same => congrArg _ (Except.ok.inj same), fun same => by cases same; rfl⟩
  | error e => exact ⟨(nomatch ·), (nomatch ·)⟩

theorem decode_eq_null (k : ColumnKind) (bytes : Bytes) :
    k.decode bytes = .ok .null ↔ k.NullBytes bytes := by
  have never : ∀ {α : Type} (f : α → Json) (o : Outcome CellError α),
      (∀ a, f a ≠ .null) → (f <$> o = .ok .null ↔ False) := by
    intro α f o other
    rw [Outcome.map_ok_iff]
    exact iff_of_false (fun ⟨a, _, same⟩ => other a same) id
  cases k with
  | scalar s => exact s.decode_eq_null bytes
  | json => exact cell_json_eq_null bytes
  | jsonb =>
      show Cell.jsonb bytes = .ok .null ↔ _
      unfold Cell.jsonb
      split
      · next text =>
        rw [cell_json_eq_null]
        exact ⟨fun null => ⟨text, rfl, null⟩, fun ⟨_, same, null⟩ => (List.cons.inj same).2 ▸ null⟩
      · next other =>
        exact iff_of_false (nomatch ·) fun ⟨text, same, _⟩ => other text same
  | array s => exact never _ _ fun _ => nofun
  | timestamptz => exact never _ _ fun _ => nofun
  | timestamp => exact never _ _ fun _ => nofun
  | date => exact never _ _ fun _ => nofun
  | time => exact never _ _ fun _ => nofun
  | other => exact never _ _ fun _ => nofun

end ColumnKind

theorem decodeCell_ok_iff (t : SqlType) (index : Nat) (bytes : Bytes) (v : Json) :
    decodeCell t index bytes = .ok v ↔
      (ColumnKind.ofName t.name).accepts t = true ∧
        (ColumnKind.ofName t.name).decode bytes = .ok v := by
  unfold decodeCell
  rw [Outcome.mapCause_ok_iff]
  by_cases accepted : (ColumnKind.ofName t.name).accepts t = true
  · rw [if_pos accepted]
    exact ⟨fun value => ⟨accepted, value⟩, fun value => value.2⟩
  · rw [if_neg accepted]
    exact iff_of_false (nomatch ·) fun value => accepted value.1

theorem ColumnKind.decode_array (s : Scalar) (flags type : Int) (cells : List (Option Bytes))
    (v : Json) (few : cells.length < Cell.limit)
    (short : ∀ cell ∈ cells, ∀ bytes ∈ cell, bytes.length < Cell.limit)
    (value : (ColumnKind.array s).decode (Cell.arrayBytes flags type cells) = .ok v) :
    ∃ items, v = .array items ∧
      List.Forall₂ (fun cell item => Cell.element s.decode cell = .ok item) cells items := by
  obtain ⟨items, read, same⟩ := (Outcome.map_ok_iff _ _ v).mp value
  rw [Cell.array_arrayBytes s.decode flags type cells few short] at read
  exact ⟨items, same.symm, Outcome.forall₂_of_mapM _ _ _ read⟩

theorem Cell.element_eq_null (s : Scalar) (cell : Option Bytes) :
    element s.decode cell = .ok .null ↔
      cell = none ∨ ∃ bytes, cell = some bytes ∧ s.NotFinite bytes := by
  cases cell with
  | none => exact iff_of_true rfl (.inl rfl)
  | some bytes =>
      show s.decode bytes = .ok .null ↔ _
      rw [s.decode_eq_null]
      constructor
      · intro notFinite
        exact .inr ⟨bytes, rfl, notFinite⟩
      · rintro (none | ⟨_, same, notFinite⟩)
        · cases none
        · exact Option.some.inj same ▸ notFinite

namespace Column

/-- Exactly these cells decode to null: a null, a document that is null itself, and a float that is
an infinity or a NaN; and likewise the elements of an array. What fails names the column. -/
theorem decode_null (c : Column) (index : Nat) :
    (∀ cell, c.decode index cell = .ok .null ↔
        cell = none ∨ ∃ bytes, cell = some bytes ∧
          (ColumnKind.ofName c.type.name).accepts c.type = true ∧
          (ColumnKind.ofName c.type.name).NullBytes bytes) ∧
      (∀ cell e, c.decode index cell = .error (.error e) → ∃ cause, e = .decode c.name cause) ∧
      ∀ s, ColumnKind.ofName c.type.name = .array s →
        ∀ (flags type : Int) (cells : List (Option Bytes)), cells.length < Cell.limit →
          (∀ cell ∈ cells, ∀ bytes ∈ cell, bytes.length < Cell.limit) →
          ∀ v, c.decode index (some (Cell.arrayBytes flags type cells)) = .ok v →
            ∃ items, v = .array items ∧ List.Forall₂ (fun cell item => item = .null ↔
              cell = none ∨ ∃ bytes, cell = some bytes ∧ s.NotFinite bytes) cells items := by
  refine ⟨?_, ?_, ?_⟩
  · intro cell
    cases cell with
    | none => exact iff_of_true rfl (.inl rfl)
    | some bytes =>
        show (decodeCell c.type index bytes).mapCause _ = _ ↔ _
        rw [Outcome.mapCause_ok_iff, decodeCell_ok_iff, ColumnKind.decode_eq_null]
        constructor
        · intro null
          exact .inr ⟨bytes, rfl, null⟩
        · rintro (none | ⟨_, same, null⟩)
          · cases none
          · exact Option.some.inj same ▸ null
  · intro cell e failed
    cases cell with
    | none => cases failed
    | some bytes =>
        obtain ⟨cause, _, same⟩ := Outcome.mapCause_error _ _ e failed
        exact ⟨cause, same⟩
  · intro s kind flags type cells few short v decoded
    have value := ((decodeCell_ok_iff _ _ _ _).mp ((Outcome.mapCause_ok_iff _ _ _).mp decoded)).2
    rw [kind] at value
    obtain ⟨items, same, elements⟩ := ColumnKind.decode_array s flags type cells v few short value
    refine ⟨items, same, elements.imp ?_⟩
    intro cell item read
    rw [← Cell.element_eq_null, read]
    exact ⟨congrArg _, Except.ok.inj⟩

theorem decode_null_nan :
    (Column.mk "v" (.builtIn "FLOAT8")).decode 0 (some [0x7f, 0xf8, 0, 0, 0, 0, 0, 0]) =
        .ok .null ∧
      ∃ items, (Column.mk "v" (.builtIn "FLOAT8[]")).decode 0 (some (Cell.arrayBytes 1 701
          [some [0x7f, 0xf8, 0, 0, 0, 0, 0, 0], none, some [0x3f, 0xf0, 0, 0, 0, 0, 0, 0]])) =
            .ok (.array items) ∧
        List.Forall₂ (fun cell item => item = .null ↔
            cell = none ∨ ∃ bytes, cell = some bytes ∧ Scalar.float8.NotFinite bytes)
          [some [0x7f, 0xf8, 0, 0, 0, 0, 0, 0], none, some [0x3f, 0xf0, 0, 0, 0, 0, 0, 0]]
          items := by
  have first := (decode_null ⟨"v", .builtIn "FLOAT8"⟩ 0).1 (some [0x7f, 0xf8, 0, 0, 0, 0, 0, 0])
  have notFinite : Scalar.float8.NotFinite [0x7f, 0xf8, 0, 0, 0, 0, 0, 0] :=
    ⟨by decide, by decide⟩
  refine ⟨first.mpr (.inr ⟨_, rfl, by decide, notFinite⟩), ?_⟩
  have finite : (Binary64.ofBits 0x3ff0000000000000).IsFinite := by decide
  have decoded : (Column.mk "v" (.builtIn "FLOAT8[]")).decode 0 (some (Cell.arrayBytes 1 701
      [some [0x7f, 0xf8, 0, 0, 0, 0, 0, 0], none, some [0x3f, 0xf0, 0, 0, 0, 0, 0, 0]])) =
        .ok (.array [.null, .null, .number (.float _ finite)]) := rfl
  obtain ⟨items, same, elements⟩ := (decode_null ⟨"v", .builtIn "FLOAT8[]"⟩ 0).2.2 .float8 rfl
    1 701 [some [0x7f, 0xf8, 0, 0, 0, 0, 0, 0], none, some [0x3f, 0xf0, 0, 0, 0, 0, 0, 0]]
    (by decide) (by decide) _ decoded
  cases same
  exact ⟨_, decoded, elements⟩

end Column
end PgJson
