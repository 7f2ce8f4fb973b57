import PgJson.Proofs.Json.Ordered
import PgJson.Proofs.Pool.Rows
import PgJson.Proofs.Row.Columns

namespace PgJson

namespace Json

theorem depth_ofDouble (x : Binary64) : (ofDouble x).depth = 0 := by
  rw [ofDouble]
  split
  · rfl
  · rfl

theorem depth_ofInt (n : Int) : (ofInt n).depth = 0 := by
  rw [ofInt]
  split
  · rfl
  · exact depth_ofDouble (.ofInt n)

end Json

theorem Decimal.depth_toJson (d : Decimal) : d.toJson.depth = 0 := by
  rcases d.toJson_cases with ⟨n, _, _, whole⟩ | ⟨x, _, double⟩ | ⟨s, text⟩
  · rw [whole, Json.depth_ofInt]
  · rw [double, Json.depth_ofDouble]
  · rw [text]
    rfl

namespace Outcome

theorem forall_of_map {ε α β : Type} (p : β → Prop) (f : α → β) (o : Outcome ε α) (b : β)
    (done : f <$> o = .ok b) (all : ∀ a, p (f a)) : p b := by
  obtain ⟨a, _, same⟩ := (map_ok_iff f o b).mp done
  rw [← same]
  exact all a

end Outcome

/-! ## Cells -/

theorem Scalar.depth_decode (s : Scalar) (bytes : Bytes) (v : Json)
    (value : s.decode bytes = .ok v) : v.depth = 0 := by
  have leaf : ∀ {α : Type} (f : α → Json) (o : Outcome CellError α), f <$> o = .ok v →
      (∀ a, (f a).depth = 0) → v.depth = 0 :=
    fun f o => Outcome.forall_of_map (fun w => w.depth = 0) f o v
  cases s with
  | bool => exact leaf _ _ value fun _ => rfl
  | int2 => exact leaf _ _ value Json.depth_ofInt
  | int4 => exact leaf _ _ value Json.depth_ofInt
  | int8 => exact leaf _ _ value Json.depth_ofInt
  | float4 => exact leaf _ _ value Json.depth_ofDouble
  | float8 => exact leaf _ _ value Json.depth_ofDouble
  | numeric => exact leaf _ _ value Decimal.depth_toJson
  | text => exact leaf _ _ value fun _ => rfl
  | uuid => exact leaf _ _ value fun _ => rfl

namespace Cell

theorem forall_elements (decode : Bytes → Outcome CellError Json) (p : Json → Prop) (null : p .null)
    (each : ∀ bytes v, decode bytes = .ok v → p v) (count : Nat) (bytes : Bytes) (vs : List Json)
    (read : elements decode count bytes = .ok vs) : ∀ v ∈ vs, p v := by
  -- Each step takes one element, so the count goes down with the bytes.
  induction count generalizing bytes vs with
  | zero =>
      cases read
      exact List.forall_mem_nil _
  | succ count ih =>
      rw [elements_succ] at read
      obtain ⟨⟨cell, rest⟩, _, more⟩ := (bind_ok_iff _ _ _).mp read
      obtain ⟨v, value, more⟩ := (bind_ok_iff _ _ _).mp more
      obtain ⟨vs, others, kept⟩ := (bind_ok_iff _ _ _).mp more
      cases kept
      apply List.forall_mem_cons.mpr ⟨?_, ih rest vs others⟩
      cases cell with
      | none =>
          cases value
          exact null
      | some bytes => exact each bytes v value

theorem forall_array (decode : Bytes → Outcome CellError Json) (p : Json → Prop) (null : p .null)
    (each : ∀ bytes v, decode bytes = .ok v → p v) (bytes : Bytes) (vs : List Json)
    (read : array decode bytes = .ok vs) : ∀ v ∈ vs, p v := by
  obtain ⟨⟨dimensions, bytes⟩, _, read⟩ := (bind_ok_iff _ _ _).mp read
  dsimp only at read
  split at read
  · cases read
    exact List.forall_mem_nil _
  split at read
  · cases read
  obtain ⟨⟨_, bytes⟩, _, read⟩ := (bind_ok_iff _ _ _).mp read
  obtain ⟨⟨_, bytes⟩, _, read⟩ := (bind_ok_iff _ _ _).mp read
  obtain ⟨⟨length, bytes⟩, _, read⟩ := (bind_ok_iff _ _ _).mp read
  dsimp only at read
  split at read
  · cases read
  obtain ⟨⟨lower, bytes⟩, _, read⟩ := (bind_ok_iff _ _ _).mp read
  dsimp only at read
  split at read
  · cases read
  exact forall_elements decode p null each _ bytes vs read

theorem ordered_json (bytes : Bytes) (v : Json) (value : json bytes = .ok v) :
    v.Every Json.Ascending := by
  rw [json] at value
  split at value
  · next parsed =>
    cases value
    exact Json.ordered_of_parse bytes _ parsed
  · cases value

theorem ordered_jsonb (bytes : Bytes) (v : Json) (value : jsonb bytes = .ok v) :
    v.Every Json.Ascending := by
  unfold jsonb at value
  split at value
  · exact ordered_json _ v value
  · cases value

end Cell

/-- Documents are ordered as they are read, and what else a cell holds has no names. -/
theorem ColumnKind.ordered_decode (k : ColumnKind) (bytes : Bytes) (v : Json)
    (value : k.decode bytes = .ok v) : v.Every Json.Ascending := by
  have text : ∀ {α : Type} (f : α → String) (o : Outcome CellError α),
      (fun a => Json.string (f a)) <$> o = .ok v → v.Every Json.Ascending :=
    fun f o done => Outcome.forall_of_map _ _ o v done fun _ => trivial
  cases k with
  | scalar s => exact Json.ordered_leaf v (s.depth_decode bytes v value)
  | array s =>
      obtain ⟨items, read, same⟩ := (Outcome.map_ok_iff _ _ _).mp value
      rw [← same]
      apply Json.every_array Json.Ascending items trivial
      apply Cell.forall_array s.decode (Json.Every Json.Ascending) trivial ?_ bytes items read
      intro bytes v value
      exact Json.ordered_leaf v (s.depth_decode bytes v value)
  | json => exact Cell.ordered_json bytes v value
  | jsonb => exact Cell.ordered_jsonb bytes v value
  | timestamptz => exact text _ _ value
  | timestamp => exact text _ _ value
  | date => exact text _ _ value
  | time => exact text _ _ value
  | other => exact text id _ value

theorem Column.ordered_decode (c : Column) (index : Nat) (cell : Option Bytes) (v : Json)
    (value : c.decode index cell = .ok v) : v.Every Json.Ascending := by
  cases cell with
  | none =>
      cases value
      trivial
  | some bytes =>
      have decoded := (Outcome.mapCause_ok_iff _ _ _).mp value
      exact ColumnKind.ordered_decode _ bytes v ((decodeCell_ok_iff ..).mp decoded).2

/-! ## Rows -/

theorem Row.ordered_toJson (columns : List Column) (row : Row) (v : Json)
    (value : toJson columns row = .ok v) : v.Every Json.Ascending := by
  obtain ⟨_, pairs, given, same⟩ := (toJson_ok_iff columns row v).mp value
  rw [same]
  apply Json.every_ofMembers pairs
  have each : List.Forall₂ (fun m place => m.2.Every Json.Ascending ∧ Gives place m) pairs
      (columns.zip row) :=
    given.flip.imp fun m place here => ⟨place.1.ordered_decode 0 place.2 m.2 (here.2 0), here⟩
  exact ((List.forall₂_and_left pairs _).mp each).1

theorem Pool.ordered_execute (now : Nat) (site : Site) (c : Connection) (r : Reply) (p : Pool)
    (call : Call) (rows : List Json)
    (returned : (p.execute now site c r call).value.result = .ok rows) :
    (Json.array rows).Every Json.Ascending := by
  rw [execute_result] at returned
  obtain ⟨⟨columns, sent⟩, _, decoded⟩ := (bind_ok_iff _ _ _).mp returned
  have given := Outcome.forall₂_of_mapM _ sent rows decoded
  have each : List.Forall₂ (fun v row => v.Every Json.Ascending ∧ Row.toJson columns row = .ok v)
      rows sent :=
    given.flip.imp fun v row value => ⟨Row.ordered_toJson columns row v value, value⟩
  exact Json.every_array Json.Ascending rows trivial ((List.forall₂_and_left rows sent).mp each).1

end PgJson
