import PgJson.Proofs.Column.Kind
import PgJson.Proofs.Json.RoundTrip
import PgJson.Proofs.Number.Binary64
import PgJson.Proofs.Wire.Bytes
import PgJson.Proofs.Server.Exchange
import Mathlib.Data.List.Forall2
import Mathlib.Data.List.Nodup

namespace PgJson

namespace Json

/-- Arrays and objects are read back up to a depth, and if they hold no doubles. -/
def Sendable : Json → Prop
  | .array items => (Json.array items).Exact ∧ (Json.array items).depth ≤ 127
  | .object members => (Json.object members).Exact ∧ (Json.object members).depth ≤ 127
  | _ => True

/-- A parameter comes back as it is, but for an integer that 64 bits with a sign do not hold: that
comes back as the double it is sent as. -/
def ReturnsAs (v w : Json) : Prop :=
  match v with
  | .number (.integer n _) =>
    if n < 0x8000000000000000 then w = v else ∃ finite, w = .number (.float (.ofInt n) finite)
  | v => w = v

theorem ofInt_of_range (n : Int) (range : -0x8000000000000000 ≤ n ∧ n < 0x10000000000000000) :
    ofInt n = .number (.integer n range) := dif_pos range

theorem ofDouble_of_finite (x : Binary64) (finite : x.IsFinite) :
    ofDouble x = .number (.float x finite) := dif_pos finite

end Json

/-! ## Cells -/

namespace Cell

theorem integer_ofInt (n : Int) (low : -0x8000000000000000 ≤ n) (high : n < 0x8000000000000000) :
    integer 8 (Wire.ofInt n 8) = .ok n := by
  have size : (Wire.ofInt n 8).length = 8 := Wire.length_ofNat _ _
  have nonempty : Wire.ofInt n 8 ≠ [] := by
    intro empty
    rw [empty] at size
    cases size
  have value : Wire.signed (Wire.ofInt n 8) = n :=
    Wire.signed_ofInt n 8 (by norm_num; omega) (by norm_num; omega)
  have limit : ((Nat.pow 2 (8 * 8 - 1) : Nat) : Int) = 0x8000000000000000 := rfl
  simp only [integer, if_neg nonempty, size, value, limit]
  rw [if_neg (by decide), if_neg (by omega), if_neg (by omega)]

theorem float8_bits (x : Binary64) : float8 (Wire.ofNat x.bits 8) = .ok x := by
  have size : (Wire.ofNat x.bits 8).length = 8 := Wire.length_ofNat _ _
  have taken := Wire.split?_append (Wire.ofNat x.bits 8) []
  rw [size, List.append_nil] at taken
  have bits : Wire.unsigned (Wire.ofNat x.bits 8) = x.bits :=
    Wire.unsigned_ofNat_of_lt _ _ (Binary64.bits_lt x)
  simp only [float8, taken, Option.map_some, bits, Binary64.ofBits_bits]
  rfl

theorem text_encode (s : String) : text (Utf8.encodeString s) = .ok s := by
  simp only [text, Utf8.encodeString, Utf8.decode_encode, String.ofList_toList]

theorem jsonb_compact (v : Json) (exact : v.Exact) (within : v.depth ≤ 127) :
    jsonb (1 :: Utf8.encode v.compactChars) = .ok v := by
  have read := Json.parse_compactChars v exact within
  simp only [jsonb, json, read]

end Cell

namespace Parameter

theorem finite_of_float8 (v : Json) (x : Binary64) (sent : ofJson v = .float8 x) : x.IsFinite := by
  cases v with
  | number n =>
      cases n with
      | float y finite =>
          cases sent
          exact finite
      | integer n range =>
          simp only [ofJson] at sent
          by_cases small : n < 0x8000000000000000
          · rw [if_pos small] at sent
            cases sent
          · rw [if_neg small] at sent
            cases sent
            obtain ⟨k, rfl⟩ : ∃ k : Nat, n = k := ⟨n.toNat, by omega⟩
            exact Binary64.isFinite_ofNat k 64 (by norm_num; omega) (by decide)
  | _ => cases sent

theorem kind_known (p : Parameter) : ColumnKind.ofName p.typeName ≠ .other := by
  have known : ∀ name ∈ ["TEXT", "BOOL", "INT8", "FLOAT8", "JSONB"],
      ColumnKind.ofName name ≠ .other := by decide
  apply known
  cases p with
  | _ => simp [typeName]

theorem decode_sent (name : String) (index : Nat) (v : Json) (sendable : v.Sendable) :
    ∃ w, (Column.mk name (.builtIn (ofJson v).typeName)).decode index (ofJson v).bytes? = .ok w ∧
      v.ReturnsAs w := by
  have found : ∀ (p : Parameter) (bytes : Bytes) (w : Json), p.bytes? = some bytes →
      (ColumnKind.ofName p.typeName).decode bytes = .ok w →
      (Column.mk name (.builtIn p.typeName)).decode index p.bytes? = .ok w := by
    intro p bytes w sent value
    rw [sent]
    exact Column.decode_value name p.typeName index bytes w (kind_known p) value
  cases v with
  | null => exact ⟨.null, rfl, rfl⟩
  | bool b =>
      refine ⟨.bool b, found (.bool b) _ _ rfl ?_, rfl⟩
      cases b with
      | true => rfl
      | false => rfl
  | string s =>
      refine ⟨.string s, found (.text s) _ _ rfl ?_, rfl⟩
      show Json.string <$> Cell.text (Utf8.encodeString s) = _
      rw [Cell.text_encode]
      rfl
  | array items =>
      refine ⟨.array items, found (.jsonb (.array items)) _ _ rfl ?_, rfl⟩
      exact Cell.jsonb_compact _ sendable.1 sendable.2
  | object members =>
      refine ⟨.object members, found (.jsonb (.object members)) _ _ rfl ?_, rfl⟩
      exact Cell.jsonb_compact _ sendable.1 sendable.2
  | number n =>
      have double : ∀ (x : Binary64) (finite : x.IsFinite),
          (ColumnKind.ofName "FLOAT8").decode (Wire.ofNat x.bits 8) =
            .ok (.number (.float x finite)) := by
        intro x finite
        show Json.ofDouble <$> Cell.float8 (Wire.ofNat x.bits 8) = _
        rw [Cell.float8_bits, ← Json.ofDouble_of_finite x finite]
        rfl
      cases n with
      | float x finite =>
          exact ⟨_, found (.float8 x) _ _ rfl (double x finite), rfl⟩
      | integer n range =>
          -- The limit of the signed integers decides the type, so it decides what comes back.
          by_cases small : n < 0x8000000000000000
          · have sent : ofJson (.number (.integer n range)) = .int8 n := if_pos small
            rw [sent]
            refine ⟨.number (.integer n range), found (.int8 n) _ _ rfl ?_, ?_⟩
            · show Json.ofInt <$> Cell.integer 8 (Wire.ofInt n 8) = _
              rw [Cell.integer_ofInt n range.1 small, ← Json.ofInt_of_range n range]
              rfl
            · show if _ then _ else _
              rw [if_pos small]
          · have sent : ofJson (.number (.integer n range)) = .float8 (.ofInt n) := if_neg small
            have finite := finite_of_float8 _ _ sent
            rw [sent]
            refine ⟨_, found (.float8 (.ofInt n)) _ _ rfl (double _ finite), ?_⟩
            show if _ then _ else _
            rw [if_neg small]
            exact ⟨finite, rfl⟩

end Parameter

/-! ## Rows -/

namespace Row

theorem membersFrom_sent (params : List Json) (sendable : ∀ v ∈ params, v.Sendable)
    (columns : List Column)
    (types : columns.map Column.type = params.map fun v => .builtIn (Parameter.ofJson v).typeName)
    (index : Nat) :
    ∃ values, membersFrom index columns (params.map fun v => (Parameter.ofJson v).bytes?) =
        .ok ((columns.map Column.name).zip values) ∧
      List.Forall₂ Json.ReturnsAs params values := by
  induction params generalizing columns index with
  | nil =>
      have none : columns = [] := List.map_eq_nil_iff.mp types
      subst none
      exact ⟨[], rfl, .nil⟩
  | cons v params ih =>
      cases columns with
      | nil => cases types
      | cons column columns =>
          obtain ⟨name, type⟩ := column
          obtain ⟨first, others⟩ := List.cons.inj types
          have first : type = .builtIn (Parameter.ofJson v).typeName := first
          subst first
          obtain ⟨w, decoded, returns⟩ :=
            Parameter.decode_sent name index v (sendable v (List.mem_cons_self ..))
          obtain ⟨values, rest, all⟩ := ih
            (fun u member => sendable u (List.mem_cons_of_mem _ member)) columns others (index + 1)
          refine ⟨w :: values, ?_, .cons returns all⟩
          rw [List.map_cons, membersFrom, decoded, rest]
          rfl

/-- A row of the sent values in columns of the sent types holds each parameter under its column's
name. -/
theorem toJson_sent (params : List Json) (sendable : ∀ v ∈ params, v.Sendable)
    (columns : List Column) (distinct : (columns.map Column.name).Nodup)
    (types : columns.map Column.type = params.map fun v => .builtIn (Parameter.ofJson v).typeName) :
    ∃ row, toJson columns (params.map fun v => (Parameter.ofJson v).bytes?) = .ok row ∧
      ∀ (i : Nat) (column : Column) (v : Json), columns[i]? = some column → params[i]? = some v →
        ∃ w, row.get? column.name = some w ∧ v.ReturnsAs w := by
  obtain ⟨values, decoded, all⟩ := membersFrom_sent params sendable columns types 0
  refine ⟨Json.ofMembers ((columns.map Column.name).zip values), ?_, ?_⟩
  · rw [toJson, decoded]
    rfl
  · intro i column v named sent
    obtain ⟨bound, same⟩ := List.getElem?_eq_some_iff.mp sent
    have within : i < values.length := all.length_eq ▸ bound
    have returns : params[i].ReturnsAs values[i] := all.get bound within
    rw [same] at returns
    refine ⟨values[i], ?_, returns⟩
    have size : (columns.map Column.name).length = values.length := by
      have lengths := congrArg List.length types
      rw [List.length_map, List.length_map] at lengths
      rw [List.length_map, lengths]
      exact all.length_eq
    apply Json.get?_ofMembers
    · rw [List.map_fst_zip (Nat.le_of_eq size)]
      exact distinct
    · apply List.mem_of_getElem?
      rw [List.getElem?_zip_eq_some]
      refine ⟨?_, List.getElem?_eq_getElem within⟩
      rw [List.getElem?_map, named]
      rfl

end Row

namespace Connection

/-- What is sent with a call: a type and a value for each parameter in order, no infinity and no NaN
among them; and if they can be read back, a row in columns of these types with these values holds
them. The values are sent exactly if the statement is described. One that the connection knows is
not described again and keeps its types. -/
theorem exchange_returns (s : Server) (capacity : Nat) (c : Connection) (call : Call) (r : Reply)
    (few : call.params.length ≤ valueLimit) :
    let parameters := call.params.map Parameter.ofJson
    let types := parameters.map Parameter.typeName
    let values := parameters.map Parameter.bytes?
    (∃ e, (c.exchange s capacity call r).2 = some e ∧ e.sent.sql = call.sql ∧
        (c.find? (.client call.sql) = none → e.sent.types = types) ∧
        (∀ st, c.find? (.client call.sql) = some st → e.sent.types = st.types) ∧
        (Described s c call.sql r → e.sent.values = some values) ∧
        (¬ Described s c call.sql r → e.sent.values = none)) ∧
      (∀ x, Parameter.float8 x ∈ parameters → x.IsFinite) ∧
      ((∀ v ∈ call.params, v.Sendable) →
        ∀ columns : List Column, (columns.map Column.name).Nodup →
          columns.map Column.type = types.map .builtIn →
          ∃ row, Row.toJson columns values = .ok row ∧
            ∀ (i : Nat) (column : Column) (v : Json),
              columns[i]? = some column → call.params[i]? = some v →
                ∃ w, row.get? column.name = some w ∧ v.ReturnsAs w) := by
  intro parameters types values
  refine ⟨?_, ?_, ?_⟩
  · obtain ⟨e, ended, sent⟩ := exchange_sent s capacity c r call few
    refine ⟨e, ended, sent.sql, ?_, ?_, sent.bound, sent.unbound⟩
    · intro unknown
      rw [sent.types, unknown]
    · intro st known
      rw [sent.types, known]
  · intro x member
    obtain ⟨v, _, same⟩ := List.mem_map.mp member
    exact Parameter.finite_of_float8 v x same
  · intro sendable columns distinct same
    simp only [types, parameters, List.map_map] at same
    simp only [values, parameters, List.map_map]
    exact Row.toJson_sent call.params sendable columns distinct same

theorem exchange_returns_array :
    let params := [.array [.null, .bool true], .string ""]
    let s : Server := { endpoint := .socket "/tmp" 5432 }
    let values := [some (1 :: Utf8.encode "[null,true]".toList), some []]
    (∃ e, (({} : Connection).exchange s 100 ⟨"SELECT $1, $2", params⟩ {}).2 = some e ∧
        e.sent.types = ["JSONB", "TEXT"] ∧ e.sent.values = some values) ∧
      ∃ row, Row.toJson [⟨"a", .builtIn "JSONB"⟩, ⟨"b", .builtIn "TEXT"⟩] values = .ok row ∧
        row.get? "a" = some (.array [.null, .bool true]) ∧ row.get? "b" = some (.string "") := by
  intro params s values
  have exact : (Json.array [.null, .bool true]).Exact :=
    ⟨⟨trivial, trivial, trivial, trivial⟩, trivial, trivial, trivial, trivial⟩
  have sendable : ∀ v ∈ params, v.Sendable := by
    intro v member
    simp only [params, List.mem_cons, List.not_mem_nil, or_false] at member
    rcases member with rfl | rfl
    · exact ⟨exact, by decide⟩
    · trivial
  have described : Described s {} "SELECT $1, $2" {} := .inr ⟨nofun, nofun⟩
  obtain ⟨⟨e, ended, _, types, _, bound, _⟩, _, rows⟩ :=
    exchange_returns s 100 {} ⟨"SELECT $1, $2", params⟩ {} (by decide)
  obtain ⟨row, decoded, returned⟩ := rows sendable
    [⟨"a", .builtIn "JSONB"⟩, ⟨"b", .builtIn "TEXT"⟩] (by decide) rfl
  obtain ⟨first, found, same⟩ := returned 0 _ _ rfl rfl
  obtain ⟨second, found', same'⟩ := returned 1 _ _ rfl rfl
  refine ⟨⟨e, ended, types rfl, bound described⟩, row, decoded, ?_, ?_⟩
  · rw [found, same]
  · rw [found', same']

end Connection
end PgJson
