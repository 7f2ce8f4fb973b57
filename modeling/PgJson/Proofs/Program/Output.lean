import PgJson.Program
import PgJson.Proofs.Column.Kind
import PgJson.Proofs.Json.Pretty
import PgJson.Proofs.Row.Ordered

namespace PgJson.Program

/-- On one line and on many the rows are the same but for white space outside of strings, and both
texts are read back as the rows. -/
theorem output_modes (rows : List Json) :
    let line := Json.compact (.array rows)
    let page := Json.pretty (.array rows)
    (output true rows = line ++ "\n" ∧ output false rows = page ++ "\n") ∧
      (∀ c ∈ line.toList, c ≠ '\n' ∧ c ≠ '\r') ∧
      Json.unspaced .outside page.toList = line.toList ∧
      ∀ (now : Nat) (site : Site) (c : Connection) (r : Reply) (p : Pool) (call : Call),
        (p.execute now site c r call).value.result = .ok rows →
        (Json.array rows).Every Json.NotFloat → (Json.array rows).depth ≤ 127 →
        Json.parse (Utf8.encodeString line) = .ok (.array rows) ∧
          Json.parse (Utf8.encodeString page) = .ok (.array rows) := by
  intro line page
  have written : line.toList = Json.compactChars (.array rows) := String.toList_ofList
  have spread : page.toList = Json.prettyChars 0 (.array rows) := String.toList_ofList
  refine ⟨⟨rfl, rfl⟩, ?_, ?_, ?_⟩
  · intro c member
    rw [written] at member
    have visible := (Json.oneLine_value 0 (.array rows)).visible c member
    constructor
    · intro feed
      rw [feed] at visible
      exact absurd visible (by decide)
    · intro back
      rw [back] at visible
      exact absurd visible (by decide)
  · rw [written, spread]
    exact Json.unspaced_pretty 0 (.array rows)
  · intro now site c r p call returned whole within
    have exact : (Json.array rows).Exact :=
      ⟨p.ordered_execute now site c r call rows returned, whole⟩
    rw [Utf8.encodeString, Utf8.encodeString, written, spread]
    exact ⟨Json.parse_compactChars _ exact within, Json.parse_prettyChars _ exact within⟩

theorem output_modes_nested :
    let document : Json := .object [("a", .array [.string "]\n\"", .object [], .array []])]
    let rows : List Json := [.object [("d", document)]]
    let p : Pool := ⟨⟨"postgres://h?host=/tmp", 1, 5⟩,
      { host := "h", socket := some "/tmp", username := "u" }, false⟩
    let s : Server := { endpoint := .socket "/tmp" 5432 }
    let r : Reply := {
      columns := [("d", .named "JSON")]
      rows := [[some (Utf8.encode document.compactChars)]] }
    ((p.execute 0 { servers := [s] } {} r ⟨"SELECT d", []⟩).value.result = .ok rows ∧
        (Json.array rows).Every Json.NotFloat ∧ (Json.array rows).depth ≤ 127) ∧
      output true rows = "[\x7b\"d\":\x7b\"a\":[\"]\\n\\\"\",\x7b\x7d,[]]\x7d\x7d]\n" ∧
      Json.unspaced .outside (Json.pretty (.array rows)).toList =
        (Json.compact (.array rows)).toList ∧
      Json.parse (Utf8.encodeString (Json.compact (.array rows))) = .ok (.array rows) ∧
      Json.parse (Utf8.encodeString (Json.pretty (.array rows))) = .ok (.array rows) := by
  intro document rows p s r
  have exact : document.Exact := by
    simp [document, Json.Exact, Json.Every, Json.EveryItem, Json.EveryMember, Json.Ascending,
      Json.NotFloat]
  have parsed : Json.parse (Utf8.encode document.compactChars) = .ok document :=
    Json.parse_compactChars document exact (by decide)
  have kind : ColumnKind.ofName "JSON" = .json := by decide
  have value : (ColumnKind.ofName "JSON").decode (Utf8.encode document.compactChars) =
      .ok document := by
    rw [kind, ColumnKind.decode, Cell.json, parsed]
  have cell := Column.decode_value "d" "JSON" 0 _ document (by decide) value
  have row : Row.toJson [⟨"d", .builtIn "JSON"⟩] [some (Utf8.encode document.compactChars)] =
      .ok (.object [("d", document)]) := by
    rw [Row.toJson, Row.membersFrom, cell]
    rfl
  have decoded : r.rows.mapM (Row.toJson [⟨"d", .builtIn "JSON"⟩]) = .ok rows := by
    rw [List.mapM_cons, row]
    rfl
  have fetched : p.fetch 0 { servers := [s] } {} r ⟨"SELECT d", []⟩ =
      .ok ([⟨"d", .builtIn "JSON"⟩], r.rows) := rfl
  have returned : (p.execute 0 { servers := [s] } {} r ⟨"SELECT d", []⟩).value.result = .ok rows := by
    rw [Pool.execute_result, fetched]
    exact decoded
  have whole : (Json.array rows).Every Json.NotFloat := by
    simp [rows, Json.Every, Json.EveryItem, Json.EveryMember, Json.NotFloat, exact.2]
  obtain ⟨_, _, same, reads⟩ := output_modes rows
  have within : (Json.array rows).depth ≤ 127 := by decide
  exact ⟨⟨returned, whole, within⟩, rfl, same, reads _ _ _ _ _ _ returned whole within⟩

end PgJson.Program
