import PgJson.Proofs.Column.Overflow
import PgJson.Proofs.Pool.Rows
import PgJson.Service

namespace PgJson

namespace Row

/-- A row has a cell for each column, and what is not null in it is a value of the column's type. -/
def Stored (columns : List Column) (rows : List Row) : Prop :=
  ∀ row ∈ rows, List.Forall₂ (fun c cell => ∀ bytes ∈ cell, Column.Holds c bytes) columns row

/-- The cell in row `i` and column `j` overflows, and what is read before it decodes. -/
def FirstOverflow (columns : List Column) (rows : List Row) (i j : Nat) : Prop :=
  (∃ row c bytes, rows[i]? = some row ∧ columns[j]? = some c ∧ row[j]? = some (some bytes) ∧
      Column.Overflows c bytes) ∧
    ∀ i' j', i' < i ∨ i' = i ∧ j' < j → Decodes columns rows i' j'

theorem firstFailure_crash_iff (columns : List Column) (rows : List Row)
    (stored : Stored columns rows) (i j : Nat) :
    FirstFailure columns rows i j .crash ↔ FirstOverflow columns rows i j := by
  have cell : ∀ (row : Row) (c : Column), rows[i]? = some row → columns[j]? = some c →
      ∃ cell, row[j]? = some cell ∧ ∀ bytes ∈ cell, Column.Holds c bytes := by
    intro row c found named
    have whole := stored row (List.mem_of_getElem? found)
    obtain ⟨within, rfl⟩ := List.getElem?_eq_some_iff.mp named
    have there : j < row.length := whole.length_eq ▸ within
    exact ⟨row[j], List.getElem?_eq_getElem there, whole.get within there⟩
  constructor
  · intro first
    obtain ⟨row, c, found, named, crashed⟩ := (readAt?_eq_some_iff ..).mp first.fails
    obtain ⟨held, there, values⟩ := cell row c found named
    rcases (read_crash_iff row c j).mp crashed with absent | ⟨bytes, present, fails⟩
    · rw [there] at absent
      cases absent
    · rw [there] at present
      cases present
      have large := (c.decodeCell_crash_iff j bytes (values bytes rfl)).mp fails
      exact ⟨⟨row, c, bytes, found, named, there, large⟩, first.before⟩
  · rintro ⟨⟨row, c, bytes, found, named, present, large⟩, before⟩
    obtain ⟨held, there, values⟩ := cell row c found named
    rw [there] at present
    cases present
    have fails := (c.decodeCell_crash_iff j bytes (values bytes rfl)).mpr large
    have crashed : read row c j = Outcome.crash :=
      (read_crash_iff row c j).mpr (.inr ⟨bytes, there, fails⟩)
    exact ⟨(readAt?_eq_some_iff ..).mpr ⟨row, c, found, named, crashed⟩, before⟩

end Row

namespace Pool

/-- A query over a pool that was made, on rows that hold values of their columns' types, crashes
exactly where the pool's time leads beyond what the clock counts, or a value that overflows comes
before any failure. Else it answers with rows, with an error of the driver, or with the error of a cell,
which names the column. -/
theorem query_crash_iff (defaults : Target) (config : PoolConfig) (p : Pool)
    (accepted : ofConfig defaults config = .ok p) (url : String) (now : Nat) (site : Site)
    (c : Connection) (r : Reply) (call : Call)
    (stored : ∀ columns rows, p.fetch now site c r call = .ok (columns, rows) →
      Row.Stored columns rows) :
    let result := ((Service.mk url (some p)).query (execute now site c r) call).value.result
    (result = Outcome.crash ↔
        clockLimit ≤ now + config.acquireTimeoutSecs.toNat ∨
          ∃ columns rows, p.fetch now site c r call = .ok (columns, rows) ∧
            ∃ i j, Row.FirstOverflow columns rows i j) ∧
      ∀ e, result = Outcome.fail e →
        (∃ cause, e = .query cause) ∨
          ∃ columns rows row column cause, ∃ (j : Nat) (bytes : Bytes),
            p.fetch now site c r call = .ok (columns, rows) ∧ row ∈ rows ∧
              columns[j]? = some column ∧ row[j]? = some (some bytes) ∧
              decodeCell column.type j bytes = Outcome.fail cause ∧
              e = .decode column.name cause := by
  obtain ⟨_, _, same, opened⟩ := (ofConfig_ok_iff defaults config p).mp accepted
  intro result
  constructor
  · apply (execute_crash_iff now site c r p call).trans
    rw [same]
    apply or_congr (and_iff_right opened)
    constructor
    · rintro ⟨columns, rows, fetched, i, j, first⟩
      have values := stored columns rows fetched
      have large := (Row.firstFailure_crash_iff columns rows values i j).mp first
      exact ⟨columns, rows, fetched, i, j, large⟩
    · rintro ⟨columns, rows, fetched, i, j, large⟩
      have values := stored columns rows fetched
      have first := (Row.firstFailure_crash_iff columns rows values i j).mpr large
      exact ⟨columns, rows, fetched, i, j, first⟩
  · intro e failed
    rcases (execute_error_iff now site c r p call (.error e)).mp failed with
      early | ⟨columns, rows, fetched, i, j, first⟩
    · obtain ⟨cause, _, said⟩ := Outcome.mapCause_error _ _ e early
      exact .inl ⟨cause, said⟩
    · obtain ⟨row, column, found, named, fails⟩ := (Row.readAt?_eq_some_iff ..).mp first.fails
      obtain ⟨bytes, cause, there, wrong, said⟩ := Row.read_error row column j e fails
      exact .inr ⟨columns, rows, row, column, cause, j, bytes, fetched, List.mem_of_getElem? found,
        named, there, wrong, said⟩

theorem query_crash_iff_infinity :
    let config : PoolConfig := ⟨"postgres://h?host=/tmp", 1, 5⟩
    let p : Pool := ⟨config, { host := "h", socket := some "/tmp", username := "u" }, false⟩
    let site : Site := { servers := [{ endpoint := .socket "/tmp" 5432 }] }
    let r : Reply :=
      { columns := [("d", .named "DATE")], rows := [[some [0x7f, 0xff, 0xff, 0xff]]] }
    ofConfig { host := "localhost", username := "u" } config = .ok p ∧
      Row.Stored [⟨"d", .builtIn "DATE"⟩] r.rows ∧
      ((Service.mk config.url (some p)).query (execute 0 site {} r) ⟨"SELECT d", []⟩).value.result =
        Outcome.crash := by
  intro config p site r
  have accepted : ofConfig { host := "localhost", username := "u" } config = .ok p := by
    decide +kernel
  have values : Row.Stored [⟨"d", .builtIn "DATE"⟩] r.rows := by
    intro row member
    cases List.mem_singleton.mp member
    refine .cons ?_ .nil
    intro bytes held _
    cases held
    rfl
  have fetched : p.fetch 0 site {} r ⟨"SELECT d", []⟩ =
      .ok ([⟨"d", .builtIn "DATE"⟩], r.rows) := rfl
  have stored : ∀ columns rows, p.fetch 0 site {} r ⟨"SELECT d", []⟩ = .ok (columns, rows) →
      Row.Stored columns rows := by
    intro columns rows same
    rw [fetched] at same
    cases same
    exact values
  have large : Column.Overflows ⟨"d", .builtIn "DATE"⟩ [0x7f, 0xff, 0xff, 0xff] :=
    ⟨rfl, show ¬ (Date.firstDay ≤ _ ∧ _ ≤ Date.lastDay) by decide⟩
  refine ⟨accepted, values, ?_⟩
  apply (query_crash_iff _ config p accepted config.url 0 site {} r ⟨"SELECT d", []⟩ stored).1.mpr
  refine .inr ⟨_, _, fetched, 0, 0, ⟨_, _, _, rfl, rfl, rfl, large⟩, ?_⟩
  rintro i j (before | ⟨_, before⟩)
  · cases before
  · cases before

end Pool
end PgJson
