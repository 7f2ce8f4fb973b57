import PgJson.Proofs.Pool.Basic
import PgJson.Proofs.Row.Order

/-!
What comes of a statement that reaches a server: the error that breaks the reply off, the rows, or
the first failure among their cells.
-/

namespace PgJson.Pool

/-- The rows that come back for a statement, under their columns. -/
def fetch (now : Nat) (site : Site) (c : Connection) (r : Reply) (p : Pool) (call : Call) :
    Outcome DriverError (List Column × List Row) :=
  match p.acquire now site with
  | .error failure => .error failure
  | .ok s =>
    match (c.exchange s p.target.statementCapacity call r).1 with
    | .error e => Outcome.fail e
    | .ok received => .ok received

theorem execute_result (now : Nat) (site : Site) (c : Connection) (r : Reply) (p : Pool)
    (call : Call) :
    (p.execute now site c r call).value.result = (do
      let (columns, rows) ← (p.fetch now site c r call).mapCause DbError.query
      rows.mapM (Row.toJson columns)) := by
  unfold execute fetch
  cases p.acquire now site with
  | error failure =>
      cases failure with
      | error cause => rfl
      | crash => rfl
  | ok s =>
      dsimp only
      cases c.exchange s p.target.statementCapacity call r with
      | mk answer exchange =>
          cases answer with
          | error e => rfl
          | ok received => rfl

/-- A statement fails as its way to the rows does, or as the first failure among their cells. -/
theorem execute_error_iff (now : Nat) (site : Site) (c : Connection) (r : Reply) (p : Pool)
    (call : Call) (failure : Failure DbError) :
    (p.execute now site c r call).value.result = .error failure ↔
      (p.fetch now site c r call).mapCause DbError.query = .error failure ∨
        ∃ columns rows, p.fetch now site c r call = .ok (columns, rows) ∧
          ∃ i j, Row.FirstFailure columns rows i j failure := by
  rw [execute_result, bind_error_iff]
  apply or_congr_right
  constructor
  · rintro ⟨⟨columns, rows⟩, fetched, failed⟩
    have fetched := (Outcome.mapCause_ok_iff _ _ _).mp fetched
    exact ⟨columns, rows, fetched, (Row.mapM_toJson_error_iff columns rows failure).mp failed⟩
  · rintro ⟨columns, rows, fetched, first⟩
    have fetched := (Outcome.mapCause_ok_iff DbError.query _ _).mpr fetched
    exact ⟨(columns, rows), fetched, (Row.mapM_toJson_error_iff columns rows failure).mpr first⟩

theorem fetch_crash_iff (now : Nat) (site : Site) (c : Connection) (r : Reply) (p : Pool)
    (call : Call) :
    p.fetch now site c r call = Outcome.crash ↔
      p.closed = false ∧ clockLimit ≤ now + p.config.acquireTimeoutSecs.toNat := by
  rw [← acquire_crash_iff p now site]
  unfold fetch
  cases p.acquire now site with
  | error failure => simp only [Outcome.crash, Except.error.injEq]
  | ok s =>
      constructor
      · intro crashed
        dsimp only at crashed
        split at crashed
        · cases crashed
        · cases crashed
      · intro crashed
        cases crashed

theorem execute_crash_iff (now : Nat) (site : Site) (c : Connection) (r : Reply) (p : Pool)
    (call : Call) :
    (p.execute now site c r call).value.result = Outcome.crash ↔
      (p.closed = false ∧ clockLimit ≤ now + p.config.acquireTimeoutSecs.toNat) ∨
        ∃ columns rows, p.fetch now site c r call = .ok (columns, rows) ∧
          ∃ i j, Row.FirstFailure columns rows i j .crash := by
  apply (execute_error_iff now site c r p call .crash).trans
  apply or_congr_left
  exact (Outcome.mapCause_crash_iff _ _).trans (fetch_crash_iff now site c r p call)

open Row in
/-- A statement that reaches the server answers all or nothing: with the error that breaks the reply
off, whatever rows came before it; else with a JSON value for each row, in their order; else with
the first failure among the cells, which names its column. One with more values than can be counted
does not reach it. -/
theorem execute_all_or_nothing (now : Nat) (site : Site) (c : Connection) (r : Reply) (p : Pool)
    (call : Call) (s : Server) (reached : p.acquire now site = .ok s) :
    let broken := c.break? s p.target.statementCapacity call.sql r
    let layout := c.layout? s p.target.statementCapacity call.sql r
    let result := (p.execute now site c r call).value.result
    (Connection.valueLimit < call.params.length →
        result = Outcome.fail (.query (Connection.tooMany call.params.length))) ∧
      (call.params.length ≤ Connection.valueLimit →
        (∀ b, broken = some b → result = Outcome.fail (.query b.cause)) ∧
        (broken = none → layout = none → result = Outcome.fail (.query .rowNotFound)) ∧
        ∀ columns, broken = none → layout = some columns →
          (∀ i j, readAt? columns r.rows i j ≠ some Outcome.crash) →
          ((∀ i j, Decodes columns r.rows i j) ∧ ∃ values, result = .ok values ∧
              List.Forall₂ (fun row value => toJson columns row = .ok value) r.rows values) ∨
            ∃ i j row column bytes cause,
              r.rows[i]? = some row ∧ columns[j]? = some column ∧ row[j]? = some (some bytes) ∧
                decodeCell column.type j bytes = Outcome.fail cause ∧
                (∀ i' j', i' < i ∨ i' = i ∧ j' < j → Decodes columns r.rows i' j') ∧
                result = Outcome.fail (.decode column.name cause)) := by
  intro broken layout result
  have answered : result = (do
      let (columns, rows) ← (p.fetch now site c r call).mapCause DbError.query
      rows.mapM (toJson columns)) := execute_result now site c r p call
  rw [fetch, reached] at answered
  simp only [Connection.exchange_eq] at answered
  constructor
  · intro many
    rw [if_pos many] at answered
    rw [answered]
    rfl
  intro few
  rw [if_neg (Nat.not_lt.mpr few)] at answered
  refine ⟨?_, ?_, ?_⟩
  · intro b broke
    have broke : c.break? s p.target.statementCapacity call.sql r = some b := broke
    rw [answered, broke]
    rfl
  · intro whole unknown
    have whole : c.break? s p.target.statementCapacity call.sql r = none := whole
    have unknown : c.layout? s p.target.statementCapacity call.sql r = none := unknown
    rw [answered, whole, unknown]
    rfl
  · intro columns whole known safe
    have whole : c.break? s p.target.statementCapacity call.sql r = none := whole
    have known : c.layout? s p.target.statementCapacity call.sql r = some columns := known
    rw [whole, known] at answered
    have answered : result = r.rows.mapM (toJson columns) := answered
    rw [answered]
    cases decoded : r.rows.mapM (toJson columns) with
    | ok values =>
        left
        have all := (exists_mapM_toJson_ok_iff columns r.rows).mp ⟨values, decoded⟩
        exact ⟨all, values, rfl, Outcome.forall₂_of_mapM _ _ _ decoded⟩
    | error failure =>
        right
        obtain ⟨i, j, first⟩ := (mapM_toJson_error_iff columns r.rows failure).mp decoded
        obtain ⟨row, column, found, named, fails⟩ := (readAt?_eq_some_iff ..).mp first.fails
        cases failure with
        | crash => exact absurd first.fails (safe i j)
        | error e =>
            obtain ⟨bytes, cause, there, wrong, rfl⟩ := read_error row column j e fails
            exact ⟨i, j, row, column, bytes, cause, found, named, there, wrong, first.before, rfl⟩

open Row in
theorem execute_all_or_nothing_second_row :
    let p : Pool := ⟨⟨"postgres://h?host=/tmp", 1, 5⟩,
      { host := "h", socket := some "/tmp", username := "u" }, false⟩
    let s : Server := { endpoint := .socket "/tmp" 5432 }
    let site : Site := { servers := [s] }
    let r : Reply := { columns := [("n", .named "INT4")], rows := [[some [0, 0, 0, 1]], [some []]] }
    let call : Call := ⟨"SELECT n", []⟩
    p.acquire 0 site = .ok s ∧
      (p.execute 0 site {} { r with interruption := some (.rows, .error "stop") }
        call).value.result = Outcome.fail (.query (.database "stop")) ∧
      (p.execute 0 site {} r call).value.result =
        Outcome.fail (.decode "n" (.cell 0 .emptyInteger)) := by
  intro p s site r call
  have reached : p.acquire 0 site = .ok s := by decide
  have few : call.params.length ≤ Connection.valueLimit := by decide
  refine ⟨reached, ?_, ?_⟩
  · exact ((execute_all_or_nothing 0 site {} _ p call s reached).2 few).1 (.error "stop") rfl
  · have safe : ∀ i j, readAt? [⟨"n", .builtIn "INT4"⟩] r.rows i j ≠ some Outcome.crash := by
      intro i j
      match i, j with
      | 0, 0 => exact nofun
      | 1, 0 => exact nofun
      | i + 2, _ => exact nofun
      | 0, j + 1 => exact nofun
      | 1, j + 1 => exact nofun
    rcases ((execute_all_or_nothing 0 site {} r p call s reached).2 few).2.2
        [⟨"n", .builtIn "INT4"⟩] rfl rfl safe with
      ⟨all, _⟩ | ⟨i, j, row, column, bytes, cause, found, named, there, wrong, _, result⟩
    · obtain ⟨v, value⟩ := all 1 0 (Outcome.fail (.decode "n" (.cell 0 .emptyInteger))) rfl
      cases value
    · match j, named with
      | 0, rfl =>
          match i, found with
          | 0, rfl =>
              cases there
              cases wrong
          | 1, rfl =>
              cases there
              cases wrong
              exact result

end PgJson.Pool
