import PgJson.Program
import PgJson.Proofs.EnvFile.Load
import PgJson.Proofs.Json.Layout
import PgJson.Proofs.Pool.Rows

/-!
The stages of a run: its settings are read, a pool is made of them, the statement is run. What a run
leaves behind is told by the first of them that fails.
-/

namespace PgJson.Program

def Loads (w : World) (vars : Variables) (s : Settings) : Prop :=
  w.vars.load? w.envFile = some vars ∧ Settings.ofVariables vars = .ok s

def Creates (w : World) (vars : Variables) (p : Pool) : Prop :=
  ∃ s, Loads w vars s ∧ Pool.ofConfig (.ofVariables vars) (.ofSettings s.database) = .ok p

def query (w : World) (a : Arguments) (p : Pool) : Execution Exchange :=
  (p.execute w.now w.site {} w.reply ⟨a.sql, a.params⟩).value

/-- What stops a run: the error of the first stage that fails. -/
inductive Stops (w : World) (a : Arguments) : Stop → Prop where
  | settings (vars : Variables) (e : SettingsError) (loaded : w.vars.load? w.envFile = some vars)
      (failed : Settings.ofVariables vars = .error e) : Stops w a (.settings e)
  | pool (vars : Variables) (s : Settings) (e : DbError) (loads : Loads w vars s)
      (failed : Pool.ofConfig (.ofVariables vars) (.ofSettings s.database) = .error e) :
      Stops w a (.pool e)
  | query (vars : Variables) (p : Pool) (e : DbError) (creates : Creates w vars p)
      (failed : (query w a p).result = Outcome.fail e) : Stops w a (.query e)

/-- What crashes a run: a file that sets a variable to what a process cannot hold, a time beyond the
clock, or a cell that its decoder crashes on. -/
inductive Crashes (w : World) (a : Arguments) : Prop where
  | file (text : String) (read : List EnvFile.Line) (given : w.envFile = some text)
      (reads : EnvFile.Reads w.vars [] (EnvFile.linesOf text) read)
      (unstorable : EnvFile.Unstorable w.vars read)
  | deadline (vars : Variables) (p : Pool) (creates : Creates w vars p)
      (late : Pool.clockLimit ≤ w.now + p.config.acquireTimeoutSecs.toNat)
  | cell (vars : Variables) (p : Pool) (columns : List Column) (rows : List Row) (i j : Nat)
      (creates : Creates w vars p)
      (fetched : p.fetch w.now w.site {} w.reply ⟨a.sql, a.params⟩ = .ok (columns, rows))
      (first : Row.FirstFailure columns rows i j .crash)

/-- An error of the pool behind its own message: what caused it, step by step. -/
def causes (e : DbError) : String :=
  String.join (((e.cause?.map DriverError.chain).getD []).map (": " ++ ·))

/-- What is told of a stage that fails: which one it is, its error, and what caused that. -/
def Tells : Stop → String → Prop
  | .settings e, text => text = "Error: Failed to load configuration: " ++ e.message
  | .pool e, text => text = "Error: Failed to create connection pool: " ++ e.message ++ causes e
  | .query e, text => text = "Error: Query failed: " ++ e.message ++ causes e

/-- How the stages end, and what the server got. -/
def stages (w : World) (a : Arguments) : Outcome Stop (List Json) × List Sent :=
  match w.vars.load? w.envFile with
  | none => (Outcome.crash, [])
  | some vars =>
    match Settings.ofVariables vars with
    | .error e => (Outcome.fail (.settings e), [])
    | .ok s => (work w vars s a).value

/-! ## Single stages -/

theorem work_value (w : World) (vars : Variables) (s : Settings) (a : Arguments) :
    (work w vars s a).value =
      match Pool.ofConfig (.ofVariables vars) (.ofSettings s.database) with
      | .error e => (Outcome.fail (.pool e), [])
      | .ok p =>
        ((query w a p).result.mapCause .query, (query w a p).effects.map Exchange.sent) := by
  unfold work Service.connect Pool.create
  -- The service puts its own URL into the bounds, which hold that one already.
  have same : { PoolConfig.ofSettings s.database with url := s.database.url } =
      PoolConfig.ofSettings s.database := rfl
  dsimp only
  rw [same]
  cases Pool.ofConfig (.ofVariables vars) (.ofSettings s.database) with
  | error e => rfl
  | ok p => rfl

theorem stages_of_creates (w : World) (a : Arguments) (vars : Variables) (p : Pool)
    (creates : Creates w vars p) :
    stages w a =
      ((query w a p).result.mapCause .query, (query w a p).effects.map Exchange.sent) := by
  obtain ⟨s, ⟨loaded, settled⟩, made⟩ := creates
  simp only [stages, loaded, settled, work_value, made]

theorem stages_cases (w : World) (a : Arguments) :
    (∃ vars p, Creates w vars p) ∨
      stages w a = (Outcome.crash, []) ∧ w.vars.load? w.envFile = none ∨
      ∃ stop, stages w a = (Outcome.fail stop, []) ∧ Stops w a stop := by
  unfold stages
  cases loaded : w.vars.load? w.envFile with
  | none => exact .inr (.inl ⟨rfl, rfl⟩)
  | some vars =>
      dsimp only
      cases settled : Settings.ofVariables vars with
      | error e => exact .inr (.inr ⟨_, rfl, .settings vars e loaded settled⟩)
      | ok s =>
          dsimp only
          rw [work_value]
          cases made : Pool.ofConfig (.ofVariables vars) (.ofSettings s.database) with
          | error e => exact .inr (.inr ⟨_, rfl, .pool vars s e ⟨loaded, settled⟩ made⟩)
          | ok p => exact .inl ⟨vars, p, s, ⟨loaded, settled⟩, made⟩

theorem stages_ok_iff (w : World) (a : Arguments) (rows : List Json) :
    (stages w a).1 = .ok rows ↔ ∃ vars p, Creates w vars p ∧ (query w a p).result = .ok rows := by
  constructor
  · intro done
    rcases stages_cases w a with ⟨vars, p, creates⟩ | ⟨same, _⟩ | ⟨stop, same, _⟩
    · rw [stages_of_creates w a vars p creates] at done
      exact ⟨vars, p, creates, (Outcome.mapCause_ok_iff ..).mp done⟩
    · rw [same] at done
      cases done
    · rw [same] at done
      cases done
  · rintro ⟨vars, p, creates, done⟩
    rw [stages_of_creates w a vars p creates, done]
    rfl

theorem creates_unique (w : World) (vars vars' : Variables) (p p' : Pool)
    (one : Creates w vars p) (other : Creates w vars' p') : p = p' := by
  obtain ⟨s, ⟨loaded, settled⟩, made⟩ := one
  obtain ⟨s', ⟨loaded', settled'⟩, made'⟩ := other
  obtain rfl : vars = vars' := Option.some.inj (loaded.symm.trans loaded')
  obtain rfl : s = s' := Except.ok.inj (settled.symm.trans settled')
  exact Except.ok.inj (made.symm.trans made')

theorem query_crashes_iff (w : World) (a : Arguments) (vars : Variables) (p : Pool)
    (creates : Creates w vars p) : (query w a p).result = Outcome.crash ↔
      Pool.clockLimit ≤ w.now + p.config.acquireTimeoutSecs.toNat ∨
        ∃ columns rows,
          p.fetch w.now w.site {} w.reply ⟨a.sql, a.params⟩ = .ok (columns, rows) ∧
            ∃ i j, Row.FirstFailure columns rows i j .crash := by
  obtain ⟨_, _, made⟩ := creates
  obtain ⟨_, _, _, opened⟩ := (Pool.ofConfig_ok_iff ..).mp made
  apply (Pool.execute_crash_iff ..).trans
  exact or_congr_left (and_iff_right opened)

theorem stages_crash_iff (w : World) (a : Arguments) :
    (stages w a).1 = Outcome.crash ↔ Crashes w a := by
  constructor
  · intro crashed
    rcases stages_cases w a with ⟨vars, p, creates⟩ | ⟨_, unread⟩ | ⟨stop, same, _⟩
    · rw [stages_of_creates w a vars p creates] at crashed
      have crashed := (Outcome.mapCause_crash_iff ..).mp crashed
      rcases (query_crashes_iff w a vars p creates).mp crashed with
        late | ⟨columns, rows, fetched, i, j, first⟩
      · exact .deadline vars p creates late
      · exact .cell vars p columns rows i j creates fetched first
    · cases given : w.envFile with
      | none => simp [given, Variables.load?] at unread
      | some text =>
          rw [given] at unread
          obtain ⟨read, reads, unstorable⟩ := (EnvFile.load?_eq_none_iff w.vars text).mp unread
          exact .file text read given reads unstorable
    · rw [same] at crashed
      cases crashed
  · intro crashes
    have queried : ∀ vars p, Creates w vars p → (query w a p).result = Outcome.crash →
        (stages w a).1 = Outcome.crash := by
      intro vars p creates crashed
      rw [stages_of_creates w a vars p creates, crashed]
      rfl
    cases crashes with
    | file text read given reads unstorable =>
        have unread := (EnvFile.load?_eq_none_iff w.vars text).mpr ⟨read, reads, unstorable⟩
        rw [stages, given, unread]
    | deadline vars p creates late =>
        exact queried vars p creates ((query_crashes_iff w a vars p creates).mpr (.inl late))
    | cell vars p columns rows i j creates fetched first =>
        have crashed := (query_crashes_iff w a vars p creates).mpr
          (.inr ⟨columns, rows, fetched, i, j, first⟩)
        exact queried vars p creates crashed

theorem stages_fail_iff (w : World) (a : Arguments) (stop : Stop) :
    (stages w a).1 = Outcome.fail stop ↔ Stops w a stop := by
  constructor
  · intro failed
    rcases stages_cases w a with ⟨vars, p, creates⟩ | ⟨same, _⟩ | ⟨stop', same, stops⟩
    · rw [stages_of_creates w a vars p creates] at failed
      obtain ⟨e, refused, rfl⟩ := Outcome.mapCause_error _ _ _ failed
      exact .query vars p e creates refused
    · rw [same] at failed
      cases failed
    · rw [same] at failed
      cases failed
      exact stops
  · intro stops
    cases stops with
    | settings vars e loaded failed => simp only [stages, loaded, failed]
    | pool vars s e loads failed => simp only [stages, loads.1, loads.2, work_value, failed]
    | query vars p e creates failed =>
        rw [stages_of_creates w a vars p creates, failed]
        rfl

theorem config_of_creates (w : World) (vars : Variables) (p : Pool) (creates : Creates w vars p) :
    vars "DATABASE_URL" = some p.config.url ∧
      ∃ size time, Settings.Holds vars "DATABASE_MAX_CONNECTIONS" Text.limit32 size ∧
        Settings.Holds vars "DATABASE_TIMEOUT_SECS" Text.limit64 time ∧
        p.config.maxSize.toNat = size.getD 10 ∧
        p.config.acquireTimeoutSecs.toNat = time.getD 30 := by
  obtain ⟨s, ⟨_, settled⟩, made⟩ := creates
  obtain ⟨_, _, address, _, size, time⟩ := (Settings.ofVariables_ok_iff vars s).mp settled
  obtain ⟨_, _, same, _⟩ := (Pool.ofConfig_ok_iff ..).mp made
  rw [same]
  refine ⟨address, _, _, size, time, ?_, ?_⟩
  · cases bound : s.database.maxConnections with
    | none => simp [PoolConfig.ofSettings, bound, PoolConfig.defaultMaxSize]
    | some n => simp [PoolConfig.ofSettings, bound]
  · cases bound : s.database.timeoutSecs with
    | none => simp [PoolConfig.ofSettings, bound, PoolConfig.defaultAcquireTimeoutSecs]
    | some n => simp [PoolConfig.ofSettings, bound]

theorem stops_of_zero (w : World) (a : Arguments) (vars : Variables) (s : Settings)
    (loads : Loads w vars s)
    (zero : Settings.Holds vars "DATABASE_MAX_CONNECTIONS" Text.limit32 (some 0)) :
    Stops w a (.pool (.invalidConfig "max_size must be at least 1")) := by
  obtain ⟨_, _, _, _, size, _⟩ := (Settings.ofVariables_ok_iff vars s).mp loads.2
  have same := Settings.holds_unique _ _ _ _ _ size zero
  obtain ⟨n, asked, none_left⟩ := Option.map_eq_some_iff.mp same
  have refused : (PoolConfig.ofSettings s.database).maxSize = 0 := by
    rw [PoolConfig.ofSettings, asked]
    exact UInt32.toNat_inj.mp none_left
  exact .pool vars s _ loads (by rw [Pool.ofConfig, if_pos refused])

/-! ## Runs -/

theorem logConfig_stderr (env : Environment) : (logConfig env).stderr = true := by
  cases env with
  | development => rfl
  | staging => rfl
  | production => rfl

theorem intercalate_cons (separator text : String) (texts : List String) :
    separator.intercalate (text :: texts) = text ++ String.join (texts.map (separator ++ ·)) := by
  induction texts generalizing text with
  | nil => simp
  | cons next texts ih =>
      rw [String.intercalate_cons_cons, ih, List.map_cons, String.join_cons, String.append_assoc,
        String.append_assoc]

theorem tells_message (stop : Stop) : Tells stop stop.message := by
  unfold Stop.message Stop.chain
  rw [intercalate_cons]
  cases stop with
  | settings e => simp [Tells, Stop.context, ← String.append_assoc]
  | pool e => simp [Tells, Stop.context, DbError.chain, causes, ← String.append_assoc]
  | query e => simp [Tells, Stop.context, DbError.chain, causes, ← String.append_assoc]

theorem result_sent (a : Arguments) (sent : List Sent) (outcome : Outcome Stop (List Json)) :
    (result a sent outcome).sent = sent := by
  unfold result
  split
  · rfl
  · rfl
  · rfl

theorem result_exit_iff (a : Arguments) (sent : List Sent) (outcome : Outcome Stop (List Json)) :
    let exit := (result a sent outcome).exit
    (exit = 0 ↔ ∃ rows, outcome = .ok rows) ∧ (exit = 1 ↔ ∃ stop, outcome = Outcome.fail stop) ∧
      (exit = 101 ↔ outcome = Outcome.crash) ∧ (exit = 0 ∨ exit = 1 ∨ exit = 101) := by
  cases outcome with
  | ok rows => simp [result, Outcome.fail, Outcome.crash]
  | error failure =>
      cases failure with
      | error stop => simp [result, Outcome.fail, Outcome.crash]
      | crash => simp [result, Outcome.fail, Outcome.crash]

def asked (a : Arguments) : Json.Layout := if a.compact then .line else .page

theorem output_iff (a : Arguments) (rows : List Json) (text : List Char) :
    Json.Written (asked a) 0 (.array rows) text ↔
      output a.compact rows = .ofList (text ++ ['\n']) := by
  have printed : output a.compact rows =
      .ofList ((asked a).print 0 (.array rows) ++ ['\n']) := by
    unfold output asked
    cases a.compact with
    | true => simp [Json.compact, Json.Layout.print]
    | false => simp [Json.pretty, Json.Layout.print]
  rw [Json.written_iff, printed, String.ofList_inj, List.append_cancel_right_eq]
  exact eq_comm

theorem execute_eq (w : World) (a : Arguments) :
    ∃ lines, execute w a =
      let r := result a (stages w a).2 (stages w a).1
      { r with stderr := lines ++ r.stderr } := by
  unfold execute stages
  cases w.vars.load? w.envFile with
  | none => exact ⟨[], rfl⟩
  | some vars =>
      dsimp only
      unfold executeWith
      cases Settings.ofVariables vars with
      | error e => exact ⟨[], rfl⟩
      | ok s =>
          dsimp only
          have stderr : (Log.Subscriber.ofConfig (vars "RUST_LOG")
              (logConfig s.app.env)).config.stderr = true := logConfig_stderr s.app.env
          rw [Result.logged, if_pos stderr]
          exact ⟨_, rfl⟩

/-- A pool is made, a server lets it in, and the values of the statement can be counted. -/
def Reaches (w : World) (a : Arguments) (s : Server) : Prop :=
  a.params.length ≤ Connection.valueLimit ∧
    ∃ vars p, Creates w vars p ∧ p.acquire w.now w.site = .ok s

theorem reaches_unique (w : World) (a : Arguments) (s s' : Server) (one : Reaches w a s)
    (other : Reaches w a s') : s = s' := by
  obtain ⟨_, vars, p, creates, acquired⟩ := one
  obtain ⟨_, vars', p', creates', acquired'⟩ := other
  rw [creates_unique w vars vars' p p' creates creates'] at acquired
  exact Except.ok.inj (acquired.symm.trans acquired')

theorem stages_sent (w : World) (a : Arguments) :
    (∃ s x, Reaches w a s ∧ (stages w a).2 = [x] ∧
        Connection.SentFor s {} ⟨a.sql, a.params⟩ w.reply x) ∨
      (¬ ∃ s, Reaches w a s) ∧ (stages w a).2 = [] := by
  by_cases made : ∃ vars p, Creates w vars p
  · obtain ⟨vars, p, creates⟩ := made
    have same : (stages w a).2 = (query w a p).effects.map Exchange.sent :=
      congrArg Prod.snd (stages_of_creates w a vars p creates)
    rcases p.execute_sent w.now w.site {} w.reply ⟨a.sql, a.params⟩ with
      ⟨s, x, acquired, few, one, own⟩ | ⟨blocked, none⟩
    · exact .inl ⟨s, x, ⟨few, vars, p, creates, acquired⟩, same.trans one, own⟩
    · refine .inr ⟨?_, same.trans none⟩
      rintro ⟨s, few, vars', p', creates', acquired⟩
      rw [← creates_unique w vars vars' p p' creates creates'] at acquired
      rcases blocked with ⟨failure, refused⟩ | many
      · cases acquired.symm.trans refused
      · exact absurd few (Nat.not_le_of_lt many)
  · refine .inr ⟨?_, ?_⟩
    · rintro ⟨_, _, vars, p, creates, _⟩
      exact made ⟨vars, p, creates⟩
    · rcases stages_cases w a with some | ⟨same, _⟩ | ⟨stop, same, _⟩
      · exact absurd some made
      · rw [same]
      · rw [same]

/-- A run that the arguments ask for takes its stages in order and stops at the first that fails. If
all succeed it exits with 0 and prints the rows and nothing else. If one fails it exits with 1,
prints nothing and reports that failure last; if one crashes it exits with 101 and prints nothing.
The statement is sent once, if it reaches a server at all. -/
theorem run_stages (w : World) (args : List String) (a : Arguments)
    (parsed : Arguments.parse args = .ok (.run a)) :
    let r := run w args
    let parameters := a.params.map Parameter.ofJson
    ((r.exit = 0 ↔ ∃ vars p rows, Creates w vars p ∧ (query w a p).result = .ok rows) ∧
        (r.exit = 1 ↔ ∃ stop, Stops w a stop) ∧ (r.exit = 101 ↔ Crashes w a) ∧
        (r.exit = 0 ∨ r.exit = 1 ∨ r.exit = 101)) ∧
      (∀ vars p rows, Creates w vars p → (query w a p).result = .ok rows →
        ∀ text, Json.Written (asked a) 0 (.array rows) text ↔
          r.stdout = .ofList (text ++ ['\n'])) ∧
      (∀ stop, Stops w a stop →
        r.stdout = "" ∧ ∃ text, Tells stop text ∧ r.stderr.getLast? = some (.text text)) ∧
      (Crashes w a → r.stdout = "") ∧
      (∀ vars p, Creates w vars p → vars "DATABASE_URL" = some p.config.url ∧
        ∃ size time, Settings.Holds vars "DATABASE_MAX_CONNECTIONS" Text.limit32 size ∧
          Settings.Holds vars "DATABASE_TIMEOUT_SECS" Text.limit64 time ∧
          p.config.maxSize.toNat = size.getD 10 ∧
          p.config.acquireTimeoutSecs.toNat = time.getD 30) ∧
      (∀ vars s, Loads w vars s →
        Settings.Holds vars "DATABASE_MAX_CONNECTIONS" Text.limit32 (some 0) →
        Stops w a (.pool (.invalidConfig "max_size must be at least 1"))) ∧
      ((¬ ∃ s, Reaches w a s) → r.sent = []) ∧
      ∀ s, Reaches w a s → ∃ x, r.sent = [x] ∧ x.sql = a.sql ∧
        x.types = parameters.map Parameter.typeName ∧
        (Connection.Described s {} a.sql w.reply →
          x.values = some (parameters.map Parameter.bytes?)) ∧
        (¬ Connection.Described s {} a.sql w.reply → x.values = none) := by
  intro r parameters
  obtain ⟨lines, executed⟩ := execute_eq w a
  have ran : r = execute w a := by
    show run w args = _
    rw [run, parsed]
  rw [executed] at ran
  have exit : r.exit = (result a (stages w a).2 (stages w a).1).exit := by rw [ran]
  obtain ⟨succeeds, fails, crashes, ends⟩ := result_exit_iff a (stages w a).2 (stages w a).1
  refine ⟨⟨?_, ?_, ?_, ?_⟩, ?_, ?_, ?_, config_of_creates w, stops_of_zero w a, ?_⟩
  · rw [exit, succeeds]
    constructor
    · rintro ⟨rows, done⟩
      obtain ⟨vars, p, creates, done⟩ := (stages_ok_iff w a rows).mp done
      exact ⟨vars, p, rows, creates, done⟩
    · rintro ⟨vars, p, rows, creates, done⟩
      exact ⟨rows, (stages_ok_iff w a rows).mpr ⟨vars, p, creates, done⟩⟩
  · rw [exit, fails]
    exact exists_congr (stages_fail_iff w a)
  · rw [exit, crashes]
    exact stages_crash_iff w a
  · rw [exit]
    exact ends
  · intro vars p rows creates done text
    have ended := (stages_ok_iff w a rows).mpr ⟨vars, p, creates, done⟩
    rw [ran, ended]
    exact output_iff a rows text
  · intro stop stops
    have ended := (stages_fail_iff w a stop).mpr stops
    rw [ran, ended]
    exact ⟨rfl, _, tells_message stop, List.getLast?_concat⟩
  · intro crashes
    have ended := (stages_crash_iff w a).mpr crashes
    rw [ran, ended]
    rfl
  · have same : r.sent = (stages w a).2 := by
      rw [ran]
      exact result_sent ..
    rw [same]
    rcases stages_sent w a with ⟨s, x, reaches, one, sent⟩ | ⟨lost, none⟩
    · refine ⟨fun lost => absurd ⟨s, reaches⟩ lost, ?_⟩
      intro s' reaches'
      rw [← reaches_unique w a s s' reaches reaches']
      exact ⟨x, one, sent.sql, sent.types, sent.bound, sent.unbound⟩
    · exact ⟨fun _ => none, fun s reaches => absurd ⟨s, reaches⟩ lost⟩

theorem run_stages_one_row :
    let w : World := {
      vars := .ofList [("DATABASE_URL", "postgres://u@h?host=/tmp")]
      site := { servers := [{ endpoint := .socket "/tmp" 5432 }] }
      reply := { columns := [("n", .named "INT4")], rows := [[some [0, 0, 0, 7]]] } }
    let args := ["SELECT 7 WHERE $1", "--compact", "true"]
    let a : Arguments := ⟨"SELECT 7 WHERE $1", [.bool true], true⟩
    Arguments.parse args = .ok (.run a) ∧
      ((run w args).exit = 0 ∧ (run w args).stdout = "[\x7b\"n\":7\x7d]\n" ∧
        (run w args).sent = [⟨"SELECT 7 WHERE $1", ["BOOL"], some [some [1]]⟩]) ∧
      (run { w with envFile := some "X=\x00\n" } args).exit = 101 := by
  intro w args a
  let p : Pool := ⟨.ofUrl "postgres://u@h?host=/tmp",
    { host := "h", socket := some "/tmp", username := "u" }, false⟩
  let s : Server := { endpoint := .socket "/tmp" 5432 }
  have whole : Json.parse (Utf8.encodeString "true") = .ok (.bool true) :=
    Json.parse_compactChars (.bool true) ⟨trivial, trivial⟩ (by decide)
  have parameter : Arguments.parameter "true" = .bool true := by
    rw [Arguments.parameter, Json.parseString?, whole]
    rfl
  have parsed : Arguments.parse args = .ok (.run a) := by
    show Except.ok (Invocation.run ⟨_, [Arguments.parameter "true"], true⟩) = _
    rw [parameter]
  have settled : Settings.ofVariables w.vars =
      .ok ⟨⟨"dbservice", .development⟩, ⟨"postgres://u@h?host=/tmp", none, none⟩⟩ := by
    decide +kernel
  have made : Pool.ofConfig (.ofVariables w.vars) (.ofUrl "postgres://u@h?host=/tmp") = .ok p := by
    decide +kernel
  have creates : Creates w w.vars p := ⟨_, ⟨rfl, settled⟩, made⟩
  have done : (query w a p).result = .ok [.ofMembers [("n", .ofInt 7)]] := rfl
  have written : Json.Written (asked a) 0 (.array [.ofMembers [("n", .ofInt 7)]])
      "[\x7b\"n\":7\x7d]".toList := (Json.written_iff ..).mpr (by decide)
  have described : Connection.Described s {} a.sql w.reply := by
    refine .inr ⟨nofun, ?_⟩
    intro column member
    cases List.mem_singleton.mp member
    exact ⟨0, _, .named 0 "INT4"⟩
  have reaches : Reaches w a s := ⟨by decide, w.vars, p, creates, by decide⟩
  obtain ⟨exits, stdout, _, _, _, _, _, sent⟩ := run_stages w args a parsed
  obtain ⟨⟨text, types, values⟩, one, rfl, rfl, bound, _⟩ := sent s reaches
  have lost : w.vars.load? (some "X=\x00\n") = none :=
    Option.isNone_iff_eq_none.mp (by decide +kernel)
  obtain ⟨read, reads, unstorable⟩ := (EnvFile.load?_eq_none_iff ..).mp lost
  obtain ⟨⟨_, _, crashes, _⟩, _⟩ :=
    run_stages { w with envFile := some "X=\x00\n" } args a parsed
  refine ⟨parsed, ⟨exits.1.mpr ⟨_, p, _, creates, done⟩, ?_, ?_⟩,
    crashes.mpr (.file _ read rfl reads unstorable)⟩
  · exact (stdout _ p _ creates done _).mp written
  · have held : values = some [some [1]] := bound described
    rw [one, held]
    rfl

end PgJson.Program
