import PgJson.Proofs.Pool.Rows
import PgJson.Proofs.Program.Stages

/-!
What a run shows of the parameters of its statement: how many they are. Their values go to the
server and nowhere else.
-/

namespace PgJson

structure Call.Alike (one other : Call) : Prop where
  sql : one.sql = other.sql
  count : one.params.length = other.params.length

namespace Pool

/-- What comes back for a statement does not depend on the parameters it is sent with. -/
theorem fetch_alike (now : Nat) (site : Site) (c : Connection) (r : Reply) (p : Pool)
    (one other : Call) (alike : one.Alike other) :
    p.fetch now site c r one = p.fetch now site c r other := by
  simp only [fetch, Connection.exchange_eq, alike.sql, alike.count]

theorem executionSpan_alike (one other : Call) (alike : one.Alike other) :
    executionSpan one = executionSpan other := by
  simp only [executionSpan, alike.sql, alike.count]

theorem execute_traces (now : Nat) (site : Site) (c : Connection) (r : Reply) (p : Pool)
    (call : Call) :
    (p.execute now site c r call).traces = [.span (executionSpan call)
      (match p.fetch now site c r call with
        | .ok (_, rows) => [.event (executed rows.length)]
        | .error _ => [])] := by
  unfold execute fetch
  cases p.acquire now site with
  | error failure => rfl
  | ok s =>
      dsimp only
      cases c.exchange s p.target.statementCapacity call r with
      | mk answer exchange =>
          cases answer with
          | error e => rfl
          | ok received => rfl

theorem execute_alike (now : Nat) (site : Site) (c : Connection) (r : Reply) (p : Pool)
    (one other : Call) (alike : one.Alike other) :
    (p.execute now site c r one).value.result = (p.execute now site c r other).value.result ∧
      (p.execute now site c r one).traces = (p.execute now site c r other).traces := by
  have fetched := fetch_alike now site c r p one other alike
  constructor
  · rw [execute_result, execute_result, fetched]
  · rw [execute_traces, execute_traces, fetched, executionSpan_alike one other alike]

end Pool

namespace Service

theorem querySpan_alike (one other : Call) (alike : one.Alike other) :
    querySpan one = querySpan other := by
  simp only [querySpan, alike.sql, alike.count]

theorem query_alike (s : Service Pool) (now : Nat) (site : Site) (c : Connection) (r : Reply)
    (one other : Call) (alike : one.Alike other) :
    (s.query (Pool.execute now site c r) one).value.result =
        (s.query (Pool.execute now site c r) other).value.result ∧
      (s.query (Pool.execute now site c r) one).traces =
        (s.query (Pool.execute now site c r) other).traces := by
  simp only [query, Log.Recorded.value_within, Log.Recorded.traces_within,
    querySpan_alike one other alike]
  cases s.pool with
  | none => exact ⟨rfl, rfl⟩
  | some p =>
      obtain ⟨result, traces⟩ := Pool.execute_alike now site c r p one other alike
      exact ⟨result, by rw [traces]⟩

end Service

namespace Program

theorem work_alike (w : World) (vars : Variables) (s : Settings) (a b : Arguments)
    (alike : (Call.mk a.sql a.params).Alike ⟨b.sql, b.params⟩) :
    (work w vars s a).value.1 = (work w vars s b).value.1 ∧
      (work w vars s a).traces = (work w vars s b).traces := by
  simp only [work, Log.Recorded.value_bind, Log.Recorded.traces_bind]
  cases (Service.connect _ _).value with
  | mk service connected =>
      cases connected with
      | error e => exact ⟨rfl, rfl⟩
      | ok made =>
          obtain ⟨result, traces⟩ := service.query_alike w.now w.site {} w.reply _ _ alike
          simp only [Log.Recorded.value_bind, Log.Recorded.traces_bind, Log.Recorded.value_pure,
            Log.Recorded.traces_pure, result, traces]
          exact ⟨trivial, trivial⟩

/-- Two results that show the same. What stands on the output stream may differ if the arguments ask
for the rows in different forms. -/
structure Result.Alike (form : Prop) (one other : Result) : Prop where
  exit : one.exit = other.exit
  stderr : one.stderr = other.stderr
  stdout : form → one.stdout = other.stdout

theorem result_alike (a b : Arguments) (sent sent' : List Sent)
    (outcome : Outcome Stop (List Json)) :
    (result a sent outcome).Alike (a.compact = b.compact) (result b sent' outcome) := by
  cases outcome with
  | ok rows =>
      refine ⟨rfl, rfl, ?_⟩
      intro same
      simp only [result, same]
  | error failure =>
      cases failure with
      | error stop => exact ⟨rfl, rfl, fun _ => rfl⟩
      | crash => exact ⟨rfl, rfl, fun _ => rfl⟩

theorem logged_alike (form : Prop) (one other : Result) (log : Log.Subscriber)
    (lines : List Log.Line) (alike : one.Alike form other) :
    (one.logged log lines).Alike form (other.logged log lines) := by
  obtain ⟨exit, stderr, stdout⟩ := alike
  unfold Result.logged
  split
  · exact ⟨exit, by simp only [stderr], stdout⟩
  · refine ⟨exit, stderr, ?_⟩
    intro same
    simp only [stdout same]

theorem executeWith_alike (w : World) (vars : Variables) (a b : Arguments)
    (alike : (Call.mk a.sql a.params).Alike ⟨b.sql, b.params⟩) :
    (executeWith w vars a).Alike (a.compact = b.compact) (executeWith w vars b) := by
  unfold executeWith
  cases Settings.ofVariables vars with
  | error e => exact result_alike a b [] [] _
  | ok s =>
      obtain ⟨outcome, traces⟩ := work_alike w vars s a b alike
      simp only [Log.Recorded.value_bind, Log.Recorded.traces_bind, Log.Recorded.value_pure,
        Log.Recorded.traces_pure, outcome, traces]
      apply logged_alike
      exact result_alike a b _ _ _

theorem execute_alike (w : World) (a b : Arguments)
    (alike : (Call.mk a.sql a.params).Alike ⟨b.sql, b.params⟩) :
    (execute w a).Alike (a.compact = b.compact) (execute w b) := by
  unfold execute
  cases w.vars.load? w.envFile with
  | none => exact result_alike a b [] [] _
  | some vars => exact executeWith_alike w vars a b alike

/-- Two runs of one statement in one world, each with its own parameters but as many of them, exit
alike and leave the same on the error stream, the lines of the log included; their output is the
same too if both ask for the same form. And no log that a service is used under, whatever its filter
and format, tells two such statements apart. -/
theorem run_hides_values (w : World) (args others : List String) (a b : Arguments)
    (parsed : Arguments.parse args = .ok (.run a))
    (parsed' : Arguments.parse others = .ok (.run b))
    (sql : a.sql = b.sql) (count : a.params.length = b.params.length) :
    (run w args).Alike (a.compact = b.compact) (run w others) ∧
      ∀ (one other : Call), one.Alike other → ∀ (log : Log.Telemetry) (spans : List Log.Span)
        (s : Service Pool) (now : Nat) (site : Site) (c : Connection) (r : Reply),
        let first := s.query (Pool.execute now site c r) one
        let second := s.query (Pool.execute now site c r) other
        log.lines spans first.traces = log.lines spans second.traces ∧
          first.value.result = second.value.result := by
  constructor
  · rw [run, run, parsed, parsed']
    exact execute_alike w a b ⟨sql, count⟩
  · intro one other alike log spans s now site c r first second
    obtain ⟨result, traces⟩ := s.query_alike now site c r one other alike
    exact ⟨congrArg (log.lines spans) traces, result⟩

theorem run_hides_values_document :
    let w : World := {
      vars := .ofList [("DATABASE_URL", "postgres://u@h?host=/tmp"), ("RUST_LOG", "trace")]
      site := { servers := [{ endpoint := .socket "/tmp" 5432 }] }
      reply := { columns := [("n", .named "INT4")], rows := [[some [0, 0, 0, 7]]] } }
    let first : Arguments := ⟨"SELECT 7 WHERE $1", [.bool true], true⟩
    let second : Arguments := ⟨"SELECT 7 WHERE $1", [.string "secret"], true⟩
    let log : Log.Telemetry := ⟨some ⟨.ofLevel .debug, .development⟩, 4⟩
    let idle : Service Pool := { url := "postgres://u@h" }
    let query (a : Arguments) :=
      idle.query (Pool.execute w.now w.site {} w.reply) ⟨a.sql, a.params⟩
    (Arguments.parse ["SELECT 7 WHERE $1", "--compact", "true"] = .ok (.run first) ∧
        Arguments.parse ["SELECT 7 WHERE $1", "--compact", "secret"] = .ok (.run second)) ∧
      ((run w ["SELECT 7 WHERE $1", "--compact", "true"]).stderr =
          (run w ["SELECT 7 WHERE $1", "--compact", "secret"]).stderr ∧
        (run w ["SELECT 7 WHERE $1", "--compact", "true"]).stdout =
          (run w ["SELECT 7 WHERE $1", "--compact", "secret"]).stdout) ∧
      log.lines [] (query first).traces = log.lines [] (query second).traces := by
  intro w first second log idle query
  have document : Json.parse (Utf8.encodeString "true") = .ok (.bool true) :=
    Json.parse_compactChars (.bool true) ⟨trivial, trivial⟩ (by decide)
  have shown : Arguments.parameter "true" = .bool true := by
    rw [Arguments.parameter, Json.parseString?, document]
    rfl
  have parsed : Arguments.parse ["SELECT 7 WHERE $1", "--compact", "true"] = .ok (.run first) := by
    show Except.ok (Invocation.run ⟨_, [Arguments.parameter "true"], true⟩) = _
    rw [shown]
  have unread : Json.parseString? "secret" = none :=
    Option.isNone_iff_eq_none.mp (by decide +kernel)
  have parsed' : Arguments.parse ["SELECT 7 WHERE $1", "--compact", "secret"] =
      .ok (.run second) := by
    show Except.ok (Invocation.run ⟨_, [Arguments.parameter "secret"], true⟩) = _
    rw [Arguments.parameter, unread]
    rfl
  obtain ⟨ran, queried⟩ := run_hides_values w _ _ first second parsed parsed' rfl rfl
  obtain ⟨lines, _⟩ := queried _ _ ⟨rfl, rfl⟩ log [] idle w.now w.site {} w.reply
  exact ⟨⟨parsed, parsed'⟩, ⟨ran.stderr, ran.stdout rfl⟩, lines⟩

end Program
end PgJson
