import PgJson.Arguments.Basic
import PgJson.Arguments.Help
import PgJson.EnvFile.Basic
import PgJson.Json.Printer
import PgJson.Log.Telemetry
import PgJson.Session
import PgJson.Settings.OfVariables

/-!
The program: it reads its settings, connects, runs one statement and prints the rows. It stops at
the first of these stages that fails.
-/

namespace PgJson

namespace Program

def variableNames : List String :=
  ["APP_ENV", "APP_NAME", "DATABASE_URL", "DATABASE_MAX_CONNECTIONS", "DATABASE_TIMEOUT_SECS",
    "RUST_LOG", "PGHOST", "PGHOSTADDR", "PGPORT", "PGUSER", "USER", "PGDATABASE", "PGSSLMODE",
    "PGAPPNAME", "PGOPTIONS"]

/-- What a run finds: variables, a file of variables, the seconds that the clock shows, servers, and
the reply to its statement. -/
structure World where
  vars : Variables
  envFile : Option String := none
  now : Nat := 0
  site : Site := {}
  reply : Reply := {}

inductive Stop where
  | settings (error : SettingsError)
  | pool (error : DbError)
  | query (error : DbError)
  deriving DecidableEq, Repr

namespace Stop

def context : Stop → String
  | settings _ => "Failed to load configuration"
  | pool _ => "Failed to create connection pool"
  | query _ => "Query failed"

def chain (s : Stop) : List String :=
  s.context :: match s with
    | settings e => [e.message]
    | pool e | query e => e.chain

def message (s : Stop) : String := "Error: " ++ ": ".intercalate s.chain

end Stop

structure Result where
  exit : Nat
  stdout : String := ""
  stderr : List Log.Line := []
  sent : List Sent := []

def logTarget : String := "dbservice"

def event (level : Log.Level) (message : String) (fields : Log.Fields) : Log.Event :=
  { level, target := logTarget, message, fields }

def settingsLoaded (s : Settings) : Log.Event :=
  event .info "Configuration loaded"
    [("app", .plain s.app.name), ("env", .plain s.app.env.label)]

def queryFinished (rows : Nat) : Log.Event := event .info "Query finished" [("rows", .nat rows)]

def stopped (s : Stop) : Log.Event := event .error "dbservice failed" [("error", .plain s.context)]

def logConfig : Environment → Log.Config
  | .production => .production
  | _ => .default

/-- Connects and runs the statement; beside the outcome stands what the server got. -/
def work (w : World) (vars : Variables) (s : Settings) (a : Arguments) :
    Log.Recorded (Outcome Stop (List Json) × List Sent) := do
  .record (settingsLoaded s)
  let idle : Service Pool := { url := s.database.url }
  let (service, connected) ← idle.connect fun url =>
    Pool.create (.ofVariables vars) { PoolConfig.ofSettings s.database with url }
  match connected with
  | .error e => return (Outcome.fail (.pool e), [])
  | .ok () =>
    let e ← service.query (Pool.execute w.now w.site {} w.reply) ⟨a.sql, a.params⟩
    return (e.result.mapCause .query, e.effects.map Exchange.sent)

def conclude (outcome : Outcome Stop (List Json)) : Log.Recorded Unit :=
  match outcome with
  | .ok rows => .record (queryFinished rows.length)
  | .error (.error s) => .record (stopped s)
  | .error .crash => return ()

def output (compact : Bool) (rows : List Json) : String :=
  (if compact then Json.compact (.array rows) else Json.pretty (.array rows)) ++ "\n"

def result (a : Arguments) (sent : List Sent) : Outcome Stop (List Json) → Result
  | .ok rows => { exit := 0, stdout := output a.compact rows, sent }
  | .error (.error s) => { exit := 1, stderr := [.text s.message], sent }
  | .error .crash => { exit := 101, sent }

def Result.logged (r : Result) (log : Log.Subscriber) (lines : List Log.Line) : Result :=
  if log.config.stderr then { r with stderr := lines ++ r.stderr }
  else { r with stdout := String.join (lines.map Log.Line.written) ++ r.stdout }

/-- Runs a statement with the variables of the process and its file. Until the settings are read
there is no log. -/
def executeWith (w : World) (vars : Variables) (a : Arguments) : Result :=
  match Settings.ofVariables vars with
  | .error e => result a [] (Outcome.fail (.settings e))
  | .ok s =>
    let recorded : Log.Recorded (Outcome Stop (List Json) × List Sent) := do
      let (outcome, sent) ← work w vars s a
      conclude outcome
      return (outcome, sent)
    let log := Log.Subscriber.ofConfig (vars "RUST_LOG") (logConfig s.app.env)
    (result a recorded.value.2 recorded.value.1).logged log
      (log.traces log.filter.limit [] recorded.traces)

def execute (w : World) (a : Arguments) : Result :=
  match w.vars.load? w.envFile with
  | none => result a [] Outcome.crash
  | some vars => executeWith w vars a

def run (w : World) (args : List String) : Result :=
  match Arguments.parse args with
  | .error e => { exit := 2, stderr := [.text e.message] }
  | .ok (.help long) => { exit := 0, stdout := Arguments.help long }
  | .ok .version => { exit := 0, stdout := Arguments.versionText }
  | .ok (.run a) => execute w a

end Program
end PgJson
