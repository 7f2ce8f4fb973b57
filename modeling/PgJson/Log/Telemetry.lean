import PgJson.Log.Filter
import PgJson.Log.Format
import PgJson.Outcome

namespace PgJson.Log

structure Config where
  level : Level
  json : Bool
  spanEvents : Bool
  fileLine : Bool
  threadNames : Bool
  stderr : Bool
  deriving DecidableEq, Repr

namespace Config

def default : Config := ⟨.info, false, false, true, false, true⟩

def development : Config := ⟨.debug, false, true, true, true, true⟩

def production : Config := ⟨.info, true, false, false, false, true⟩

end Config

structure Subscriber where
  filter : Filter
  config : Config
  deriving DecidableEq, Repr

/-- The filter of the environment if it is set and can be read, else the configuration's level. -/
def Subscriber.ofConfig (environment : Option String) (c : Config) : Subscriber :=
  ⟨(environment.bind Filter.read?).getD (.ofLevel c.level), c⟩

/-- The one log of a process, if it is set up, and the highest level that the log is asked about:
what lies above it is passed over without a look at the filter. -/
structure Telemetry where
  subscriber : Option Subscriber := none
  bound : Bound := 0
  deriving DecidableEq, Repr

inductive SetupError where
  | alreadyInitialized
  deriving DecidableEq, Repr

def SetupError.message : SetupError → String
  | .alreadyInitialized => "Tracing subscriber already initialized"

def SetupError.crashMessage : SetupError → String
  | .alreadyInitialized =>
    "failed to initialize tracing: a global default trace dispatcher has already been set"

/-- Only the first set-up counts. A later one fails, but not before its filter has had a say in how
high the levels go that the log is asked about. -/
def Telemetry.install (environment : Option String) (c : Config) (t : Telemetry) :
    Telemetry × Except SetupError Unit :=
  let made := Subscriber.ofConfig environment c
  match t.subscriber with
  | none => (⟨some made, made.filter.limit⟩, .ok ())
  | some first =>
    (⟨some first, max first.filter.limit made.filter.limit⟩, .error .alreadyInitialized)

structure Setup where
  config : Option Config := none
  reports : Bool
  deriving DecidableEq, Repr

namespace Setup

def wanted (s : Setup) : Config := s.config.getD .default

def answer (s : Setup) : Except SetupError Unit → Outcome SetupError Unit
  | .ok () => .ok ()
  | .error e => if s.reports then Outcome.fail e else Outcome.crash

end Setup

namespace Subscriber

def format (s : Subscriber) : Format := ⟨s.config.json, s.config.fileLine, s.config.threadNames⟩

def event (s : Subscriber) (bound : Bound) (spans : List Span) (e : Event) : List Line :=
  if e.level.verbosity ≤ bound && s.filter.admitsEvent spans e then [s.format.event spans e]
  else []

/-- What is written when an admitted span opens or ends, if the configuration asks for it. -/
def lifecycle (s : Subscriber) (outer : List Span) (span : Span) (message : String)
    (fields : Fields) : List Line :=
  if s.config.spanEvents then
    [s.format.spanEvent outer span { level := span.level, target := span.target, message, fields }]
  else []

def opening (s : Subscriber) (outer : List Span) (span : Span) : List Line :=
  s.lifecycle outer span "new" []

def ending (s : Subscriber) (outer : List Span) (span : Span) : List Line :=
  s.lifecycle outer span "close" [("time.busy", .plain "T"), ("time.idle", .plain "T")]

def admitsSpan (s : Subscriber) (bound : Bound) (outer : List Span) (span : Span) : Bool :=
  span.level.verbosity ≤ bound && s.filter.admitsSpan outer span

mutual

def trace (s : Subscriber) (bound : Bound) (spans : List Span) : Trace → List Line
  | .event e => s.event bound spans e
  | .span span inner =>
    if s.admitsSpan bound spans span then
      s.opening spans span ++ s.traces bound (spans ++ [span]) inner ++ s.ending spans span
    else s.traces bound spans inner

def traces (s : Subscriber) (bound : Bound) (spans : List Span) : List Trace → List Line
  | [] => []
  | t :: rest => s.trace bound spans t ++ s.traces bound spans rest

end

end Subscriber

def Telemetry.lines (t : Telemetry) (spans : List Span) (traces : List Trace) : List Line :=
  match t.subscriber with
  | none => []
  | some s => s.traces t.bound spans traces

end PgJson.Log
