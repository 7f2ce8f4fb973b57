import PgJson.Pool.Execution

/-!
The database service: a URL and, once connected, a pool that queries are handed to unchanged. What a
pool is and how it runs a statement is left open.
-/

namespace PgJson

structure Service (π : Type) where
  url : String
  pool : Option π := none
  deriving DecidableEq, Repr

namespace Service

variable {π ε : Type}

def isConnected (s : Service π) : Bool := s.pool.isSome

def logTarget : String := "dbservice_db::service::database"

def event (message : String) : Log.Event := { level := .debug, target := logTarget, message }

/-- Makes a pool for the service's URL, which takes the place of the one before; a failure leaves
that as it is. -/
def connect (s : Service π) (factory : String → Log.Recorded (Except DbError π)) :
    Log.Recorded (Service π × Except DbError Unit) := do
  match ← factory s.url with
  | .error e => return (s, .error e)
  | .ok pool =>
    .record (event (if s.isConnected then "Replaced existing pool handle"
      else "Database service connected"))
    return ({ s with pool := some pool }, .ok ())

def querySpan (c : Call) : Log.Span where
  level := .info
  target := logTarget
  name := "query"
  fields := [("sql", .quoted c.sql), ("params", .nat c.params.length)]

def query (s : Service π) (execute : π → Call → Log.Recorded (Execution ε)) (c : Call) :
    Log.Recorded (Execution ε) :=
  .within (querySpan c) <|
    match s.pool with
    | none => return .failed .notConnected
    | some pool => execute pool c

def connectedText (s : Service π) : String := if s.isConnected then "true" else "false"

def text (s : Service π) : String :=
  "DatabaseService \x7b connected: " ++ s.connectedText ++ ", .. \x7d"

def prettyText (s : Service π) : String :=
  "DatabaseService \x7b\n    connected: " ++ s.connectedText ++ ",\n    ..\n\x7d"

end Service
end PgJson
