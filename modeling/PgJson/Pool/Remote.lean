import PgJson.Pool.Basic
import PgJson.Server.Connection

namespace PgJson

/-- What keeps a pool from an endpoint: nobody answers there, or the way there fails at once. -/
inductive Obstacle where
  | silence
  | failure (error : IoError)
  deriving DecidableEq, Repr

/-- What a pool may find: servers, obstacles on its way, and files that stand where it looks for a
directory. -/
structure Site where
  servers : List Server := []
  obstacles : List (Endpoint × Obstacle) := []
  files : List String := []
  deriving DecidableEq, Repr

namespace Site

def steps (path : String) : List (List Char) :=
  ((Text.fields (· == '/') path.toList).filter fun name => name != [] && name != ['.']).foldl
    (fun passed name => if name = ['.', '.'] then passed.dropLast else passed ++ [name]) []

def isBlocked (s : Site) (path : String) : Bool :=
  s.files.any fun file => (steps file).isPrefixOf (steps path)

def socketLimit : Nat := 108

def missing (s : Site) (directory : String) (port : Nat) : IoError :=
  let path := directory ++ "/.s.PGSQL." ++ toString port
  if path.toList.contains '\x00' then .pathWithNull
  else if socketLimit ≤ path.utf8ByteSize then .pathTooLong
  else if s.isBlocked directory then .notDirectory
  else .noSuchFile

/-- What a pool ends with where it finds no server. A socket that is not there and a host that is
not found fail at once; an address that turns it away or is silent is tried until its time is up. -/
def absence (s : Site) (e : Endpoint) : DriverError :=
  match s.obstacles.lookup e, e with
  | some .silence, _ => .poolTimedOut
  | some (.failure error), _ => .io error
  | none, .socket directory port => .io (s.missing directory port)
  | none, .address .. => .poolTimedOut

end Site

namespace Pool

/-- A clock counts seconds with 63 bits. -/
def clockLimit : Nat := 0x8000000000000000

/-- Before it does anything an open pool adds its time to what the clock shows. -/
def ready (now : Nat) (p : Pool) : Outcome DriverError Unit :=
  if p.closed then Outcome.fail .poolClosed
  else if clockLimit ≤ now + p.config.acquireTimeoutSecs.toNat then Outcome.crash
  else if p.config.acquireTimeoutSecs = 0 then Outcome.fail .poolTimedOut
  else .ok ()

def login (t : Target) (site : Site) : Outcome DriverError Server :=
  match site.servers.find? (·.endpoint == t.endpoint) with
  | none => Outcome.fail (site.absence t.endpoint)
  | some s =>
    if t.sslMode.demandsTls then Outcome.fail .tlsUnsupported
    else match s.refusal with
      | some r => Outcome.fail (if r.isPassing then .poolTimedOut else .database r.message)
      | none => .ok s

def acquire (p : Pool) (now : Nat) (site : Site) : Outcome DriverError Server := do
  p.ready now
  login p.target site

def executionSpan (c : Call) : Log.Span where
  level := .info
  target := logTarget
  name := "execute"
  fields := [("sql", .quoted c.sql), ("params", .nat c.params.length)]

def executed (rows : Nat) : Log.Event where
  level := .debug
  target := logTarget
  message := "Statement executed"
  fields := [("rows", .nat rows)]

/-- Runs a statement over the pool's connection. All rows are fetched before any is decoded. -/
def execute (now : Nat) (site : Site) (connection : Connection) (r : Reply) (p : Pool) (c : Call) :
    Log.Recorded (Execution Exchange) :=
  .within (executionSpan c) <|
    match p.acquire now site with
    | .error e => return ⟨Outcome.mapCause DbError.query (.error e), []⟩
    | .ok s =>
      match connection.exchange s p.target.statementCapacity c r with
      | (.error e, exchange) => return ⟨Outcome.fail (.query e), exchange.toList⟩
      | (.ok (columns, rows), exchange) => do
        .record (executed rows.length)
        return ⟨rows.mapM (Row.toJson columns), exchange.toList⟩

end Pool
end PgJson
