import PgJson.Pool.Remote
import PgJson.Service

namespace PgJson

structure Surroundings where
  defaults : Target
  site : Site
  deriving Repr

/-- A service, and the connection that its pool holds, a new one as long as nothing is known. One
client at a time needs no second one. -/
structure Session where
  service : Service Pool
  connection : Connection := {}
  deriving Repr

namespace Session

/-- A step of a client; at a statement with the seconds that the clock shows and the server's reply.
`connect` without bounds takes the default ones. -/
inductive Step where
  | connect (bounds : Option (UInt32 × UInt64))
  | close
  | query (now : Nat) (call : Call) (reply : Reply)
  deriving Repr

inductive Answer where
  | connected (result : Except DbError Unit)
  | closed (wasConnected : Bool)
  | queried (result : Outcome DbError (List Json)) (sent : List Sent)

def config (bounds : Option (UInt32 × UInt64)) (url : String) : PoolConfig :=
  match bounds with
  | none => .ofUrl url
  | some (maxSize, acquireTimeoutSecs) => ⟨url, maxSize, acquireTimeoutSecs⟩

def after (c : Connection) (exchanges : List Exchange) : Connection :=
  (exchanges.getLast?.map Exchange.connection).getD c

def step (w : Surroundings) (s : Session) : Step → Log.Recorded (Session × Answer)
  | .connect bounds => do
    let (service, result) ← s.service.connect fun url => Pool.create w.defaults (config bounds url)
    let connection := if result.isOk then {} else s.connection
    return (⟨service, connection⟩, .connected result)
  | .close =>
    return ({ s with service := { s.service with pool := s.service.pool.map Pool.close } },
      .closed s.service.isConnected)
  | .query now call reply => do
    let e ← s.service.query (Pool.execute now w.site s.connection reply) call
    return ({ s with connection := after s.connection e.effects },
      .queried e.result (e.effects.map Exchange.sent))

def run (w : Surroundings) (s : Session) : List Step → Log.Recorded (List (Session × Answer))
  | [] => return []
  | first :: rest => do
    let (s, answer) ← step w s first
    return (s, answer) :: (← run w s rest)

end Session
end PgJson
