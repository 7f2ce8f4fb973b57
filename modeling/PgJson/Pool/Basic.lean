import PgJson.Log.Recorded
import PgJson.Pool.Config
import PgJson.Target

/-! Pools of connections. A pool is made without contact to its server. -/

namespace PgJson

structure Pool where
  config : PoolConfig
  target : Target
  closed : Bool := false
  deriving DecidableEq, Repr

namespace Pool

def ofConfig (defaults : Target) (c : PoolConfig) : Except DbError Pool :=
  if c.maxSize = 0 then .error (.invalidConfig "max_size must be at least 1")
  else match Target.parse defaults c.url with
    | .ok target => .ok { config := c, target }
    | .error e => .error (.invalidUrl (.configuration e))

def close (p : Pool) : Pool := { p with closed := true }

def logTarget : String := "dbservice_db::pool::postgres"

def creation (c : PoolConfig) : Log.Event where
  level := .debug
  target := logTarget
  message := "Created PostgreSQL pool"
  fields := [("max_size", .nat c.maxSize.toNat),
    ("acquire_timeout_secs", .nat c.acquireTimeoutSecs.toNat)]

def create (defaults : Target) (c : PoolConfig) : Log.Recorded (Except DbError Pool) :=
  match ofConfig defaults c with
  | .ok p => do
    .record (creation c)
    return .ok p
  | .error e => return .error e

end Pool
end PgJson
