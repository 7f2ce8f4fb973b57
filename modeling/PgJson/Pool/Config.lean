import PgJson.Settings.Basic

namespace PgJson

structure PoolConfig where
  url : String
  maxSize : UInt32
  acquireTimeoutSecs : UInt64
  deriving DecidableEq, Repr

namespace PoolConfig

def defaultMaxSize : UInt32 := 10

def defaultAcquireTimeoutSecs : UInt64 := 30

def ofUrl (url : String) : PoolConfig := ⟨url, defaultMaxSize, defaultAcquireTimeoutSecs⟩

def ofSettings (d : DatabaseSettings) : PoolConfig :=
  ⟨d.url, d.maxConnections.getD defaultMaxSize, d.timeoutSecs.getD defaultAcquireTimeoutSecs⟩

end PoolConfig
end PgJson
