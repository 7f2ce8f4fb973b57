namespace PgJson

inductive Environment where
  | development
  | staging
  | production
  deriving DecidableEq, Repr

namespace Environment

def name : Environment → String
  | development => "development"
  | staging => "staging"
  | production => "production"

def label : Environment → String
  | development => "Development"
  | staging => "Staging"
  | production => "Production"

def ofName? : String → Option Environment
  | "development" => some development
  | "staging" => some staging
  | "production" => some production
  | _ => none

end Environment

structure AppSettings where
  name : String
  env : Environment
  deriving DecidableEq, Repr

def defaultAppName : String := "dbservice"

structure DatabaseSettings where
  url : String
  maxConnections : Option UInt32
  timeoutSecs : Option UInt64
  deriving DecidableEq, Repr

structure Settings where
  app : AppSettings
  database : DatabaseSettings
  deriving DecidableEq, Repr

end PgJson
