import PgJson.Cell.Error
import PgJson.Url.Error

namespace PgJson

inductive IoError where
  | hangup
  | noSuchFile
  | notDirectory
  | pathTooLong
  | pathWithNull
  | system (text : String)
  deriving DecidableEq, Repr

def IoError.message : IoError → String
  | hangup => "expected to read 5 bytes, got 0 bytes at EOF"
  | noSuchFile => "No such file or directory (os error 2)"
  | notDirectory => "Not a directory (os error 20)"
  | pathTooLong => "path must be shorter than SUN_LEN"
  | pathWithNull => "paths must not contain interior null bytes"
  | system text => text

/-- What can go wrong between the pool and the server. -/
inductive DriverError where
  | poolTimedOut
  | poolClosed
  | workerCrashed
  | rowNotFound
  | protocol (detail : String)
  | database (message : String)
  | io (error : IoError)
  | tlsUnsupported
  | configuration (error : UrlError)
  | unsupported (typeName : String)
  | cell (index : Nat) (error : CellError)
  deriving DecidableEq, Repr

namespace DriverError

def chain : DriverError → List String
  | poolTimedOut => ["pool timed out while waiting for an open connection"]
  | poolClosed => ["attempted to acquire a connection on a closed pool"]
  | workerCrashed => ["attempted to communicate with a crashed background worker"]
  | rowNotFound =>
    ["no rows returned by a query that expected to return at least one row"]
  | protocol detail => ["encountered unexpected or invalid data: " ++ detail]
  | database m => ["error returned from database: " ++ m, m]
  | io error => ["error communicating with database: " ++ error.message, error.message]
  | tlsUnsupported =>
    ["error occurred while attempting to establish a TLS connection: " ++
      "server does not support TLS", "server does not support TLS"]
  | configuration error => ("error with configuration: " ++ error.message) :: error.chain
  | unsupported typeName =>
    ["error occurred while decoding: unsupported column type " ++ typeName,
      "unsupported column type " ++ typeName]
  | cell index error =>
    [s!"error occurred while decoding column {index}: " ++ error.message, error.message]

def message (e : DriverError) : String := e.chain.headD ""

end DriverError

inductive DbError where
  | invalidUrl (cause : DriverError)
  | invalidConfig (detail : String)
  | notConnected
  | query (cause : DriverError)
  | decode (column : String) (cause : DriverError)
  deriving DecidableEq, Repr

namespace DbError

def code : DbError → String
  | invalidUrl _ => "INVALID_URL"
  | invalidConfig _ => "INVALID_CONFIG"
  | notConnected => "NOT_CONNECTED"
  | query _ => "QUERY_FAILED"
  | decode .. => "DECODE_FAILED"

def cause? : DbError → Option DriverError
  | invalidUrl cause | query cause | decode _ cause => some cause
  | invalidConfig _ | notConnected => none

def message : DbError → String
  | invalidUrl cause => "Invalid database URL: " ++ cause.message
  | invalidConfig detail => "Invalid pool configuration: " ++ detail
  | notConnected => "Database service is not connected"
  | query cause => "Query failed: " ++ cause.message
  | decode column cause => "Failed to decode column " ++ column ++ ": " ++ cause.message

def chain (e : DbError) : List String := e.message :: (e.cause?.map DriverError.chain).getD []

end DbError
end PgJson
