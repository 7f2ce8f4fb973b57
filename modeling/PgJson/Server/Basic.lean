import PgJson.Parameter
import PgJson.Row
import PgJson.Target

namespace PgJson

inductive TypeRef where
  | named (name : String)
  | numbered (oid : Nat)
  deriving DecidableEq, Repr

inductive TypeShape where
  | simple
  | labels
  | domain (base : TypeRef)
  | array (element : TypeRef)
  | range (bound : TypeRef)
  | composite (fields : List TypeRef)
  deriving DecidableEq, Repr

structure OwnType where
  oid : Nat
  name : String
  shape : TypeShape := .simple
  deriving DecidableEq, Repr

inductive Stage where
  | parse
  | bind
  | rows
  deriving DecidableEq, Repr

inductive Break where
  | error (message : String)
  | hangup
  deriving DecidableEq, Repr

def Break.cause : Break → DriverError
  | .error message => .database message
  | .hangup => .io .hangup

/-- The reply to one statement. A statement without columns returns no rows. -/
structure Reply where
  columns : List (String × TypeRef) := []
  rows : List Row := []
  interruption : Option (Stage × Break) := none
  deriving DecidableEq, Repr

structure Refusal where
  code : String
  message : String
  deriving DecidableEq, Repr

/-- Too many connections, or a server that is not ready yet: the pool tries again. -/
def Refusal.isPassing (r : Refusal) : Bool := r.code == "53300" || r.code == "57P03"

structure Server where
  endpoint : Endpoint
  types : List OwnType := []
  refusal : Option Refusal := none
  deriving DecidableEq, Repr

/-- A statement as a server got it. The values follow only once it has been described. -/
structure Sent where
  sql : String
  types : List String
  values : Option (List (Option Bytes))
  deriving DecidableEq, Repr

def Server.ownType? (s : Server) (oid : Nat) : Option OwnType := s.types.find? (·.oid == oid)

end PgJson
