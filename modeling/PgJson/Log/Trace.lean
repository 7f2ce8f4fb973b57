import PgJson.Text.Quoted

namespace PgJson.Log

inductive Level where
  | trace
  | debug
  | info
  | warn
  | error
  deriving DecidableEq, Repr

namespace Level

def name : Level → String
  | trace => "TRACE"
  | debug => "DEBUG"
  | info => "INFO"
  | warn => "WARN"
  | error => "ERROR"

def verbosity : Level → Nat
  | error => 1
  | warn => 2
  | info => 3
  | debug => 4
  | trace => 5

end Level

/-- The value of a field. Quoted texts show quotes in text lines, plain ones do not. -/
inductive Value where
  | nat (n : Nat)
  | int (n : Int)
  | bool (b : Bool)
  | quoted (s : String)
  | plain (s : String)
  deriving DecidableEq, Repr

abbrev Fields := List (String × Value)

structure Event where
  level : Level
  target : String
  message : String
  fields : Fields := []
  absent : List String := []
  deriving DecidableEq, Repr

def Event.fieldNames (e : Event) : List String := "message" :: e.fields.map (·.1) ++ e.absent

structure Span where
  level : Level
  target : String
  name : String
  fields : Fields := []
  deriving DecidableEq, Repr

inductive Trace where
  | event (e : Event)
  | span (s : Span) (inner : List Trace)
  deriving Repr

end PgJson.Log
