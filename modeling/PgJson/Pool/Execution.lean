import PgJson.Error
import PgJson.Json.Basic
import PgJson.Log.Recorded

namespace PgJson

/-- A result, and what was done on the way: the calls a pool took or the statements a server got. -/
structure Execution (ε : Type) where
  result : Outcome DbError (List Json)
  effects : List ε := []

namespace Execution

def failed {ε : Type} (e : DbError) : Execution ε := ⟨Outcome.fail e, []⟩

end Execution

structure Call where
  sql : String
  params : List Json
  deriving Repr

end PgJson
