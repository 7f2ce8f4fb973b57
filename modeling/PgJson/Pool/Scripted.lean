import PgJson.Pool.Execution

namespace PgJson

/-- What a scripted pool answers: rows, the call itself as a row, or an error. -/
inductive Script where
  | rows (rows : List Json)
  | echo
  | fail (error : DbError)
  deriving Repr

structure ScriptedPool where
  id : Int
  script : Script
  deriving Repr

namespace ScriptedPool

structure Taken where
  pool : Int
  call : Call
  deriving Repr

def echo (c : Call) : Json :=
  .ofMembers [("sql", .string c.sql), ("params", .array c.params)]

def answer (c : Call) : Script → Outcome DbError (List Json)
  | .rows rows => .ok rows
  | .echo => .ok [echo c]
  | .fail e => Outcome.fail e

def execute (p : ScriptedPool) (c : Call) : Log.Recorded (Execution Taken) :=
  return ⟨answer c p.script, [⟨p.id, c⟩]⟩

end ScriptedPool
end PgJson
