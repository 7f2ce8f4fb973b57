import PgJson.Pool.Execution
import PgJson.Server.Basic

/-!
Connections. A connection keeps the statements it has prepared and the types it has asked about, so
the text of a statement that comes again stands for what it meant the first time.
-/

namespace PgJson

inductive Question where
  | type
  | labels
  | bound
  | fields
  deriving DecidableEq, Repr

inductive Purpose where
  | client (sql : String)
  | question (q : Question)
  deriving DecidableEq, Repr

structure Statement where
  purpose : Purpose
  types : List String := []
  columns : List Column := []
  deriving DecidableEq, Repr

structure Connection where
  statements : List Statement := []
  types : List (Nat × SqlType) := []
  deriving DecidableEq, Repr

structure Exchange where
  sent : Sent
  connection : Connection
  deriving DecidableEq, Repr

def Break.after (c : Connection) : Break → Connection
  | .error _ => c
  | .hangup => {}

namespace Connection

def find? (c : Connection) (p : Purpose) : Option Statement :=
  c.statements.find? (·.purpose == p)

def keep (capacity : Nat) (st : Statement) (c : Connection) : Connection :=
  { c with statements := (st :: c.statements.filter (·.purpose != st.purpose)).take capacity }

abbrev Task := OptionT (StateM Connection)

def Task.perform {α : Type} (t : Task α) (c : Connection) : Option α × Connection := (t.run).run c

def ask (capacity : Nat) (q : Question) : Task Unit := modify (keep capacity ⟨.question q, [], []⟩)

def ownType (capacity : Nat) (find : TypeRef → Task SqlType) (t : OwnType) : Task SqlType := do
  match t.shape with
  | .simple => return .own t.name
  | .labels =>
    ask capacity .labels
    return .own t.name
  | .domain base =>
    let _ ← find base
    return .own t.name
  | .array element => return .ownArray t.name (← find element)
  | .range bound =>
    ask capacity .bound
    let _ ← find bound
    return .own t.name
  | .composite fields =>
    ask capacity .fields
    let _ ← fields.mapM find
    return .own t.name

/-- The type behind a reference. The server is asked about a type of its own, and about those it is
made from, at most `depth` deep; it must know them all. -/
def typeOf (s : Server) (capacity : Nat) : (depth : Nat) → TypeRef → Task SqlType
  | _, .named name => return .builtIn name
  | 0, .numbered _ => failure
  | depth + 1, .numbered oid => do
    match (SqlType.ofNumber? oid).or ((← get).types.lookup oid) with
    | some t => return t
    | none =>
      ask capacity .type
      let some own := s.ownType? oid | failure
      let t ← ownType capacity (typeOf s capacity depth) own
      modify fun c => { c with types := (oid, t) :: c.types }
      return t

def columns (s : Server) (capacity : Nat) (columns : List (String × TypeRef)) :
    Task (List Column) :=
  columns.mapM fun (name, type) => (⟨name, ·⟩) <$> typeOf s capacity (s.types.length + 1) type

def prepare (s : Server) (capacity : Nat) (c : Connection) (sql : String) (types : List String)
    (r : Reply) : Except DriverError Statement × Connection :=
  match c.find? (.client sql), r.interruption with
  | some st, _ => (.ok st, c.keep capacity st)
  | none, some (.parse, b) => (.error b.cause, b.after c)
  | none, _ =>
    match (columns s capacity r.columns).perform c with
    | (none, c) => (.error .rowNotFound, c)
    | (some columns, c) =>
      let st : Statement := ⟨.client sql, types, columns⟩
      (.ok st, c.keep capacity st)

-- The protocol counts values with 16 bits.
def valueLimit : Nat := 0xffff

def tooMany (values : Nat) : DriverError :=
  .protocol ("PgConnection::run(): too many arguments for query: " ++ toString values)

/-- Prepares a statement, sends the values and gets the rows. Nothing is sent if there are more
values than can be counted. -/
def exchange (s : Server) (capacity : Nat) (c : Connection) (call : Call) (r : Reply) :
    Except DriverError (List Column × List Row) × Option Exchange :=
  let parameters := call.params.map Parameter.ofJson
  let types := parameters.map Parameter.typeName
  if valueLimit < call.params.length then (.error (tooMany call.params.length), none)
  else match prepare s capacity c call.sql types r with
  | (.error e, c) => (.error e, some ⟨⟨call.sql, types, none⟩, c⟩)
  | (.ok st, c) =>
    let sent : Sent := ⟨call.sql, st.types, some (parameters.map Parameter.bytes?)⟩
    match r.interruption with
    | none | some (.parse, _) => (.ok (st.columns, r.rows), some ⟨sent, c⟩)
    | some (_, b) => (.error b.cause, some ⟨sent, b.after c⟩)

end Connection
end PgJson
