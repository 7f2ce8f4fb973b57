import PgJson.Json.Printer
import PgJson.Settings.Basic
import PgJson.Text.Quoted

/-!
Settings from a JSON value. A structure is an object of its fields, in which unknown names are
passed over, or an array of its fields in their order.
-/

namespace PgJson
namespace Settings

inductive ShapeError where
  | wrongType (found : Json) (expected : String)
  | wrongNumber (found : Int) (expected : String)
  | notOneKey
  | unknownEnvironment (name : String)
  | missingField (name : String)
  | tooShort (length : Nat) (expected : String)
  | tooLong (length : Nat)
  deriving Repr

def describe : Json → String
  | .null => "null"
  | .bool b => "boolean `" ++ (if b then "true" else "false") ++ "`"
  | .number (.integer n _) => s!"integer `{n}`"
  | .number (.float x _) => "floating point `" ++ .ofList x.jsonText ++ "`"
  | .string s => "string " ++ Text.quoted s
  | .array _ => "sequence"
  | .object _ => "map"

def ShapeError.message : ShapeError → String
  | wrongType found expected => "invalid type: " ++ describe found ++ ", expected " ++ expected
  | wrongNumber found expected => s!"invalid value: integer `{found}`, expected {expected}"
  | notOneKey => "invalid value: map, expected map with a single key"
  | unknownEnvironment name =>
    "unknown variant `" ++ name ++ "`, expected one of `development`, `staging`, `production`"
  | missingField name => "missing field `" ++ name ++ "`"
  | tooShort length expected => s!"invalid length {length}, expected {expected}"
  | tooLong length => s!"invalid length {length}, expected fewer elements in array"

def string : Json → Except ShapeError String
  | .string s => .ok s
  | v => .error (.wrongType v "a string")

def bound (limit : Nat) (expected : String) : Json → Except ShapeError (Option Nat)
  | .null => .ok none
  | .number (.integer n _) =>
    if 0 ≤ n ∧ n < limit then .ok (some n.toNat)
    else .error (.wrongNumber n expected)
  | v => .error (.wrongType v expected)

def namedEnvironment (name : String) : Except ShapeError Environment :=
  match Environment.ofName? name with
  | some env => .ok env
  | none => .error (.unknownEnvironment name)

/-- An environment's name, or an object of that one name with `null` under it. -/
def environmentOfJson : Json → Except ShapeError Environment
  | .string name => namedEnvironment name
  | .object [(name, value)] => do
    let env ← namedEnvironment name
    match value with
    | .null => .ok env
    | v => .error (.wrongType v "unit")
  | .object _ => .error .notOneKey
  | v => .error (.wrongType v "string or map")

/-! ## Structures -/

def optional {α : Type} (read : Json → Except ShapeError α) :
    Option Json → Except ShapeError (Option α)
  | none => .ok none
  | some v => some <$> read v

def noMore (count : Nat) (items : List Json) : Except ShapeError Unit :=
  if count < items.length then .error (.tooLong items.length) else .ok ()

def requiredField {α : Type} (name : String) : Option α → Except ShapeError α
  | some a => .ok a
  | none => .error (.missingField name)

def requiredItem {α : Type} (length : Nat) (expected : String) :
    Option α → Except ShapeError α
  | some a => .ok a
  | none => .error (.tooShort length expected)

def appOfParts (name : Option String) (env : Option Environment) : AppSettings :=
  ⟨name.getD defaultAppName, env.getD .development⟩

def appOfJson : Json → Except ShapeError AppSettings
  | .array items => do
    let name ← optional string items[0]?
    let env ← optional environmentOfJson items[1]?
    noMore 2 items
    .ok (appOfParts name env)
  | .object members => do
    let env ← optional environmentOfJson (members.lookup "env")
    let name ← optional string (members.lookup "name")
    .ok (appOfParts name env)
  | v => .error (.wrongType v "struct AppSettings")

def maxConnectionsOfJson : Json → Except ShapeError (Option Nat) := bound Text.limit32 "u32"

def timeoutOfJson : Json → Except ShapeError (Option Nat) := bound Text.limit64 "u64"

def databaseOfParts (url : String) (maxConnections timeoutSecs : Option (Option Nat)) :
    DatabaseSettings :=
  ⟨url, maxConnections.join.map .ofNat, timeoutSecs.join.map .ofNat⟩

def databaseOfJson : Json → Except ShapeError DatabaseSettings
  | .array items => do
    let url ← requiredItem 0 "struct DatabaseConfig with 3 elements" (← optional string items[0]?)
    let maxConnections ← optional maxConnectionsOfJson items[1]?
    let timeoutSecs ← optional timeoutOfJson items[2]?
    noMore 3 items
    .ok (databaseOfParts url maxConnections timeoutSecs)
  | .object members => do
    let maxConnections ← optional maxConnectionsOfJson (members.lookup "max_connections")
    let timeoutSecs ← optional timeoutOfJson (members.lookup "timeout_secs")
    let url ← optional string (members.lookup "url")
    let url ← requiredField "url" url
    .ok (databaseOfParts url maxConnections timeoutSecs)
  | v => .error (.wrongType v "struct DatabaseConfig")

/-- The fields of an object are read in the order of their names. -/
def ofJson : Json → Except ShapeError Settings
  | .array items => do
    let expected := "struct AppConfig with 2 elements"
    let app ← requiredItem 0 expected (← optional appOfJson items[0]?)
    let database ← requiredItem 1 expected (← optional databaseOfJson items[1]?)
    noMore 2 items
    .ok ⟨app, database⟩
  | .object members => do
    let app ← optional appOfJson (members.lookup "app")
    let database ← optional databaseOfJson (members.lookup "database")
    let app ← requiredField "app" app
    let database ← requiredField "database" database
    .ok ⟨app, database⟩
  | v => .error (.wrongType v "struct AppConfig")

end Settings
end PgJson
