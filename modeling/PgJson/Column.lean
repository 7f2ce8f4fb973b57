import PgJson.Cell.Array
import PgJson.Error
import PgJson.SqlType

namespace PgJson

structure Column where
  name : String
  type : SqlType
  deriving DecidableEq, Repr

inductive ColumnKind where
  | scalar (s : Scalar)
  | array (s : Scalar)
  | json
  | jsonb
  | timestamptz
  | timestamp
  | date
  | time
  | other
  deriving DecidableEq, Repr

def Scalar.names : List (String × Scalar) :=
  [("BOOL", .bool), ("INT2", .int2), ("INT4", .int4), ("INT8", .int8), ("FLOAT4", .float4),
    ("FLOAT8", .float8), ("NUMERIC", .numeric), ("TEXT", .text), ("VARCHAR", .text),
    ("BPCHAR", .text), ("NAME", .text), ("UUID", .uuid)]

namespace ColumnKind

def single : List (String × ColumnKind) :=
  [("JSON", .json), ("JSONB", .jsonb), ("TIMESTAMPTZ", .timestamptz), ("TIMESTAMP", .timestamp),
    ("DATE", .date), ("TIME", .time)]

def names : List (String × ColumnKind) :=
  Scalar.names.map (fun (name, s) => (name, .scalar s)) ++ single ++
    Scalar.names.map (fun (name, s) => (name ++ "[]", .array s))

def ofName (name : String) : ColumnKind := (names.lookup name).getD .other

def reading : ColumnKind → String × String
  | scalar s => s.reading
  | array s =>
    ("alloc::vec::Vec<core::option::Option<" ++ s.reading.1 ++ ">>", s.reading.2 ++ "[]")
  | json | jsonb => ("serde_json::value::Value", "JSONB")
  | timestamptz => ("chrono::datetime::DateTime<chrono::offset::utc::Utc>", "TIMESTAMPTZ")
  | timestamp => ("chrono::naive::datetime::NaiveDateTime", "TIMESTAMP")
  | date => ("chrono::naive::date::NaiveDate", "DATE")
  | time => ("chrono::naive::time::NaiveTime", "TIME")
  | other => Scalar.text.reading

/-- Whether values of a type are what this kind reads. A type of the database's own that only bears
the name of another is not that type; of its arrays, those of text are read all the same. -/
def accepts : ColumnKind → SqlType → Bool
  | other, t => t.readsAsText
  | _, .builtIn _ => true
  | array .text, .ownArray _ element => element.readsAsText
  | _, _ => false

def decode (bytes : Bytes) : ColumnKind → Outcome CellError Json
  | scalar s => s.decode bytes
  | array s => Json.array <$> Cell.array s.decode bytes
  | json => Cell.json bytes
  | jsonb => Cell.jsonb bytes
  | timestamptz =>
    (fun t => jsonOfChars (t.text ++ "+00:00".toList)) <$> Cell.timestamp bytes
  | timestamp => (fun t => jsonOfChars t.text) <$> Cell.timestamp bytes
  | date => (fun d => jsonOfChars d.text) <$> Cell.date bytes
  | time => (fun t => jsonOfChars t.text) <$> Cell.time bytes
  | other => Json.string <$> Cell.text bytes

end ColumnKind

def mismatch (k : ColumnKind) (t : SqlType) : CellError :=
  .mismatched k.reading.1 k.reading.2 t.name

/-- The JSON value of a cell that is not null. Of a type without a decoder there is only one thing
to say, whatever is wrong with the cell. -/
def decodeCell (t : SqlType) (index : Nat) (bytes : Bytes) : Outcome DriverError Json :=
  let k := ColumnKind.ofName t.name
  let value := if k.accepts t then k.decode bytes else Outcome.fail (mismatch k t)
  value.mapCause fun e => if k = .other then .unsupported t.name else .cell index e

namespace Column

def decode (c : Column) (index : Nat) : Option Bytes → Outcome DbError Json
  | none => .ok .null
  | some bytes => (decodeCell c.type index bytes).mapCause (.decode c.name)

end Column
end PgJson
