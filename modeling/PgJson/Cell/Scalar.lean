import PgJson.Calendar.TimeOfDay
import PgJson.Numeric.Wire

namespace PgJson

inductive Scalar where
  | bool
  | int2
  | int4
  | int8
  | float4
  | float8
  | numeric
  | text
  | uuid
  deriving DecidableEq, Repr

/-- The type that a value is read into and the type of the server that this stands for. -/
def Scalar.reading : Scalar → String × String
  | bool => ("bool", "BOOL")
  | int2 => ("i16", "INT2")
  | int4 => ("i32", "INT4")
  | int8 => ("i64", "INT8")
  | float4 => ("f32", "FLOAT4")
  | float8 => ("f64", "FLOAT8")
  | numeric => ("rust_decimal::decimal::Decimal", "NUMERIC")
  | text => ("alloc::string::String", "TEXT")
  | uuid => ("uuid::Uuid", "UUID")

namespace Cell

def integer (width : Nat) (bytes : Bytes) : Outcome CellError Int :=
  if bytes = [] then Outcome.fail .emptyInteger
  else if 8 < bytes.length then Outcome.fail (.longInteger bytes.length)
  else
    let n := Wire.signed bytes
    let limit : Int := Nat.pow 2 (8 * width - 1)
    if limit ≤ n then Outcome.fail .aboveRange
    else if n < -limit then Outcome.fail .belowRange
    else .ok n

def bool (bytes : Bytes) : Outcome CellError Bool :=
  Outcome.orCrash (bytes.head?.map (· != 0))

def float4 (bytes : Bytes) : Outcome CellError Binary64 :=
  Outcome.orCrash ((Wire.split? 4 bytes).map fun (front, _) => .ofBits32 (Wire.unsigned front))

def float8 (bytes : Bytes) : Outcome CellError Binary64 :=
  Outcome.orCrash ((Wire.split? 8 bytes).map fun (front, _) => .ofBits (Wire.unsigned front))

def text (bytes : Bytes) : Outcome CellError String :=
  match Utf8.decode bytes with
  | .ok cs => .ok (.ofList cs)
  | .error fault => Outcome.fail (.utf8 fault)

def uuid (bytes : Bytes) : Outcome CellError String :=
  if bytes.length = 16 then
    let group from_ count := Text.hex ((bytes.drop from_).take count)
    .ok (.ofList (group 0 4 ++ '-' :: group 4 2 ++ '-' :: group 6 2 ++ '-' :: group 8 2 ++
      '-' :: group 10 6))
  else Outcome.fail (.uuidSize bytes.length)

def json (bytes : Bytes) : Outcome CellError Json :=
  match Json.parse bytes with
  | .ok v => .ok v
  | .error e => Outcome.fail (.json e)

def jsonb : Bytes → Outcome CellError Json
  | 1 :: text => json text
  | _ => Outcome.crash

def day (n : Int) : Outcome CellError Date :=
  if Date.firstDay ≤ n ∧ n ≤ Date.lastDay then .ok (.ofDays n) else Outcome.crash

def date (bytes : Bytes) : Outcome CellError Date := do day (← integer 4 bytes)

def timestamp (bytes : Bytes) : Outcome CellError Timestamp := do
  let n ← integer 8 bytes
  let date ← day (Timestamp.dayOf n)
  .ok ⟨date, .ofMicros n⟩

def time (bytes : Bytes) : Outcome CellError TimeOfDay := do
  .ok (.ofMicros (← integer 8 bytes))

end Cell

def jsonOfChars (cs : List Char) : Json := .string (.ofList cs)

def Scalar.decode (s : Scalar) (bytes : Bytes) : Outcome CellError Json :=
  match s with
  | .bool => Json.bool <$> Cell.bool bytes
  | .int2 => Json.ofInt <$> Cell.integer 2 bytes
  | .int4 => Json.ofInt <$> Cell.integer 4 bytes
  | .int8 => Json.ofInt <$> Cell.integer 8 bytes
  | .float4 => Json.ofDouble <$> Cell.float4 bytes
  | .float8 => Json.ofDouble <$> Cell.float8 bytes
  | .numeric => Decimal.toJson <$> Numeric.decode bytes
  | .text => Json.string <$> Cell.text bytes
  | .uuid => Json.string <$> Cell.uuid bytes

end PgJson
