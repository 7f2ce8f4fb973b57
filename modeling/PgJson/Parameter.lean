import PgJson.Json.Printer
import PgJson.Text.Utf8
import PgJson.Wire.Bytes

namespace PgJson

inductive Parameter where
  | null
  | bool (value : Bool)
  | int8 (value : Int)
  | float8 (value : Binary64)
  | text (value : String)
  | jsonb (value : Json)
  deriving Repr

namespace Parameter

/-- Integers that 64 bits with a sign hold are sent as such, larger ones as doubles. -/
def ofJson : Json → Parameter
  | .null => .null
  | .bool b => .bool b
  | .number (.integer n _) => if n < 0x8000000000000000 then .int8 n else .float8 (.ofInt n)
  | .number (.float x _) => .float8 x
  | .string s => .text s
  | .array items => .jsonb (.array items)
  | .object members => .jsonb (.object members)

def typeName : Parameter → String
  | null | text _ => "TEXT"
  | bool _ => "BOOL"
  | int8 _ => "INT8"
  | float8 _ => "FLOAT8"
  | jsonb _ => "JSONB"

def bytes? : Parameter → Option Bytes
  | null => none
  | bool b => some [if b then 1 else 0]
  | int8 n => some (Wire.ofInt n 8)
  | float8 x => some (Wire.ofNat x.bits 8)
  | text s => some (Utf8.encodeString s)
  | jsonb v => some (1 :: Utf8.encode v.compactChars)

end Parameter
end PgJson
