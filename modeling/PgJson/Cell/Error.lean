import PgJson.Json.Parser
import PgJson.Outcome
import PgJson.Text.Digits
import PgJson.Text.Utf8

namespace PgJson

inductive CellError where
  | mismatched (reading sqlName typeName : String)
  | emptyInteger
  | longInteger (size : Nat)
  | aboveRange
  | belowRange
  | utf8 (fault : Utf8.Fault)
  | uuidSize (size : Nat)
  | json (error : Json.Error)
  | notANumber
  | numericSign (sign : Nat)
  | numericScale (scale : Int)
  | numericTooWide
  | dimensions (n : Int)
  | lowerBound (n : Int)
  | arrayLength (n : Int)
  | elementLength (n : Int)
  deriving DecidableEq, Repr

namespace CellError

def upperHex (n : Nat) : String :=
  let digits := (Nat.toDigits 16 n).map Char.toUpper
  .ofList (List.replicate (2 - digits.length) '0' ++ digits)

def message : CellError → String
  | mismatched reading sqlName typeName =>
    "mismatched types; Rust type `" ++ reading ++ "` (as SQL type `" ++ sqlName ++
      "`) is not compatible with SQL type `" ++ typeName ++ "`"
  | emptyInteger => "Value Buffer found empty while decoding to integer type"
  | longInteger size =>
    s!"Value Buffer exceeds 8 bytes while decoding to integer type. Buffer size = {size} bytes "
  | aboveRange => "number too large to fit in target type"
  | belowRange => "number too small to fit in target type"
  | utf8 fault => fault.message
  | uuidSize size => s!"invalid length: expected 16 bytes, found {size}"
  | json error => error.message
  | notANumber => "Decimal does not support NaN values"
  | numericSign sign => s!"invalid value for PgNumericSign: 0x{upperHex sign}"
  | numericScale scale => s!"invalid scale value for Pg NUMERIC: {scale}"
  | numericTooWide => "value not representable as rust_decimal::Decimal"
  | dimensions n =>
    s!"encountered an array of {n} dimensions; only one-dimensional arrays are supported"
  | lowerBound n =>
    s!"encountered an array with a lower bound of {n} in the first dimension; " ++
      "only arrays starting at one are supported"
  | arrayLength n => s!"overflow converting array len ({n}) to usize"
  | elementLength n => s!"overflow converting element_len ({n}) to usize"

end CellError
end PgJson
