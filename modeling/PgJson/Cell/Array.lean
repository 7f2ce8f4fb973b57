import PgJson.Cell.Scalar

/-!
Arrays: a header of dimensions, flags, element type, length and lower bound, four bytes each, then
each element behind its size, which is -1 for a null.
-/

namespace PgJson
namespace Cell

def takeInt (bytes : Bytes) : Outcome CellError (Int × Bytes) :=
  Outcome.orCrash ((Wire.split? 4 bytes).map fun (front, rest) => (Wire.signed front, rest))

def takeElement (bytes : Bytes) : Outcome CellError (Option Bytes × Bytes) := do
  let (size, rest) ← takeInt bytes
  if size = -1 then .ok (none, rest)
  else if size < 0 then Outcome.fail (.elementLength size)
  else
    let (element, rest) ← Outcome.orCrash (Wire.split? size.toNat rest)
    .ok (some element, rest)

def elements (decode : Bytes → Outcome CellError Json) :
    (count : Nat) → Bytes → Outcome CellError (List Json)
  | 0, _ => .ok []
  | count + 1, bytes => do
    let (element, rest) ← takeElement bytes
    let value ← match element with
      | none => .ok .null
      | some bytes => decode bytes
    let values ← elements decode count rest
    .ok (value :: values)

/-- An array of one dimension with lower bound 1, or of none. -/
def array (decode : Bytes → Outcome CellError Json) (bytes : Bytes) :
    Outcome CellError (List Json) := do
  let (dimensions, bytes) ← takeInt bytes
  if dimensions = 0 then .ok []
  else if dimensions ≠ 1 then Outcome.fail (.dimensions dimensions)
  else
    let (_, bytes) ← takeInt bytes
    let (_, bytes) ← takeInt bytes
    let (length, bytes) ← takeInt bytes
    if length < 0 then Outcome.fail (.arrayLength length)
    else
      let (lower, bytes) ← takeInt bytes
      if lower ≠ 1 then Outcome.fail (.lowerBound lower)
      else elements decode length.toNat bytes

end Cell
end PgJson
