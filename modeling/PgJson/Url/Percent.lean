import PgJson.Text.Digits
import PgJson.Text.Fields
import PgJson.Text.Utf8
import PgJson.Wire.Bytes

namespace PgJson.Percent

def hexValue? (b : UInt8) : Option Nat := Text.hexValue? (.ofNat b.toNat)

def decode : Bytes → Bytes
  | [] => []
  | b :: rest =>
    if b = 0x25 then
      match rest with
      | h :: l :: tail =>
        match hexValue? h, hexValue? l with
        | some h, some l => .ofNat (h * 16 + l) :: decode tail
        | _, _ => b :: decode (h :: l :: tail)
      | tail => b :: decode tail
    else b :: decode rest

def decodeChars (s : List Char) : Bytes := decode (Utf8.encode s)

def decodeText (s : List Char) : Except Utf8.Fault String :=
  String.ofList <$> Utf8.decode (decodeChars s)

def escapeByte (b : UInt8) : List Char :=
  ['%', (Text.hexDigit (b.toNat / 16)).toUpper, (Text.hexDigit b.toNat).toUpper]

def encodeControls (s : List Char) : List Char :=
  s.flatMap fun c =>
    if 0x20 ≤ c.toNat ∧ c.toNat < 0x7f then [c]
    else (Utf8.encode [c]).flatMap escapeByte

/-- A name or value of a query: a plus sign is a blank, and any bytes are text. -/
def formText (bytes : Bytes) : String :=
  .ofList (Utf8.decodeLossy (decode (bytes.map fun b => if b = 0x2b then 0x20 else b)))

def pairs (query : List Char) : List (String × String) :=
  let pieces := (Text.fields (· == 0x26) (Utf8.encode query)).filter (· != [])
  pieces.map fun piece =>
    let (name, value) := Text.cut (· == 0x3d) piece
    (formText name, formText (value.getD []))

end PgJson.Percent
