import PgJson.Json.Literal
import PgJson.Text.Digits
import PgJson.Text.Utf8

/-!
Reading JSON text. A reader takes the bytes it understands from the front and gives back the rest; a
fault keeps its cause and how many bytes were still ahead, which is where it stands in the text.
-/

namespace PgJson
namespace Json

inductive Cause where
  | endInValue
  | endInString
  | endInArray
  | endInObject
  | expectedValue
  | expectedWord
  | expectedColon
  | expectedCommaOrBracket
  | expectedCommaOrBrace
  | keyNotString
  | trailingComma
  | trailingText
  | invalidNumber
  | numberOutOfRange
  | controlCharacter
  | invalidEscape
  | unfinishedSurrogate
  | loneSurrogate
  | invalidUtf8
  | tooDeep
  deriving DecidableEq, Repr

def Cause.message : Cause → String
  | .endInValue => "EOF while parsing a value"
  | .endInString => "EOF while parsing a string"
  | .endInArray => "EOF while parsing a list"
  | .endInObject => "EOF while parsing an object"
  | .expectedValue => "expected value"
  | .expectedWord => "expected ident"
  | .expectedColon => "expected `:`"
  | .expectedCommaOrBracket => "expected `,` or `]`"
  | .expectedCommaOrBrace => "expected `,` or `\x7d`"
  | .keyNotString => "key must be a string"
  | .trailingComma => "trailing comma"
  | .trailingText => "trailing characters"
  | .invalidNumber => "invalid number"
  | .numberOutOfRange => "number out of range"
  | .controlCharacter => "control character (\\u0000-\\u001F) found while parsing a string"
  | .invalidEscape => "invalid escape"
  | .unfinishedSurrogate => "unexpected end of hex escape"
  | .loneSurrogate => "lone leading surrogate in hex escape"
  | .invalidUtf8 => "invalid unicode code point"
  | .tooDeep => "recursion limit exceeded"

structure Fault where
  cause : Cause
  ahead : Nat
  deriving DecidableEq, Repr

/-- Takes a value from the front and gives back the bytes after it. -/
abbrev Reader (α : Type) := List UInt8 → Except Fault (α × List UInt8)

namespace Reader

def fault {α : Type} (cause : Cause) (rest : List UInt8) : Except Fault α :=
  .error ⟨cause, rest.length⟩

def faultAt {α : Type} (cause : Cause) (rest : List UInt8) : Except Fault α :=
  .error ⟨cause, rest.length - 1⟩

def isSpace (b : UInt8) : Bool := b == 0x20 || b == 0x09 || b == 0x0a || b == 0x0d

def skipSpace (s : List UInt8) : List UInt8 := s.dropWhile isSpace

/-! ## Words and numbers -/

def word {α : Type} (value : α) : (expected : List UInt8) → Reader α
  | [], s => .ok (value, s)
  | _ :: _, [] => fault .endInValue []
  | e :: expected, b :: s => if b = e then word value expected s else fault .expectedWord s

def digit? (b : UInt8) : Option Nat :=
  if 0x30 ≤ b ∧ b ≤ 0x39 then some (b.toNat - 0x30) else none

def takeDigits : List UInt8 → List Nat × List UInt8
  | [] => ([], [])
  | b :: s =>
    match digit? b with
    | some d => let (ds, rest) := takeDigits s; (d :: ds, rest)
    | none => ([], b :: s)

def wholePart : Reader (List Nat)
  | [] => fault .endInValue []
  | b :: s =>
    match digit? b with
    | none => fault .invalidNumber s
    | some 0 =>
      match s with
      | c :: _ => if (digit? c).isSome then faultAt .invalidNumber s else .ok ([0], s)
      | [] => .ok ([0], [])
    | some d => let (ds, rest) := takeDigits s; .ok (d :: ds, rest)

def fractionPart : Reader (Option (List Nat))
  | 0x2e :: s =>
    match takeDigits s with
    | ([], []) => fault .endInValue []
    | ([], rest) => faultAt .invalidNumber rest
    | (ds, rest) => .ok (some ds, rest)
  | s => .ok (none, s)

def exponentDigits (negative : Bool) : Reader (Option (Bool × List Nat))
  | [] => fault .endInValue []
  | b :: s =>
    match takeDigits (b :: s) with
    | ([], _) => fault .invalidNumber s
    | (ds, rest) => .ok (some (negative, ds), rest)

def exponentPart : Reader (Option (Bool × List Nat))
  | b :: s =>
    if b = 0x65 ∨ b = 0x45 then
      match s with
      | 0x2b :: rest => exponentDigits false rest
      | 0x2d :: rest => exponentDigits true rest
      | _ => exponentDigits false s
    else .ok (none, b :: s)
  | [] => .ok (none, [])

def literal (negative : Bool) : Reader Literal := fun s => do
  let (whole, s) ← wholePart s
  let (fraction, s) ← fractionPart s
  let (exponent, s) ← exponentPart s
  .ok (⟨negative, whole, fraction, exponent⟩, s)

/-- Where a number out of range is found out: where its exponent passes 32 bits, else at its end. -/
def rangeFault (l : Literal) (rest : List UInt8) : Fault :=
  match l.exponent with
  | some (_, ds) =>
    match Literal.exponentLimit? 0 0 ds with
    | some n => ⟨.numberOutOfRange, rest.length + (ds.length - n)⟩
    | none => ⟨.numberOutOfRange, rest.length⟩
  | none => ⟨.numberOutOfRange, rest.length⟩

def number (negative : Bool) : Reader Json := fun s => do
  let (l, rest) ← literal negative s
  match l.value? with
  | some n => .ok (.number n, rest)
  | none => .error (rangeFault l rest)

/-! ## Strings -/

def hexDigit? (b : UInt8) : Option Nat := Text.hexValue? (.ofNat b.toNat)

def hex4 : Reader Nat
  | a :: b :: c :: d :: s =>
    match hexDigit? a, hexDigit? b, hexDigit? c, hexDigit? d with
    | some a, some b, some c, some d => .ok (((a * 16 + b) * 16 + c) * 16 + d, s)
    | _, _, _, _ => fault .invalidEscape s
  | _ => fault .endInString []

def isHighSurrogate (n : Nat) : Bool := 0xd800 ≤ n && n ≤ 0xdbff

def isLowSurrogate (n : Nat) : Bool := 0xdc00 ≤ n && n ≤ 0xdfff

def lowSurrogate : Reader Nat
  | [] => fault .endInString []
  | 0x5c :: [] => fault .endInString []
  | 0x5c :: 0x75 :: s => do
    let (n, s) ← hex4 s
    if isLowSurrogate n then .ok (n, s) else fault .loneSurrogate s
  | 0x5c :: _ :: s => fault .unfinishedSurrogate s
  | _ :: s => fault .unfinishedSurrogate s

def unicodeEscape : Reader (List UInt8) := fun s => do
  let (n, s) ← hex4 s
  if isLowSurrogate n then fault .loneSurrogate s
  else if isHighSurrogate n then
    let (low, s) ← lowSurrogate s
    .ok (Utf8.encode [.ofNat (0x10000 + (n - 0xd800) * 0x400 + (low - 0xdc00))], s)
  else .ok (Utf8.encode [.ofNat n], s)

def escape : Reader (List UInt8)
  | [] => fault .endInString []
  | b :: s =>
    match b with
    | 0x22 => .ok ([0x22], s)
    | 0x5c => .ok ([0x5c], s)
    | 0x2f => .ok ([0x2f], s)
    | 0x62 => .ok ([0x08], s)
    | 0x66 => .ok ([0x0c], s)
    | 0x6e => .ok ([0x0a], s)
    | 0x72 => .ok ([0x0d], s)
    | 0x74 => .ok ([0x09], s)
    | 0x75 => unicodeEscape s
    | _ => fault .invalidEscape s

/-- The bytes up to the closing quote, which is left; each step takes at least one byte. -/
def stringBytes : (steps : Nat) → Reader (List UInt8)
  | _, [] => fault .endInString []
  | 0, s => fault .endInString s
  | steps + 1, b :: s =>
    if b = 0x22 then .ok ([], b :: s)
    else if b = 0x5c then do
      let (bytes, s) ← escape s
      let (more, s) ← stringBytes steps s
      .ok (bytes ++ more, s)
    else if b < 0x20 then fault .controlCharacter s
    else do
      let (more, s) ← stringBytes steps s
      .ok (b :: more, s)

/-- A string after its opening quote. Its bytes must be UTF-8. A fault among them stands as far
before the end of the string as there are bytes from it on, escapes read. -/
def string : Reader String := fun s => do
  let (bytes, s) ← stringBytes s.length s
  match Utf8.decode bytes with
  | .ok cs => .ok (.ofList cs, s.drop 1)
  | .error f => .error ⟨.invalidUtf8, (s.drop 1).length + (bytes.length - f.index)⟩

/-! ## Arrays and objects -/

def items (item : Reader Json) : (steps : Nat) → Reader (List Json)
  | 0, s => fault .endInArray s
  | steps + 1, s =>
    match skipSpace s with
    | [] => fault .endInArray []
    | 0x5d :: s => .ok ([], s)
    | 0x2c :: s =>
      match skipSpace s with
      | [] => fault .endInValue []
      | 0x5d :: s => fault .trailingComma s
      | s => do
        let (v, s) ← item s
        let (vs, s) ← items item steps s
        .ok (v :: vs, s)
    | s => faultAt .expectedCommaOrBracket s

def arrayBody (item : Reader Json) : Reader Json := fun s =>
  match skipSpace s with
  | [] => fault .endInArray []
  | 0x5d :: s => .ok (.array [], s)
  | s => do
    let (v, s) ← item s
    let (vs, s) ← items item (s.length + 1) s
    .ok (.array (v :: vs), s)

def member (item : Reader Json) : Reader (String × Json) := fun s => do
  let (name, s) ← string s
  match skipSpace s with
  | [] => fault .endInObject []
  | 0x3a :: s => do
    let (v, s) ← item s
    .ok ((name, v), s)
  | s => faultAt .expectedColon s

def memberList (item : Reader Json) :
    (steps : Nat) → Reader (List (String × Json))
  | 0, s => fault .endInObject s
  | steps + 1, s =>
    match skipSpace s with
    | [] => fault .endInObject []
    | 0x7d :: s => .ok ([], s)
    | 0x2c :: s =>
      match skipSpace s with
      | [] => fault .endInValue []
      | 0x7d :: s => fault .trailingComma s
      | 0x22 :: s => do
        let (m, s) ← member item s
        let (ms, s) ← memberList item steps s
        .ok (m :: ms, s)
      | s => faultAt .keyNotString s
    | s => faultAt .expectedCommaOrBrace s

def objectBody (item : Reader Json) : Reader Json := fun s =>
  match skipSpace s with
  | [] => fault .endInObject []
  | 0x7d :: s => .ok (.object [], s)
  | 0x22 :: s => do
    let (m, s) ← member item s
    let (ms, s) ← memberList item (s.length + 1) s
    .ok (ofMembers (m :: ms), s)
  | s => faultAt .keyNotString s

def value (depth : Nat) : Reader Json := fun s =>
  match skipSpace s with
  | [] => fault .endInValue []
  | b :: s =>
    if b = 0x6e then word .null "ull".toUTF8.toList s
    else if b = 0x74 then word (.bool true) "rue".toUTF8.toList s
    else if b = 0x66 then word (.bool false) "alse".toUTF8.toList s
    else if b = 0x22 then do
      let (text, s) ← string s
      .ok (.string text, s)
    else if b = 0x5b then
      match depth with
      | 0 => fault .tooDeep s
      | depth + 1 => arrayBody (value depth) s
    else if b = 0x7b then
      match depth with
      | 0 => fault .tooDeep s
      | depth + 1 => objectBody (value depth) s
    else if b = 0x2d then number true s
    else if (digit? b).isSome then number false (b :: s)
    else fault .expectedValue s

end Reader

/-! ## Texts -/

structure Error where
  cause : Cause
  line : Nat
  column : Nat
  deriving DecidableEq, Repr

def Error.message (e : Error) : String :=
  s!"{e.cause.message} at line {e.line} column {e.column}"

def Error.ofFault (text : List UInt8) (f : Fault) : Error :=
  let taken := text.take (text.length - f.ahead)
  ⟨f.cause, taken.count 0x0a + 1, (taken.reverse.takeWhile (· != 0x0a)).length⟩

def maxDepth : Nat := 127

def readText (text : List UInt8) : Except Fault Json := do
  let (v, rest) ← Reader.value maxDepth text
  match Reader.skipSpace rest with
  | [] => .ok v
  | rest => Reader.faultAt .trailingText rest

def parse (text : List UInt8) : Except Error Json :=
  (readText text).mapError (Error.ofFault text)

def parseString? (text : String) : Option Json := (parse (Utf8.encodeString text)).toOption

end Json
end PgJson
