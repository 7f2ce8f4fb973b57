import PgJson.Json.Printer
import PgJson.Log.Trace

namespace PgJson.Log

structure Format where
  json : Bool
  fileLine : Bool
  threadNames : Bool
  deriving DecidableEq, Repr

inductive Line where
  | text (s : String)
  | json (v : Json)
  deriving Repr

def Line.written : Line → String
  | text s => s ++ "\n"
  | json v => v.compact ++ "\n"

namespace Value

def text : Value → String
  | nat n => toString n
  | int n => toString n
  | bool b => if b then "true" else "false"
  | quoted s => Text.quoted s
  | plain s => s

def json : Value → Json
  | nat n => .ofInt n
  | int n => .ofInt n
  | bool b => .bool b
  | quoted s | plain s => .string s

end Value

def messageChar (c : Char) : List Char :=
  let n := c.toNat
  if n = 0x1b ∨ n = 0x07 ∨ n = 0x08 ∨ n = 0x0c ∨ n = 0x7f then
    "\\x".toList ++ List.replicate (2 - (Nat.toDigits 16 n).length) '0' ++ Nat.toDigits 16 n
  else if 0x80 ≤ n ∧ n ≤ 0x9f then
    "\\u".toList ++ '\x7b' :: Nat.toDigits 16 n ++ ['\x7d']
  else [c]

def messageText (s : String) : String := .ofList (s.toList.flatMap messageChar)

def fieldText (f : String × Value) : String := f.1 ++ "=" ++ f.2.text

def Span.text (s : Span) : String :=
  let fields := " ".intercalate (s.fields.map fieldText)
  s.name ++ (if fields = "" then "" else "\x7b" ++ fields ++ "\x7d") ++ ":"

def Event.text (f : Format) (spans : List Span) (e : Event) : String :=
  let level := "".pushn ' ' (6 - e.level.name.length) ++ e.level.name ++ " "
  let thread := if f.threadNames then "main " else ""
  let context := if spans = [] then "" else String.join (spans.map Span.text) ++ " "
  let place := if f.fileLine then "FILE:LINE: " else ""
  let fields := String.join (e.fields.map fun field => " " ++ fieldText field)
  level ++ thread ++ context ++ e.target ++ ": " ++ place ++ messageText e.message ++ fields

def fieldsJson (fields : Fields) : List (String × Json) :=
  fields.map fun (name, value) => (name, value.json)

def Span.json (s : Span) : Json :=
  .ofMembers (("name", .string s.name) :: fieldsJson s.fields)

/-- `context` are the spans listed around the event, `current` the innermost one it belongs to. -/
def Event.json (f : Format) (context : List Span) (current : Option Span) (e : Event) : Json :=
  let place := if f.fileLine then
    [("filename", Json.string "FILE"), ("line_number", .string "LINE")] else []
  let thread := if f.threadNames then [("threadName", Json.string "main")] else []
  let spans := match current with
    | none => []
    | some s => [("span", s.json), ("spans", .array (context.map Span.json))]
  .ofMembers ([("level", Json.string e.level.name),
    ("fields", .ofMembers (("message", .string e.message) :: fieldsJson e.fields)),
    ("target", .string e.target)] ++ place ++ thread ++ spans)

def Format.event (f : Format) (spans : List Span) (e : Event) : Line :=
  if f.json then .json (e.json f spans spans.getLast?) else .text (e.text f spans)

def Format.spanEvent (f : Format) (outer : List Span) (s : Span) (e : Event) : Line :=
  if f.json then .json (e.json f outer (some s)) else .text (e.text f (outer ++ [s]))

end PgJson.Log
