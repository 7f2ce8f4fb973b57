import PgJson.Json.Basic
import PgJson.Number.Layout
import PgJson.Text.Fields

namespace PgJson
namespace Json

open Text

def Number.text : Number → List Char
  | .integer n _ => decimalInt n
  | .float x _ => x.jsonText

def escaped (c : Char) : List Char :=
  match c with
  | '"' => ['\\', '"']
  | '\\' => ['\\', '\\']
  | '\x08' => ['\\', 'b']
  | '\x0c' => ['\\', 'f']
  | '\n' => ['\\', 'n']
  | '\r' => ['\\', 'r']
  | '\t' => ['\\', 't']
  | c =>
    if c.toNat < 0x20 then ['\\', 'u', '0', '0', hexDigit (c.toNat / 16), hexDigit c.toNat]
    else [c]

def quoted (s : String) : List Char := '"' :: s.toList.flatMap escaped ++ ['"']

mutual

def compactChars : Json → List Char
  | .null => "null".toList
  | .bool true => "true".toList
  | .bool false => "false".toList
  | .number n => n.text
  | .string s => quoted s
  | .array items => '[' :: joined [','] (compactItems items) ++ [']']
  | .object members => '\x7b' :: joined [','] (compactMembers members) ++ ['\x7d']

def compactItems : List Json → List (List Char)
  | [] => []
  | item :: rest => compactChars item :: compactItems rest

def compactMembers : List (String × Json) → List (List Char)
  | [] => []
  | (name, value) :: rest => (quoted name ++ ':' :: compactChars value) :: compactMembers rest

end

def indentation (level : Nat) : List Char := '\n' :: List.replicate (2 * level) ' '

def block (left right : Char) (level : Nat) : List (List Char) → List Char
  | [] => [left, right]
  | items =>
    left :: indentation (level + 1) ++ joined (',' :: indentation (level + 1)) items ++
      indentation level ++ [right]

mutual

def prettyChars (level : Nat) : Json → List Char
  | .null => "null".toList
  | .bool true => "true".toList
  | .bool false => "false".toList
  | .number n => n.text
  | .string s => quoted s
  | .array items => block '[' ']' level (prettyItems (level + 1) items)
  | .object members => block '\x7b' '\x7d' level (prettyMembers (level + 1) members)

def prettyItems (level : Nat) : List Json → List (List Char)
  | [] => []
  | item :: rest => prettyChars level item :: prettyItems level rest

def prettyMembers (level : Nat) : List (String × Json) → List (List Char)
  | [] => []
  | (name, value) :: rest =>
    (quoted name ++ ':' :: ' ' :: prettyChars level value) :: prettyMembers level rest

end

def compact (value : Json) : String := String.ofList (compactChars value)

def pretty (value : Json) : String := String.ofList (prettyChars 0 value)

end Json
end PgJson
