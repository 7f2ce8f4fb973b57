import PgJson.Text.Alphanumeric
import PgJson.Variables

namespace PgJson.EnvFile

/-- How the next character of a value is read. `quoted` says whether double quotes are open, `name`
is what is read so far of a variable's name. -/
inductive Mode where
  | text (quoted : Bool)
  | escaped (quoted : Bool)
  | literal
  | named (quoted : Bool) (name : List Char)
  | braced (quoted : Bool) (name : List Char)
  | ended
  deriving DecidableEq, Repr

def unescape? (c : Char) : Option Char :=
  if c = '\\' ∨ c = '\'' ∨ c = '"' ∨ c = '$' ∨ c = ' ' then some c
  else if c = 'n' then some '\n'
  else none

def substituted (vars : Variables) (name : List Char) : List Char :=
  ((vars (.ofList name)).getD "").toList

def finish (vars : Variables) : Mode → Option (List Char)
  | .text quoted | .escaped quoted => if quoted then none else some []
  | .named quoted name => if quoted then none else some (substituted vars name)
  | .literal | .braced .. => none
  | .ended => some []

def valueFrom (vars : Variables) : Mode → List Char → Option (List Char)
  | mode, [] => finish vars mode
  | .ended, c :: rest =>
    if c = ' ' ∨ c = '\t' then valueFrom vars .ended rest
    else if c = '#' then some []
    else none
  | .escaped quoted, c :: rest => do
    let c ← unescape? c
    (c :: ·) <$> valueFrom vars (.text quoted) rest
  | .literal, c :: rest =>
    if c = '\'' then valueFrom vars (.text false) rest
    else (c :: ·) <$> valueFrom vars .literal rest
  | .named quoted name, c :: rest =>
    if Text.isAlphanumeric c then valueFrom vars (.named quoted (name ++ [c])) rest
    else if c = '\x7b' ∧ name = [] then valueFrom vars (.braced quoted []) rest
    else if c = '$' then
      (substituted vars name ++ ·) <$> valueFrom vars (.named quoted []) rest
    else (substituted vars name ++ c :: ·) <$> valueFrom vars (.text quoted) rest
  | .braced quoted name, c :: rest =>
    if c = '\x7d' then (substituted vars name ++ ·) <$> valueFrom vars (.text quoted) rest
    else valueFrom vars (.braced quoted (name ++ [c])) rest
  | .text quoted, c :: rest =>
    if c = '$' then valueFrom vars (.named quoted []) rest
    else if c = '\\' then valueFrom vars (.escaped quoted) rest
    else if c = '"' then valueFrom vars (.text (!quoted)) rest
    else if quoted then (c :: ·) <$> valueFrom vars (.text true) rest
    else if c = '\'' then valueFrom vars .literal rest
    else if c = ' ' ∨ c = '\t' then valueFrom vars .ended rest
    else (c :: ·) <$> valueFrom vars (.text false) rest

def value? (vars : Variables) (s : List Char) : Option (List Char) := valueFrom vars (.text false) s

end PgJson.EnvFile
