import PgJson.EnvFile.Line
import PgJson.EnvFile.Value

/-!
Files of variables. A file adds to the variables of a process those that are not set yet, so the
first of several settings of a name counts. At the first malformed line reading ends.
-/

namespace PgJson.EnvFile

open Text

def startsKey (c : Char) : Bool := c.isAlpha || c == '_'

def continuesKey (c : Char) : Bool := c.isAlphanum || c == '_' || c == '.'

def takeKey (s : List Char) : Option (List Char × List Char) :=
  if (s.head?.map startsKey).getD false then
    some (s.takeWhile continuesKey, trimStart (s.dropWhile continuesKey))
  else none

def takeEquals : List Char → Option (List Char)
  | '=' :: rest => some (trimStart rest)
  | _ => none

def takeSetting (s : List Char) : Option (List Char × List Char) := do
  let (key, rest) ← takeKey s
  if key = "export".toList ∧ rest.head? ≠ some '=' then
    let (key, rest) ← takeKey rest
    return (key, ← takeEquals rest)
  else return (key, ← takeEquals rest)

inductive Line where
  | blank
  | setting (key value : String)
  deriving DecidableEq, Repr

/-- A line read with the variables that are set so far, `none` if it is malformed. -/
def readLine? (vars : Variables) (s : List Char) : Option Line :=
  match trim s with
  | [] | '#' :: _ => some .blank
  | s => do
    let (key, text) ← takeSetting s
    match text with
    | [] | '#' :: _ => return .setting (.ofList key) ""
    | text => return .setting (.ofList key) (.ofList (← value? vars text))

def isStorable (value : String) : Bool := !value.toList.contains '\x00'

/-- What lines set, in their order, up to the first malformed one; `held` was set before. `none` if
a variable that is not set yet gets a value that a process cannot hold. -/
def settingsFrom (vars : Variables) (held : List (String × String)) :
    List (List Char) → Option (List (String × String))
  | [] => some held
  | line :: rest =>
    let known := vars.backedBy (.ofList held)
    match readLine? known line with
    | none => some held
    | some .blank => settingsFrom vars held rest
    | some (.setting key value) =>
      if (known key).isSome || isStorable value then settingsFrom vars (held ++ [(key, value)]) rest
      else none

def withoutMark : List Char → List Char
  | '\ufeff' :: rest => rest
  | s => s

def settings (vars : Variables) (text : String) : Option (List (String × String)) :=
  settingsFrom vars [] (lines (withoutMark text.toList))

def mentioned : List Char → List (List Char)
  | [] => []
  | '$' :: '\x7b' :: rest => rest.takeWhile (· != '\x7d') :: mentioned rest
  | '$' :: rest => rest.takeWhile isAlphanumeric :: mentioned rest
  | _ :: rest => mentioned rest

/-- All names whose values may decide what a file sets: those it mentions and those it may set. -/
def names (text : String) : List String := (mentioned text.toList).map .ofList

end EnvFile

def Variables.load? (vars : Variables) : (file : Option String) → Option Variables
  | none => some vars
  | some text => (EnvFile.settings vars text).map fun held => vars.backedBy (.ofList held)

end PgJson
