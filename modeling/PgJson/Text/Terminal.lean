namespace PgJson.Text

inductive Control where
  | plain
  | escape
  | marked
  | parameters
  | title
  | data
  deriving DecidableEq, Repr

namespace Control

def opened (c : Char) : Control :=
  if c = '[' then parameters
  else if c = ']' then title
  else if c = 'P' ∨ c = 'X' ∨ c = '^' ∨ c = '_' then data
  else plain

def isMark (c : Char) : Bool := ' ' ≤ c && c ≤ '/'

def next (c : Char) : Control → Control
  | plain => plain
  | escape => if isMark c then marked else if '0' ≤ c ∧ c ≤ '~' then opened c else escape
  | marked => if '0' ≤ c ∧ c ≤ '~' then plain else marked
  | parameters => if '@' ≤ c ∧ c ≤ '~' then plain else parameters
  | title => if c = '\x07' then plain else title
  | data => data

def isBreak (c : Char) : Bool := c == '\t' || c == '\n' || c == '\x0c' || c == '\r'

/-- Tabs and line ends show in all sequences but those that carry a text of their own. -/
def shows (c : Char) : Control → Bool
  | plain => (' ' ≤ c && c != '\x7f') || isBreak c
  | escape | marked | parameters => isBreak c || '\x7f' < c
  | title | data => false

end Control

/-- What shows of a text. An escape breaks off the sequence before it. -/
def shownFrom (place : Control) : List Char → List Char
  | [] => []
  | c :: rest =>
    if c = '\x1b' then shownFrom .escape rest
    else if c = '\x18' ∨ c = '\x1a' then shownFrom .plain rest
    else if place.shows c then c :: shownFrom .plain rest
    else shownFrom (place.next c) rest

def shown (s : String) : String := .ofList (shownFrom .plain s.toList)

def firstBlock : List Char → List Char
  | '\n' :: '\n' :: _ => []
  | c :: rest => c :: firstBlock rest
  | [] => []

end PgJson.Text
