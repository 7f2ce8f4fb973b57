import PgJson.Text.Blank
import PgJson.Text.Fields

/-!
Logical lines of a file of variables. A line ends at a line end outside quotes; a number sign behind
a blank outside quotes begins a comment.
-/

namespace PgJson.EnvFile

open Text

inductive Place where
  | word
  | blank
  | escaped
  | inQuotes (mark : Char)
  | escapedInQuotes (mark : Char)
  deriving DecidableEq, Repr

namespace Place

def outside (c : Char) : Place :=
  if c = '\\' then escaped
  else if c = '"' ∨ c = '\'' then inQuotes c
  else word

/-- The place behind a character. A second blank in a row counts as part of a word. -/
def next (c : Char) : Place → Place
  | word => if isBlank c ∧ c ≠ '\n' ∧ c ≠ '\r' then blank else outside c
  | blank => outside c
  | escaped => word
  | inQuotes mark =>
    if c = '\\' then escapedInQuotes mark
    else if c = mark then word
    else inQuotes mark
  | escapedInQuotes mark => inQuotes mark

end Place

def scan (before : List Char) (p : Place) : List Char → Place ⊕ List Char
  | [] => .inl p
  | c :: rest =>
    if p = .blank ∧ c = '#' then .inr before.reverse
    else scan (c :: before) (p.next c) rest

def physicalLines (s : List Char) : List (List Char) :=
  let pieces := fields (· == '\n') s
  (pieces.dropLast.map (· ++ ['\n']) ++ pieces.drop (pieces.length - 1)).filter (· != [])

/-- Joins lines until one ends in a word. A line of comment alone is empty. What is left open at the
end is no line. -/
def joinLines (held : List Char) (p : Place) : List (List Char) → List (List Char)
  | [] => []
  | line :: rest =>
    if (trimStart (held ++ line)).head? = some '#' then [] :: joinLines [] .word rest
    else match scan [] p line with
      | .inr kept => (held ++ kept) :: joinLines [] .word rest
      | .inl .word => (held ++ line) :: joinLines [] .word rest
      | .inl p => joinLines (held ++ line) p rest

def lines (s : List Char) : List (List Char) := joinLines [] .word (physicalLines s)

end PgJson.EnvFile
