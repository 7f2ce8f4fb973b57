import PgJson.Pattern.Basic
import PgJson.Text.Digits
import PgJson.Text.Fields

/-!
How patterns are written: characters for themselves, `.`, sets in brackets, `^` and `$`, groups,
alternatives with `|`, and repetition with `*`, `+` and `?`, which a further `?` makes reluctant.
-/

namespace PgJson.Pattern

open Text

def lastPoint : Nat := 0x10ffff

def complement (ranges : List (Nat × Nat)) : List (Nat × Nat) :=
  let sorted := ranges.mergeSort fun a b => a.1 ≤ b.1
  let (gaps, next) := sorted.foldl
    (fun (gaps, next) (first, last) =>
      (if next < first then gaps ++ [(next, first - 1)] else gaps, max next (last + 1)))
    (([] : List (Nat × Nat)), 0)
  if next ≤ lastPoint then gaps ++ [(next, lastPoint)] else gaps

def single (c : Char) : Pattern := oneOf [(c.toNat, c.toNat)]

def anyChar : Pattern := oneOf (complement [(0x0a, 0x0a)])

def numbered? (width : Nat) (s : List Char) : Option (Char × List Char) := do
  let digits := s.take width
  let n ← digits.foldlM (fun n c => (hexValue? c).map (n * 16 + ·)) 0
  if digits.length = width ∧ n.isValidChar then some (Char.ofNat n, s.drop width) else none

def escaped? : List Char → Option (Char × List Char)
  | 'x' :: rest => numbered? 2 rest
  | 'u' :: rest => numbered? 4 rest
  | 'U' :: rest => numbered? 8 rest
  | 'a' :: rest => some ('\x07', rest)
  | 'f' :: rest => some ('\x0c', rest)
  | 't' :: rest => some ('\t', rest)
  | 'n' :: rest => some ('\n', rest)
  | 'r' :: rest => some ('\r', rest)
  | 'v' :: rest => some ('\x0b', rest)
  | c :: rest =>
    if c.toNat < 0x80 && !c.isAlphanum && c != '<' && c != '>' then some (c, rest) else none
  | [] => none

/-! ## Sets -/

def namedSets : List (String × List (Nat × Nat)) :=
  [("alnum", [(0x30, 0x39), (0x41, 0x5a), (0x61, 0x7a)]), ("alpha", [(0x41, 0x5a), (0x61, 0x7a)]),
    ("ascii", [(0, 0x7f)]), ("blank", [(0x09, 0x09), (0x20, 0x20)]),
    ("cntrl", [(0, 0x1f), (0x7f, 0x7f)]), ("digit", [(0x30, 0x39)]), ("graph", [(0x21, 0x7e)]),
    ("lower", [(0x61, 0x7a)]), ("print", [(0x20, 0x7e)]),
    ("punct", [(0x21, 0x2f), (0x3a, 0x40), (0x5b, 0x60), (0x7b, 0x7e)]),
    ("space", [(0x09, 0x0d), (0x20, 0x20)]), ("upper", [(0x41, 0x5a)]),
    ("word", [(0x30, 0x39), (0x41, 0x5a), (0x5f, 0x5f), (0x61, 0x7a)]),
    ("xdigit", [(0x30, 0x39), (0x41, 0x46), (0x61, 0x66)])]

def namedSet? (s : List Char) : Option (List (Nat × Nat) × List Char) :=
  match s with
  | ':' :: '^' :: rest => do
    let (name, behind) := cut (· == ':') rest
    some (complement (← namedSets.lookup (.ofList name)), ← closing (← behind))
  | ':' :: rest => do
    let (name, behind) := cut (· == ':') rest
    some (← namedSets.lookup (.ofList name), ← closing (← behind))
  | _ => none
where
  closing : List Char → Option (List Char)
    | ']' :: rest => some rest
    | _ => none

def member? : List Char → Option (Char × List Char)
  | '\\' :: rest => escaped? rest
  | c :: rest => some (c, rest)
  | [] => none

def range? (s : List Char) : Option ((Nat × Nat) × List Char) := do
  let (first, rest) ← member? s
  match rest with
  | '-' :: ']' :: _ | '-' :: '-' :: _ => some ((first.toNat, first.toNat), rest)
  | '-' :: rest =>
    let (last, rest) ← member? rest
    if first.toNat ≤ last.toNat then some ((first.toNat, last.toNat), rest) else none
  | rest => some ((first.toNat, first.toNat), rest)

/-- A named set or a range. Two equal signs that would join sets are none. -/
def part? : List Char → Option (List (Nat × Nat) × List Char)
  | '&' :: '&' :: _ | '-' :: '-' :: _ | '~' :: '~' :: _ => none
  | '[' :: rest => namedSet? rest
  | s => (range? s).map fun (range, rest) => ([range], rest)

def ranges? (held : List (Nat × Nat)) (s : List Char) : Option (List (Nat × Nat) × List Char) :=
  if s.head? = some ']' then some (held, s.tail)
  else do
    let (found, rest) ← part? s
    if _h : rest.length < s.length then ranges? (held ++ found) rest else none
termination_by s.length

/-- Hyphens in front, or else a closing bracket there, stand for themselves. -/
def set? (s : List Char) : Option (Pattern × List Char) :=
  let (negated, s) := match s with
    | '^' :: rest => (true, rest)
    | s => (false, s)
  let held := if s.head? = some '-' ∨ s.head? = some ']' then s.head?.toList else []
  let held := if held = ['-'] then s.takeWhile (· == '-') else held
  (ranges? (held.map fun c => (c.toNat, c.toNat)) (s.drop held.length)).map
    fun (ranges, rest) => (oneOf (if negated then complement ranges else ranges), rest)

/-! ## Tokens -/

inductive Token where
  | piece (p : Pattern)
  | opening
  | closing
  | bar
  | repeated (atLeastOnce atMostOnce greedy : Bool)
  deriving DecidableEq, Repr

def isNameStart (c : Char) : Bool := c == '_' || c.isAlpha

def isNameChar (c : Char) : Bool := isNameStart c || c.isDigit || c == '.' || c == '[' || c == ']'

def group? (s : List Char) : Option (List Char) :=
  match s with
  | '?' :: ':' :: rest => some rest
  | '?' :: 'P' :: '<' :: rest | '?' :: '<' :: rest =>
    match cut (· == '>') rest with
    | (c :: name, some rest) => if isNameStart c && name.all isNameChar then some rest else none
    | _ => none
  | '?' :: _ => none
  | s => some s

def repetition (atLeastOnce atMostOnce : Bool) : List Char → Token × List Char
  | '?' :: rest => (.repeated atLeastOnce atMostOnce false, rest)
  | rest => (.repeated atLeastOnce atMostOnce true, rest)

def token? : List Char → Option (Token × List Char)
  | [] => none
  | '(' :: rest => (group? rest).map (.opening, ·)
  | ')' :: rest => some (.closing, rest)
  | '|' :: rest => some (.bar, rest)
  | '*' :: rest => some (repetition false false rest)
  | '+' :: rest => some (repetition true false rest)
  | '?' :: rest => some (repetition false true rest)
  | '\x7b' :: _ => none
  | '[' :: rest => (set? rest).map fun (p, rest) => (.piece p, rest)
  | '.' :: rest => some (.piece anyChar, rest)
  | '^' :: rest | '\\' :: 'A' :: rest => some (.piece atStart, rest)
  | '$' :: rest | '\\' :: 'z' :: rest => some (.piece atEnd, rest)
  | '\\' :: rest => (escaped? rest).map fun (c, rest) => (.piece (single c), rest)
  | c :: rest => some (.piece (single c), rest)

def tokens? (s : List Char) : Option (List Token) :=
  if s = [] then some []
  else do
    let (token, rest) ← token? s
    if _h : rest.length < s.length then (tokens? rest).map (token :: ·) else none
termination_by s.length

/-! ## Groups -/

/-- A group that is being read: its alternatives so far, and what it holds since then. -/
structure Group where
  before : Option Pattern := none
  items : List Pattern := []

namespace Group

def pattern (g : Group) : Pattern :=
  match g.before with
  | none => ofList g.items
  | some p => p.either (ofList g.items)

def push (g : Group) (p : Pattern) : Group := { g with items := g.items ++ [p] }

end Group

def optional (greedy : Bool) (p : Pattern) : Pattern :=
  if greedy then p.either empty else empty.either p

def repeatLast? (f : Pattern → Pattern) (items : List Pattern) : Option (List Pattern) :=
  items.getLast?.map fun p => items.dropLast ++ [f p]

def read? (inner : Group) (outer : List Group) : Token → Option (Group × List Group)
  | .piece p => some (inner.push p, outer)
  | .opening => some ({}, inner :: outer)
  | .closing =>
    match outer with
    | g :: outer => some (g.push inner.pattern, outer)
    | [] => none
  | .bar => some ({ before := some inner.pattern }, outer)
  | .repeated atLeastOnce atMostOnce greedy =>
    let f (p : Pattern) :=
      if atMostOnce then optional greedy p
      else if atLeastOnce then p.both (many greedy p)
      else many greedy p
    (repeatLast? f inner.items).map fun items => ({ inner with items }, outer)

def parse? (s : List Char) : Option Pattern := do
  let (inner, outer) ← (← tokens? s).foldlM (fun (inner, outer) t => read? inner outer t) ({}, [])
  if outer = [] then some inner.pattern else none

end PgJson.Pattern
