import PgJson.Log.Trace
import PgJson.Pattern.Parser
import PgJson.Text.Alphanumeric
import PgJson.Text.Blank
import PgJson.Text.Digits
import PgJson.Text.Fields
import PgJson.Text.Utf8

/-!
Directives of a filter: a bound on levels, for a target, for what stands in a span of some name, or
where a field of some name is present and has some value.
-/

namespace PgJson.Log

abbrev Bound := Nat

def Bound.names : List (String × Bound) :=
  [("off", 0), ("error", 1), ("warn", 2), ("info", 3), ("debug", 4), ("trace", 5)]

def Bound.name (b : Bound) : String := ((Bound.names.map (·.1))[b]?).getD "trace"

def Bound.read? (s : List Char) : Option Bound :=
  match (Text.readBounded Text.limit64 s).toOption with
  | some n => if n ≤ 5 then some n else none
  | none =>
    if s = [] then some 1
    else Bound.names.lookup (.ofList (s.map Char.toLower))

def Bound.behind? (s : List Char) : Option Bound := if s = [] then some 5 else Bound.read? s

/-- What the value of a field has to be. No field has a value with a fraction. -/
inductive Wanted where
  | bool (b : Bool)
  | nat (n : Nat)
  | int (i : Int)
  | fraction (written : List Char)
  | text (written : List Char) (pattern : Pattern)
  deriving DecidableEq, Repr

namespace Wanted

def holds : Wanted → Value → Bool
  | bool b, .bool c => b == c
  | nat n, .nat m => n == m
  | nat n, .int i => i == n
  | int i, .int j => i == j
  | text _ p, .quoted s => p.fits s.toList
  | _, _ => false

def int64? (s : List Char) : Option Int :=
  match s with
  | '-' :: digits =>
    if digits.head? = some '+' then none
    else match Text.readBounded Text.limit64 digits with
      | .ok n => if n ≤ 0x8000000000000000 then some (-n) else none
      | .error _ => none
  | _ => none

def unsigned : List Char → List Char
  | '+' :: rest | '-' :: rest => rest
  | s => s

def isDecimal (s : List Char) : Bool :=
  let (mantissa, exponent) := Text.cut (fun c => c == 'e' || c == 'E') s
  let (whole, part) := Text.cut (· == '.') mantissa
  let digits := whole ++ part.getD []
  digits != [] && digits.all Char.isDigit && match exponent with
    | none => true
    | some e => unsigned e != [] && (unsigned e).all Char.isDigit

def isFraction (s : List Char) : Bool :=
  ["inf", "infinity", "nan"].contains (.ofList ((unsigned s).map Char.toLower)) ||
    isDecimal (unsigned s)

def read? (s : List Char) : Option Wanted :=
  if s = "true".toList then some (bool true)
  else if s = "false".toList then some (bool false)
  else match Text.readBounded Text.limit64 s, int64? s with
    | .ok n, _ => some (nat n)
    | .error _, some i => some (int i)
    | .error _, none => if isFraction s then some (fraction s) else (Pattern.parse? s).map (text s)

end Wanted

structure Directive where
  target : List Char := []
  span : Option (List Char) := none
  field : Option (List Char × Option Wanted) := none
  bound : Bound
  deriving DecidableEq, Repr

namespace Directive

def opens (c : Char) : Bool := c == '-' || c == ':' || c == '_' || Text.isAlphanumeric c

def front (size : Nat) : List Char → List Char
  | [] => []
  | c :: rest => if c.utf8Size ≤ size then c :: front (size - c.utf8Size) rest else []

def slice (s : List Char) (first last : Nat) : List Char :=
  (front last s).drop (front first s).length

def behind (s : List Char) (first : Nat) : List Char := s.drop (front first s).length

def field? (s : List Char) : Option (List Char × Option Wanted) :=
  match Text.fields (· == '=') s with
  | [] => none
  | [name] => some (name, none)
  | name :: value :: _ => (Wanted.read? value).map fun wanted => (name, some wanted)

def afterSpan (s : List Char) (d : Directive) (place : Nat) : List Char → Option Directive
  | [] => some d
  | '=' :: _ => (Bound.behind? (behind s (place + 1))).map fun bound => { d with bound }
  | _ => none

/-- A span's name and a field in braces up to the closing bracket, of which either may be left out.
`rest` are the characters from byte `place` on. -/
def inSpan (s target : List Char) (place : Nat) (rest : List Char) : Option Directive :=
  let name := rest.takeWhile fun c => c != ']' && c != '\x7b'
  let stop := place + Utf8.size name
  match rest.drop name.length with
  | ']' :: rest => afterSpan s ⟨target, some (slice s place stop), none, 5⟩ (stop + 1) rest
  | _ :: rest =>
    let inside := rest.takeWhile (· != '\x7d')
    let last := stop + 1 + Utf8.size inside
    let span := if name = [] then none else some (slice s place stop)
    match inside, rest.drop inside.length with
    | _ :: _, '\x7d' :: ']' :: rest => do
      let field ← field? (slice s (stop + 1) last)
      afterSpan s ⟨target, span, some field, 5⟩ (last + 2) rest
    | _, _ => none
  | [] => none

/-- `target[span]=level` with parts left out, or a level alone. Blanks in front are not part of what
is looked at, but the parts are cut from the text as it is, at the places found. -/
def read? (s : List Char) : Option Directive :=
  let shown := Text.trim s
  match shown with
  | [] => none
  | '[' :: rest => inSpan s [] 1 rest
  | c :: _ =>
    let target := shown.takeWhile fun c => c != '=' && c != '['
    let stop := Utf8.size target
    if !opens c then none
    else match shown.drop target.length with
      | [] =>
        match Bound.read? s with
        | some bound => some { bound }
        | none => some { target := s, bound := 5 }
      | '[' :: rest => inSpan s (slice s 0 stop) (stop + 1) rest
      | _ :: _ =>
        (Bound.behind? (behind s (stop + 1))).map fun bound => { target := slice s 0 stop, bound }

def isDynamic (d : Directive) : Bool := d.span.isSome || d.field.isSome

def wantsValue (d : Directive) : Bool := (d.field.bind (·.2)).isSome

def isStatic (d : Directive) : Bool := d.span.isNone && !d.wantsValue

def sameScope (a b : Directive) : Bool :=
  a.target == b.target && a.span == b.span && a.field == b.field

def fieldName (d : Directive) : Option String := d.field.map fun field => .ofList field.1

def fitsTarget (d : Directive) (target : String) : Bool := d.target.isPrefixOf target.toList

def fitsEvent (d : Directive) (e : Event) : Bool :=
  d.fitsTarget e.target && d.fieldName.all e.fieldNames.contains

def fitsSpan (d : Directive) (s : Span) : Bool :=
  d.fitsTarget s.target && d.span.all (· == s.name.toList) &&
    d.fieldName.all (s.fields.map (·.1)).contains

def fitsValue (d : Directive) (s : Span) : Bool :=
  match d.field with
  | some (name, some wanted) => (s.fields.lookup (.ofList name)).any wanted.holds
  | _ => true

/-- A longer target makes a directive more special, then a field, then the order of names. -/
def notAbove (a b : Directive) : Bool :=
  if a.target.length ≠ b.target.length then a.target.length < b.target.length
  else match a.fieldName, b.fieldName with
    | none, _ => true
    | some _, none => false
    | some x, some y => x ≤ y

end Directive
end PgJson.Log
