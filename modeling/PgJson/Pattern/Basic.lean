import PgJson.Text.Ranges

/-!
Patterns for texts. A pattern has ways to match in an order of preference, and it fits a text if the
one it prefers takes the text as a whole.
-/

namespace PgJson

inductive Pattern where
  | empty
  | oneOf (ranges : List (Nat × Nat))
  | atStart
  | atEnd
  | both (first second : Pattern)
  | either (preferred other : Pattern)
  | many (greedy : Bool) (body : Pattern)
  deriving DecidableEq, Repr

namespace Pattern

def distinct (rests : List (List Char)) : List (List Char) :=
  rests.eraseDupsBy fun a b => a.length == b.length

/-- The rests behind any number of steps; a step that takes nothing is the last. -/
def iterate (greedy : Bool) (step : List Char → List (List Char)) (s : List Char) :
    List (List Char) :=
  let more := (step s).flatMap fun rest =>
    if _h : rest.length < s.length then iterate greedy step rest else [s]
  distinct (if greedy then more ++ [s] else s :: more)
termination_by s.length

/-- What the ways to match leave of the end `s` of a text, the preferred way first. -/
def rests (whole : List Char) : Pattern → List Char → List (List Char)
  | empty, s => [s]
  | oneOf ranges, c :: rest => if Text.isIn ranges c then [rest] else []
  | oneOf _, [] => []
  | atStart, s => if s.length = whole.length then [s] else []
  | atEnd, s => if s = [] then [s] else []
  | both first second, s => distinct ((rests whole first s).flatMap (rests whole second))
  | either preferred other, s => distinct (rests whole preferred s ++ rests whole other s)
  | many greedy body, s => iterate greedy (rests whole body) s

def fits (p : Pattern) (s : List Char) : Bool := (p.rests s s).head? == some []

def ofList (ps : List Pattern) : Pattern := ps.foldr both empty

end Pattern
end PgJson
