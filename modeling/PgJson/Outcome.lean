namespace PgJson

/-- How an operation fails: with an error its caller can handle, or by crashing the program. -/
inductive Failure (ε : Type) where
  | error (cause : ε)
  | crash
  deriving DecidableEq, Repr

abbrev Outcome (ε : Type) := Except (Failure ε)

namespace Outcome

def fail {ε α : Type} (cause : ε) : Outcome ε α := .error (.error cause)

def crash {ε α : Type} : Outcome ε α := .error .crash

def mapCause {ε ε' α : Type} (f : ε → ε') : Outcome ε α → Outcome ε' α
  | .ok a => .ok a
  | .error (.error cause) => fail (f cause)
  | .error .crash => crash

def orCrash {ε α : Type} : Option α → Outcome ε α
  | some a => .ok a
  | none => crash

end Outcome

end PgJson
