import PgJson.Log.Telemetry

namespace PgJson.Log

/-- The set-up, the admitted spans that are open, outermost first, and the lines so far. -/
structure Journal where
  telemetry : Telemetry := {}
  spans : List Span := []
  lines : List Line := []
  deriving Repr

namespace Journal

def install (j : Journal) (environment : Option String) (c : Config) :
    Journal × Except SetupError Unit :=
  let (telemetry, result) := j.telemetry.install environment c
  ({ j with telemetry }, result)

def setUp (j : Journal) (environment : Option String) (s : Setup) :
    Journal × Outcome SetupError Unit :=
  let (j, result) := j.install environment s.wanted
  (j, s.answer result)

def write (j : Journal) (traces : List Trace) : Journal :=
  { j with lines := j.lines ++ j.telemetry.lines j.spans traces }

def within {α : Type} (j : Journal) (s : Span) (inner : Journal → α × Journal) : α × Journal :=
  match j.telemetry.subscriber.filter (·.admitsSpan j.telemetry.bound j.spans s) with
  | none => inner j
  | some log =>
    let (a, after) := inner
      { j with spans := j.spans ++ [s], lines := j.lines ++ log.opening j.spans s }
    (a, { after with spans := j.spans, lines := after.lines ++ log.ending j.spans s })

def onStderr (j : Journal) : Bool := (j.telemetry.subscriber.map (·.config.stderr)).getD true

end Journal
end PgJson.Log
