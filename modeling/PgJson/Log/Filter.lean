import PgJson.Log.Directive

/-!
Filters: directives that bound the levels of what is written. For an event or a span by itself the
most special of the directives that fit decides; a directive for spans also lets through what stands
in such a span. Where none does, nothing is written.
-/

namespace PgJson.Log

abbrev Filter := List Directive

namespace Filter

def read? (s : String) : Option Filter :=
  ((Text.fields (· == ',') s.toList).filter (· != [])).mapM Directive.read?

def ofLevel (l : Level) : Filter := [{ bound := l.verbosity }]

def highest (f : Filter) : Bound := f.foldl (fun n d => max n d.bound) 0

/-- The highest level that has to be looked at. Spans whose values count are looked at in all. -/
def limit (f : Filter) : Bound := if f.any Directive.wantsValue then 5 else f.highest

def decided (fitting : Filter) : Bound :=
  let special := fitting.foldl
    (fun best d => match best with
      | some b => if b.notAbove d then some d else best
      | none => some d) (none : Option Directive)
  (special.map Directive.bound).getD 0

def boundForEvent (f : Filter) (e : Event) : Bound :=
  decided (f.filter fun d => d.isStatic && d.fitsEvent e)

def boundForSpan (f : Filter) (s : Span) : Bound :=
  decided (f.filter fun d => d.isStatic && d.fitsTarget s.target)

/-- The directives for spans; of those that differ in their bounds alone the last counts. -/
def dynamics : Filter → Filter
  | [] => []
  | d :: rest =>
    if d.isDynamic && !rest.any d.sameScope then d :: dynamics rest else dynamics rest

def watches (f : Filter) (s : Span) : Bool := f.dynamics.any (·.fitsSpan s)

def boundWithin (f : Filter) (s : Span) : Bound :=
  highest (f.dynamics.filter fun d => d.fitsSpan s && d.fitsValue s)

def admitsWithin (f : Filter) (spans : List Span) (l : Level) : Bool :=
  l.verbosity ≤ highest (f.filter Directive.isDynamic) &&
    spans.any fun s => l.verbosity ≤ f.boundWithin s

def admitsEvent (f : Filter) (spans : List Span) (e : Event) : Bool :=
  e.level.verbosity ≤ f.boundForEvent e || f.admitsWithin spans e.level

def admitsSpan (f : Filter) (spans : List Span) (s : Span) : Bool :=
  f.watches s || s.level.verbosity ≤ f.boundForSpan s || f.admitsWithin spans s.level

end Filter
end PgJson.Log
