import PgJson.Log.Journal
import Mathlib.Data.List.Basic

/-!
Processes that set up their log any number of times. Only the first call counts: the later ones are
refused, and what is written is what the first one asked for.
-/

namespace PgJson.Log

theorem Level.verbosity_pos (l : Level) : 0 < l.verbosity := by
  cases l with
  | trace => decide
  | debug => decide
  | info => decide
  | warn => decide
  | error => decide

namespace Filter

structure Within (f : Filter) (limit : Bound) : Prop where
  events : ∀ spans e, f.admitsEvent spans e = true → e.level.verbosity ≤ limit
  spans : ∀ outer s, f.admitsSpan outer s = true → s.level.verbosity ≤ limit

theorem limit_ofLevel (l : Level) : (ofLevel l).limit = l.verbosity := by
  simp [ofLevel, limit, highest, Directive.wantsValue]

theorem decided_single (d : Directive) (fits : Directive → Bool) :
    decided ([d].filter fits) ≤ d.bound := by
  cases fitting : fits d with
  | false => simp [fitting, decided]
  | true => simp [fitting, decided]

theorem admitsWithin_ofLevel (l : Level) (spans : List Span) (wanted : Level) :
    (ofLevel l).admitsWithin spans wanted = false := by
  have none : highest ((ofLevel l).filter Directive.isDynamic) = 0 := rfl
  rw [admitsWithin, none, decide_eq_false (Nat.not_le.mpr wanted.verbosity_pos), Bool.false_and]

theorem within_ofLevel (l : Level) : (ofLevel l).Within (ofLevel l).limit := by
  rw [limit_ofLevel]
  constructor
  · intro spans e admitted
    rw [admitsEvent, admitsWithin_ofLevel, Bool.or_false, decide_eq_true_eq] at admitted
    exact Nat.le_trans admitted (decided_single _ _)
  · intro outer s admitted
    have unwatched : (ofLevel l).watches s = false := rfl
    rw [admitsSpan, admitsWithin_ofLevel, unwatched, Bool.or_false, Bool.false_or,
      decide_eq_true_eq] at admitted
    exact Nat.le_trans admitted (decided_single _ _)

end Filter

namespace Subscriber

theorem bounded_and (level low high : Bound) (raised : low ≤ high) (admitted : Bool)
    (small : admitted = true → level ≤ low) :
    (decide (level ≤ high) && admitted) = (decide (level ≤ low) && admitted) := by
  cases admitted with
  | false => simp
  | true => simp [small rfl, Nat.le_trans (small rfl) raised]

theorem event_within (s : Subscriber) (low high : Bound) (raised : low ≤ high)
    (within : s.filter.Within low) (spans : List Span) (e : Event) :
    s.event high spans e = s.event low spans e := by
  rw [event, event, bounded_and _ low high raised _ (within.events spans e)]

theorem admitsSpan_within (s : Subscriber) (low high : Bound) (raised : low ≤ high)
    (within : s.filter.Within low) (outer : List Span) (span : Span) :
    s.admitsSpan high outer span = s.admitsSpan low outer span := by
  rw [admitsSpan, admitsSpan, bounded_and _ low high raised _ (within.spans outer span)]

mutual

theorem trace_within (s : Subscriber) (low high : Bound) (raised : low ≤ high)
    (within : s.filter.Within low) (spans : List Span) (t : Trace) :
    s.trace high spans t = s.trace low spans t := by
  cases t with
  | event e =>
      rw [trace, trace]
      exact event_within s low high raised within spans e
  | span span inner =>
      rw [trace, trace, admitsSpan_within s low high raised within,
        traces_within s low high raised within _ inner,
        traces_within s low high raised within _ inner]

theorem traces_within (s : Subscriber) (low high : Bound) (raised : low ≤ high)
    (within : s.filter.Within low) (spans : List Span) (ts : List Trace) :
    s.traces high spans ts = s.traces low spans ts := by
  cases ts with
  | nil => rfl
  | cons t rest =>
      rw [traces, traces, trace_within s low high raised within spans t,
        traces_within s low high raised within spans rest]

end

/-- With one environment for all, a filter is either the same for every configuration or a level. -/
theorem traces_ofConfig (environment : Option String) (first last : Config) (spans : List Span)
    (ts : List Trace) :
    let s := ofConfig environment first
    s.traces (max s.filter.limit (ofConfig environment last).filter.limit) spans ts =
      s.traces s.filter.limit spans ts := by
  intro s
  cases read : environment.bind Filter.read? with
  | some f =>
      have same : (ofConfig environment last).filter = s.filter := by
        simp only [s, ofConfig, read, Option.getD_some]
      rw [same, Nat.max_self]
  | none =>
      have level : s.filter = .ofLevel first.level := by
        simp only [s, ofConfig, read, Option.getD_none]
      apply traces_within s _ _ (Nat.le_max_left ..)
      rw [level]
      exact Filter.within_ofLevel first.level

end Subscriber

/-- What a process does with its log: it sets it up, or records something. -/
inductive Act where
  | setUp (s : Setup)
  | write (traces : List Trace)

namespace Act

def setup? : Act → Option Setup
  | setUp s => some s
  | write _ => none

def written? : Act → Option (List Trace)
  | setUp _ => none
  | write traces => some traces

end Act

def Setup.refusal (s : Setup) : Outcome SetupError Unit :=
  if s.reports then Outcome.fail .alreadyInitialized else Outcome.crash

namespace Journal

def run (environment : Option String) (j : Journal) :
    List Act → Journal × List (Outcome SetupError Unit)
  | [] => (j, [])
  | .setUp s :: rest =>
    let (j, answer) := j.setUp environment s
    let (j, answers) := run environment j rest
    (j, answer :: answers)
  | .write traces :: rest => run environment (j.write traces) rest

/-- The log stands as the first set-up made it. The levels that it is asked about go as high as the
first or some later one wants them. -/
structure Standing (environment : Option String) (first : Setup) (j : Journal) : Prop where
  subscriber : j.telemetry.subscriber = some (.ofConfig environment first.wanted)
  bound : ∃ last : Config, j.telemetry.bound =
    max (Subscriber.ofConfig environment first.wanted).filter.limit
      (Subscriber.ofConfig environment last).filter.limit
  outside : j.spans = []

theorem Standing.lines (environment : Option String) (first : Setup) (j : Journal)
    (standing : Standing environment first j) (spans : List Span) (traces : List Trace) :
    let s := Subscriber.ofConfig environment first.wanted
    j.telemetry.lines spans traces = s.traces s.filter.limit spans traces := by
  obtain ⟨subscriber, ⟨last, bound⟩, _⟩ := standing
  simp only [Telemetry.lines, subscriber, bound]
  exact Subscriber.traces_ofConfig environment first.wanted last spans traces

/-! ## Single acts -/

theorem setUp_new (environment : Option String) (first : Setup) (j : Journal)
    (new : j.telemetry.subscriber = none) (outside : j.spans = []) :
    (j.setUp environment first).2 = .ok () ∧ (j.setUp environment first).1.lines = j.lines ∧
      Standing environment first (j.setUp environment first).1 := by
  simp only [setUp, install, Telemetry.install, new]
  refine ⟨rfl, trivial, rfl, ⟨first.wanted, ?_⟩, outside⟩
  rw [Nat.max_self]

theorem setUp_standing (environment : Option String) (first : Setup) (j : Journal)
    (standing : Standing environment first j) (s : Setup) :
    (j.setUp environment s).2 = s.refusal ∧ (j.setUp environment s).1.lines = j.lines ∧
      Standing environment first (j.setUp environment s).1 := by
  obtain ⟨subscriber, _, outside⟩ := standing
  simp only [setUp, install, Telemetry.install, subscriber]
  exact ⟨rfl, trivial, rfl, ⟨s.wanted, rfl⟩, outside⟩

theorem write_standing (environment : Option String) (first : Setup) (j : Journal)
    (standing : Standing environment first j) (traces : List Trace) :
    let s := Subscriber.ofConfig environment first.wanted
    (j.write traces).lines = j.lines ++ s.traces s.filter.limit [] traces ∧
      Standing environment first (j.write traces) := by
  have written := standing.lines environment first j j.spans traces
  rw [standing.outside] at written
  refine ⟨?_, standing.subscriber, standing.bound, standing.outside⟩
  rw [write, standing.outside, written]

/-! ## Processes -/

theorem run_silent (environment : Option String) (silent : List (List Trace)) (acts : List Act) :
    run environment {} (silent.map .write ++ acts) = run environment {} acts := by
  induction silent with
  | nil => rfl
  | cons traces silent ih => exact ih

theorem run_standing (environment : Option String) (first : Setup) (j : Journal)
    (standing : Standing environment first j) (acts : List Act) :
    let s := Subscriber.ofConfig environment first.wanted
    let done := run environment j acts
    done.2 = (acts.filterMap Act.setup?).map Setup.refusal ∧
      done.1.lines =
        j.lines ++ (acts.filterMap Act.written?).flatMap (s.traces s.filter.limit []) ∧
      Standing environment first done.1 := by
  induction acts generalizing j with
  | nil => exact ⟨rfl, (List.append_nil _).symm, standing⟩
  | cons act acts ih =>
      cases act with
      | setUp s =>
          obtain ⟨answer, kept, onward⟩ := setUp_standing environment first j standing s
          obtain ⟨answers, lines, standing⟩ := ih _ onward
          simp only [run, List.filterMap_cons, Act.setup?, Act.written?, List.map_cons]
          exact ⟨by rw [answer, answers], by rw [lines, kept], standing⟩
      | write traces =>
          obtain ⟨written, onward⟩ := write_standing environment first j standing traces
          obtain ⟨answers, lines, standing⟩ := ih _ onward
          simp only [run, List.filterMap_cons, Act.setup?, Act.written?, List.flatMap_cons]
          exact ⟨answers, by rw [lines, written, List.append_assoc], standing⟩

/-- A process that sets up its log at all, and whatever else it records and sets up, before that and
after: the first set-up succeeds. Those after it are refused, by an error if they report and by a
crash if not. Filter and format stay those of the first, with the directives of the environment if
they can be read and the level of its configuration if not: all that is recorded behind it is
written as if it had been the only one. -/
theorem run_keeps_first (environment : Option String) (silent : List (List Trace)) (first : Setup)
    (later : List Act) :
    let s := Subscriber.ofConfig environment first.wanted
    let done := run environment {} (silent.map .write ++ .setUp first :: later)
    done.2 = .ok () :: (later.filterMap Act.setup?).map Setup.refusal ∧
      done.1.telemetry.subscriber = some s ∧
      (s.config = first.wanted ∧
        (∀ f, environment.bind Filter.read? = some f → s.filter = f) ∧
        (environment.bind Filter.read? = none → s.filter = .ofLevel first.wanted.level)) ∧
      done.1.lines = (later.filterMap Act.written?).flatMap (s.traces s.filter.limit []) ∧
      ∀ spans traces, done.1.telemetry.lines spans traces = s.traces s.filter.limit spans traces := by
  intro s done
  obtain ⟨answer, empty, standing⟩ := setUp_new environment first {} rfl rfl
  obtain ⟨answers, lines, standing⟩ := run_standing environment first _ standing later
  have whole : done = run environment {} (.setUp first :: later) := run_silent ..
  simp only [whole, run]
  refine ⟨by rw [answer, answers], standing.subscriber, ⟨rfl, ?_, ?_⟩, ?_, ?_⟩
  · intro f read
    simp only [s, Subscriber.ofConfig, read, Option.getD_some]
  · intro unread
    simp only [s, Subscriber.ofConfig, unread, Option.getD_none]
  · rw [lines, empty, List.nil_append]
  · exact standing.lines environment first _

theorem run_keeps_first_production :
    let first : Setup := { config := some .production, reports := false }
    let later : List Act := [.setUp { config := some .development, reports := true },
      .setUp { reports := false }]
    let filter : Filter := [{ target := "dbservice".toList, bound := 2 }]
    let directed := run (some "dbservice=warn") {} (.setUp first :: later)
    let plain := run none {} (.setUp first :: later)
    Filter.read? "dbservice=warn" = some filter ∧
      directed.2 = [.ok (), Outcome.fail .alreadyInitialized, Outcome.crash] ∧
      directed.1.telemetry.subscriber = some ⟨filter, .production⟩ ∧
      plain.1.telemetry.subscriber = some ⟨.ofLevel .info, .production⟩ := by
  intro first later filter directed plain
  have read : (some "dbservice=warn").bind Filter.read? = some filter := by decide +kernel
  obtain ⟨answers, subscriber, ⟨_, directives, _⟩, _⟩ :=
    run_keeps_first (some "dbservice=warn") [] first later
  obtain ⟨_, subscriber', ⟨_, _, level⟩, _⟩ := run_keeps_first none [] first later
  have filtered := directives filter read
  have levelled : (Subscriber.ofConfig none first.wanted).filter = .ofLevel .info := level rfl
  refine ⟨read, answers, ?_, ?_⟩
  · rw [← filtered]
    exact subscriber
  · rw [← levelled]
    exact subscriber'

end Journal
end PgJson.Log
