import PgJson.Service
import Mathlib.Data.List.Basic

/-!
Runs of a service: any sequence of connects and queries. The reference for a run keeps no state at
all: what a step may meet is the pool of the latest connect before it that made one.
-/

namespace PgJson
namespace Service

variable {π : Type}

abbrev Answers (π : Type) := π → Call → Log.Recorded (Outcome DbError (List Json))

/-- A step of a client. A connect brings the factory that is to make the pool; at a query stands how
the pools answer just then. -/
inductive Step (π : Type) where
  | connect (factory : String → Log.Recorded (Except DbError π))
  | query (answer : Answers π) (call : Call)

inductive Answer where
  | connected (result : Except DbError Unit)
  | queried (result : Outcome DbError (List Json))

structure Report (π : Type) where
  service : Service π
  answer : Answer
  calls : List (π × Call)

/-- Pools that take down every call before they answer it. -/
def taking (answer : Answers π) (pool : π) (call : Call) :
    Log.Recorded (Execution (π × Call)) := do
  let result ← answer pool call
  return ⟨result, [(pool, call)]⟩

def step (s : Service π) : Step π → Log.Recorded (Report π)
  | .connect factory => do
    let (s, result) ← s.connect factory
    return ⟨s, .connected result, []⟩
  | .query answer call => do
    let e ← s.query (taking answer) call
    return ⟨s, .queried e.result, e.effects⟩

def run (s : Service π) : List (Step π) → Log.Recorded (List (Report π))
  | [] => return []
  | first :: rest => do
    let report ← s.step first
    return report :: (← run report.service rest)

def after (s : Service π) (steps : List (Step π)) : Service π :=
  ((s.run steps).value.getLast?.map Report.service).getD s

/-! ## The reference -/

def Step.made? (url : String) : Step π → Option π
  | .connect factory => (factory url).value.toOption
  | .query .. => none

def latest? (url : String) (past : List (Step π)) : Option π :=
  (past.filterMap (Step.made? url)).getLast?

def historyFrom (past : List (Step π)) : List (Step π) → List (List (Step π) × Step π)
  | [] => []
  | next :: rest => (past, next) :: historyFrom (past ++ [next]) rest

def history (steps : List (Step π)) : List (List (Step π) × Step π) := historyFrom [] steps

/-- What a step amounts to after others: a connect is its factory at the URL, a query the latest
pool on this very call. -/
def expected (url : String) (past : List (Step π)) (next : Step π) : Report π where
  service := { url, pool := latest? url (past ++ [next]) }
  answer := match next with
    | .connect factory => .connected ((factory url).value.map fun _ => ())
    | .query answer call => .queried (match latest? url past with
      | none => Outcome.fail .notConnected
      | some pool => (answer pool call).value)
  calls := match next with
    | .connect _ => []
    | .query _ call => ((latest? url past).map (·, call)).toList

/-- What a step records after others. All that a factory records at the URL stands there once. -/
def expectedTraces (url : String) (past : List (Step π)) : Step π → List Log.Trace
  | .connect factory =>
    (factory url).traces ++ match (factory url).value with
      | .error _ => []
      | .ok _ => [.event (event (if (latest? url past).isSome then "Replaced existing pool handle"
          else "Database service connected"))]
  | .query answer call =>
    [.span (querySpan call) (match latest? url past with
      | none => []
      | some pool => (answer pool call).traces)]

def connectedCall? (url : String) (past : List (Step π)) : Step π → Option (π × Call)
  | .connect _ => none
  | .query _ call => (latest? url past).map (·, call)

/-! ## Single steps -/

theorem connect_eq (s : Service π) (factory : String → Log.Recorded (Except DbError π)) :
    s.connect factory =
      match (factory s.url).value with
      | .error e => ⟨(s, .error e), (factory s.url).traces⟩
      | .ok pool =>
        ⟨({ s with pool := some pool }, .ok ()), (factory s.url).traces ++
          [.event (event (if s.isConnected then "Replaced existing pool handle"
            else "Database service connected"))]⟩ := by
  unfold connect
  cases asked : factory s.url with
  | mk made traces =>
    cases made with
    | error e =>
      show (⟨(s, .error e), traces ++ []⟩ : Log.Recorded (Service π × Except DbError Unit)) = _
      rw [List.append_nil]
    | ok pool => rfl

theorem query_taking_eq (answer : Answers π) (s : Service π) (call : Call) :
    s.query (taking answer) call =
      match s.pool with
      | none => ⟨.failed .notConnected, [.span (querySpan call) []]⟩
      | some pool =>
        ⟨⟨(answer pool call).value, [(pool, call)]⟩,
          [.span (querySpan call) (answer pool call).traces]⟩ := by
  unfold query
  cases s.pool with
  | none => rfl
  | some pool =>
    show (⟨_, [.span (querySpan call) ((answer pool call).traces ++ [])]⟩ : Log.Recorded _) = _
    rw [List.append_nil]
    rfl

theorem latest?_connect (url : String) (past : List (Step π))
    (factory : String → Log.Recorded (Except DbError π)) :
    latest? url (past ++ [.connect factory]) =
      match (factory url).value with
      | .error _ => latest? url past
      | .ok pool => some pool := by
  unfold latest?
  rw [List.filterMap_append]
  cases made : (factory url).value with
  | error e => simp [Step.made?, made, Except.toOption]
  | ok pool => simp [Step.made?, made, Except.toOption]

theorem latest?_query (url : String) (past : List (Step π)) (answer : Answers π) (call : Call) :
    latest? url (past ++ [.query answer call]) = latest? url past := by
  simp [latest?, Step.made?]

theorem isSome_latest?_iff (url : String) (past : List (Step π)) :
    (latest? url past).isSome ↔
      ∃ factory pool, Step.connect factory ∈ past ∧ (factory url).value = .ok pool := by
  unfold latest?
  rw [List.getLast?_isSome, ne_eq, List.filterMap_eq_nil_iff]
  constructor
  · intro found
    push Not at found
    obtain ⟨next, member, made⟩ := found
    cases next with
    | query => exact absurd rfl made
    | connect factory =>
      cases result : (factory url).value with
      | error e => simp [Step.made?, result, Except.toOption] at made
      | ok pool => exact ⟨factory, pool, member, result⟩
  · rintro ⟨factory, pool, member, result⟩ none_made
    have nothing := none_made _ member
    simp [Step.made?, result, Except.toOption] at nothing

/-! ## Runs -/

variable (url : String)

theorem step_expected (past : List (Step π)) (next : Step π) :
    step { url, pool := latest? url past } next =
      ⟨expected url past next, expectedTraces url past next⟩ := by
  cases next with
  | connect factory =>
    simp only [step, connect_eq, expected, expectedTraces, latest?_connect, isConnected]
    cases made : (factory url).value with
    | error e => rfl
    | ok pool =>
      show (⟨_, (factory url).traces ++ _ ++ []⟩ : Log.Recorded (Report π)) = _
      rw [List.append_nil]
      rfl
  | query answer call =>
    simp only [step, query_taking_eq, expected, expectedTraces, latest?_query]
    cases found : latest? url past with
    | none => rfl
    | some pool => rfl

theorem run_cons (s : Service π) (next : Step π) (rest : List (Step π)) :
    s.run (next :: rest) =
      let report := s.step next
      ⟨report.value :: (run report.value.service rest).value,
        report.traces ++ (run report.value.service rest).traces⟩ := by
  show (⟨_, (s.step next).traces ++ (_ ++ [])⟩ : Log.Recorded (List (Report π))) = _
  rw [List.append_nil]
  rfl

theorem run_expected (past steps : List (Step π)) :
    run { url, pool := latest? url past } steps =
      ⟨(historyFrom past steps).map fun (past, next) => expected url past next,
        (historyFrom past steps).flatMap fun (past, next) =>
          expectedTraces url past next⟩ := by
  induction steps generalizing past with
  | nil => rfl
  | cons next rest ih =>
      have onward := ih (past ++ [next])
      rw [run_cons, step_expected]
      simp only [expected, onward, historyFrom, List.map_cons, List.flatMap_cons]

theorem run_new (steps : List (Step π)) :
    run { url } steps =
      ⟨(history steps).map fun (past, next) => expected url past next,
        (history steps).flatMap fun (past, next) => expectedTraces url past next⟩ :=
  run_expected url [] steps

theorem historyFrom_append (past steps : List (Step π)) (last : Step π) :
    historyFrom past (steps ++ [last]) = historyFrom past steps ++ [(past ++ steps, last)] := by
  induction steps generalizing past with
  | nil => simp [historyFrom]
  | cons next rest ih => simp [historyFrom, ih]

theorem after_eq (steps : List (Step π)) :
    after { url } steps = { url, pool := latest? url steps } := by
  cases List.eq_nil_or_concat steps with
  | inl empty =>
    subst empty
    rfl
  | inr some_last =>
    obtain ⟨past, last, whole⟩ := some_last
    rw [List.concat_eq_append] at whole
    subst whole
    simp [after, run_new, history, historyFrom_append, expected]

theorem calls_expected (past : List (Step π)) (next : Step π) :
    (expected url past next).calls = (connectedCall? url past next).toList := by
  cases next with
  | connect factory => rfl
  | query answer call => rfl

/-- Every run from a new service is the one the reference expects: in its answers and states, in
what it records, and in the calls that all pools together have taken, which are the connected
queries in their order. -/
theorem run_refines_reference (steps : List (Step π)) :
    (run { url } steps).value =
        (history steps).map (fun (past, next) => expected url past next) ∧
      (run { url } steps).traces =
        (history steps).flatMap (fun (past, next) => expectedTraces url past next) ∧
      (run { url } steps).value.flatMap Report.calls =
        (history steps).filterMap (fun (past, next) => connectedCall? url past next) ∧
      (after { url } steps).url = url ∧
      (after { url } steps).pool = latest? url steps ∧
      ((after { url } steps).isConnected ↔
        ∃ factory pool, Step.connect factory ∈ steps ∧ (factory url).value = .ok pool) := by
  refine ⟨by rw [run_new], by rw [run_new], ?_, by rw [after_eq], by rw [after_eq], ?_⟩
  · rw [run_new]
    simp only [List.flatMap_map, calls_expected]
    exact (List.filterMap_eq_flatMap_toList _ _).symm
  · rw [after_eq]
    exact isSome_latest?_iff url steps

end Service
end PgJson
