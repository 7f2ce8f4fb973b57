import PgJson.Pool.Scripted
import PgJson.Proofs.Service.Run
import Mathlib.Data.List.Induction
import Mathlib.Data.List.Perm.Basic
import Mathlib.Logic.Function.Basic

/-!
Clients that share a service. While one waits for its answer the others may ask, so a schedule is
any order of their turns; a connect needs the service for itself and is none of them.
-/

namespace PgJson
namespace Service

variable {π ι : Type}

/-- A client's part in a query: it hands over the call, and later it gets the answer. -/
inductive Turn where
  | ask (call : Call)
  | get

def Turn.call? : Turn → Option Call
  | .ask call => some call
  | .get => none

def turns (calls : List Call) : List Turn := calls.flatMap fun call => [.ask call, .get]

/-- A service with its clients: the calls that the pool took, the answers that are on their way and
those that arrived. -/
structure Shared (π ι : Type) where
  service : Service π
  log : List (π × Call) := []
  awaited : ι → Option (Outcome DbError (List Json)) := fun _ => none
  received : ι → List (Outcome DbError (List Json)) := fun _ => []

def asked (schedule : List (ι × Turn)) : List (ι × Call) :=
  schedule.filterMap fun (client, turn) => turn.call?.map (client, ·)

section

variable [DecidableEq ι]

def Shared.step (answer : Answers π) (s : Shared π ι) : ι × Turn → Shared π ι
  | (client, .ask call) =>
    let e := (s.service.query (taking answer) call).value
    { s with
      log := s.log ++ e.effects
      awaited := Function.update s.awaited client (some e.result) }
  | (client, .get) =>
    { s with
      awaited := Function.update s.awaited client none
      received := Function.update s.received client
        (s.received client ++ (s.awaited client).toList) }

def Shared.run (answer : Answers π) (s : Shared π ι) (schedule : List (ι × Turn)) : Shared π ι :=
  schedule.foldl (Shared.step answer) s

def own {α : Type} (client : ι) (xs : List (ι × α)) : List α :=
  xs.filterMap fun (owner, x) => if owner = client then some x else none

/-- A schedule holds the turns of every client in their order, and no others. -/
def Interleaves (clients : ι → List Call) (schedule : List (ι × Turn)) : Prop :=
  ∀ client, own client schedule = turns (clients client)

end

/-! ## Schedules -/

section

variable [DecidableEq ι]

theorem calls_turns (calls : List Call) : (turns calls).filterMap Turn.call? = calls := by
  induction calls with
  | nil => rfl
  | cons call rest ih =>
      show call :: (turns rest).filterMap Turn.call? = _
      rw [ih]

theorem own_cons {α : Type} (client owner : ι) (x : α) (xs : List (ι × α)) :
    own client ((owner, x) :: xs) =
      if owner = client then x :: own client xs else own client xs := by
  unfold own
  by_cases mine : owner = client
  · simp [mine]
  · simp [mine]

theorem own_append {α : Type} (client : ι) (xs ys : List (ι × α)) :
    own client (xs ++ ys) = own client xs ++ own client ys :=
  List.filterMap_append

theorem own_asked (client : ι) (schedule : List (ι × Turn)) :
    own client (asked schedule) = (own client schedule).filterMap Turn.call? := by
  unfold own asked
  rw [List.filterMap_filterMap, List.filterMap_filterMap]
  congr 1
  funext (owner, turn)
  by_cases mine : owner = client
  · cases turn <;> simp [mine, Turn.call?]
  · cases turn <;> simp [mine, Turn.call?]

theorem own_asked_of_interleaves (clients : ι → List Call) (schedule : List (ι × Turn))
    (merged : Interleaves clients schedule) (client : ι) :
    own client (asked schedule) = clients client := by
  rw [own_asked, merged, calls_turns]

theorem perm_of_own {α : Type} (xs ys : List (ι × α))
    (same : ∀ client, own client xs = own client ys) : xs.Perm ys := by
  classical
  -- A pair is counted in the whole list as its second part is in the owner's own.
  have counted : ∀ (zs : List (ι × α)) (client : ι) (x : α),
      zs.count (client, x) = (own client zs).count x := by
    intro zs client x
    induction zs with
    | nil => rfl
    | cons z zs ih =>
        obtain ⟨owner, y⟩ := z
        by_cases mine : owner = client
        · simp [own_cons, mine, List.count_cons, ih]
        · simp [own_cons, mine, ih]
  rw [List.perm_iff_count]
  intro (client, x)
  rw [counted, counted, same]

end

/-! ## Turns at a connected service -/

variable (answer : Answers π)

theorem query_connected (s : Service π) (pool : π) (connected : s.pool = some pool) (call : Call) :
    (s.query (taking answer) call).value = ⟨(answer pool call).value, [(pool, call)]⟩ := by
  rw [query_taking_eq, connected]

section

variable [DecidableEq ι]

theorem run_append (s : Shared π ι) (schedule : List (ι × Turn)) (turn : ι × Turn) :
    Shared.run answer s (schedule ++ [turn]) =
      (Shared.run answer s schedule).step answer turn := by
  rw [Shared.run, List.foldl_append]
  rfl

theorem run_log (s : Service π) (pool : π) (connected : s.pool = some pool)
    (schedule : List (ι × Turn)) :
    (Shared.run answer { service := s } schedule).service = s ∧
      (Shared.run answer { service := s } schedule).log =
        (asked schedule).map fun (_, call) => (pool, call) := by
  induction schedule using List.reverseRecOn with
  | nil => exact ⟨rfl, rfl⟩
  | append_singleton schedule turn ih =>
      obtain ⟨same, log⟩ := ih
      rw [run_append, asked, List.filterMap_append, List.map_append, ← asked]
      obtain ⟨client, turn⟩ := turn
      cases turn with
      | ask call =>
          have taken := query_connected answer s pool connected call
          rw [← same] at taken
          refine ⟨same, ?_⟩
          simp only [Shared.step, taken, log]
          rfl
      | get =>
          refine ⟨same, ?_⟩
          simp only [Shared.step, log]
          exact (List.append_nil _).symm

/-- What a turn of its own is to a client. -/
def seen (reply : Call → Outcome DbError (List Json))
    (at_hand : Option (Outcome DbError (List Json)) × List (Outcome DbError (List Json))) :
    Turn → Option (Outcome DbError (List Json)) × List (Outcome DbError (List Json))
  | .ask call => (some (reply call), at_hand.2)
  | .get => (none, at_hand.2 ++ at_hand.1.toList)

theorem seen_turns (reply : Call → Outcome DbError (List Json)) (calls : List Call)
    (before : List (Outcome DbError (List Json))) :
    (turns calls).foldl (seen reply) (none, before) = (none, before ++ calls.map reply) := by
  induction calls generalizing before with
  | nil => rw [List.map_nil, List.append_nil]; rfl
  | cons call rest ih =>
      show (turns rest).foldl (seen reply) (none, before ++ [reply call]) = _
      rw [ih, List.append_assoc]
      rfl

theorem run_own (s : Service π) (pool : π) (connected : s.pool = some pool)
    (schedule : List (ι × Turn)) (client : ι) :
    ((Shared.run answer { service := s } schedule).awaited client,
        (Shared.run answer { service := s } schedule).received client) =
      (own client schedule).foldl (seen fun call => (answer pool call).value) (none, []) := by
  induction schedule using List.reverseRecOn with
  | nil => rfl
  | append_singleton schedule turn ih =>
      obtain ⟨same, _⟩ := run_log answer s pool connected schedule
      obtain ⟨owner, turn⟩ := turn
      rw [run_append, own_append, List.foldl_append, ← ih]
      by_cases mine : owner = client
      · subst mine
        cases turn with
        | ask call =>
            have taken := query_connected answer s pool connected call
            rw [← same] at taken
            simp [Shared.step, taken, own, seen]
        | get => simp [Shared.step, own, seen]
      · have others : own client [(owner, turn)] = [] := by simp [own, mine]
        have kept : client ≠ owner := fun equal => mine equal.symm
        rw [others]
        cases turn with
        | ask call => simp [Shared.step, Function.update_of_ne kept]
        | get => simp [Shared.step, Function.update_of_ne kept]

theorem run_received (s : Service π) (pool : π) (connected : s.pool = some pool)
    (clients : ι → List Call) (schedule : List (ι × Turn))
    (merged : Interleaves clients schedule) (client : ι) :
    (Shared.run answer { service := s } schedule).awaited client = none ∧
      (Shared.run answer { service := s } schedule).received client =
        (clients client).map fun call => (answer pool call).value := by
  have told := run_own answer s pool connected schedule client
  rw [merged, seen_turns] at told
  exact Prod.mk.inj told

end

theorem step_query (s : Service π) (call : Call) :
    (step s (.query answer call)).value.service = s := rfl

theorem run_queries (s : Service π) (pool : π) (connected : s.pool = some pool)
    (calls : List Call) :
    (run s (calls.map (.query answer))).value =
      calls.map fun call => ⟨s, .queried (answer pool call).value, [(pool, call)]⟩ := by
  induction calls with
  | nil => rfl
  | cons call rest ih =>
      rw [List.map_cons, run_cons]
      dsimp only
      rw [step_query, ih]
      show (⟨s, .queried (s.query (taking answer) call).value.result,
        (s.query (taking answer) call).value.effects⟩ : Report π) :: _ = _
      rw [query_connected answer s pool connected]
      rfl

/-! ## Connects among queries -/

def connects (steps : List (Step π)) : List (String → Log.Recorded (Except DbError π)) :=
  steps.filterMap fun
    | .connect factory => some factory
    | .query .. => none

def connectReports (s : Service π) (steps : List (Step π)) : List (Report π) :=
  (steps.zip (run s steps).value).filterMap fun
    | (.connect _, report) => some report
    | (.query .., _) => none

theorem after_cons (s : Service π) (next : Step π) (rest : List (Step π)) :
    after s (next :: rest) = after (step s next).value.service rest := by
  unfold after
  rw [run_cons]
  dsimp only
  cases (run (step s next).value.service rest).value with
  | nil => rfl
  | cons report reports => rw [List.getLast?_cons_cons]; rfl

theorem connects_decide (s : Service π) (steps : List (Step π)) :
    connectReports s steps =
        (run s ((connects steps).map .connect)).value ∧
      after s steps = after s ((connects steps).map .connect) := by
  -- A query leaves the service as it was, so the run goes on from the same place without it.
  induction steps generalizing s with
  | nil => exact ⟨rfl, rfl⟩
  | cons next rest ih =>
      unfold connectReports
      rw [after_cons, run_cons]
      cases next with
      | query answer call =>
          obtain ⟨reports, service⟩ := ih s
          exact ⟨reports, service⟩
      | connect factory =>
          obtain ⟨reports, service⟩ := ih (step s (.connect factory)).value.service
          show _ :: connectReports _ rest =
            (run s (.connect factory :: (connects rest).map .connect)).value ∧
              _ = after s (.connect factory :: (connects rest).map .connect)
          rw [run_cons, after_cons, reports, service]
          exact ⟨rfl, rfl⟩

section

variable [DecidableEq ι]

/-- Clients of a connected service do not disturb each other. However their turns are merged, each
gets the answers that it gets alone, and the pool takes just their calls, in the order in which they
are handed over; the service stays as it is. So two merges give the same answers, and logs of the
same calls. Nor do queries mean anything to connects: runs with the same connects have the same
reports on them, and end at the same service. -/
theorem shared_queries_independent (s : Service π) (pool : π) (connected : s.pool = some pool)
    (clients : ι → List Call) :
    (∀ schedule, Interleaves clients schedule →
      let e := Shared.run answer { service := s } schedule
      e.service = s ∧ e.log = (asked schedule).map (fun (_, call) => (pool, call)) ∧
        (∀ client, own client (asked schedule) = clients client) ∧
        ∀ client, e.awaited client = none ∧
          (e.received client).map Answer.queried =
            (run s ((clients client).map (.query answer))).value.map Report.answer) ∧
    (∀ one other, Interleaves clients one → Interleaves clients other →
      (Shared.run answer { service := s } one).received =
          (Shared.run answer { service := s } other).received ∧
        (Shared.run answer { service := s } one).log.Perm
          (Shared.run answer { service := s } other).log) ∧
    ∀ (start : Service π) (steps others : List (Step π)), connects steps = connects others →
      connectReports start steps = connectReports start others ∧
        after start steps = after start others := by
  refine ⟨?_, ?_, ?_⟩
  · intro schedule merged e
    obtain ⟨same, log⟩ := run_log answer s pool connected schedule
    refine ⟨same, log, own_asked_of_interleaves clients schedule merged, ?_⟩
    intro client
    obtain ⟨settled, received⟩ :=
      run_received answer s pool connected clients schedule merged client
    refine ⟨settled, ?_⟩
    rw [received, run_queries answer s pool connected, List.map_map, List.map_map]
    rfl
  · intro one other merged merged_other
    refine ⟨?_, ?_⟩
    · funext client
      rw [(run_received answer s pool connected clients one merged client).2,
        (run_received answer s pool connected clients other merged_other client).2]
    · rw [(run_log answer s pool connected one).2, (run_log answer s pool connected other).2]
      refine (perm_of_own _ _ ?_).map _
      intro client
      rw [own_asked_of_interleaves clients one merged,
        own_asked_of_interleaves clients other merged_other]
  · intro start steps others same
    obtain ⟨reports, service⟩ := connects_decide start steps
    obtain ⟨reports_other, service_other⟩ := connects_decide start others
    rw [reports, service, same, ← reports_other, ← service_other]
    exact ⟨rfl, rfl⟩

theorem shared_queries_independent_echo :
    let s : Service ScriptedPool := { url := "postgres://h/db", pool := some ⟨1, .echo⟩ }
    let answer : Answers ScriptedPool := fun pool call => ⟨ScriptedPool.answer call pool.script, []⟩
    let one : Call := ⟨"SELECT $1", [.bool true]⟩
    let two : Call := ⟨"SELECT 2", []⟩
    let clients : Bool → List Call := fun client => if client then [one, two] else [two]
    let schedule : List (Bool × Turn) :=
      [(true, .ask one), (false, .ask two), (true, .get), (true, .ask two), (false, .get),
        (true, .get)]
    let e := Shared.run answer { service := s } schedule
    s.pool = some ⟨1, .echo⟩ ∧ Interleaves clients schedule ∧ e.service = s ∧
      e.log = [(⟨1, .echo⟩, one), (⟨1, .echo⟩, two), (⟨1, .echo⟩, two)] ∧
      (e.received true).map Answer.queried =
        [.queried (.ok [ScriptedPool.echo one]), .queried (.ok [ScriptedPool.echo two])] := by
  intro s answer one two clients schedule e
  have merged : Interleaves clients schedule := by
    intro client
    cases client with
    | false => rfl
    | true => rfl
  obtain ⟨whole, _⟩ := shared_queries_independent answer s ⟨1, .echo⟩ rfl clients
  obtain ⟨same, log, _, received⟩ := whole schedule merged
  exact ⟨rfl, merged, same, log, (received true).2⟩

end

end Service
end PgJson
