import PgJson.Proofs.Pool.Basic
import PgJson.Session
import Mathlib.Data.List.Infix
import Mathlib.Data.List.Induction

/-!
Sessions of any steps. What pool a session holds can be told from its steps alone: the one that the
latest successful connect made, and closed if a close came after that.
-/

namespace PgJson

namespace Pool

theorem execute_closed (now : Nat) (site : Site) (c : Connection) (r : Reply) (p : Pool)
    (call : Call) (closed : p.closed = true) :
    (p.execute now site c r call).value = ⟨Outcome.fail (.query .poolClosed), []⟩ := by
  have refused : p.acquire now site = Outcome.fail .poolClosed := by
    rw [acquire, ready, if_pos closed]
    rfl
  unfold execute
  rw [refused]
  rfl

end Pool

namespace Session

/-- The size and the time that a connect asks for. -/
def asked (bounds : Option (UInt32 × UInt64)) : UInt32 × UInt64 := bounds.getD (10, 30)

def Succeeds (defaults : Target) (url : String) (bounds : Option (UInt32 × UInt64)) : Prop :=
  (asked bounds).1 ≠ 0 ∧ ∃ t, Target.parse defaults url = .ok t

/-- The pool that is held after steps. -/
def Standing (defaults : Target) (url : String) (past : List Step) : Option Pool → Prop
  | none => ∀ bounds, Step.connect bounds ∈ past → ¬ Succeeds defaults url bounds
  | some p => ∃ before bounds later,
      past = before ++ .connect bounds :: later ∧ Succeeds defaults url bounds ∧
        (∀ others, Step.connect others ∈ later → ¬ Succeeds defaults url others) ∧
        p.config = ⟨url, (asked bounds).1, (asked bounds).2⟩ ∧
        Target.parse defaults url = .ok p.target ∧ (p.closed = true ↔ Step.close ∈ later)

def reached (w : Surroundings) (s : Session) (steps : List Step) : Session :=
  steps.foldl (fun s next => (step w s next).value.1) s

/-! ## Single steps -/

theorem config_eq (bounds : Option (UInt32 × UInt64)) (url : String) :
    config bounds url = ⟨url, (asked bounds).1, (asked bounds).2⟩ := by
  cases bounds with
  | none => rfl
  | some _ => rfl

theorem ofConfig_of_succeeds (defaults : Target) (url : String)
    (bounds : Option (UInt32 × UInt64)) (succeeds : Succeeds defaults url bounds) :
    ∃ p, Pool.ofConfig defaults (config bounds url) = .ok p ∧
      p.config = ⟨url, (asked bounds).1, (asked bounds).2⟩ ∧
      Target.parse defaults url = .ok p.target ∧ p.closed = false := by
  obtain ⟨positive, t, parsed⟩ := succeeds
  rw [config_eq]
  refine ⟨⟨⟨url, (asked bounds).1, (asked bounds).2⟩, t, false⟩, ?_, rfl, parsed, rfl⟩
  exact (Pool.ofConfig_ok_iff ..).mpr ⟨positive, parsed, rfl, rfl⟩

def Complaint (defaults : Target) (url : String) (bounds : Option (UInt32 × UInt64)) (e : DbError) :
    Prop :=
  (asked bounds).1 = 0 ∧ e = .invalidConfig "max_size must be at least 1" ∨
    (asked bounds).1 ≠ 0 ∧
      ∃ cause, Target.parse defaults url = .error cause ∧ e = .invalidUrl (.configuration cause)

theorem ofConfig_of_not_succeeds (defaults : Target) (url : String)
    (bounds : Option (UInt32 × UInt64)) (fails : ¬ Succeeds defaults url bounds) :
    ∃ e, Pool.ofConfig defaults (config bounds url) = .error e ∧
      Complaint defaults url bounds e := by
  rw [config_eq]
  unfold Pool.ofConfig
  by_cases zero : (asked bounds).1 = 0
  · rw [if_pos zero]
    exact ⟨_, rfl, .inl ⟨zero, rfl⟩⟩
  · rw [if_neg zero]
    dsimp only
    cases parsed : Target.parse defaults url with
    | error cause => exact ⟨_, rfl, .inr ⟨zero, cause, parsed, rfl⟩⟩
    | ok t => exact absurd ⟨zero, t, parsed⟩ fails

theorem step_connect (w : Surroundings) (s : Session) (bounds : Option (UInt32 × UInt64)) :
    step w s (.connect bounds) =
      match Pool.ofConfig w.defaults (config bounds s.service.url) with
      | .error e => ⟨(s, .connected (.error e)), []⟩
      | .ok p =>
        ⟨(⟨{ s.service with pool := some p }, {}⟩, .connected (.ok ())),
          [.event (Pool.creation (config bounds s.service.url)),
            .event (Service.event (if s.service.isConnected then "Replaced existing pool handle"
              else "Database service connected"))]⟩ := by
  simp only [step, Service.connect, Pool.create]
  cases Pool.ofConfig w.defaults (config bounds s.service.url) with
  | error e => rfl
  | ok p => rfl

theorem step_connect_ok (w : Surroundings) (s : Session) (bounds : Option (UInt32 × UInt64))
    (p : Pool) (made : Pool.ofConfig w.defaults (config bounds s.service.url) = .ok p) :
    (step w s (.connect bounds)).value =
      (⟨{ s.service with pool := some p }, {}⟩, .connected (.ok ())) := by
  rw [step_connect, made]

theorem step_connect_error (w : Surroundings) (s : Session) (bounds : Option (UInt32 × UInt64))
    (e : DbError) (refused : Pool.ofConfig w.defaults (config bounds s.service.url) = .error e) :
    (step w s (.connect bounds)).value = (s, .connected (.error e)) := by
  rw [step_connect, refused]

theorem step_query (w : Surroundings) (s : Session) (now : Nat) (call : Call) (r : Reply) :
    (step w s (.query now call r)).value =
      match s.service.pool with
      | none => (s, .queried (Outcome.fail .notConnected) [])
      | some p =>
        let e := (p.execute now w.site s.connection r call).value
        ({ s with connection := after s.connection e.effects },
          .queried e.result (e.effects.map Exchange.sent)) := by
  unfold step Service.query
  cases s.service.pool with
  | none => rfl
  | some p => rfl

/-! ## Runs -/

theorem standing_connect (defaults : Target) (url : String) (past : List Step)
    (bounds : Option (UInt32 × UInt64)) (p : Pool) (succeeds : Succeeds defaults url bounds)
    (config : p.config = ⟨url, (asked bounds).1, (asked bounds).2⟩)
    (target : Target.parse defaults url = .ok p.target) (opened : p.closed = false) :
    Standing defaults url (past ++ [.connect bounds]) (some p) := by
  refine ⟨past, bounds, [], rfl, succeeds, ?_, config, target, ?_⟩
  · intro others member
    cases member
  · rw [opened]
    exact ⟨(nomatch ·), (nomatch ·)⟩

theorem standing_other (defaults : Target) (url : String) (past : List Step) (next : Step)
    (pool : Option Pool) (standing : Standing defaults url past pool) (open_ : next ≠ .close)
    (nothing : ∀ bounds, next = .connect bounds → ¬ Succeeds defaults url bounds) :
    Standing defaults url (past ++ [next]) pool := by
  cases pool with
  | none =>
      intro bounds member
      rcases List.mem_append.mp member with before | last
      · exact standing bounds before
      · exact nothing bounds (List.mem_singleton.mp last).symm
  | some p =>
      obtain ⟨before, bounds, later, whole, succeeds, failing, config, target, closed⟩ := standing
      refine ⟨before, bounds, later ++ [next], ?_, succeeds, ?_, config, target, ?_⟩
      · rw [whole, List.append_assoc, List.cons_append]
      · intro others member
        rcases List.mem_append.mp member with early | last
        · exact failing others early
        · exact nothing others (List.mem_singleton.mp last).symm
      · rw [closed, List.mem_append, List.mem_singleton]
        constructor
        · exact .inl
        · rintro (early | last)
          · exact early
          · exact absurd last.symm open_

theorem standing_close (defaults : Target) (url : String) (past : List Step) (pool : Option Pool)
    (standing : Standing defaults url past pool) :
    Standing defaults url (past ++ [.close]) (pool.map Pool.close) := by
  cases pool with
  | none =>
      intro bounds member
      rcases List.mem_append.mp member with before | last
      · exact standing bounds before
      · cases List.mem_singleton.mp last
  | some p =>
      obtain ⟨before, bounds, later, whole, succeeds, failing, config, target, _⟩ := standing
      refine ⟨before, bounds, later ++ [.close], ?_, succeeds, ?_, config, target, ?_⟩
      · rw [whole, List.append_assoc, List.cons_append]
      · intro others member
        rcases List.mem_append.mp member with early | last
        · exact failing others early
        · cases List.mem_singleton.mp last
      · exact iff_of_true rfl (List.mem_append_right _ (List.mem_singleton_self _))

/-- A step keeps the URL and leaves standing the pool that the steps up to it say. -/
theorem step_standing (w : Surroundings) (url : String) (past : List Step) (next : Step)
    (s : Session) (same : s.service.url = url)
    (standing : Standing w.defaults url past s.service.pool) :
    (step w s next).value.1.service.url = url ∧
      Standing w.defaults url (past ++ [next]) (step w s next).value.1.service.pool := by
  subst same
  cases next with
  | connect bounds =>
      by_cases succeeds : Succeeds w.defaults s.service.url bounds
      · obtain ⟨p, made, config, target, opened⟩ := ofConfig_of_succeeds _ _ _ succeeds
        rw [step_connect_ok w s bounds p made]
        exact ⟨rfl, standing_connect _ _ past bounds p succeeds config target opened⟩
      · obtain ⟨e, refused, _⟩ := ofConfig_of_not_succeeds _ _ _ succeeds
        rw [step_connect_error w s bounds e refused]
        refine ⟨rfl, standing_other _ _ past _ _ standing nofun ?_⟩
        intro others same
        cases same
        exact succeeds
  | close => exact ⟨rfl, standing_close _ _ past _ standing⟩
  | query now call r =>
      rw [step_query]
      have kept := standing_other _ _ past (.query now call r) _ standing nofun nofun
      cases held : s.service.pool with
      | none =>
          rw [held] at kept
          dsimp only
          rw [held]
          exact ⟨rfl, kept⟩
      | some p =>
          rw [held] at kept
          dsimp only
          rw [held]
          exact ⟨rfl, kept⟩

theorem reached_append (w : Surroundings) (s : Session) (past : List Step) (next : Step) :
    reached w s (past ++ [next]) = (step w (reached w s past) next).value.1 := by
  simp [reached]

theorem reached_standing (w : Surroundings) (url : String) (past : List Step) :
    (reached w ⟨{ url }, {}⟩ past).service.url = url ∧
      Standing w.defaults url past (reached w ⟨{ url }, {}⟩ past).service.pool := by
  induction past using List.reverseRecOn with
  | nil =>
      refine ⟨rfl, ?_⟩
      intro bounds member
      cases member
  | append_singleton past next ih =>
      rw [reached_append]
      exact step_standing w url past next _ ih.1 ih.2

theorem run_eq (w : Surroundings) (s : Session) (steps : List Step) :
    (run w s steps).value = (steps.inits.zip steps).map fun (past, next) =>
      (step w (reached w s past) next).value := by
  induction steps generalizing s with
  | nil => rfl
  | cons next rest ih =>
      have onward := ih (step w s next).value.1
      rw [List.inits_cons, List.zip_cons_cons, List.map_cons, List.zip_map_left, List.map_map]
      show _ :: (run w (step w s next).value.1 rest).value = _
      rw [onward]
      rfl

/-- Every session from a new service, whatever its steps: its pool is the one that stands after the
steps so far, with the service's URL and a connection at least. A connect that fails changes
nothing, and no connect depends on the server. A close leaves the service connected. A query sends
at most one statement, which is its own; without a pool or over a closed one it sends nothing. -/
theorem run_keeps_pool (w : Surroundings) (url : String) (steps : List Step) :
    let start : Session := ⟨{ url }, {}⟩
    (run w start steps).value =
        (steps.inits.zip steps).map (fun (past, next) => (step w (reached w start past) next).value) ∧
      ∀ past : List Step,
        let s := reached w start past
        s.service.url = url ∧ Standing w.defaults url past s.service.pool ∧
          (∀ p, s.service.pool = some p → p.config.url = url ∧ 1 ≤ p.config.maxSize) ∧
          (∀ bounds, Succeeds w.defaults url bounds →
            (step w s (.connect bounds)).value.2 = .connected (.ok ())) ∧
          (∀ bounds, ¬ Succeeds w.defaults url bounds → ∃ e, Complaint w.defaults url bounds e ∧
            (step w s (.connect bounds)).value = (s, .connected (.error e))) ∧
          (∀ bounds site, step { w with site } s (.connect bounds) = step w s (.connect bounds)) ∧
          (step w s .close).value.1.service.isConnected = s.service.isConnected ∧
          ∀ now call r, ∃ result sent,
            (step w s (.query now call r)).value.2 = .queried result sent ∧
            (step w s (.query now call r)).value.1.service = s.service ∧
            sent.length ≤ 1 ∧ (∀ x ∈ sent, x.sql = call.sql) ∧
            (s.service.pool = none → result = Outcome.fail .notConnected ∧ sent = []) ∧
            ∀ p, s.service.pool = some p → p.closed = true →
              result = Outcome.fail (.query .poolClosed) ∧ sent = [] := by
  intro start
  refine ⟨run_eq w start steps, ?_⟩
  intro past s
  obtain ⟨same, standing⟩ := reached_standing w url past
  have same : s.service.url = url := same
  have standing : Standing w.defaults url past s.service.pool := standing
  refine ⟨same, standing, ?_, ?_, ?_, ?_, ?_, ?_⟩
  · intro p held
    rw [held] at standing
    obtain ⟨_, bounds, _, _, ⟨positive, _⟩, _, config, _⟩ := standing
    rw [config]
    refine ⟨rfl, ?_⟩
    rw [UInt32.le_iff_toNat_le]
    exact Nat.one_le_iff_ne_zero.mpr fun zero => positive (UInt32.toNat_inj.mp zero)
  · intro bounds succeeds
    rw [← same] at succeeds
    obtain ⟨p, made, _⟩ := ofConfig_of_succeeds _ _ _ succeeds
    rw [step_connect_ok w s bounds p made]
  · intro bounds fails
    rw [← same] at fails
    obtain ⟨e, refused, said⟩ := ofConfig_of_not_succeeds _ _ _ fails
    rw [same] at said
    exact ⟨e, said, step_connect_error w s bounds e refused⟩
  · intro bounds site
    rfl
  · show (s.service.pool.map Pool.close).isSome = s.service.pool.isSome
    rw [Option.isSome_map]
  · intro now call r
    rw [step_query]
    cases held : s.service.pool with
    | none =>
        refine ⟨Outcome.fail .notConnected, [], rfl, rfl, Nat.zero_le 1, nofun, ?_, nofun⟩
        intro _
        exact ⟨rfl, rfl⟩
    | some p =>
        obtain ⟨few, own⟩ := p.execute_own now w.site s.connection r call
        have texts : ∀ x ∈ (p.execute now w.site s.connection r call).value.effects.map
            Exchange.sent, x.sql = call.sql := by
          intro x member
          obtain ⟨_, _, sent⟩ := own x member
          exact sent.sql
        refine ⟨_, _, rfl, rfl, few, texts, nofun, ?_⟩
        intro p' same closed
        cases same
        rw [p.execute_closed now w.site s.connection r call closed]
        exact ⟨rfl, rfl⟩

end Session
end PgJson
