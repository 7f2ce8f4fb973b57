import PgJson.Pool.Remote
import PgJson.Proofs.Outcome
import PgJson.Proofs.Server.Exchange

namespace PgJson

namespace Pool

theorem ofConfig_ok_iff (defaults : Target) (config : PoolConfig) (p : Pool) :
    ofConfig defaults config = .ok p ↔
      config.maxSize ≠ 0 ∧ Target.parse defaults config.url = .ok p.target ∧
        p.config = config ∧ p.closed = false := by
  unfold ofConfig
  split
  · next zero => exact ⟨(nomatch ·), fun made => absurd zero made.1⟩
  · next positive =>
    cases Target.parse defaults config.url with
    | error e => exact ⟨(nomatch ·), (nomatch ·.2.1)⟩
    | ok target =>
        constructor
        · intro made
          cases made
          exact ⟨positive, rfl, rfl, rfl⟩
        · rintro ⟨_, same, rfl, opened⟩
          obtain ⟨config, target', closed⟩ := p
          cases same
          cases opened
          rfl

theorem ready_crash_iff (p : Pool) (now : Nat) :
    p.ready now = Outcome.crash ↔
      p.closed = false ∧ clockLimit ≤ now + p.config.acquireTimeoutSecs.toNat := by
  unfold ready
  cases closed : p.closed with
  | true => exact ⟨(nomatch ·), (nomatch ·.1)⟩
  | false =>
      simp only [Bool.false_eq_true, if_false, true_and]
      split
      · next late => exact ⟨fun _ => late, fun _ => rfl⟩
      · next soon =>
        split
        · exact ⟨(nomatch ·), fun late => absurd late soon⟩
        · exact ⟨(nomatch ·), fun late => absurd late soon⟩

theorem login_ne_crash (t : Target) (site : Site) : login t site ≠ Outcome.crash := by
  unfold login
  split
  · exact nofun
  · split
    · exact nofun
    · split
      · exact nofun
      · exact nofun

/-- An open pool crashes where its time leads beyond what the clock counts, and on nothing else on its
way. -/
theorem acquire_crash_iff (p : Pool) (now : Nat) (site : Site) :
    p.acquire now site = Outcome.crash ↔
      p.closed = false ∧ clockLimit ≤ now + p.config.acquireTimeoutSecs.toNat := by
  rw [← ready_crash_iff, acquire, Outcome.crash, bind_error_iff]
  constructor
  · rintro (early | ⟨_, _, late⟩)
    · exact early
    · exact absurd late (login_ne_crash p.target site)
  · exact .inl

theorem execute_effects (now : Nat) (site : Site) (c : Connection) (r : Reply) (p : Pool)
    (call : Call) :
    (p.execute now site c r call).value.effects =
      match p.acquire now site with
      | .error _ => []
      | .ok s => (c.exchange s p.target.statementCapacity call r).2.toList := by
  unfold execute
  cases p.acquire now site with
  | error failure => rfl
  | ok s =>
      dsimp only
      cases c.exchange s p.target.statementCapacity call r with
      | mk answer exchange =>
          cases answer with
          | error e => rfl
          | ok received => rfl

/-- The statement asked for is sent, and nothing else, if there is a way to the server and its values
can be counted. -/
theorem execute_sent (now : Nat) (site : Site) (c : Connection) (r : Reply) (p : Pool)
    (call : Call) :
    let sent := (p.execute now site c r call).value.effects.map Exchange.sent
    (∃ s x, p.acquire now site = .ok s ∧ call.params.length ≤ Connection.valueLimit ∧
        sent = [x] ∧ Connection.SentFor s c call r x) ∨
      ((∃ failure, p.acquire now site = .error failure) ∨
        Connection.valueLimit < call.params.length) ∧ sent = [] := by
  dsimp only
  rw [execute_effects]
  cases p.acquire now site with
  | error failure => exact .inr ⟨.inl ⟨failure, rfl⟩, rfl⟩
  | ok s =>
      by_cases few : call.params.length ≤ Connection.valueLimit
      · obtain ⟨e, ended, own⟩ := c.exchange_sent s p.target.statementCapacity r call few
        refine .inl ⟨s, e.sent, rfl, few, ?_, own⟩
        simp only [ended, Option.toList_some, List.map_cons, List.map_nil]
      · have many := Nat.lt_of_not_le few
        refine .inr ⟨.inr many, ?_⟩
        simp only [c.exchange_of_tooMany s p.target.statementCapacity r call many,
          Option.toList_none, List.map_nil]

theorem execute_own (now : Nat) (site : Site) (c : Connection) (r : Reply) (p : Pool)
    (call : Call) :
    let sent := (p.execute now site c r call).value.effects.map Exchange.sent
    sent.length ≤ 1 ∧ ∀ x ∈ sent, ∃ s, p.acquire now site = .ok s ∧
      Connection.SentFor s c call r x := by
  intro sent
  rcases p.execute_sent now site c r call with ⟨s, x, acquired, _, one, own⟩ | ⟨_, none⟩
  · have one : sent = [x] := one
    rw [one]
    refine ⟨Nat.le_refl 1, ?_⟩
    intro y member
    rw [List.mem_singleton.mp member]
    exact ⟨s, acquired, own⟩
  · have none : sent = [] := none
    rw [none]
    exact ⟨Nat.zero_le 1, nofun⟩

end Pool
end PgJson
