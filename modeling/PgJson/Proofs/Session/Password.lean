import PgJson.Proofs.Session.Run
import PgJson.Proofs.Url.Credentials
import PgJson.Proofs.Url.Percent
import Mathlib.Data.List.Forall2

/-!
What of a password can be told from a pool or a session: nothing, unless the URL has a further `@`
behind it and broken escapes before that one. Those count as part of the password, and the error
that names their place gives away how long it is.
-/

namespace PgJson

open Url (Credentials)

/-- What is wrong with the escapes between a password and the last `@` of the authority. -/
def Url.strayFault? (rest : String) : Option Utf8.Fault :=
  match Percent.decodeText (stray (cleanEnd rest.toList)) with
  | .ok _ => none
  | .error fault => some fault

def DbError.behind (n : Nat) (fault : Utf8.Fault) : DbError :=
  .invalidUrl (.configuration (.utf8 (fault.shift n)))

/-! ## Targets -/

namespace Target

theorem checkPassword_stray (c : Credentials) (tail : List Char) :
    checkPassword (some (c.password.toList ++ tail)) =
      match Percent.decodeText tail with
      | .ok _ => .ok ()
      | .error fault => .error (.utf8 (fault.shift c.password.length)) := by
  have plain : ∀ x ∈ c.password.toList, x.toNat ≤ 0x7f ∧ x ≠ '%' := by
    intro x member
    have unreserved := List.all_eq_true.mp c.password_unreserved x member
    exact (Url.bounds_of_inner x (Url.isInner_of_unreserved x unreserved)).2
  show (do
    let _ ← decoded (c.password.toList ++ tail)
    .ok ()) = _
  rw [decoded, Percent.decodeText_append _ _ plain, String.length_toList]
  cases Percent.decodeText tail with
  | ok text => rfl
  | error fault => rfl

/-- What a password of `n` characters is found to be, by the fault behind it. -/
def checkOf (n : Nat) : Option Utf8.Fault → Except UrlError Unit
  | none => .ok ()
  | some fault => .error (.utf8 (fault.shift n))

def ofChecked (defaults : Target) (checked : Except UrlError Unit) (u : Url) :
    Except UrlError Target := do
  let t ← defaults.applyHost u.host
  let t := { t with port := u.port.getD t.port }
  let t ← t.applyUser u.username
  checked
  let t ← t.applyPath u.path
  t.applyAll (Percent.pairs u.query)

theorem parse_url (defaults : Target) (c : Credentials) (rest : String) :
    parse defaults (c.url rest) =
      Url.bare c.user.toList (Url.cleanEnd rest.toList) >>=
        ofChecked defaults (checkOf c.password.length (Url.strayFault? rest)) := by
  unfold parse
  rw [Url.parse_password]
  cases Url.bare c.user.toList (Url.cleanEnd rest.toList) with
  | error e =>
      show (Except.error e : Except UrlError Target) = .error e
      rfl
  | ok u =>
      show ofChecked defaults (checkPassword (some (c.password.toList ++ _))) u =
        ofChecked defaults _ u
      rw [checkPassword_stray, Url.strayFault?]
      cases Percent.decodeText (Url.stray (Url.cleanEnd rest.toList)) with
      | ok text => rfl
      | error fault => rfl

theorem parse_passwords (defaults : Target) (one other : Credentials)
    (same_user : one.user = other.user) (rest : String) :
    parse defaults (other.url rest) = parse defaults (one.url rest) ∨
      ∃ fault, Url.strayFault? rest = some fault ∧
        parse defaults (one.url rest) = .error (.utf8 (fault.shift one.password.length)) ∧
        parse defaults (other.url rest) = .error (.utf8 (fault.shift other.password.length)) := by
  rw [parse_url, parse_url, same_user]
  cases Url.strayFault? rest with
  | none => exact .inl rfl
  | some fault =>
      cases Url.bare other.user.toList (Url.cleanEnd rest.toList) with
      | error e => exact .inl rfl
      | ok u =>
          -- Host and user are read before the password: what is wrong with them is told first.
          simp only [bind, Except.bind, ofChecked]
          cases defaults.applyHost u.host with
          | error e => exact .inl rfl
          | ok t =>
              dsimp only
              cases applyUser { t with port := u.port.getD t.port } u.username with
              | error e => exact .inl rfl
              | ok t => exact .inr ⟨fault, rfl, rfl, rfl⟩

end Target

/-! ## Pools -/

namespace Pool

def atUrl (url : String) (p : Pool) : Pool := { p with config := { p.config with url } }

theorem ofConfig_passwords (defaults : Target) (one other : Credentials)
    (same_user : one.user = other.user) (rest : String) (maxSize : UInt32)
    (acquireTimeoutSecs : UInt64) :
    ofConfig defaults ⟨other.url rest, maxSize, acquireTimeoutSecs⟩ =
        (ofConfig defaults ⟨one.url rest, maxSize, acquireTimeoutSecs⟩).map
          (atUrl (other.url rest)) ∨
      ∃ fault, Url.strayFault? rest = some fault ∧
        ofConfig defaults ⟨one.url rest, maxSize, acquireTimeoutSecs⟩ =
          .error (.behind one.password.length fault) ∧
        ofConfig defaults ⟨other.url rest, maxSize, acquireTimeoutSecs⟩ =
          .error (.behind other.password.length fault) := by
  unfold ofConfig
  by_cases zero : maxSize = 0
  · rw [if_pos zero, if_pos zero]
    exact .inl rfl
  · rw [if_neg zero, if_neg zero]
    dsimp only
    rcases Target.parse_passwords defaults one other same_user rest with
      same | ⟨fault, found, first, second⟩
    · left
      rw [same]
      cases Target.parse defaults (one.url rest) with
      | error e => rfl
      | ok t => rfl
    · right
      rw [first, second]
      exact ⟨fault, found, rfl, rfl⟩

end Pool

/-! ## Sessions -/

namespace Session

def atUrl (url : String) (s : Session) : Session :=
  { s with service := { url, pool := s.service.pool.map (Pool.atUrl url) } }

theorem isConnected_atUrl (url : String) (s : Session) :
    (s.atUrl url).service.isConnected = s.service.isConnected := by
  show (s.service.pool.map _).isSome = s.service.pool.isSome
  rw [Option.isSome_map]

theorem text_atUrl (url : String) (s : Session) :
    (s.atUrl url).service.text = s.service.text ∧
      (s.atUrl url).service.prettyText = s.service.prettyText := by
  unfold Service.text Service.prettyText Service.connectedText
  rw [isConnected_atUrl]
  exact ⟨rfl, rfl⟩

/-- Answers under two passwords: they are the same, or both fail on the fault behind these. -/
def SameAnswer (one other : Credentials) (rest : String) (a b : Answer) : Prop :=
  b = a ∨ ∃ fault, Url.strayFault? rest = some fault ∧
    a = .connected (.error (.behind one.password.length fault)) ∧
    b = .connected (.error (.behind other.password.length fault))

theorem query_atUrl (url : String) (s : Session) (now : Nat) (site : Site) (r : Reply)
    (call : Call) :
    (s.atUrl url).service.query (Pool.execute now site s.connection r) call =
      s.service.query (Pool.execute now site s.connection r) call := by
  unfold Service.query atUrl
  cases s.service.pool with
  | none => rfl
  | some p => rfl

/-- One step of two sessions that hold the same pool under their own URLs. -/
theorem step_passwords (w : Surroundings) (one other : Credentials)
    (same_user : one.user = other.user) (rest : String) (s : Session)
    (named : s.service.url = one.url rest) (next : Step) :
    (step w (s.atUrl (other.url rest)) next).value.1 =
        (step w s next).value.1.atUrl (other.url rest) ∧
      (step w s next).value.1.service.url = one.url rest ∧
      (step w (s.atUrl (other.url rest)) next).traces = (step w s next).traces ∧
      SameAnswer one other rest (step w s next).value.2
        (step w (s.atUrl (other.url rest)) next).value.2 := by
  cases next with
  | connect bounds =>
      have made := Pool.ofConfig_passwords w.defaults one other same_user rest (asked bounds).1
        (asked bounds).2
      have renamed : (s.atUrl (other.url rest)).service.url = other.url rest := rfl
      rw [step_connect, step_connect, isConnected_atUrl, named, renamed, config_eq, config_eq]
      rcases made with same | ⟨fault, found, first, second⟩
      · rw [same]
        cases Pool.ofConfig w.defaults ⟨one.url rest, (asked bounds).1, (asked bounds).2⟩ with
        | error e => exact ⟨rfl, named, rfl, .inl rfl⟩
        | ok p => exact ⟨rfl, named, rfl, .inl rfl⟩
      · rw [first, second]
        exact ⟨rfl, named, rfl, .inr ⟨fault, found, rfl, rfl⟩⟩
  | close =>
      refine ⟨?_, named, rfl, .inl (congrArg Answer.closed (isConnected_atUrl _ s))⟩
      simp only [step, atUrl, Log.Recorded.value_pure, Option.map_map]
      rfl
  | query now call r =>
      have asks := query_atUrl (other.url rest) s now w.site r call
      have kept : (s.atUrl (other.url rest)).connection = s.connection := rfl
      simp only [step, kept, asks, Log.Recorded.value_bind, Log.Recorded.value_pure,
        Log.Recorded.traces_bind, Log.Recorded.traces_pure]
      exact ⟨rfl, named, trivial, .inl rfl⟩

theorem run_atUrl (w : Surroundings) (one other : Credentials) (same_user : one.user = other.user)
    (rest : String) (s : Session) (named : s.service.url = one.url rest) (steps : List Step) :
    List.Forall₂ (fun (a b : Session × Answer) => b.1 = a.1.atUrl (other.url rest) ∧
        SameAnswer one other rest a.2 b.2)
      (run w s steps).value (run w (s.atUrl (other.url rest)) steps).value ∧
    (run w (s.atUrl (other.url rest)) steps).traces = (run w s steps).traces := by
  induction steps generalizing s with
  | nil => exact ⟨.nil, rfl⟩
  | cons next later ih =>
      obtain ⟨state, onward, traces, answer⟩ :=
        step_passwords w one other same_user rest s named next
      obtain ⟨alike, recorded⟩ := ih _ onward
      rw [← state] at alike recorded
      refine ⟨.cons ⟨state, answer⟩ alike, ?_⟩
      simp only [run, Log.Recorded.traces_bind, traces, recorded, Log.Recorded.traces_pure]

theorem SameAnswer.eq (one other : Credentials) (rest : String) (a b : Answer)
    (same : SameAnswer one other rest a b)
    (hidden : Url.strayFault? rest = none ∨ one.password.length = other.password.length) :
    b = a := by
  rcases same with equal | ⟨fault, found, first, second⟩
  · exact equal
  · rcases hidden with none_found | length
    · rw [none_found] at found
      cases found
    · rw [first, second, length]

/-- Two URLs that differ in their passwords make the same pools but for the URL itself, and sessions
on them go the same way: the same answers, the same texts and the same records at every step. Only
on broken escapes between the password's `@` and a further one can both fail to make a pool, with
an error that counts their place from the start of the password; passwords of one length are not
told apart even then. -/
theorem run_hides_password (w : Surroundings) (one other : Credentials)
    (same_user : one.user = other.user) (rest : String) :
    (∀ maxSize acquireTimeoutSecs,
      let made (c : Credentials) :=
        Pool.ofConfig w.defaults ⟨c.url rest, maxSize, acquireTimeoutSecs⟩
      made other = (made one).map (Pool.atUrl (other.url rest)) ∨
        ∃ fault, Url.strayFault? rest = some fault ∧
          made one = .error (.behind one.password.length fault) ∧
          made other = .error (.behind other.password.length fault)) ∧
    ∀ steps,
      let going (c : Credentials) := run w ⟨{ url := c.url rest }, {}⟩ steps
      List.Forall₂ (fun (a b : Session × Answer) =>
          b.1 = a.1.atUrl (other.url rest) ∧ b.1.service.text = a.1.service.text ∧
            b.1.service.prettyText = a.1.service.prettyText ∧ SameAnswer one other rest a.2 b.2)
        (going one).value (going other).value ∧
      (going other).traces = (going one).traces ∧
      (Url.strayFault? rest = none ∨ one.password.length = other.password.length →
        (going other).value.map Prod.snd = (going one).value.map Prod.snd) := by
  refine ⟨Pool.ofConfig_passwords w.defaults one other same_user rest, ?_⟩
  intro steps going
  obtain ⟨alike, recorded⟩ :=
    run_atUrl w one other same_user rest ⟨{ url := one.url rest }, {}⟩ rfl steps
  refine ⟨?_, recorded, ?_⟩
  · refine alike.imp ?_
    rintro a b ⟨state, answer⟩
    rw [state]
    exact ⟨rfl, (text_atUrl _ a.1).1, (text_atUrl _ a.1).2, answer⟩
  · intro hidden
    rw [← List.forall₂_eq_eq_eq, List.forall₂_map_left_iff, List.forall₂_map_right_iff]
    refine List.Forall₂.flip (alike.imp ?_)
    intro a b both
    exact SameAnswer.eq one other rest a.2 b.2 both.2 hidden

theorem run_hides_password_plain :
    let w : Surroundings := ⟨{ host := "localhost", username := "oracle" }, {}⟩
    let one : Credentials := ⟨"u", "a", by decide, by decide, by decide⟩
    let other : Credentials := ⟨"u", "another", by decide, by decide, by decide⟩
    let target : Target := { host := "h", username := "u", database := some "db" }
    let steps : List Step := [.connect none, .close, .connect (some (0, 30))]
    one.user = other.user ∧ Url.strayFault? "h/db" = none ∧
      Pool.ofConfig w.defaults ⟨one.url "h/db", 3, 5⟩ =
        .ok ⟨⟨one.url "h/db", 3, 5⟩, target, false⟩ ∧
      Pool.ofConfig w.defaults ⟨other.url "h/db", 3, 5⟩ =
        .ok ⟨⟨other.url "h/db", 3, 5⟩, target, false⟩ ∧
      (run w ⟨{ url := other.url "h/db" }, {}⟩ steps).value.map Prod.snd =
        (run w ⟨{ url := one.url "h/db" }, {}⟩ steps).value.map Prod.snd := by
  intro w one other target steps
  have unbroken : Url.strayFault? "h/db" = none := by decide +kernel
  have made : Pool.ofConfig w.defaults ⟨one.url "h/db", 3, 5⟩ =
      .ok ⟨⟨one.url "h/db", 3, 5⟩, target, false⟩ := by
    decide +kernel
  obtain ⟨pools, sessions⟩ := run_hides_password w one other rfl "h/db"
  refine ⟨rfl, unbroken, made, ?_, (sessions steps).2.2 (.inl unbroken)⟩
  rcases pools 3 5 with same | ⟨fault, found, _⟩
  · dsimp only at same
    rw [same, made]
    rfl
  · rw [unbroken] at found
    cases found

/-- The error on a broken escape before a further `@` tells how long the password is. -/
theorem ofConfig_password_length :
    let defaults : Target := { host := "localhost", username := "oracle" }
    let one : Credentials := ⟨"u", "a", by decide, by decide, by decide⟩
    let other : Credentials := ⟨"u", "ab", by decide, by decide, by decide⟩
    one.url "%ff@h" = "postgres://u:a@%ff@h" ∧ other.url "%ff@h" = "postgres://u:ab@%ff@h" ∧
      (Pool.ofConfig defaults ⟨one.url "%ff@h", 10, 30⟩).mapError DbError.message =
        .error ("Invalid database URL: error with configuration: " ++
          "invalid utf-8 sequence of 1 bytes from index 2") ∧
      (Pool.ofConfig defaults ⟨other.url "%ff@h", 10, 30⟩).mapError DbError.message =
        .error ("Invalid database URL: error with configuration: " ++
          "invalid utf-8 sequence of 1 bytes from index 3") := by
  decide +kernel

end Session
end PgJson
