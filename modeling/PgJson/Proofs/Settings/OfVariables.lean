import PgJson.Proofs.Outcome
import PgJson.Proofs.Text.Numeral
import PgJson.Settings.OfVariables

namespace PgJson

namespace Settings

def names : List String :=
  ["APP_ENV", "APP_NAME", "DATABASE_URL", "DATABASE_MAX_CONNECTIONS", "DATABASE_TIMEOUT_SECS"]

theorem ofVariables_congr (first second : Variables)
    (same : ∀ name ∈ names, first name = second name) : ofVariables first = ofVariables second := by
  have env : first "APP_ENV" = second "APP_ENV" := same _ (by simp [names])
  have name : first "APP_NAME" = second "APP_NAME" := same _ (by simp [names])
  have url : first "DATABASE_URL" = second "DATABASE_URL" := same _ (by simp [names])
  have size : first "DATABASE_MAX_CONNECTIONS" = second "DATABASE_MAX_CONNECTIONS" :=
    same _ (by simp [names])
  have time : first "DATABASE_TIMEOUT_SECS" = second "DATABASE_TIMEOUT_SECS" :=
    same _ (by simp [names])
  simp only [ofVariables, environment, Settings.url, number, env, name, url, size, time]

/-- The number below `limit` that stands under a name with blanks around it, `none` where the name
is not set. -/
def Holds (vars : Variables) (key : String) (limit : Nat) : Option Nat → Prop
  | none => vars key = none
  | some n => ∃ raw, vars key = some raw ∧ Text.readBounded limit (Text.trim raw.toList) = .ok n

theorem word32_lt (word : Option UInt32) : ∀ k ∈ word.map UInt32.toNat, k < Text.limit32 := by
  intro k held
  obtain ⟨n, _, rfl⟩ := Option.map_eq_some_iff.mp held
  exact n.toNat_lt

theorem word64_lt (word : Option UInt64) : ∀ k ∈ word.map UInt64.toNat, k < Text.limit64 := by
  intro k held
  obtain ⟨n, _, rfl⟩ := Option.map_eq_some_iff.mp held
  exact n.toNat_lt

theorem map_of_holds (vars : Variables) (key : String) (limit : Nat) (n : Option Nat)
    (positive : 0 < limit) (holds : Holds vars key limit n) (f : Nat → Nat)
    (same : ∀ k < limit, f k = k) : n.map f = n := by
  cases n with
  | none => rfl
  | some k =>
      obtain ⟨raw, _, read⟩ := holds
      have small := ((Text.readBounded_ok_iff limit k _ positive).mp read).2
      rw [Option.map_some, same k small]

theorem number_ok_iff (limit : Nat) (vars : Variables) (key : String) (n : Option Nat) :
    number limit vars key = .ok n ↔ Holds vars key limit n := by
  unfold number
  cases set : vars key with
  | none =>
      cases n with
      | none => exact ⟨fun _ => set, fun _ => rfl⟩
      | some n =>
          refine ⟨(nomatch ·), ?_⟩
          rintro ⟨raw, there, _⟩
          rw [set] at there
          cases there
  | some raw =>
      dsimp only
      cases n with
      | none =>
          refine iff_of_false ?_ ?_
          · split
            · exact nofun
            · exact nofun
          · intro unset
            exact nomatch set.symm.trans unset
      | some n =>
          constructor
          · intro read
            refine ⟨raw, set, ?_⟩
            split at read
            · next m whole =>
              cases read
              exact whole
            · cases read
          · rintro ⟨raw', there, whole⟩
            rw [set] at there
            cases there
            rw [whole]

theorem number_error_iff (limit : Nat) (vars : Variables) (key : String) (e : SettingsError) :
    number limit vars key = .error e ↔ ∃ raw, vars key = some raw ∧ e = .invalid key raw ∧
      ∀ n, Text.readBounded limit (Text.trim raw.toList) ≠ .ok n := by
  unfold number
  cases set : vars key with
  | none => simp
  | some raw =>
      cases read : Text.readBounded limit (Text.trim raw.toList) with
      | ok n => simp [read]
      | error failure => simp [read, eq_comm]

theorem holds_unique (vars : Variables) (key : String) (limit : Nat) (m n : Option Nat)
    (first : Holds vars key limit m) (second : Holds vars key limit n) : m = n := by
  have first := (number_ok_iff limit vars key m).mpr first
  have second := (number_ok_iff limit vars key n).mpr second
  exact Except.ok.inj (first.symm.trans second)

theorem url_ok_iff (vars : Variables) (text : String) :
    url vars = .ok text ↔ vars "DATABASE_URL" = some text ∧ isBlankText text = false := by
  unfold url
  cases set : vars "DATABASE_URL" with
  | none => exact ⟨(nomatch ·), (nomatch ·.1)⟩
  | some raw =>
      cases blank : isBlankText raw with
      | true =>
          rw [Option.filter_some_neg (by simp [blank])]
          refine ⟨(nomatch ·), ?_⟩
          rintro ⟨same, visible⟩
          cases same
          rw [blank] at visible
          cases visible
      | false =>
          rw [Option.filter_some_pos (by simp [blank])]
          constructor
          · intro same
            cases same
            exact ⟨rfl, blank⟩
          · rintro ⟨same, _⟩
            cases same
            rfl

/-- The bounds are what the variables hold: their types keep every number below their limits. -/
theorem ofVariables_ok_iff (vars : Variables) (s : Settings) :
    ofVariables vars = .ok s ↔
      environment vars = .ok s.app.env ∧ s.app.name = (vars "APP_NAME").getD defaultAppName ∧
        vars "DATABASE_URL" = some s.database.url ∧ isBlankText s.database.url = false ∧
        Holds vars "DATABASE_MAX_CONNECTIONS" Text.limit32
          (s.database.maxConnections.map UInt32.toNat) ∧
        Holds vars "DATABASE_TIMEOUT_SECS" Text.limit64
          (s.database.timeoutSecs.map UInt64.toNat) := by
  simp only [ofVariables, bind_ok_iff, number_ok_iff, url_ok_iff]
  constructor
  · rintro ⟨env, known, text, ⟨set, visible⟩, m, size, t, time, same⟩
    cases same
    refine ⟨known, rfl, set, visible, ?_, ?_⟩
    · have held : (m.map UInt32.ofNat).map UInt32.toNat = m := by
        rw [Option.map_map]
        exact map_of_holds vars _ _ m (by decide) size _ fun k small => UInt32.toNat_ofNat_of_lt' small
      rw [held]
      exact size
    · have held : (t.map UInt64.ofNat).map UInt64.toNat = t := by
        rw [Option.map_map]
        exact map_of_holds vars _ _ t (by decide) time _ fun k small => UInt64.toNat_ofNat_of_lt' small
      rw [held]
      exact time
  · rintro ⟨known, named, set, visible, size, time⟩
    refine ⟨_, known, _, ⟨set, visible⟩, _, size, _, time, ?_⟩
    obtain ⟨⟨name, env⟩, text, m, t⟩ := s
    have named : name = (vars "APP_NAME").getD defaultAppName := named
    simp [Option.map_map, Function.comp_def, named]

end Settings
end PgJson
