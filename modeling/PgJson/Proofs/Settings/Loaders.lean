import PgJson.Pool.Config
import PgJson.Proofs.Parameter.RoundTrip
import PgJson.Proofs.Settings.OfVariables
import PgJson.Proofs.Text.Numeral
import PgJson.Settings.OfJson

/-!
The two ways to read settings. Settings that one of them has read can be written for the other, which
then reads the same.
-/

namespace PgJson

namespace Settings

/-- An object of objects. The environment goes by its name, a bound left open is null. -/
def toJson (s : Settings) : Json :=
  let bound (n : Option Nat) : Json := (n.map Json.ofNat).getD .null
  .ofMembers [
    ("app", .ofMembers [("name", .string s.app.name), ("env", .string s.app.env.name)]),
    ("database", .ofMembers [("url", .string s.database.url),
      ("max_connections", bound (s.database.maxConnections.map UInt32.toNat)),
      ("timeout_secs", bound (s.database.timeoutSecs.map UInt64.toNat))])]

def toVariables (s : Settings) : Variables
  | "APP_NAME" => some s.app.name
  | "APP_ENV" => some s.app.env.name
  | "DATABASE_URL" => some s.database.url
  | "DATABASE_MAX_CONNECTIONS" =>
    s.database.maxConnections.map fun n => .ofList (Text.decimal n.toNat)
  | "DATABASE_TIMEOUT_SECS" => s.database.timeoutSecs.map fun n => .ofList (Text.decimal n.toNat)
  | _ => none

def pool? {ε : Type} (read : Except ε Settings) : Option PoolConfig :=
  read.toOption.map fun s => .ofSettings s.database

/-! ## Single values -/

theorem namedEnvironment_name (env : Environment) : namedEnvironment env.name = .ok env := by
  cases env with
  | development => rfl
  | staging => rfl
  | production => rfl

theorem readEnvironment?_name (env : Environment) : readEnvironment? env.name = some env := by
  cases env with
  | development => decide
  | staging => decide
  | production => decide

theorem bound_ofNat (limit n : Nat) (expected : String) (small : n < limit)
    (word : limit ≤ 0x10000000000000000) : bound limit expected (.ofNat n) = .ok (some n) := by
  have range : -0x8000000000000000 ≤ (n : Int) ∧ (n : Int) < 0x10000000000000000 := by omega
  have below : 0 ≤ (n : Int) ∧ (n : Int) < limit := by omega
  rw [Json.ofNat, Json.ofInt_of_range n range, bound, if_pos below, Int.toNat_natCast]

theorem bound_getD (limit : Nat) (n : Option Nat) (expected : String)
    (small : ∀ k ∈ n, k < limit) (word : limit ≤ 0x10000000000000000) :
    bound limit expected ((n.map Json.ofNat).getD .null) = .ok n := by
  cases n with
  | none => rfl
  | some k =>
      rw [Option.map_some, Option.getD_some]
      exact bound_ofNat limit k expected (small k rfl) word

theorem holds_decimal (vars : Variables) (key : String) (limit : Nat) (n : Option Nat)
    (set : vars key = n.map fun k => .ofList (Text.decimal k)) (small : ∀ k ∈ n, k < limit) :
    Holds vars key limit n := by
  cases n with
  | none => exact set
  | some k =>
      refine ⟨_, set, ?_⟩
      rw [String.toList_ofList]
      exact Text.readBounded_decimal limit k (small k rfl)

/-! ## Settings -/

theorem optional_some {α : Type} (read : Json → Except ShapeError α) (v : Json) (a : α)
    (done : read v = .ok a) : optional read (some v) = .ok (some a) := by
  rw [optional, done]
  rfl

theorem appOfJson_members (app : AppSettings) :
    appOfJson (.ofMembers [("name", .string app.name), ("env", .string app.env.name)]) =
      .ok app := by
  have env := optional_some environmentOfJson (.string app.env.name) app.env
    (namedEnvironment_name app.env)
  have name := optional_some string (.string app.name) app.name rfl
  rw [Json.ofMembers, appOfJson]
  simp only [bind_ok_iff, Json.lookup_members]
  exact ⟨_, env, _, name, rfl⟩

theorem databaseOfJson_members (d : DatabaseSettings) (size time : Json)
    (sized : maxConnectionsOfJson size = .ok (d.maxConnections.map UInt32.toNat))
    (timed : timeoutOfJson time = .ok (d.timeoutSecs.map UInt64.toNat)) :
    databaseOfJson (.ofMembers [("url", .string d.url), ("max_connections", size),
      ("timeout_secs", time)]) = .ok d := by
  have sized := optional_some maxConnectionsOfJson size _ sized
  have timed := optional_some timeoutOfJson time _ timed
  have url := optional_some string (.string d.url) d.url rfl
  rw [Json.ofMembers, databaseOfJson]
  simp only [bind_ok_iff, Json.lookup_members]
  refine ⟨_, sized, _, timed, _, url, _, rfl, ?_⟩
  simp [databaseOfParts, Option.map_map, Function.comp_def]

theorem ofJson_toJson (s : Settings) : ofJson s.toJson = .ok s := by
  have sized := bound_getD Text.limit32 (s.database.maxConnections.map UInt32.toNat) "u32"
    (word32_lt _) (by decide)
  have timed := bound_getD Text.limit64 (s.database.timeoutSecs.map UInt64.toNat) "u64"
    (word64_lt _) (by decide)
  have app := optional_some appOfJson _ s.app (appOfJson_members s.app)
  have database := optional_some databaseOfJson _ s.database
    (databaseOfJson_members s.database _ _ sized timed)
  rw [toJson, Json.ofMembers, ofJson]
  simp only [bind_ok_iff, Json.lookup_members]
  exact ⟨_, app, _, database, _, rfl, _, rfl, rfl⟩

theorem environment_toVariables (s : Settings) : environment s.toVariables = .ok s.app.env := by
  have set : s.toVariables "APP_ENV" = some s.app.env.name := rfl
  rw [environment, set]
  dsimp only
  rw [readEnvironment?_name]

theorem ofVariables_toVariables_iff (s : Settings) :
    ofVariables s.toVariables = .ok s ↔ isBlankText s.database.url = false := by
  rw [ofVariables_ok_iff]
  constructor
  · exact fun read => read.2.2.2.1
  · intro visible
    refine ⟨environment_toVariables s, rfl, rfl, visible, ?_, ?_⟩
    · apply holds_decimal
      · rw [Option.map_map]
        rfl
      · exact word32_lt s.database.maxConnections
    · apply holds_decimal
      · rw [Option.map_map]
        rfl
      · exact word64_lt s.database.timeoutSecs

/-- What one way has read, the other reads from what it is written as, and a pool is made of the same
from both. Only settings without a URL, which no variables give, are not read from variables. -/
theorem loaders_agree :
    (∀ vars s, ofVariables vars = .ok s →
      ofJson s.toJson = .ok s ∧ pool? (ofJson s.toJson) = pool? (ofVariables vars)) ∧
    ∀ v s, ofJson v = .ok s →
      (ofVariables s.toVariables = .ok s ↔ isBlankText s.database.url = false) ∧
        (isBlankText s.database.url = false →
          pool? (ofVariables s.toVariables) = pool? (ofJson v)) := by
  constructor
  · intro vars s read
    have back := ofJson_toJson s
    refine ⟨back, ?_⟩
    rw [back, read]
    rfl
  · intro v s read
    have back := ofVariables_toVariables_iff s
    refine ⟨back, ?_⟩
    intro visible
    rw [back.mpr visible, read]
    rfl

theorem loaders_agree_staging :
    let vars : Variables := .ofList [("APP_ENV", "STAGING"), ("DATABASE_URL", " postgres://db/app"),
      ("DATABASE_MAX_CONNECTIONS", " +007 ")]
    let v : Json := .array [.ofMembers [("env", .string "staging")],
      .array [.string " postgres://db/app", .ofNat 7]]
    let s : Settings := ⟨⟨"dbservice", .staging⟩, ⟨" postgres://db/app", some 7, none⟩⟩
    ofVariables vars = .ok s ∧ ofJson s.toJson = .ok s ∧ ofJson v = .ok s ∧
      ofVariables s.toVariables = .ok s := by
  intro vars v s
  have first : ofVariables vars = .ok s := by decide +kernel
  have second : ofJson v = .ok s := rfl
  obtain ⟨toJson, toVariables⟩ := loaders_agree
  exact ⟨first, (toJson vars s first).1, second, (toVariables v s second).1.mpr (by decide)⟩

end Settings
end PgJson
