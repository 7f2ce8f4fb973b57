import PgJson.Settings.Basic
import PgJson.Text.Blank
import PgJson.Text.Digits
import PgJson.Variables

namespace PgJson

inductive SettingsError where
  | missing (key : String)
  | invalid (key raw : String)
  deriving DecidableEq, Repr

namespace SettingsError

def key : SettingsError → String
  | missing key | invalid key _ => key

def message : SettingsError → String
  | missing key => "Missing required environment variable: " ++ key
  | invalid key raw => "Invalid value for " ++ key ++ ": " ++ raw

end SettingsError

namespace Settings

/-- The name of an environment in any case. No character beyond ASCII has a lower-case form among
the letters of the three names. -/
def readEnvironment? (raw : String) : Option Environment :=
  Environment.ofName? (.ofList (raw.toList.map Char.toLower))

def environment (vars : Variables) : Except SettingsError Environment :=
  match vars "APP_ENV" with
  | none => .ok .development
  | some raw =>
    match readEnvironment? raw with
    | some env => .ok env
    | none => .error (.invalid "APP_ENV" raw)

def isBlankText (s : String) : Bool := s.toList.all Text.isBlank

def url (vars : Variables) : Except SettingsError String :=
  match (vars "DATABASE_URL").filter (!isBlankText ·) with
  | some url => .ok url
  | none => .error (.missing "DATABASE_URL")

def number (limit : Nat) (vars : Variables) (key : String) : Except SettingsError (Option Nat) :=
  match vars key with
  | none => .ok none
  | some raw =>
    match Text.readBounded limit (Text.trim raw.toList) with
    | .ok n => .ok (some n)
    | .error _ => .error (.invalid key raw)

def ofVariables (vars : Variables) : Except SettingsError Settings := do
  let env ← environment vars
  let name := (vars "APP_NAME").getD defaultAppName
  let url ← url vars
  let maxConnections ← number Text.limit32 vars "DATABASE_MAX_CONNECTIONS"
  let timeoutSecs ← number Text.limit64 vars "DATABASE_TIMEOUT_SECS"
  .ok ⟨⟨name, env⟩, ⟨url, maxConnections.map .ofNat, timeoutSecs.map .ofNat⟩⟩

end Settings
end PgJson
