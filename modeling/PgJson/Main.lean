import PgJson.Program

/-!
The program on the process's arguments, variables and files. It has no network of its own, so a
statement that would be sent finds no server.
-/

namespace PgJson

/-- The file of variables in the working directory, or in the nearest one above that has one. -/
def readEnvFile : (levels : Nat) → (path : String) → IO (Option String)
  | 0, _ => return none
  | levels + 1, path => do
    match ← (IO.FS.readFile path).toBaseIO with
    | .ok text => return some text
    | .error _ => readEnvFile levels ("../" ++ path)

def readVariables (names : List String) : IO Variables := do
  let pairs ← names.filterMapM fun name => return (← IO.getEnv name).map (name, ·)
  return .ofList pairs

end PgJson

open PgJson in
def main (args : List String) : IO UInt32 := do
  let envFile ← readEnvFile 64 ".env"
  let mentioned := (envFile.map EnvFile.names).getD []
  let vars ← readVariables (Program.variableNames ++ mentioned)
  let now := (← IO.monoMsNow) / 1000
  let r := Program.run { vars, envFile, now } args
  (← IO.getStdout).putStr r.stdout
  let stderr ← IO.getStderr
  r.stderr.forM fun line => stderr.putStr line.written
  return .ofNat r.exit
