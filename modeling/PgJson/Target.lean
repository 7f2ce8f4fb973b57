import PgJson.Error
import PgJson.Url.Basic
import PgJson.Variables

namespace PgJson

inductive SslMode where
  | disable
  | allow
  | prefer
  | require
  | verifyCa
  | verifyFull
  deriving DecidableEq, Repr

namespace SslMode

def name : SslMode → String
  | disable => "Disable"
  | allow => "Allow"
  | prefer => "Prefer"
  | require => "Require"
  | verifyCa => "VerifyCa"
  | verifyFull => "VerifyFull"

def ofText? (s : String) : Option SslMode :=
  match String.ofList (s.toList.map Char.toLower) with
  | "disable" => some disable
  | "allow" => some allow
  | "prefer" => some prefer
  | "require" => some require
  | "verify-ca" => some verifyCa
  | "verify-full" => some verifyFull
  | _ => none

def demandsTls : SslMode → Bool
  | disable | allow | prefer => false
  | require | verifyCa | verifyFull => true

end SslMode

/-- Where and how to connect, and how many statements a connection keeps. A password is only checked
to be text; it is not kept here. -/
structure Target where
  host : String
  port : Nat := 5432
  socket : Option String := none
  username : String
  database : Option String := none
  sslMode : SslMode := .prefer
  applicationName : Option String := none
  options : Option String := none
  statementCapacity : Nat := 100
  deriving DecidableEq, Repr

inductive Endpoint where
  | socket (directory : String) (port : Nat)
  | address (host : String) (port : Nat)
  deriving DecidableEq, Repr

namespace Target

def decoded (s : List Char) : Except UrlError String := (Percent.decodeText s).mapError .utf8

def numeral (limit : Nat) (s : String) : Except UrlError Nat :=
  (Text.readBounded limit s.toList).mapError .numeral

/-- A value that starts with a slash is a directory with a socket. -/
def place (t : Target) (host : String) : Target :=
  if host.toList.head? = some '/' then { t with socket := some host } else { t with host }

def optionName? (name : String) : Option String :=
  let cs := name.toList
  if "options[".toList.isPrefixOf cs ∧ cs.getLast? = some ']' then
    some (.ofList (cs.drop "options[".length).dropLast)
  else none

def addOptions (t : Target) (text : String) : Target :=
  { t with options := match t.options with
    | none => some text
    | some given => some (given ++ " " ++ text) }

def addOption (t : Target) (name value : String) : Target :=
  let text := "-c " ++ name ++ "=" ++ value
  if t.options = some "" then { t with options := some text } else t.addOptions text

def apply (t : Target) (name value : String) : Except UrlError Target :=
  match name with
  | "sslmode" | "ssl-mode" =>
    match SslMode.ofText? value with
    | some sslMode => .ok { t with sslMode }
    | none => .error (.sslMode value)
  | "statement-cache-capacity" => do
    .ok { t with statementCapacity := ← numeral Text.limit64 value }
  | "host" => .ok (t.place value)
  | "hostaddr" =>
    if Address.isAddress value.toList then .ok { t with host := value } else .error .addressSyntax
  | "port" => do .ok { t with port := ← numeral Text.limit16 value }
  | "dbname" => .ok { t with database := some value }
  | "user" => .ok { t with username := value }
  | "application_name" => .ok { t with applicationName := some value }
  | "options" => .ok (t.addOptions value)
  | name =>
    match optionName? name with
    | some option => .ok (t.addOption option value)
    | none => .ok t

def applyAll (t : Target) : List (String × String) → Except UrlError Target
  | [] => .ok t
  | (name, value) :: rest => do applyAll (← t.apply name value) rest

def applyHost (t : Target) : Option (List Char) → Except UrlError Target
  | none => .ok t
  | some host =>
    if (Percent.decodeChars host).head? = some 0x2f then do
      .ok { t with socket := some (← decoded host) }
    else .ok { t with host := .ofList host }

def applyUser (t : Target) (username : List Char) : Except UrlError Target :=
  if username = [] then .ok t else do .ok { t with username := ← decoded username }

def checkPassword : Option (List Char) → Except UrlError Unit
  | none => .ok ()
  | some password => do
    let _ ← decoded password
    .ok ()

def applyPath (t : Target) (path : List Char) : Except UrlError Target :=
  match path.dropWhile (· == '/') with
  | [] => .ok t
  | database => do .ok { t with database := some (← decoded database) }

def ofVariables (vars : Variables) : Target where
  host := ((vars "PGHOSTADDR").or (vars "PGHOST")).getD "localhost"
  port := ((vars "PGPORT").bind fun s => (numeral Text.limit16 s).toOption).getD 5432
  username := ((vars "PGUSER").or (vars "USER")).getD "unknown"
  database := vars "PGDATABASE"
  sslMode := ((vars "PGSSLMODE").bind SslMode.ofText?).getD .prefer
  applicationName := vars "PGAPPNAME"
  options := vars "PGOPTIONS"

def directory? (t : Target) : Option String :=
  t.socket.or (if t.host.toList.head? = some '/' then some t.host else none)

def endpoint (t : Target) : Endpoint :=
  match t.directory? with
  | some directory => .socket directory t.port
  | none => .address t.host t.port

def ofUrl (defaults : Target) (u : Url) : Except UrlError Target := do
  let t ← defaults.applyHost u.host
  let t := { t with port := u.port.getD t.port }
  let t ← t.applyUser u.username
  checkPassword u.password
  let t ← t.applyPath u.path
  t.applyAll (Percent.pairs u.query)

def parse (defaults : Target) (text : String) : Except UrlError Target := do
  ofUrl defaults (← Url.parse text)

end Target
end PgJson
