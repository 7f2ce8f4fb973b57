import PgJson.Url.Host

/-!
URLs. A URL is read from left to right: scheme, user and password, host and port, path, query.
Percent escapes stay as they are written; whoever uses a part decodes it.
-/

namespace PgJson

structure Url where
  username : List Char := []
  password : Option (List Char) := none
  host : Option (List Char) := none
  port : Option Nat := none
  path : List Char := []
  query : List Char := []
  deriving DecidableEq, Repr

namespace Url

open Text

inductive Kind where
  | web (defaultPort : Nat)
  | file
  | plain
  deriving DecidableEq, Repr

def Kind.ofScheme (scheme : String) : Kind :=
  match scheme with
  | "http" | "ws" => .web 80
  | "https" | "wss" => .web 443
  | "ftp" => .web 21
  | "file" => .file
  | _ => .plain

def Kind.isSlash (k : Kind) (c : Char) : Bool := c == '/' || (c == '\\' && k != .plain)

def endsPath (c : Char) : Bool := c == '?' || c == '#'

def clean (text : String) : List Char :=
  let trim := List.dropWhile fun c : Char => c.toNat ≤ 0x20
  (trim (trim text.toList).reverse).reverse.filter fun c => c != '\t' && c != '\n' && c != '\r'

def isSchemeChar (c : Char) : Bool := c.isAlphanum || c == '+' || c == '-' || c == '.'

def scheme? (s : List Char) : Option (String × List Char) :=
  match s.head?, s.dropWhile isSchemeChar with
  | some c, ':' :: rest =>
    if c.isAlpha then some (.ofList ((s.takeWhile isSchemeChar).map Char.toLower), rest) else none
  | _, _ => none

/-! ## Authority -/

def takeUser (k : Kind) (u : Url) (s : List Char) : Except UrlError (Url × List Char) :=
  let authority := s.takeWhile fun c => !(k.isSlash c || endsPath c)
  let host := (authority.reverse.takeWhile (· != '@')).reverse
  if host.length = authority.length then .ok (u, s)
  else
    let rest := s.drop (authority.length - host.length)
    let user := authority.take (authority.length - host.length - 1)
    if user = [] then
      match rest with
      | c :: _ => if k.isSlash c || endsPath c then .error .emptyHost else .ok (u, rest)
      | [] => .ok (u, [])
    else
      let (name, password) := cut (· == ':') user
      .ok ({ u with username := name, password := password.filter (· != []) }, rest)

/-- The host ends at a colon outside brackets, or with the authority. -/
def hostLength (k : Kind) (inBrackets : Bool) : List Char → Nat
  | [] => 0
  | c :: rest =>
    if (c == ':' && !inBrackets) || k.isSlash c || endsPath c then 0
    else hostLength k (c == '[' || (inBrackets && c != ']')) rest + 1

def takePort (k : Kind) (port : Nat) : List Char → Except UrlError (Nat × List Char)
  | [] => .ok (port, [])
  | c :: rest =>
    match digitValue? c with
    | some d =>
      if port * 10 + d < limit16 then takePort k (port * 10 + d) rest else .error .invalidPort
    | none =>
      if c == '/' || c == '\\' || endsPath c then .ok (port, c :: rest) else .error .invalidPort

def portOf (k : Kind) (s : List Char) : Except UrlError (Option Nat × List Char) := do
  let (port, rest) ← takePort k 0 s
  let given := (s.head?.bind digitValue?).isSome && k != .web port
  .ok (if given then some port else none, rest)

def takeHost (k : Kind) (u : Url) (s : List Char) : Except UrlError (Url × List Char) := do
  let text := s.take (hostLength k false s)
  let rest := s.drop text.length
  let named := u.username != [] || u.password.isSome
  let host ← if k = .plain then Host.kept text
    else if text = [] then .error .emptyHost
    else Host.domain text
  if host = [] ∧ (rest.head? = some ':' ∨ named) then .error .emptyHost
  else
    let u := { u with host := if host = [] then none else some host }
    match rest with
    | ':' :: rest =>
      let (port, rest) ← portOf k rest
      .ok ({ u with port }, rest)
    | rest => .ok (u, rest)

/-! ## Path and query -/

def dots : List (List Char) := ["." , "%2e", "%2E"].map String.toList

def doubleDots : List (List Char) := dots.flatMap fun a => dots.map (a ++ ·)

def isDriveMark (c : Char) : Bool := c == ':' || c == '|'

def isDrive : List Char → Bool
  | c :: mark :: rest => c.isAlpha && isDriveMark mark && (rest = [] || rest.head? = some '\\')
  | _ => false

def shortened (held : List (List Char)) : List (List Char) :=
  match held.getLast? with
  | some segment => if isDrive segment then held else held.dropLast
  | none => []

/-- The first segment of a file's path may be a drive, which is written with a colon. -/
def segment (k : Kind) (held : List (List Char)) (s : List Char) : List Char :=
  match k, held, s with
  | .file, [], [c, _] => if isDrive s then [c, ':'] else s
  | _, _, _ => s

/-- Segments with `.` left out and `..` taking back the one before; either leaves the path open at
its end. -/
def resolve (k : Kind) (held : List (List Char)) : List (List Char) → List (List Char)
  | [] => held
  | s :: rest =>
    let last := if rest = [] then [[]] else []
    if doubleDots.contains s then resolve k (shortened held ++ last) rest
    else if dots.contains s then resolve k (held ++ last) rest
    else resolve k (held ++ [segment k held s]) rest

def segments (k : Kind) (s : List Char) : List (List Char) := resolve k [] (fields k.isSlash s)

def pathText (s : List Char) : List Char := s.takeWhile (!endsPath ·)

def queryText (s : List Char) : List Char :=
  match s.dropWhile (!endsPath ·) with
  | '?' :: rest => rest.takeWhile (· != '#')
  | _ => []

def takePath (k : Kind) (u : Url) (s : List Char) : Url :=
  let path := match pathText s with
    | [] => if k = Kind.plain then [] else [[]]
    | c :: rest => segments k (if k.isSlash c then rest else c :: rest)
  { u with path := path.flatMap ('/' :: ·), query := queryText s }

def authority (k : Kind) (s : List Char) : Except UrlError Url := do
  let (u, s) ← takeUser k {} s
  let (u, s) ← takeHost k u s
  .ok (takePath k u s)

/-- The path and query behind a host of a file. Before a drive the host does not count. -/
def fileAt (host s : List Char) : Url :=
  let u := takePath .file { host := some host } s
  if isDrive ((u.path.drop 1).takeWhile (· != '/')) then { u with host := none } else u

/-- A file may have a host after two slashes, unless a drive stands there. With no host, or this
machine for a host, the path has an empty segment in front. -/
def file (s : List Char) : Except UrlError Url :=
  match s with
  | a :: b :: rest =>
    if Kind.file.isSlash a && Kind.file.isSlash b then do
      let host := rest.takeWhile fun c => !(Kind.file.isSlash c || endsPath c)
      let behind := rest.drop host.length
      if isDrive host then .ok (takePath .file {} rest)
      else if host = [] then .ok (takePath .file {} ('/' :: behind))
      else
        let name ← Host.domain host
        .ok (if name = "localhost".toList then takePath .file {} ('/' :: behind)
          else fileAt name behind)
    else .ok (takePath .file {} s)
  | _ => .ok (takePath .file {} s)

def pathOnly (s : List Char) : Url :=
  match s with
  | '/' :: _ => takePath .plain {} s
  | _ => { path := pathText s, query := queryText s }

def parse (text : String) : Except UrlError Url :=
  match scheme? (clean text) with
  | none => .error .relative
  | some (scheme, rest) =>
    match Kind.ofScheme scheme with
    | .web port => authority (.web port) (rest.dropWhile (Kind.web port).isSlash)
    | .file => file rest
    | .plain =>
      match rest with
      | '/' :: '/' :: rest => authority .plain rest
      | rest => .ok (pathOnly rest)

end Url
end PgJson
