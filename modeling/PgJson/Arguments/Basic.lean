import PgJson.Json.Parser
import PgJson.Text.Terminal

/-!
Command-line arguments: a statement, its parameters, and options. Options end at `--`. A negative
number is no option.
-/

namespace PgJson

structure Arguments where
  sql : String
  params : List Json
  compact : Bool
  deriving Repr

inductive ArgumentError where
  | repeated (option : String)
  | unexpectedValue (value option : String)
  | unknown (argument : String)
  | missingStatement
  deriving DecidableEq, Repr

namespace ArgumentError

def text : ArgumentError → String
  | repeated option => "error: the argument '" ++ option ++ "' cannot be used multiple times"
  | unexpectedValue value option =>
    "error: unexpected value '" ++ Text.shown value ++ "' for '" ++ option ++
      "' found; no more were expected"
  | unknown argument => "error: unexpected argument '" ++ Text.shown argument ++ "' found"
  | missingStatement =>
    "error: the following required arguments were not provided:\n  <SQL>"

def message (e : ArgumentError) : String := .ofList (Text.firstBlock e.text.toList)

end ArgumentError

inductive Invocation where
  | run (arguments : Arguments)
  | help (long : Bool)
  | version
  deriving Repr

namespace Arguments

/-- JSON if the whole text is JSON, else the text itself. -/
def parameter (raw : String) : Json := (Json.parseString? raw).getD (.string raw)

/-- Digits with at most one point, which stands behind a digit and not in the exponent, and at most
one exponent mark, which stands neither first nor last. -/
def numberFrom (first dotted : Bool) : List Char → Bool
  | [] => true
  | '.' :: rest => !first && !dotted && numberFrom false true rest
  | c :: rest =>
    if c == 'e' || c == 'E' then !first && rest != [] && rest.all Char.isDigit
    else c.isDigit && numberFrom false dotted rest

def isNumber (s : List Char) : Bool := numberFrom true false s

inductive Item where
  | value
  | compact
  | help (long : Bool)
  | version
  | refused (error : ArgumentError)
  deriving DecidableEq, Repr

def long (name : List Char) : Item :=
  match String.ofList name with
  | "compact" => .compact
  | "help" => .help true
  | "version" => .version
  | name => .refused (.unknown ("--" ++ name))

def longWith (name value : List Char) : Item :=
  match long name with
  | .refused e => .refused e
  | _ => .refused (.unexpectedValue (.ofList value) ("--" ++ .ofList name))

def short : Char → Item
  | 'h' => .help false
  | 'V' => .version
  | c => .refused (.unknown (.ofList ['-', c]))

def item (arg : String) : Item :=
  match arg.toList with
  | '-' :: '-' :: rest =>
    match rest.dropWhile (· != '=') with
    | '=' :: value => longWith (rest.takeWhile (· != '=')) value
    | _ => long rest
  | '-' :: c :: rest => if isNumber (c :: rest) then .value else short c
  | _ => .value

def ofValues (compact : Bool) : List String → Except ArgumentError Invocation
  | [] => .error .missingStatement
  | sql :: raw => .ok (.run ⟨sql, raw.map parameter, compact⟩)

/-- Reads from left to right; `values` and `compact` are what was found so far. -/
def parseFrom (values : List String) (compact : Bool) :
    List String → Except ArgumentError Invocation
  | [] => ofValues compact values
  | arg :: rest =>
    if arg = "--" then ofValues compact (values ++ rest)
    else match item arg with
      | .value => parseFrom (values ++ [arg]) compact rest
      | .compact =>
        if compact then .error (.repeated "--compact") else parseFrom values true rest
      | .help long => .ok (.help long)
      | .version => .ok .version
      | .refused e => .error e

def parse (args : List String) : Except ArgumentError Invocation := parseFrom [] false args

end Arguments
end PgJson
