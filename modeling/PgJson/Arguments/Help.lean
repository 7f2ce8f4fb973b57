namespace PgJson.Arguments

def versionText : String := "dbservice 0.1.0\n"

def usage : String := "Usage: dbservice [OPTIONS] <SQL> [PARAMS]...\n"

def shortHelp : String :=
  "Run one SQL statement and print the rows as JSON\n\n" ++ usage ++ "\n" ++
  "Arguments:\n" ++
  "  <SQL>        Statement to run, with $1..$n placeholders\n" ++
  "  [PARAMS]...  Parameters for $1..$n, parsed as JSON (bare words are taken as strings)\n\n" ++
  "Options:\n" ++
  "      --compact  Print compact JSON instead of pretty JSON\n" ++
  "  -h, --help     Print help (see more with '--help')\n" ++
  "  -V, --version  Print version\n"

def longHelp : String :=
  "Connects with DATABASE_URL (read from the environment or a .env file), runs SQL with " ++
  "the given positional parameters and prints the resulting rows as a JSON array.\n\n" ++
  usage ++ "\n" ++
  "Arguments:\n" ++
  "  <SQL>\n" ++
  "          Statement to run, with $1..$n placeholders\n\n" ++
  "  [PARAMS]...\n" ++
  "          Parameters for $1..$n, parsed as JSON (bare words are taken as strings).\n" ++
  "          \n" ++
  "          Numbers and booleans bind with their own types. `null` and strings bind as text, " ++
  "so cast the placeholder when the target column is not text, e.g. " ++
  "`INSERT INTO t (n) VALUES ($1::int)`.\n\n" ++
  "Options:\n" ++
  "      --compact\n" ++
  "          Print compact JSON instead of pretty JSON\n\n" ++
  "  -h, --help\n" ++
  "          Print help (see a summary with '-h')\n\n" ++
  "  -V, --version\n" ++
  "          Print version\n"

def help (long : Bool) : String := if long then longHelp else shortHelp

end PgJson.Arguments
