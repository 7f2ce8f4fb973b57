import PgJson.Column

namespace PgJson

abbrev Row := List (Option Bytes)

namespace Row

/-- The cells from position `index` on, with their columns' names. A row has a cell for every
column; what it has beyond them does not count. -/
def membersFrom (index : Nat) : List Column → Row → Outcome DbError (List (String × Json))
  | c :: columns, cell :: row => do
    let value ← c.decode index cell
    let rest ← membersFrom (index + 1) columns row
    .ok ((c.name, value) :: rest)
  | _ :: _, [] => Outcome.crash
  | [], _ => .ok []

def toJson (columns : List Column) (row : Row) : Outcome DbError Json :=
  Json.ofMembers <$> membersFrom 0 columns row

end Row
end PgJson
