namespace PgJson

inductive SqlType where
  | builtIn (name : String)
  | own (name : String)
  | ownArray (name : String) (element : SqlType)
  deriving DecidableEq, Repr

namespace SqlType

def name : SqlType → String
  | builtIn name | own name | ownArray name _ => name

/-- The characters of a name without its quotes, and whether case counts for them; a quote within
quotes is written twice. -/
def significant (exact quoteBefore : Bool) : List Char → List (Char × Bool)
  | [] => []
  | c :: rest =>
    if c = '"' then
      if quoteBefore then (c, exact) :: significant exact false rest
      else significant exact true rest
    else
      let exact := exact != quoteBefore
      (c, exact) :: significant exact false rest

/-- Names agree as far as both go, and one may have one character more. -/
def agree : List (Char × Bool) → List (Char × Bool) → Bool
  | [], rest | rest, [] => rest.length ≤ 1
  | (a, exactA) :: as, (b, exactB) :: bs =>
    (if exactA || exactB then a == b else a.toLower == b.toLower) && agree as bs

def sameName (s t : String) : Bool :=
  agree (significant false false s.toList) (significant false false t.toList)

def texts : List String := ["TEXT", "NAME", "CHAR", "VARCHAR", "UNKNOWN"]

/-- Types whose values are text; of those a database adds, case-insensitive text by its name. -/
def readsAsText : SqlType → Bool
  | builtIn name => texts.contains name
  | own name | ownArray name _ => sameName "citext" name

def numbers : List (Nat × String) :=
  [(16, "BOOL"), (17, "BYTEA"), (18, "\"CHAR\""), (19, "NAME"), (20, "INT8"), (21, "INT2"),
    (23, "INT4"), (25, "TEXT"), (26, "OID"), (114, "JSON"), (199, "JSON[]"), (600, "POINT"),
    (601, "LSEG"), (602, "PATH"), (603, "BOX"), (604, "POLYGON"), (628, "LINE"), (629, "LINE[]"),
    (650, "CIDR"), (651, "CIDR[]"), (700, "FLOAT4"), (701, "FLOAT8"), (705, "UNKNOWN"),
    (718, "CIRCLE"), (719, "CIRCLE[]"), (774, "MACADDR8"), (775, "MACADDR8[]"), (790, "MONEY"),
    (791, "MONEY[]"), (829, "MACADDR"), (869, "INET"), (1000, "BOOL[]"), (1001, "BYTEA[]"),
    (1002, "\"CHAR\"[]"), (1003, "NAME[]"), (1005, "INT2[]"), (1007, "INT4[]"), (1009, "TEXT[]"),
    (1014, "CHAR[]"), (1015, "VARCHAR[]"), (1016, "INT8[]"), (1017, "POINT[]"), (1018, "LSEG[]"),
    (1019, "PATH[]"), (1020, "BOX[]"), (1021, "FLOAT4[]"), (1022, "FLOAT8[]"), (1027, "POLYGON[]"),
    (1028, "OID[]"), (1040, "MACADDR[]"), (1041, "INET[]"), (1042, "CHAR"), (1043, "VARCHAR"),
    (1082, "DATE"), (1083, "TIME"), (1114, "TIMESTAMP"), (1115, "TIMESTAMP[]"), (1182, "DATE[]"),
    (1183, "TIME[]"), (1184, "TIMESTAMPTZ"), (1185, "TIMESTAMPTZ[]"), (1186, "INTERVAL"),
    (1187, "INTERVAL[]"), (1231, "NUMERIC[]"), (1266, "TIMETZ"), (1270, "TIMETZ[]"), (1560, "BIT"),
    (1561, "BIT[]"), (1562, "VARBIT"), (1563, "VARBIT[]"), (1700, "NUMERIC"), (2249, "RECORD"),
    (2278, "VOID"), (2287, "RECORD[]"), (2950, "UUID"), (2951, "UUID[]"), (3802, "JSONB"),
    (3807, "JSONB[]"), (3904, "INT4RANGE"), (3905, "INT4RANGE[]"), (3906, "NUMRANGE"),
    (3907, "NUMRANGE[]"), (3908, "TSRANGE"), (3909, "TSRANGE[]"), (3910, "TSTZRANGE"),
    (3911, "TSTZRANGE[]"), (3912, "DATERANGE"), (3913, "DATERANGE[]"), (3926, "INT8RANGE"),
    (3927, "INT8RANGE[]"), (4072, "JSONPATH"), (4073, "JSONPATH[]")]

def ofNumber? (n : Nat) : Option SqlType := (numbers.lookup n).map builtIn

end SqlType
end PgJson
