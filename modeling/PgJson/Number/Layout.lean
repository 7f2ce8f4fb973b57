import PgJson.Number.Shortest
import PgJson.Text.Digits

namespace PgJson
namespace Scientific

open Text

def plain (x : Scientific) : List Char :=
  match x.exponent with
  | .ofNat zeros =>
    if x.digits = 0 then ['0'] else decimal x.digits ++ List.replicate zeros '0'
  | .negSucc n =>
    let digits := padded (n + 2) x.digits
    let whole := digits.length - (n + 1)
    digits.take whole ++ '.' :: digits.drop whole

def leading (x : Scientific) : Int := x.exponent + ((decimal x.digits).length - 1 : Nat)

def withExponent (x : Scientific) : List Char :=
  let mantissa := match decimal x.digits with
    | [] => []
    | [d] => [d]
    | d :: rest => d :: '.' :: rest
  let exponent := if x.leading < 0 then decimalInt x.leading else '+' :: decimalInt x.leading
  mantissa ++ 'e' :: exponent

/-- The notation of JSON output: plain with at least one digit after the point where the leading
digit stands between 10^-5 and 10^15, else with an exponent. -/
def jsonText (x : Scientific) : List Char :=
  if -5 ≤ x.leading ∧ x.leading < 16 then
    if x.exponent < 0 then x.plain else x.plain ++ ['.', '0']
  else x.withExponent

end Scientific

namespace Binary64

def sign (x : Binary64) : List Char := if x.negative then ['-'] else []

def jsonText (x : Binary64) : List Char := x.sign ++ (x.shortest .toEven).jsonText

def plainText (x : Binary64) : List Char := x.sign ++ (x.shortest .up).plain

end Binary64
end PgJson
