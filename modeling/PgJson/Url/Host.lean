import PgJson.Domain.Basic
import PgJson.Url.Address
import PgJson.Url.Error
import PgJson.Url.Percent

namespace PgJson.Host

open Text

def bracketed (s : List Char) : Except UrlError (List Char) :=
  if s.getLast? ≠ some ']' then .error .invalidIpv6
  else match Address.v6? s.tail.dropLast with
    | some groups => .ok ('[' :: Address.v6Text groups ++ [']'])
    | none => .error .invalidIpv6

def forbidden : List Char :=
  ['\x00', '\t', '\n', '\r', ' ', '#', '/', ':', '<', '>', '?', '@', '[', '\\', ']', '^', '|']

def kept (s : List Char) : Except UrlError (List Char) :=
  if s.head? = some '[' then bracketed s
  else if s.any forbidden.contains then .error .invalidDomain
  else .ok (Percent.encodeControls s)

def looseNumber? (s : List Char) : Option Nat :=
  let inBase (base : Nat) (ds : List Char) : Option Nat :=
    ds.foldlM (fun n c => ((hexValue? c).filter (· < base)).map (n * base + ·)) 0
  match s with
  | [] => none
  | '0' :: 'x' :: ds | '0' :: 'X' :: ds => inBase 16 ds
  | '0' :: d :: ds => inBase 8 (d :: ds)
  | ds => inBase 10 ds

def labels (s : List Char) : List (List Char) :=
  let labels := fields (· == '.') s
  if labels.length > 1 ∧ labels.getLast? = some [] then labels.dropLast else labels

def endsInNumber (s : List Char) : Bool :=
  match (labels s).getLast? with
  | none => false
  | some l => (l != [] && l.all Char.isDigit) || (looseNumber? l).isSome

/-- A version 4 address of one to four numbers, of which the last fills the octets left. -/
def looseV4? (s : List Char) : Option (List Nat) := do
  let numbers ← (labels s).mapM looseNumber?
  let last ← numbers.getLast?
  let front := numbers.dropLast
  if 3 < front.length ∨ front.any (255 < ·) ∨ Nat.pow 256 (4 - front.length) ≤ last then none
  else
    let tail := (List.range (4 - front.length)).map fun i => last / Nat.pow 256 i % 256
    some (front ++ tail.reverse)

def forbiddenInDomain (c : Char) : Bool :=
  c.toNat ≤ 0x20 || c == '\x7f' || c == '%' || forbidden.contains c

def domain (s : List Char) : Except UrlError (List Char) :=
  if s.head? = some '[' then bracketed s
  else match (Utf8.decode (Percent.decodeChars s)).toOption.bind Domain.ascii? with
    | none => .error .invalidInternationalDomain
    | some name =>
      if name.any forbiddenInDomain then .error .invalidInternationalDomain
      else if name = [] then .error .emptyHost
      else if endsInNumber name then
        match looseV4? name with
        | some octets => .ok (Address.v4Text octets)
        | none => .error .invalidIpv4
      else .ok name

end PgJson.Host
