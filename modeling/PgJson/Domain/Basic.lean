import PgJson.Domain.Direction
import PgJson.Domain.Joining
import PgJson.Domain.Punycode

/-!
Domain names in any script, and the ASCII form of each that the name system knows. A label beyond
ASCII has a form that starts with `xn--`.
-/

namespace PgJson.Domain

open Text

def tag : List Char := "xn--".toList

structure Label where
  text : List Char
  ascii : List Char
  deriving DecidableEq, Repr

namespace Label

def isAscii (s : List Char) : Bool := s.all (·.toNat < 0x80)

def isSettled (s : List Char) : Bool := s.all (fun c => fold? c == some [c]) && canonical s == s

def read? (s : List Char) : Option Label :=
  if tag.isPrefixOf s then do
    let text ← Punycode.decode? (s.drop tag.length)
    if isSettled text && !isAscii text then some ⟨text, s⟩ else none
  else if isAscii s then some ⟨s, s⟩
  else (Punycode.encode? s).map fun digits => ⟨s, tag ++ digits⟩

def isWellFormed (l : Label) : Bool := !l.text.head?.any isMark && joinersFit [] l.text

end Label

def ascii? (s : List Char) : Option (List Char) := do
  let folded ← s.mapM fold?
  let labels ← (fields (· == '.') (canonical folded.flatten)).mapM Label.read?
  let texts := labels.map Label.text
  let keeps := !texts.any (·.any runsRight) || texts.all keepsDirection
  if labels.all Label.isWellFormed && keeps then
    some (joined ['.'] (labels.map Label.ascii))
  else none

end PgJson.Domain
