import PgJson.Proofs.Json.Numeral
import PgJson.Text.Fields

/-!
The grammar of JSON texts: which characters make one, which value it denotes, and how deep it
nests. Half a surrogate pair denotes no character, so a string that escapes one is no text here; nor
is a number beyond the doubles.
-/

namespace PgJson.Json

open Text

def isGapChar (c : Char) : Bool := c == ' ' || c == '\t' || c == '\n' || c == '\r'

def Gap (s : List Char) : Prop := ∀ c ∈ s, isGapChar c

theorem gap_nil : Gap [] := by
  intro c absent
  cases absent

theorem gap_append (s t : List Char) (first : Gap s) (second : Gap t) : Gap (s ++ t) := by
  intro c member
  exact (List.mem_append.mp member).elim (first c) (second c)

/-! ## Strings -/

inductive Hex4 : List Char → Nat → Prop where
  | digits (a b c d : Char) (w x y z : Nat) (first : hexValue? a = some w)
      (second : hexValue? b = some x) (third : hexValue? c = some y)
      (fourth : hexValue? d = some z) : Hex4 [a, b, c, d] (((w * 16 + x) * 16 + y) * 16 + z)

def shortEscapes : List (Char × Char) :=
  [('"', '"'), ('\\', '\\'), ('/', '/'), ('b', '\x08'), ('f', '\x0c'), ('n', '\n'), ('r', '\r'),
    ('t', '\t')]

/-- What stands behind a backslash for one character: a letter, or the number of the character, or
both halves of its surrogate pair. -/
inductive Escape : List Char → Char → Prop where
  | short (mark c : Char) (known : (mark, c) ∈ shortEscapes) : Escape [mark] c
  | unicode (digits : List Char) (n : Nat) (hex : Hex4 digits n)
      (scalar : n < 0xd800 ∨ 0xdfff < n) : Escape ('u' :: digits) (.ofNat n)
  | pair (digits digits' : List Char) (high low : Nat) (first : Hex4 digits high)
      (second : Hex4 digits' low) (upper : 0xd800 ≤ high ∧ high ≤ 0xdbff)
      (lower : 0xdc00 ≤ low ∧ low ≤ 0xdfff) :
      Escape ('u' :: (digits ++ '\\' :: 'u' :: digits'))
        (.ofNat (0x10000 + (high - 0xd800) * 0x400 + (low - 0xdc00)))

inductive Piece : List Char → Char → Prop where
  | plain (c : Char) (quote : c ≠ '"') (slash : c ≠ '\\') (visible : 0x20 ≤ c.toNat) : Piece [c] c
  | escape (sequence : List Char) (c : Char) (escape : Escape sequence c) :
      Piece ('\\' :: sequence) c

inductive Body : List Char → List Char → Prop where
  | nil : Body [] []
  | cons (piece : List Char) (c : Char) (body s : List Char) (here : Piece piece c)
      (rest : Body body s) : Body (piece ++ body) (c :: s)

/-! ## Texts -/

structure Item where
  before : List Char
  text : List Char
  after : List Char
  value : Json

namespace Item

def chars (i : Item) : List Char := i.before ++ (i.text ++ i.after)

def Spaced (i : Item) : Prop := Gap i.before ∧ Gap i.after

end Item

structure Member where
  before : List Char
  body : List Char
  after : List Char
  name : List Char
  item : Item

namespace Member

def chars (m : Member) : List Char :=
  m.before ++ '"' :: (m.body ++ '"' :: (m.after ++ ':' :: m.item.chars))

def Named (m : Member) : Prop := Gap m.before ∧ Body m.body m.name ∧ Gap m.after

def pair (m : Member) : String × Json := (.ofList m.name, m.item.value)

end Member

/-- A text that nests at most `depth` deep, and the value it denotes. -/
inductive IsText : (depth : Nat) → List Char → Json → Prop where
  | null (depth : Nat) : IsText depth ['n', 'u', 'l', 'l'] .null
  | true (depth : Nat) : IsText depth ['t', 'r', 'u', 'e'] (.bool true)
  | false (depth : Nat) : IsText depth ['f', 'a', 'l', 's', 'e'] (.bool false)
  | number (depth : Nat) (n : Numeral) (v : Number) (value : n.value? = some v) :
      IsText depth n.text (.number v)
  | string (depth : Nat) (body s : List Char) (pieces : Body body s) :
      IsText depth ('"' :: (body ++ ['"'])) (.string (.ofList s))
  | emptyArray (depth : Nat) (gap : List Char) (blank : Gap gap) :
      IsText (depth + 1) ('[' :: (gap ++ [']'])) (.array [])
  | array (depth : Nat) (items : List Item) (present : items ≠ [])
      (spaced : ∀ i ∈ items, i.Spaced) (texts : ∀ i ∈ items, IsText depth i.text i.value) :
      IsText (depth + 1) ('[' :: (joined [','] (items.map Item.chars) ++ [']']))
        (.array (items.map Item.value))
  | emptyObject (depth : Nat) (gap : List Char) (blank : Gap gap) :
      IsText (depth + 1) ('\x7b' :: (gap ++ ['\x7d'])) (.object [])
  | object (depth : Nat) (members : List Member) (present : members ≠ [])
      (named : ∀ m ∈ members, m.Named) (spaced : ∀ m ∈ members, m.item.Spaced)
      (texts : ∀ m ∈ members, IsText depth m.item.text m.item.value) :
      IsText (depth + 1) ('\x7b' :: (joined [','] (members.map Member.chars) ++ ['\x7d']))
        (ofMembers (members.map Member.pair))

def Denoted (depth : Nat) (s : List Char) (v : Json) : Prop :=
  ∃ before text after, s = before ++ (text ++ after) ∧ Gap before ∧ Gap after ∧ IsText depth text v

end PgJson.Json
