import PgJson.Number.Binary64

namespace PgJson
namespace Json

inductive Number where
  | integer (value : Int) (in_range : -0x8000000000000000 ≤ value ∧ value < 0x10000000000000000)
  | float (value : Binary64) (finite : value.IsFinite)
  deriving DecidableEq, Repr

/-- The members of an object with a value put under a name: names ascend, and a name holds the
value put last. -/
def put {α : Type} (name : String) (value : α) : List (String × α) → List (String × α)
  | [] => [(name, value)]
  | (n, v) :: rest =>
    if name < n then (name, value) :: (n, v) :: rest
    else if name = n then (name, value) :: rest
    else (n, v) :: put name value rest

theorem lookup_cons {α : Type} (name other : String) (value : α) (rest : List (String × α)) :
    ((name, value) :: rest).lookup other =
      if other = name then some value else rest.lookup other := by
  by_cases h : other = name
  · simp [h]
  · have : (other == name) = false := by simp [h]
    rw [List.lookup_cons]
    simp [this, h]

theorem lookup_put {α : Type} (name other : String) (value : α) (held : List (String × α)) :
    (put name value held).lookup other =
      if other = name then some value else held.lookup other := by
  induction held with
  | nil => simp [put, lookup_cons]
  | cons head rest ih =>
    obtain ⟨n, v⟩ := head
    simp only [put]
    split
    · simp [lookup_cons]
    · split
      · next h =>
        subst h
        by_cases h : other = name <;> simp [lookup_cons, h]
      · next h =>
        by_cases h' : other = n
        · simp [h', Ne.symm h]
        · simp [lookup_cons, h', ih]

def members {α : Type} (pairs : List (String × α)) : List (String × α) :=
  pairs.foldl (fun held (name, value) => put name value held) []

end Json

inductive Json where
  | null
  | bool (value : Bool)
  | number (value : Json.Number)
  | string (value : String)
  | array (items : List Json)
  | object (members : List (String × Json))
  deriving Repr, Inhabited

namespace Json

def ofMembers (pairs : List (String × Json)) : Json := .object (members pairs)

def get? (name : String) : Json → Option Json
  | .object members => members.lookup name
  | _ => none

/-- An integer, or its nearest double if 64 bits cannot hold it; `null` beyond the doubles. -/
def ofInt (n : Int) : Json :=
  if h : -0x8000000000000000 ≤ n ∧ n < 0x10000000000000000 then .number (.integer n h) else
    let x := Binary64.ofInt n
    if h : x.IsFinite then .number (.float x h) else .null

def ofNat (n : Nat) : Json := ofInt n

def ofDouble (x : Binary64) : Json :=
  if h : x.IsFinite then .number (.float x h) else .null

end Json
end PgJson
