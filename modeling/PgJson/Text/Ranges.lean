namespace PgJson.Text

def isIn (ranges : List (Nat × Nat)) (c : Char) : Bool :=
  ranges.any fun (first, last) => first ≤ c.toNat && c.toNat ≤ last

def valueIn? {α : Type} (ranges : List (Nat × Nat × α)) (c : Char) : Option α :=
  (ranges.find? fun (first, last, _) => first ≤ c.toNat && c.toNat ≤ last).map (·.2.2)

end PgJson.Text
