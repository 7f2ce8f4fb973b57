namespace PgJson.Text

/-- The pieces between elements that satisfy `isSeparator`; there is one more than of those. -/
def fields {α : Type} (isSeparator : α → Bool) : List α → List (List α)
  | [] => [[]]
  | x :: rest =>
    if isSeparator x then [] :: fields isSeparator rest
    else match fields isSeparator rest with
      | [] => [[x]]
      | piece :: pieces => (x :: piece) :: pieces

theorem fields_ne_nil {α : Type} (isSeparator : α → Bool) (s : List α) :
    fields isSeparator s ≠ [] := by
  cases s with
  | nil => simp [fields]
  | cons x rest =>
    simp only [fields]
    split
    · simp
    · split <;> simp

def joined {α : Type} (separator : List α) : List (List α) → List α
  | [] => []
  | [piece] => piece
  | piece :: rest => piece ++ separator ++ joined separator rest

def cut {α : Type} (isSeparator : α → Bool) (s : List α) : List α × Option (List α) :=
  match s.dropWhile (!isSeparator ·) with
  | [] => (s, none)
  | _ :: rest => (s.takeWhile (!isSeparator ·), some rest)

end PgJson.Text
