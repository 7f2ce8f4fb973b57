import PgJson.EnvFile.Value

namespace PgJson.EnvFile

open Text

/-- Behind `front` a value goes on with substitution, and what it gives up to there is `shown`. -/
def Passes (vars : Variables) (front : List Char) (quoted : Bool) (shown : List Char) : Prop :=
  ∀ rest, value? vars (front ++ rest) = (shown ++ ·) <$> valueFrom vars (.text quoted) rest

/-- A text that starts with the name of a variable behind a dollar sign. Without braces the name
ends at the first character that is no letter and no digit. -/
inductive Mentions (name : List Char) : List Char → Prop
  | plain (rest : List Char) (present : name ≠ []) (word : ∀ c ∈ name, isAlphanumeric c)
      (ends : ∀ c, rest.head? = some c → isAlphanumeric c = false) :
      Mentions name ('$' :: (name ++ rest))
  | braced (rest : List Char) (inside : '\x7d' ∉ name) :
      Mentions name ('$' :: '\x7b' :: (name ++ '\x7d' :: rest))

theorem map_shown (front back : List Char) (o : Option (List Char)) :
    (front ++ ·) <$> (back ++ ·) <$> o = (front ++ back ++ ·) <$> o := by
  cases o with
  | none => rfl
  | some s => exact congrArg some (List.append_assoc ..).symm

/-! ## Names in braces -/

theorem valueFrom_inside (vars : Variables) (quoted : Bool) (name rest : List Char)
    (inside : '\x7d' ∉ name) (read : List Char) :
    valueFrom vars (.braced quoted read) (name ++ '\x7d' :: rest) =
      (substituted vars (read ++ name) ++ ·) <$> valueFrom vars (.text quoted) rest := by
  induction name generalizing read with
  | nil =>
      rw [List.append_nil]
      rfl
  | cons c name ih =>
      have other : c ≠ '\x7d' := fun same => inside (same ▸ List.mem_cons_self ..)
      have followers : '\x7d' ∉ name := fun member => inside (List.mem_cons_of_mem _ member)
      rw [List.cons_append, valueFrom, if_neg other, ih followers, List.append_assoc,
        List.singleton_append]

theorem valueFrom_braced (vars : Variables) (quoted : Bool) (name rest : List Char)
    (inside : '\x7d' ∉ name) :
    valueFrom vars (.text quoted) ('$' :: '\x7b' :: (name ++ '\x7d' :: rest)) =
      (substituted vars name ++ ·) <$> valueFrom vars (.text quoted) rest :=
  valueFrom_inside vars quoted name rest inside []

/-! ## Names without braces -/

theorem valueFrom_word (vars : Variables) (quoted : Bool) (name rest : List Char)
    (word : ∀ c ∈ name, isAlphanumeric c) (read : List Char) :
    valueFrom vars (.named quoted read) (name ++ rest) =
      valueFrom vars (.named quoted (read ++ name)) rest := by
  induction name generalizing read with
  | nil => rw [List.nil_append, List.append_nil]
  | cons c name ih =>
      rw [List.cons_append, valueFrom, if_pos (word c (List.mem_cons_self ..)),
        ih (fun d member => word d (List.mem_cons_of_mem _ member)), List.append_assoc,
        List.singleton_append]

theorem valueFrom_ends (vars : Variables) (quoted : Bool) (name rest value : List Char)
    (present : name ≠ []) (ends : ∀ c, rest.head? = some c → isAlphanumeric c = false)
    (given : valueFrom vars (.named quoted name) rest = some value) :
    ∃ tail, value = substituted vars name ++ tail := by
  cases rest with
  | nil =>
      cases quoted with
      | true => cases given
      | false => exact ⟨[], by rw [List.append_nil]; exact (Option.some.inj given).symm⟩
  | cons c rest =>
      have brace : ¬(c = '\x7b' ∧ name = []) := fun both => present both.2
      rw [valueFrom, if_neg (Bool.eq_false_iff.mp (ends c rfl)), if_neg brace] at given
      split at given
      · obtain ⟨tail, _, same⟩ := Option.map_eq_some_iff.mp given
        exact ⟨tail, same.symm⟩
      · obtain ⟨tail, _, same⟩ := Option.map_eq_some_iff.mp given
        exact ⟨c :: tail, same.symm⟩

theorem value?_mentions (vars : Variables) (front : List Char) (quoted : Bool)
    (shown name text value : List Char) (passes : Passes vars front quoted shown)
    (mentions : Mentions name text) (given : value? vars (front ++ text) = some value) :
    ∃ tail, value = shown ++ substituted vars name ++ tail := by
  rw [passes] at given
  cases mentions with
  | plain rest present word ends =>
      obtain ⟨behind, read, rfl⟩ := Option.map_eq_some_iff.mp given
      have named : valueFrom vars (.named quoted ([] ++ name)) rest = some behind := by
        rw [← valueFrom_word vars quoted name rest word []]
        exact read
      obtain ⟨tail, rfl⟩ := valueFrom_ends vars quoted name rest behind present ends named
      exact ⟨tail, (List.append_assoc ..).symm⟩
  | braced rest inside =>
      rw [valueFrom_braced vars quoted name rest inside, map_shown] at given
      obtain ⟨tail, _, rfl⟩ := Option.map_eq_some_iff.mp given
      exact ⟨tail, rfl⟩

end PgJson.EnvFile
