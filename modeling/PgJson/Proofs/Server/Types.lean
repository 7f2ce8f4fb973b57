import PgJson.Server.Connection
import Mathlib.Data.List.Forall2
import Mathlib.Data.List.Nodup
import Mathlib.Data.List.Perm.Subperm

namespace PgJson

def TypeShape.parts : TypeShape → List TypeRef
  | .simple | .labels => []
  | .domain base => [base]
  | .array element => [element]
  | .range bound => [bound]
  | .composite fields => fields

def OwnType.made (own : OwnType) (part : TypeRef → SqlType) : SqlType :=
  match own.shape with
  | .array element => .ownArray own.name (part element)
  | _ => .own own.name

theorem OwnType.made_congr (own : OwnType) (part part' : TypeRef → SqlType)
    (same : ∀ ref ∈ own.shape.parts, part ref = part' ref) : own.made part = own.made part' := by
  unfold made
  cases shape : own.shape with
  | array element =>
      have first := same element (by simp [shape, TypeShape.parts])
      simp only [first]
  | _ => rfl

namespace Connection

def known? (c : Connection) (oid : Nat) : Option SqlType :=
  (SqlType.ofNumber? oid).or (c.types.lookup oid)

/-- What a reference stands for, through at most `n` levels of the server's own types: its parts must
stand for something too. -/
inductive Denotes (s : Server) (c : Connection) : Nat → TypeRef → SqlType → Prop where
  | named (n : Nat) (name : String) : Denotes s c n (.named name) (.builtIn name)
  | known (n oid : Nat) (t : SqlType) (found : c.known? oid = some t) :
      Denotes s c n (.numbered oid) t
  | own (n oid : Nat) (own : OwnType) (part : TypeRef → SqlType) (unknown : c.known? oid = none)
      (found : s.ownType? oid = some own)
      (parts : ∀ ref ∈ own.shape.parts, Denotes s c n ref (part ref)) :
      Denotes s c (n + 1) (.numbered oid) (own.made part)

section Levels

variable (s : Server) (c : Connection)

theorem Denotes.mono {n m : Nat} {ref : TypeRef} {t : SqlType} (denotes : Denotes s c n ref t)
    (le : n ≤ m) : Denotes s c m ref t := by
  induction denotes generalizing m with
  | named n name => exact .named m name
  | known n oid t found => exact .known m oid t found
  | own n oid own part unknown found parts ih =>
      obtain ⟨k, rfl⟩ : ∃ k, m = k + 1 := ⟨m - 1, by omega⟩
      exact .own k oid own part unknown found fun ref member => ih ref member (by omega)

theorem Denotes.unique {n m : Nat} {ref : TypeRef} {t u : SqlType} (one : Denotes s c n ref t)
    (other : Denotes s c m ref u) : t = u := by
  induction one generalizing m u with
  | named n name =>
      cases other with
      | named => rfl
  | known n oid t found =>
      cases other with
      | known _ _ _ found' => exact Option.some.inj (found.symm.trans found')
      | own _ _ _ _ unknown => simp [found] at unknown
  | own n oid own part unknown found parts ih =>
      cases other with
      | known _ _ _ found' => simp [unknown] at found'
      | own _ _ own' part' _ found' parts' =>
          have same : own = own' := Option.some.inj (found.symm.trans found')
          subst same
          exact own.made_congr part part' fun ref member => ih ref member (parts' ref member)

theorem Denotes.of_named {n : Nat} {name : String} {t : SqlType}
    (denotes : Denotes s c n (.named name) t) : t = .builtIn name := by
  cases denotes with
  | named => rfl

def TakesLevels (n oid : Nat) : Prop :=
  (∃ t, Denotes s c (n + 1) (.numbered oid) t) ∧ ∀ t, ¬ Denotes s c n (.numbered oid) t

theorem TakesLevels.listed {n oid : Nat} (takes : TakesLevels s c n oid) :
    oid ∈ s.types.map OwnType.oid := by
  obtain ⟨⟨t, denotes⟩, least⟩ := takes
  cases denotes with
  | known _ _ _ found => exact absurd (.known n oid t found) (least t)
  | own _ _ own _ _ found =>
      have number := List.find?_some found
      exact List.mem_map.mpr ⟨own, List.mem_of_find?_eq_some found, by simpa using number⟩

theorem TakesLevels.part {n oid : Nat} (takes : TakesLevels s c (n + 1) oid) :
    ∃ oid', TakesLevels s c n oid' := by
  obtain ⟨⟨t, denotes⟩, least⟩ := takes
  cases denotes with
  | known _ _ _ found => exact absurd (.known (n + 1) oid t found) (least t)
  | own _ _ own part unknown found parts =>
      by_contra none
      apply least (own.made part)
      apply Denotes.own n oid own part unknown found
      intro ref member
      cases ref with
      | named name =>
          rw [(parts _ member).of_named s c]
          exact .named n name
      | numbered oid' =>
          by_contra deeper
          have takes : TakesLevels s c n oid' := by
            refine ⟨⟨_, parts _ member⟩, ?_⟩
            intro u shallow
            have same := (parts _ member).unique s c shallow
            exact deeper (same ▸ shallow)
          exact none ⟨oid', takes⟩

theorem TakesLevels.chain {n oid : Nat} (takes : TakesLevels s c n oid) :
    ∃ oids : Nat → Nat, ∀ k ≤ n, TakesLevels s c k (oids k) := by
  induction n generalizing oid with
  | zero =>
      refine ⟨fun _ => oid, ?_⟩
      intro k le
      obtain rfl : k = 0 := by omega
      exact takes
  | succ n ih =>
      obtain ⟨oid', part⟩ := takes.part
      obtain ⟨oids, below⟩ := ih part
      refine ⟨fun k => if k = n + 1 then oid else oids k, ?_⟩
      intro k le
      by_cases last : k = n + 1
      · subst last
        simpa using takes
      · simpa [last] using below k (by omega)

theorem TakesLevels.level_unique {n m oid : Nat} (one : TakesLevels s c n oid)
    (other : TakesLevels s c m oid) : n = m := by
  obtain ⟨⟨t, denotes⟩, least⟩ := one
  obtain ⟨⟨u, denotes'⟩, least'⟩ := other
  by_contra apart
  rcases Nat.lt_or_gt_of_ne apart with lt | lt
  · exact least' t (denotes.mono s c lt)
  · exact least u (denotes'.mono s c lt)

/-- Types of different levels are different types, so there are not more levels than types. -/
theorem TakesLevels.lt_length {n oid : Nat} (takes : TakesLevels s c n oid) :
    n < s.types.length := by
  obtain ⟨oids, each⟩ := takes.chain
  have distinct : ((List.range (n + 1)).map oids).Nodup := by
    apply List.Nodup.map_on
    · intro k member k' member' same
      have one := each k (by simpa [Nat.lt_succ_iff] using member)
      have other := each k' (by simpa [Nat.lt_succ_iff] using member')
      rw [same] at one
      exact one.level_unique s c other
    · exact List.nodup_range
  have listed : (List.range (n + 1)).map oids ⊆ s.types.map OwnType.oid := by
    intro oid' member
    obtain ⟨k, present, rfl⟩ := List.mem_map.mp member
    exact (each k (by simpa [Nat.lt_succ_iff] using present)).listed
  have bound := (distinct.subperm listed).length_le
  simp only [List.length_map, List.length_range] at bound
  omega

theorem Denotes.within_length {n : Nat} {ref : TypeRef} {t : SqlType}
    (denotes : Denotes s c n ref t) : Denotes s c s.types.length ref t := by
  induction n with
  | zero => exact denotes.mono s c (Nat.zero_le _)
  | succ n ih =>
      by_cases shallow : Denotes s c n ref t
      · exact ih shallow
      · cases ref with
        | named name =>
            rw [denotes.of_named s c]
            exact .named _ name
        | numbered oid =>
            have takes : TakesLevels s c n oid := by
              refine ⟨⟨t, denotes⟩, ?_⟩
              intro u shallow'
              have same := denotes.unique s c shallow'
              exact shallow (same ▸ shallow')
            exact denotes.mono s c takes.lt_length

end Levels

end Connection
end PgJson
