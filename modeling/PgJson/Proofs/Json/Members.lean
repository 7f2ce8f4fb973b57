import PgJson.Json.Basic
import Mathlib.Data.List.Induction
import Mathlib.Data.List.Nodup
import Mathlib.Data.String.Basic

namespace PgJson.Json

theorem mem_put (name : String) (value : Json) (held : List (String × Json)) (m : String × Json)
    (member : m ∈ put name value held) : m = (name, value) ∨ m ∈ held := by
  induction held with
  | nil => exact .inl (List.mem_singleton.mp member)
  | cons first held ih =>
      rw [put] at member
      split at member
      · exact List.mem_cons.mp member
      split at member
      · rcases List.mem_cons.mp member with same | later
        · exact .inl same
        · exact .inr (List.mem_cons_of_mem _ later)
      · rcases List.mem_cons.mp member with same | later
        · exact .inr (same ▸ List.mem_cons_self ..)
        · exact (ih later).imp_right (List.mem_cons_of_mem _)

theorem pairwise_put (name : String) (value : Json) (held : List (String × Json))
    (ascending : held.Pairwise fun a b => a.1 < b.1) :
    (put name value held).Pairwise fun a b => a.1 < b.1 := by
  induction held with
  | nil => exact List.pairwise_singleton ..
  | cons first held ih =>
      obtain ⟨below, others⟩ := List.pairwise_cons.mp ascending
      rw [put]
      split
      · next before =>
        apply List.pairwise_cons.mpr ⟨?_, ascending⟩
        intro m member
        rcases List.mem_cons.mp member with same | later
        · rw [same]
          exact before
        · exact String.lt_trans before (below m later)
      split
      · next same =>
        apply List.pairwise_cons.mpr ⟨?_, others⟩
        intro m member
        rw [same]
        exact below m member
      · next notBefore other =>
        apply List.pairwise_cons.mpr ⟨?_, ih others⟩
        intro m member
        rcases mem_put name value held m member with same | later
        · rw [same]
          by_contra notAfter
          exact other (String.le_antisymm (String.not_lt.mp notAfter) (String.not_lt.mp notBefore))
        · exact below m later

theorem put_last (name : String) (value : Json) (held : List (String × Json))
    (last : ∀ m ∈ held, m.1 < name) : put name value held = held ++ [(name, value)] := by
  induction held with
  | nil => rfl
  | cons m held ih =>
      have above : m.1 < name := last m (List.mem_cons_self ..)
      have others := ih (fun other member => last other (List.mem_cons_of_mem _ member))
      have below : ¬ name < m.1 := String.lt_asymm above
      have other : name ≠ m.1 := fun same => String.lt_irrefl _ (same ▸ above)
      show (if name < m.1 then _ else if name = m.1 then _ else _) = _
      rw [if_neg below, if_neg other, others]
      rfl

theorem mem_names_put (name other : String) (value : Json) (held : List (String × Json)) :
    other ∈ (put name value held).map Prod.fst ↔ other = name ∨ other ∈ held.map Prod.fst := by
  induction held with
  | nil => simp [put]
  | cons m held ih =>
      simp only [put]
      split
      · simp
      split
      · next same => simp [same]
      · simp [ih, or_left_comm]

theorem put_perm (name : String) (value : Json) (held : List (String × Json))
    (new : name ∉ held.map Prod.fst) : (put name value held).Perm ((name, value) :: held) := by
  induction held with
  | nil => exact .refl _
  | cons m held ih =>
      simp only [List.map_cons, List.mem_cons, not_or] at new
      simp only [put, if_neg new.1]
      split
      · exact .refl _
      · exact ((ih new.2).cons m).trans (.swap ..)

/-! ## All members -/

theorem members_concat (pairs : List (String × Json)) (m : String × Json) :
    members (pairs ++ [m]) = put m.1 m.2 (members pairs) := by
  simp [members]

theorem pairwise_members (pairs : List (String × Json)) :
    (members pairs).Pairwise fun a b => a.1 < b.1 := by
  induction pairs using List.reverseRecOn with
  | nil => exact .nil
  | append_singleton pairs m ih =>
      rw [members_concat]
      exact pairwise_put m.1 m.2 _ ih

theorem mem_names_members (pairs : List (String × Json)) (name : String) :
    name ∈ (members pairs).map Prod.fst ↔ name ∈ pairs.map Prod.fst := by
  induction pairs using List.reverseRecOn with
  | nil => simp [members]
  | append_singleton pairs m ih =>
      rw [members_concat, mem_names_put, ih]
      simp [or_comm]

theorem mem_of_mem_members (pairs : List (String × Json)) (m : String × Json)
    (member : m ∈ members pairs) : m ∈ pairs := by
  induction pairs using List.reverseRecOn with
  | nil => exact member
  | append_singleton pairs last ih =>
      rw [members_concat] at member
      apply List.mem_append.mpr
      rcases mem_put last.1 last.2 _ m member with same | held
      · exact .inr (List.mem_singleton.mpr same)
      · exact .inl (ih held)

theorem lookup_members (pairs : List (String × Json)) (name : String) :
    (members pairs).lookup name = pairs.reverse.lookup name := by
  induction pairs using List.reverseRecOn with
  | nil => rfl
  | append_singleton pairs m ih =>
      rw [members_concat, lookup_put, ih, List.reverse_append, List.reverse_singleton,
        List.singleton_append, lookup_cons]

theorem members_ascending (pairs : List (String × Json))
    (ascending : pairs.Pairwise fun a b => a.1 < b.1) : members pairs = pairs := by
  induction pairs using List.reverseRecOn with
  | nil => rfl
  | append_singleton pairs m ih =>
      obtain ⟨front, _, last⟩ := List.pairwise_append.mp ascending
      rw [members_concat, ih front]
      apply put_last
      intro other member
      exact last other member m (List.mem_singleton_self m)

theorem members_perm (pairs : List (String × Json)) (distinct : (pairs.map Prod.fst).Nodup) :
    (members pairs).Perm pairs := by
  induction pairs using List.reverseRecOn with
  | nil => exact .refl _
  | append_singleton pairs m ih =>
      simp only [List.map_append, List.map_cons, List.map_nil, List.nodup_append,
        List.mem_singleton] at distinct
      obtain ⟨front, _, other⟩ := distinct
      have new : m.1 ∉ (members pairs).map Prod.fst := by
        rw [mem_names_members]
        intro member
        exact other m.1 member m.1 rfl rfl
      rw [members_concat]
      calc
        List.Perm (put m.1 m.2 (members pairs)) (m :: members pairs) := put_perm m.1 m.2 _ new
        List.Perm _ (m :: pairs) := (ih front).cons m
        List.Perm _ (pairs ++ [m]) := (List.perm_append_singleton m pairs).symm

theorem members_eq_of_perm (pairs others : List (String × Json))
    (distinct : (pairs.map Prod.fst).Nodup) (perm : pairs.Perm others) :
    members pairs = members others := by
  have distinct' : (others.map Prod.fst).Nodup := (perm.map Prod.fst).nodup_iff.mp distinct
  have same : (members pairs).Perm (members others) :=
    (members_perm pairs distinct).trans (perm.trans (members_perm others distinct').symm)
  apply List.Perm.eq_of_pairwise ?_ (pairwise_members pairs) (pairwise_members others) same
  intro a b _ _ before after
  exact absurd before (String.lt_asymm after)

theorem get?_ofMembers (pairs : List (String × Json)) (distinct : (pairs.map (·.1)).Nodup)
    (name : String) (value : Json) (member : (name, value) ∈ pairs) :
    (ofMembers pairs).get? name = some value := by
  show (members pairs).lookup name = _
  obtain ⟨before, after, split⟩ := List.append_of_mem (List.mem_reverse.mpr member)
  have names : (pairs.reverse.map (·.1)).Nodup := by
    rw [List.map_reverse]
    exact List.nodup_reverse.mpr distinct
  rw [split, List.map_append, List.map_cons, List.nodup_append] at names
  rw [lookup_members, split, List.lookup_eq_some_iff]
  refine ⟨before, after, rfl, ?_⟩
  intro other passed
  rw [bne_iff_ne]
  exact Ne.symm (names.2.2 other.1 (List.mem_map_of_mem passed) name (List.mem_cons_self ..))

end PgJson.Json
