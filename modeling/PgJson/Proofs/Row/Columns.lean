import PgJson.Proofs.Column.Null
import PgJson.Proofs.Json.Members
import PgJson.Row
import Mathlib.Data.List.Perm.Basic

/-!
What a row is as an object: a member for each name of its columns, of a repeated name that of the
last column. Where a column stands matters to the text of an error and not to a value.
-/

namespace PgJson

namespace Column

theorem decode_ok_anywhere (c : Column) (i j : Nat) (cell : Option Bytes) (v : Json)
    (value : c.decode i cell = .ok v) : c.decode j cell = .ok v := by
  cases cell with
  | none => exact value
  | some bytes =>
      apply (Outcome.mapCause_ok_iff _ _ _).mpr
      apply (decodeCell_ok_iff ..).mpr
      exact (decodeCell_ok_iff ..).mp ((Outcome.mapCause_ok_iff _ _ _).mp value)

end Column

namespace Row

def Gives (place : Column × Option Bytes) (m : String × Json) : Prop :=
  m.1 = place.1.name ∧ ∀ index, place.1.decode index place.2 = .ok m.2

theorem membersFrom_ok_iff (index : Nat) (columns : List Column) (row : Row)
    (pairs : List (String × Json)) :
    membersFrom index columns row = .ok pairs ↔
      columns.length ≤ row.length ∧ List.Forall₂ Gives (columns.zip row) pairs := by
  induction columns generalizing index row pairs with
  | nil => simp [membersFrom, eq_comm]
  | cons c columns ih =>
      cases row with
      | nil => simp [membersFrom, Outcome.crash]
      | cons cell row =>
          simp only [membersFrom, bind_ok_iff, ih, List.zip_cons_cons, List.forall₂_cons_left_iff,
            List.length_cons, Nat.add_le_add_iff_right]
          constructor
          · intro done
            obtain ⟨v, value, rest, ⟨enough, others⟩, same⟩ := done
            cases same
            exact ⟨enough, (c.name, v), rest,
              ⟨rfl, fun j => c.decode_ok_anywhere index j cell v value⟩, others, rfl⟩
          · intro given
            obtain ⟨enough, ⟨name, v⟩, rest, ⟨named, value⟩, others, same⟩ := given
            have named : name = c.name := named
            exact ⟨v, value index, rest, ⟨enough, others⟩, by rw [same, named]⟩

theorem toJson_ok_iff (columns : List Column) (row : Row) (v : Json) :
    toJson columns row = .ok v ↔
      columns.length ≤ row.length ∧
        ∃ pairs, List.Forall₂ Gives (columns.zip row) pairs ∧ v = Json.ofMembers pairs := by
  simp only [toJson, Outcome.map_ok_iff, membersFrom_ok_iff]
  constructor
  · intro done
    obtain ⟨pairs, ⟨enough, given⟩, same⟩ := done
    exact ⟨enough, pairs, given, same.symm⟩
  · intro done
    obtain ⟨enough, pairs, given, same⟩ := done
    exact ⟨pairs, ⟨enough, given⟩, same.symm⟩

theorem names_given (columns : List Column) (row : Row) (pairs : List (String × Json))
    (enough : columns.length ≤ row.length) (given : List.Forall₂ Gives (columns.zip row) pairs) :
    pairs.map Prod.fst = columns.map Column.name := by
  induction columns generalizing row pairs with
  | nil =>
      cases given
      rfl
  | cons c columns ih =>
      cases row with
      | nil => simp at enough
      | cons cell row =>
          cases given with
          | cons first others =>
              rw [List.map_cons, List.map_cons, first.1,
                ih row _ (Nat.le_of_succ_le_succ enough) others]

theorem value_given (front back : List Column) (c : Column) (row : Row)
    (pairs : List (String × Json)) (last : c.name ∉ back.map Column.name)
    (enough : (front ++ c :: back).length ≤ row.length)
    (given : List.Forall₂ Gives ((front ++ c :: back).zip row) pairs) :
    ∃ cell w, row[front.length]? = some cell ∧ c.decode front.length cell = .ok w ∧
      pairs.reverse.lookup c.name = some w := by
  induction front generalizing row pairs with
  | nil =>
      cases row with
      | nil => simp at enough
      | cons cell row =>
          cases given with
          | @cons _ m _ others first rest =>
              obtain ⟨named, value⟩ := first
              have names := names_given back row others (Nat.le_of_succ_le_succ enough) rest
              refine ⟨cell, m.2, rfl, value 0, ?_⟩
              rw [List.reverse_cons, List.lookup_append]
              have absent : others.reverse.lookup c.name = none := by
                rw [List.lookup_eq_none_iff]
                intro other member
                rw [bne_iff_ne]
                intro same
                apply last
                rw [← names, same]
                exact List.mem_map_of_mem (List.mem_reverse.mp member)
              rw [absent, Option.none_or, Json.lookup_cons, if_pos named.symm]
  | cons first front ih =>
      cases row with
      | nil => simp at enough
      | cons cell row =>
          cases given with
          | @cons _ m _ others _ rest =>
              obtain ⟨cell, w, found, value, held⟩ :=
                ih row others (Nat.le_of_succ_le_succ enough) rest
              refine ⟨cell, w, found, c.decode_ok_anywhere _ _ cell w value, ?_⟩
              rw [List.reverse_cons, List.lookup_append, held, Option.some_or]

theorem toJson_perm (columns columns' : List Column) (row row' : Row) (v : Json)
    (distinct : (columns.map Column.name).Nodup) (enough : columns'.length ≤ row'.length)
    (perm : (columns'.zip row').Perm (columns.zip row)) (decoded : toJson columns row = .ok v) :
    toJson columns' row' = .ok v := by
  obtain ⟨held, pairs, given, same⟩ := (toJson_ok_iff columns row v).mp decoded
  obtain ⟨pairs', given', perm'⟩ := List.perm_comp_forall₂ perm given
  apply (toJson_ok_iff columns' row' v).mpr
  refine ⟨enough, pairs', given', ?_⟩
  rw [← names_given columns row pairs held given] at distinct
  rw [same, Json.ofMembers, Json.ofMembers,
    Json.members_eq_of_perm pairs pairs' distinct perm'.symm]

/-- A decoded row is an object of its columns' names, each once. Under a name stands what the last
column of that name decodes its own cell to. Columns of different names give one member each, in
whatever order they and their cells come. -/
theorem toJson_columns (columns : List Column) (row : Row) (v : Json)
    (decoded : toJson columns row = .ok v) :
    ∃ members, v = .object members ∧
      members.Pairwise (fun a b => a.1 < b.1) ∧
      (∀ name, name ∈ members.map Prod.fst ↔ name ∈ columns.map Column.name) ∧
      (∀ front c back, columns = front ++ c :: back → c.name ∉ back.map Column.name →
        ∃ cell w, row[front.length]? = some cell ∧ c.decode front.length cell = .ok w ∧
          members.lookup c.name = some w) ∧
      ((columns.map Column.name).Nodup →
        (members.map Prod.fst).Perm (columns.map Column.name) ∧
          ∀ (columns' : List Column) (row' : Row), columns'.length ≤ row'.length →
            (columns'.zip row').Perm (columns.zip row) → toJson columns' row' = .ok v) := by
  obtain ⟨enough, pairs, given, same⟩ := (toJson_ok_iff columns row v).mp decoded
  have names := names_given columns row pairs enough given
  refine ⟨Json.members pairs, same, Json.pairwise_members pairs, ?_, ?_, ?_⟩
  · intro name
    rw [Json.mem_names_members, names]
  · intro front c back split last
    subst split
    rw [Json.lookup_members]
    exact value_given front back c row pairs last enough given
  · intro distinct
    constructor
    · rw [← names] at distinct ⊢
      exact (Json.members_perm pairs distinct).map Prod.fst
    · intro columns' row' enough' perm
      exact toJson_perm columns columns' row row' v distinct enough' perm decoded

theorem toJson_columns_repeated :
    let text : Column := ⟨"id", .builtIn "TEXT"⟩
    let number : Column := ⟨"id", .builtIn "INT2"⟩
    let flag : Column := ⟨"ok", .builtIn "BOOL"⟩
    (∃ members, toJson [text, flag, number] [some [0x37], some [1], some [0, 9]] =
        .ok (.object members) ∧ (members.map Prod.fst).Nodup ∧
          members.lookup "id" = some (.ofInt 9)) ∧
      ∃ v, toJson [number, flag] [some [0, 9], some [1]] = .ok v ∧
        toJson [flag, number] [some [1], some [0, 9]] = .ok v := by
  intro text number flag
  constructor
  · obtain ⟨members, same, ascending, _, values, _⟩ :=
      toJson_columns [text, flag, number] [some [0x37], some [1], some [0, 9]] _ rfl
    obtain ⟨cell, w, found, value, held⟩ :=
      values [text, flag] number [] rfl List.not_mem_nil
    cases found
    cases value
    refine ⟨members, congrArg Except.ok same, ?_, held⟩
    apply List.pairwise_map.mpr
    exact ascending.imp fun before => ne_of_lt before
  · refine ⟨_, rfl, ?_⟩
    obtain ⟨members, _, _, _, _, distinct⟩ :=
      toJson_columns [number, flag] [some [0, 9], some [1]] _ rfl
    exact (distinct (by decide)).2 [flag, number] [some [1], some [0, 9]] (by decide) (.swap ..)

end Row
end PgJson
