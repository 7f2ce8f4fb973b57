import PgJson.Proofs.Json.Complete
import PgJson.Proofs.Json.Members

namespace PgJson.Json

open Text

mutual

def depth : Json → Nat
  | .array items => depthOfItems items + 1
  | .object members => depthOfMembers members + 1
  | _ => 0

def depthOfItems : List Json → Nat
  | [] => 0
  | item :: rest => max (depth item) (depthOfItems rest)

def depthOfMembers : List (String × Json) → Nat
  | [] => 0
  | (_, value) :: rest => max (depth value) (depthOfMembers rest)

end

mutual

def Every (p : Json → Prop) : Json → Prop
  | .array items => p (.array items) ∧ EveryItem p items
  | .object members => p (.object members) ∧ EveryMember p members
  | v => p v

def EveryItem (p : Json → Prop) : List Json → Prop
  | [] => True
  | item :: rest => Every p item ∧ EveryItem p rest

def EveryMember (p : Json → Prop) : List (String × Json) → Prop
  | [] => True
  | (_, value) :: rest => Every p value ∧ EveryMember p rest

end

theorem depth_array (items : List Json) : depth (.array items) = depthOfItems items + 1 := rfl

theorem depth_object (members : List (String × Json)) :
    depth (.object members) = depthOfMembers members + 1 := rfl

theorem depthOfItems_cons (item : Json) (rest : List Json) :
    depthOfItems (item :: rest) = max item.depth (depthOfItems rest) := rfl

theorem depthOfMembers_cons (m : String × Json) (rest : List (String × Json)) :
    depthOfMembers (m :: rest) = max m.2.depth (depthOfMembers rest) := rfl

/-- The names of an object ascend, as `put` leaves them. -/
def Ascending : Json → Prop
  | .object members => members.Pairwise fun a b => a.1 < b.1
  | _ => True

def NotFloat : Json → Prop
  | .number (.float ..) => False
  | _ => True

/-- A value with ascending names and without doubles. -/
def Exact (v : Json) : Prop := v.Every Ascending ∧ v.Every NotFloat

theorem depth_le_items (items : List Json) (v : Json) (member : v ∈ items) :
    v.depth ≤ depthOfItems items := by
  induction items with
  | nil => cases member
  | cons first rest ih =>
      rw [depthOfItems_cons]
      rcases List.mem_cons.mp member with same | later
      · rw [same]
        exact Nat.le_max_left ..
      · exact Nat.le_trans (ih later) (Nat.le_max_right ..)

theorem depth_le_members (members : List (String × Json)) (m : String × Json)
    (member : m ∈ members) : m.2.depth ≤ depthOfMembers members := by
  induction members with
  | nil => cases member
  | cons first rest ih =>
      rw [depthOfMembers_cons]
      rcases List.mem_cons.mp member with same | later
      · rw [same]
        exact Nat.le_max_left ..
      · exact Nat.le_trans (ih later) (Nat.le_max_right ..)

theorem everyItem_iff (p : Json → Prop) (items : List Json) :
    EveryItem p items ↔ ∀ v ∈ items, v.Every p := by
  induction items with
  | nil => simp [EveryItem]
  | cons item rest ih => rw [EveryItem, ih, List.forall_mem_cons]

theorem everyMember_iff (p : Json → Prop) (members : List (String × Json)) :
    EveryMember p members ↔ ∀ m ∈ members, m.2.Every p := by
  induction members with
  | nil => simp [EveryMember]
  | cons m rest ih => rw [EveryMember, ih, List.forall_mem_cons]

theorem every_item (p : Json → Prop) (items : List Json) (v : Json) (member : v ∈ items)
    (all : EveryItem p items) : v.Every p :=
  (everyItem_iff p items).mp all v member

theorem every_member (p : Json → Prop) (members : List (String × Json)) (m : String × Json)
    (member : m ∈ members) (all : EveryMember p members) : m.2.Every p :=
  (everyMember_iff p members).mp all m member

theorem ascending_ofMembers (pairs : List (String × Json)) : (ofMembers pairs).Ascending :=
  pairwise_members pairs

/-! ## Text of lists -/

theorem compactItems_eq (items : List Json) : compactItems items = items.map compactChars := by
  induction items with
  | nil => rfl
  | cons item rest ih =>
      show compactChars item :: compactItems rest = _
      rw [ih, List.map_cons]

def memberChars (m : String × Json) : List Char := quoted m.1 ++ ':' :: compactChars m.2

theorem compactMembers_eq (members : List (String × Json)) :
    compactMembers members = members.map memberChars := by
  induction members with
  | nil => rfl
  | cons m rest ih =>
      show memberChars m :: compactMembers rest = _
      rw [ih, List.map_cons]

/-! ## Values -/

theorem text_integer (depth : Nat) (n : Int)
    (range : -0x8000000000000000 ≤ n ∧ n < 0x10000000000000000) :
    IsText depth (compactChars (.number (.integer n range))) (.number (.integer n range)) := by
  cases n with
  | ofNat k =>
      have text : compactChars (.number (.integer (.ofNat k) range)) =
          (Numeral.ofNat false k).text := (Reader.unsigned_ofNat false k).symm
      rw [text]
      exact .number depth _ _ (Reader.value?_ofNat false k _ rfl range fun signed => nomatch signed)
  | negSucc k =>
      have text : compactChars (.number (.integer (.negSucc k) range)) =
          (Numeral.ofNat true (k + 1)).text :=
        congrArg ('-' :: ·) (Reader.unsigned_ofNat true (k + 1)).symm
      rw [text]
      exact .number depth _ _ (Reader.value?_ofNat true (k + 1) _ rfl range fun _ => by omega)

def Item.compact (v : Json) : Item := ⟨[], compactChars v, [], v⟩

theorem Item.compact_chars (v : Json) : (Item.compact v).chars = compactChars v :=
  List.append_nil _

theorem spaced_compact (v : Json) : (Item.compact v).Spaced :=
  ⟨gap_nil, gap_nil⟩

theorem text_array (depth : Nat) (vs : List Json)
    (texts : ∀ v ∈ vs, IsText depth (compactChars v) v) :
    IsText (depth + 1) (compactChars (.array vs)) (.array vs) := by
  have items : (vs.map Item.compact).map Item.chars = compactItems vs := by
    rw [compactItems_eq, List.map_map]
    exact List.map_congr_left fun v _ => Item.compact_chars v
  have values : (vs.map Item.compact).map Item.value = vs := by
    rw [List.map_map]
    exact List.map_id vs
  cases vs with
  | nil => exact .emptyArray depth [] gap_nil
  | cons v vs =>
      have grammar := IsText.array depth ((v :: vs).map Item.compact) (List.cons_ne_nil _ _)
        (List.forall_mem_map.mpr fun v _ => spaced_compact v) (List.forall_mem_map.mpr texts)
      rw [items, values] at grammar
      exact grammar

def Member.compact (m : String × Json) : Member :=
  ⟨[], m.1.toList.flatMap escaped, [], m.1.toList, .compact m.2⟩

theorem Member.compact_chars (m : String × Json) : (Member.compact m).chars = memberChars m := by
  simp [Member.compact, Member.chars, Item.compact, Item.chars, memberChars, quoted]

theorem Member.compact_pair (m : String × Json) : (Member.compact m).pair = m := by
  show (String.ofList m.1.toList, m.2) = m
  rw [String.ofList_toList]

theorem named_compact (m : String × Json) : (Member.compact m).Named :=
  ⟨gap_nil, body_escaped m.1.toList, gap_nil⟩

theorem text_object (depth : Nat) (ms : List (String × Json))
    (ascending : ms.Pairwise fun a b => a.1 < b.1)
    (texts : ∀ m ∈ ms, IsText depth (compactChars m.2) m.2) :
    IsText (depth + 1) (compactChars (.object ms)) (.object ms) := by
  have chars : (ms.map Member.compact).map Member.chars = compactMembers ms := by
    rw [compactMembers_eq, List.map_map]
    exact List.map_congr_left fun m _ => Member.compact_chars m
  have pairs : (ms.map Member.compact).map Member.pair = ms := by
    rw [List.map_map]
    exact (List.map_congr_left fun m _ => Member.compact_pair m).trans (List.map_id ms)
  cases ms with
  | nil => exact .emptyObject depth [] gap_nil
  | cons m ms =>
      have grammar := IsText.object depth ((m :: ms).map Member.compact) (List.cons_ne_nil _ _)
        (List.forall_mem_map.mpr fun m _ => named_compact m)
        (List.forall_mem_map.mpr fun m _ => spaced_compact m.2) (List.forall_mem_map.mpr texts)
      rw [chars, pairs, ofMembers, members_ascending _ ascending] at grammar
      exact grammar

theorem text_leaf (limit : Nat) (v : Json) (leaf : v.depth = 0) (whole : v.Every NotFloat) :
    IsText limit v.compactChars v := by
  cases v with
  | null => exact .null limit
  | bool b =>
      cases b with
      | true => exact .true limit
      | false => exact .false limit
  | number n =>
      cases n with
      | integer n range => exact text_integer limit n range
      | float x finite => exact False.elim whole
  | string s =>
      have grammar := IsText.string limit _ s.toList (body_escaped s.toList)
      rw [String.ofList_toList] at grammar
      exact grammar
  | array items =>
      rw [depth_array] at leaf
      exact absurd leaf (Nat.succ_ne_zero _)
  | object members =>
      rw [depth_object] at leaf
      exact absurd leaf (Nat.succ_ne_zero _)

/-- A layout denotes each value without doubles that nests no deeper than the limit, if it prints
single values as compact text does and denotes an array or an object whose values it denotes a level
further in. By induction on the limit. -/
theorem text_of_layout (chars : Nat → Json → List Char)
    (leaf : ∀ level v, v.depth = 0 → chars level v = compactChars v)
    (array : ∀ depth level vs, (∀ v ∈ vs, IsText depth (chars (level + 1) v) v) →
      IsText (depth + 1) (chars level (.array vs)) (.array vs))
    (object : ∀ depth level ms, (ms.Pairwise fun a b => a.1 < b.1) →
      (∀ m ∈ ms, IsText depth (chars (level + 1) m.2) m.2) →
      IsText (depth + 1) (chars level (.object ms)) (.object ms))
    (limit level : Nat) (v : Json) (within : v.depth ≤ limit) (ascending : v.Every Ascending)
    (whole : v.Every NotFloat) : IsText limit (chars level v) v := by
  induction limit generalizing level v with
  | zero =>
      have single : v.depth = 0 := Nat.le_zero.mp within
      rw [leaf level v single]
      exact text_leaf 0 v single whole
  | succ limit ih =>
      cases v with
      | array items =>
          rw [depth_array] at within
          apply array limit level items
          intro v member
          exact ih _ v (le_trans (depth_le_items items v member) (Nat.le_of_succ_le_succ within))
            (every_item _ items v member ascending.2) (every_item _ items v member whole.2)
      | object members =>
          rw [depth_object] at within
          apply object limit level members ascending.1
          intro m member
          exact ih _ m.2 (le_trans (depth_le_members members m member)
            (Nat.le_of_succ_le_succ within)) (every_member _ members m member ascending.2)
            (every_member _ members m member whole.2)
      | _ =>
          rw [leaf level _ rfl]
          exact text_leaf _ _ rfl whole

theorem text_compact (limit : Nat) (v : Json) (within : v.depth ≤ limit)
    (ascending : v.Every Ascending) (whole : v.Every NotFloat) :
    IsText limit v.compactChars v := by
  apply text_of_layout (fun _ => compactChars) ?_ ?_ ?_ limit 0 v within ascending whole
  · intro _ _ _
    rfl
  · intro depth _ vs texts
    exact text_array depth vs texts
  · intro depth _ ms ascending texts
    exact text_object depth ms ascending texts

theorem denoted_of_text (depth : Nat) (text : List Char) (v : Json)
    (grammar : IsText depth text v) : Denoted depth text v :=
  ⟨[], text, [], (List.append_nil text).symm, gap_nil, gap_nil, grammar⟩

theorem parse_numeral (n : Numeral) (v : Number) (value : n.value? = some v) :
    parse (Utf8.encode n.text) = .ok (.number v) :=
  parse_of_denoted n.text _ (denoted_of_text maxDepth _ _ (.number maxDepth n v value))

theorem parse_refused (n : Numeral) (value : n.value? = none) :
    ∃ e, parse (Utf8.encode n.text) = .error e := by
  obtain ⟨f, refused⟩ := Reader.number_refused n value [] trivial
  have read := Reader.value_numeral maxDepth n []
  rw [refused, List.append_nil] at read
  have whole : readText (Utf8.encode n.text) = .error f := by
    rw [readText, read]
    rfl
  rw [parse, whole]
  exact ⟨_, rfl⟩

theorem parse_compactChars (v : Json) (exact : v.Exact) (within : v.depth ≤ maxDepth) :
    parse (Utf8.encode v.compactChars) = .ok v :=
  parse_of_denoted v.compactChars v
    (denoted_of_text maxDepth _ _ (text_compact maxDepth v within exact.1 exact.2))

end PgJson.Json
