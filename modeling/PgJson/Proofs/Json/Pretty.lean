import PgJson.Proofs.Json.OneLine
import PgJson.Proofs.Json.RoundTrip

namespace PgJson.Json

open Text

/-! ## Lists on lines of their own -/

theorem joined_concat (separator : Char) (pieces : List (List Char)) (last rest : List Char) :
    joined [separator] (pieces ++ [last ++ rest]) =
      joined [separator] (pieces ++ [last]) ++ rest := by
  cases pieces with
  | nil => rfl
  | cons piece pieces => simp [joined_cons]

theorem joined_indented (separator : Char) (gap : List Char) (pieces : List (List Char))
    (present : pieces ≠ []) :
    gap ++ joined (separator :: gap) pieces = joined [separator] (pieces.map (gap ++ ·)) := by
  cases pieces with
  | nil => exact absurd rfl present
  | cons piece pieces =>
      rw [joined_flatMap, List.map_cons, joined_cons, List.flatMap_map, List.append_assoc]
      rfl

theorem block_eq (left right : Char) (level : Nat) (pieces : List (List Char))
    (present : pieces ≠ []) :
    block left right level pieces =
      left :: (joined [','] (pieces.map (indentation (level + 1) ++ ·)) ++
        (indentation level ++ [right])) := by
  rw [← joined_indented ',' _ pieces present]
  cases pieces with
  | nil => exact absurd rfl present
  | cons piece pieces => simp [block]

theorem gap_indentation (level : Nat) : Gap (indentation level) := by
  intro c member
  rcases mem_indentation level c member with line | space
  · rw [line]
    rfl
  · rw [space]
    rfl

/-! ## White space before the closing bracket -/

def Item.closed (gap : List Char) (i : Item) : Item := { i with after := i.after ++ gap }

def Member.closed (gap : List Char) (m : Member) : Member := { m with item := m.item.closed gap }

theorem Item.closed_chars (gap : List Char) (i : Item) : (i.closed gap).chars = i.chars ++ gap := by
  simp [Item.closed, Item.chars]

theorem Member.closed_chars (gap : List Char) (m : Member) :
    (m.closed gap).chars = m.chars ++ gap := by
  simp [Member.closed, Member.chars, Item.closed_chars]

theorem spaced_closed (gap : List Char) (i : Item) (blank : Gap gap) (spaced : i.Spaced) :
    (i.closed gap).Spaced :=
  ⟨spaced.1, gap_append _ _ spaced.2 blank⟩

theorem forall_mem_concat {α : Type} {p : α → Prop} (front : List α) (last : α) :
    (∀ x ∈ front ++ [last], p x) ↔ (∀ x ∈ front, p x) ∧ p last := by
  rw [List.forall_mem_append, List.forall_mem_singleton]

theorem text_array_closed (depth : Nat) (items : List Item) (gap : List Char) (present : items ≠ [])
    (spaced : ∀ i ∈ items, i.Spaced) (texts : ∀ i ∈ items, IsText depth i.text i.value)
    (blank : Gap gap) :
    IsText (depth + 1) ('[' :: (joined [','] (items.map Item.chars) ++ (gap ++ [']'])))
      (.array (items.map Item.value)) := by
  rcases List.eq_nil_or_concat' items with none | ⟨front, last, rfl⟩
  · exact absurd none present
  · rw [forall_mem_concat] at spaced texts
    have grammar := IsText.array depth (front ++ [last.closed gap]) (by simp)
      ((forall_mem_concat ..).mpr ⟨spaced.1, spaced_closed gap last blank spaced.2⟩)
      ((forall_mem_concat ..).mpr texts)
    rw [List.map_append, List.map_singleton, Item.closed_chars, joined_concat] at grammar
    simpa [Item.closed] using grammar

theorem text_object_closed (depth : Nat) (members : List Member) (gap : List Char)
    (present : members ≠ []) (named : ∀ m ∈ members, m.Named)
    (spaced : ∀ m ∈ members, m.item.Spaced)
    (texts : ∀ m ∈ members, IsText depth m.item.text m.item.value) (blank : Gap gap) :
    IsText (depth + 1)
      ('\x7b' :: (joined [','] (members.map Member.chars) ++ (gap ++ ['\x7d'])))
      (ofMembers (members.map Member.pair)) := by
  rcases List.eq_nil_or_concat' members with none | ⟨front, last, rfl⟩
  · exact absurd none present
  · rw [forall_mem_concat] at named spaced texts
    have grammar := IsText.object depth (front ++ [last.closed gap]) (by simp)
      ((forall_mem_concat ..).mpr named)
      ((forall_mem_concat ..).mpr ⟨spaced.1, spaced_closed gap last.item blank spaced.2⟩)
      ((forall_mem_concat ..).mpr texts)
    rw [List.map_append, List.map_singleton, Member.closed_chars, joined_concat] at grammar
    simpa [Member.closed, Item.closed, Member.pair] using grammar

/-! ## Values -/

theorem prettyItems_eq (level : Nat) (items : List Json) :
    prettyItems level items = items.map (prettyChars level) := by
  induction items with
  | nil => rfl
  | cons item rest ih =>
      show prettyChars level item :: prettyItems level rest = _
      rw [ih, List.map_cons]

def prettyMember (level : Nat) (m : String × Json) : List Char :=
  quoted m.1 ++ ':' :: ' ' :: prettyChars level m.2

theorem prettyMembers_eq (level : Nat) (members : List (String × Json)) :
    prettyMembers level members = members.map (prettyMember level) := by
  induction members with
  | nil => rfl
  | cons m rest ih =>
      show prettyMember level m :: prettyMembers level rest = _
      rw [ih, List.map_cons]

def Item.pretty (level : Nat) (v : Json) : Item := ⟨indentation level, prettyChars level v, [], v⟩

def Member.pretty (level : Nat) (m : String × Json) : Member :=
  ⟨indentation level, m.1.toList.flatMap escaped, [], m.1.toList,
    ⟨[' '], prettyChars level m.2, [], m.2⟩⟩

theorem text_array_pretty (depth level : Nat) (vs : List Json)
    (texts : ∀ v ∈ vs, IsText depth (prettyChars (level + 1) v) v) :
    IsText (depth + 1) (prettyChars level (.array vs)) (.array vs) := by
  show IsText (depth + 1) (block '[' ']' level (prettyItems (level + 1) vs)) _
  rw [prettyItems_eq]
  by_cases empty : vs = []
  · rw [empty]
    exact .emptyArray depth [] gap_nil
  · have grammar := text_array_closed depth (vs.map (.pretty (level + 1))) (indentation level)
      (by simpa using empty)
      (List.forall_mem_map.mpr fun v _ => ⟨gap_indentation _, gap_nil⟩)
      (List.forall_mem_map.mpr texts) (gap_indentation level)
    rw [block_eq _ _ _ _ (by simpa using empty)]
    simpa [Function.comp_def, Item.pretty, Item.chars] using grammar

theorem text_object_pretty (depth level : Nat) (ms : List (String × Json))
    (ascending : ms.Pairwise fun a b => a.1 < b.1)
    (texts : ∀ m ∈ ms, IsText depth (prettyChars (level + 1) m.2) m.2) :
    IsText (depth + 1) (prettyChars level (.object ms)) (.object ms) := by
  show IsText (depth + 1) (block '\x7b' '\x7d' level (prettyMembers (level + 1) ms)) _
  rw [prettyMembers_eq]
  by_cases empty : ms = []
  · rw [empty]
    exact .emptyObject depth [] gap_nil
  · have space : Gap [' '] := by simp [Gap, isGapChar]
    have grammar := text_object_closed depth (ms.map (.pretty (level + 1))) (indentation level)
      (by simpa using empty)
      (List.forall_mem_map.mpr fun m _ =>
        ⟨gap_indentation _, body_escaped m.1.toList, gap_nil⟩)
      (List.forall_mem_map.mpr fun m _ => ⟨space, gap_nil⟩)
      (List.forall_mem_map.mpr texts) (gap_indentation level)
    have pairs : (ms.map (Member.pretty (level + 1))).map Member.pair = ms := by
      simp [Function.comp_def, Member.pretty, Member.pair]
    rw [pairs, ofMembers, members_ascending _ ascending] at grammar
    rw [block_eq _ _ _ _ (by simpa using empty)]
    simpa [Function.comp_def, Member.pretty, Member.chars, Item.chars, prettyMember, quoted]
      using grammar

theorem pretty_leaf (level : Nat) (v : Json) (leaf : v.depth = 0) :
    prettyChars level v = compactChars v := by
  cases v with
  | array items => exact absurd leaf (Nat.succ_ne_zero _)
  | object members => exact absurd leaf (Nat.succ_ne_zero _)
  | bool b =>
      cases b with
      | true => rfl
      | false => rfl
  | _ => rfl

theorem parse_prettyChars (v : Json) (exact : v.Exact) (within : v.depth ≤ maxDepth) :
    parse (Utf8.encode (prettyChars 0 v)) = .ok v := by
  have grammar : IsText maxDepth (prettyChars 0 v) v :=
    text_of_layout prettyChars pretty_leaf text_array_pretty text_object_pretty maxDepth 0 v within
      exact.1 exact.2
  exact parse_of_denoted _ v (denoted_of_text maxDepth _ v grammar)

end PgJson.Json
