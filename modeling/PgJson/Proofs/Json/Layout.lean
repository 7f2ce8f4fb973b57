import PgJson.Proofs.Json.Pretty

/-! The text of a value by the rules of its layout. The printers write it, and there is no other. -/

namespace PgJson.Json

open Text

/-- All on one line, or each item on a line of its own, two blanks deeper with each level. -/
inductive Layout where
  | line
  | page
  deriving DecidableEq, Repr

namespace Layout

def gap (l : Layout) (level : Nat) : List Char :=
  match l with
  | line => []
  | page => '\n' :: List.replicate (2 * level) ' '

def colon : Layout → List Char
  | line => [':']
  | page => [':', ' ']

def print : Layout → Nat → Json → List Char
  | line, _ => compactChars
  | page, level => prettyChars level

end Layout

/-- What stands between quotes for one character: a letter behind a backslash where there is one for
it, the number of another control character, and else the character itself. -/
inductive Quotes : Char → List Char → Prop where
  | short (mark c : Char) (known : (mark, c) ∈ shortEscapes) (mark_ne : mark ≠ '/') :
      Quotes c ['\\', mark]
  | control (c : Char) (long : ∀ mark, (mark, c) ∉ shortEscapes) (below : c.toNat < 0x20) :
      Quotes c ['\\', 'u', '0', '0', Nat.digitChar (c.toNat / 16), Nat.digitChar (c.toNat % 16)]
  | plain (c : Char) (quote : c ≠ '"') (slash : c ≠ '\\') (visible : 0x20 ≤ c.toNat) : Quotes c [c]

def Quoted (s : String) (text : List Char) : Prop :=
  ∃ pieces, List.Forall₂ Quotes s.toList pieces ∧ text = '"' :: (pieces.flatten ++ ['"'])

/-- Pieces between brackets, with a comma behind each but the last; empty brackets stay closed. -/
inductive Bracketed (l : Layout) (level : Nat) (left right : Char) :
    List (List Char) → List Char → Prop where
  | empty : Bracketed l level left right [] [left, right]
  | items (pieces : List (List Char)) (present : pieces ≠ []) :
      Bracketed l level left right pieces
        (left :: (joined [','] (pieces.map (l.gap (level + 1) ++ ·)) ++ (l.gap level ++ [right])))

inductive Written (l : Layout) : Nat → Json → List Char → Prop where
  | null (level : Nat) : Written l level .null ['n', 'u', 'l', 'l']
  | true (level : Nat) : Written l level (.bool true) ['t', 'r', 'u', 'e']
  | false (level : Nat) : Written l level (.bool false) ['f', 'a', 'l', 's', 'e']
  | integer (level : Nat) (n : Int) (range : -0x8000000000000000 ≤ n ∧ n < 0x10000000000000000) :
      Written l level (.number (.integer n range)) (toString n).toList
  | float (level : Nat) (x : Binary64) (finite : x.IsFinite) :
      Written l level (.number (.float x finite)) x.jsonText
  | string (level : Nat) (s : String) (text : List Char) (quoted : Quoted s text) :
      Written l level (.string s) text
  | array (level : Nat) (items : List (Json × List Char)) (text : List Char)
      (each : ∀ i ∈ items, Written l (level + 1) i.1 i.2)
      (brackets : Bracketed l level '[' ']' (items.map Prod.snd) text) :
      Written l level (.array (items.map Prod.fst)) text
  | object (level : Nat) (members : List ((String × List Char) × (Json × List Char)))
      (text : List Char) (names : ∀ m ∈ members, Quoted m.1.1 m.1.2)
      (each : ∀ m ∈ members, Written l (level + 1) m.2.1 m.2.2)
      (brackets : Bracketed l level '\x7b' '\x7d'
        (members.map fun m => m.1.2 ++ l.colon ++ m.2.2) text) :
      Written l level (.object (members.map fun m => (m.1.1, m.2.1))) text

/-! ## Strings -/

theorem quotes_escaped (c : Char) : Quotes c (escaped c) := by
  unfold escaped
  split
  · exact .short '"' '"' (by decide) (by decide)
  · exact .short '\\' '\\' (by decide) (by decide)
  · exact .short 'b' '\x08' (by decide) (by decide)
  · exact .short 'f' '\x0c' (by decide) (by decide)
  · exact .short 'n' '\n' (by decide) (by decide)
  · exact .short 'r' '\r' (by decide) (by decide)
  · exact .short 't' '\t' (by decide) (by decide)
  · next quote slash back form line ret tab =>
    split
    · next below =>
      have long : ∀ mark, (mark, c) ∉ shortEscapes := by
        intro mark known
        simp only [shortEscapes, List.mem_cons, Prod.mk.injEq, List.not_mem_nil, or_false] at known
        have apart : c ≠ '/' := by
          intro same
          rw [same] at below
          exact absurd below (by decide)
        tauto
      have high : hexDigit (c.toNat / 16) = Nat.digitChar (c.toNat / 16) := by
        rw [hexDigit, Nat.mod_eq_of_lt (by omega)]
      rw [high]
      exact .control c long below
    · next visible => exact .plain c quote slash (Nat.le_of_not_lt visible)

theorem Quotes.unique (c : Char) (text text' : List Char) (one : Quotes c text)
    (other : Quotes c text') : text = text' := by
  have below : ∀ p ∈ shortEscapes, p.1 ≠ '/' →
      p.2 = '"' ∨ p.2 = '\\' ∨ p.2.toNat < 0x20 := by decide
  have marks : ∀ p ∈ shortEscapes, ∀ q ∈ shortEscapes, p.2 = q.2 → p = q := by decide
  cases one with
  | short mark _ known mark_ne =>
      cases other with
      | short mark' _ known' _ =>
          cases marks _ known _ known' rfl
          rfl
      | control _ long _ => exact absurd known (long mark)
      | plain _ quote slash visible =>
          rcases below _ known mark_ne with same | same | low
          · exact absurd same quote
          · exact absurd same slash
          · exact absurd low (Nat.not_lt.mpr visible)
  | control _ long low =>
      cases other with
      | short mark' _ known' _ => exact absurd known' (long mark')
      | control => rfl
      | plain _ _ _ visible => omega
  | plain _ quote slash visible =>
      cases other with
      | short mark' _ known' mark_ne' =>
          rcases below _ known' mark_ne' with same | same | low
          · exact absurd same quote
          · exact absurd same slash
          · exact absurd low (Nat.not_lt.mpr visible)
      | control _ _ low => omega
      | plain => rfl

theorem quoted_iff (s : String) (text : List Char) : Quoted s text ↔ text = quoted s := by
  have pieces_iff : ∀ (cs : List Char) (pieces : List (List Char)),
      List.Forall₂ Quotes cs pieces ↔ pieces = cs.map escaped := by
    intro cs
    induction cs with
    | nil => simp
    | cons c cs ih =>
        intro pieces
        rw [List.forall₂_cons_left_iff]
        constructor
        · rintro ⟨piece, others, here, rest, rfl⟩
          rw [Quotes.unique c _ _ here (quotes_escaped c), (ih others).mp rest]
          rfl
        · rintro rfl
          exact ⟨_, _, quotes_escaped c, (ih _).mpr rfl, rfl⟩
  simp only [Quoted, pieces_iff, exists_eq_left, quoted, List.flatMap_def, List.cons_append]

/-! ## Values -/

namespace Layout

variable (l : Layout) (level : Nat)

def block (left right : Char) (pieces : List (List Char)) : List Char :=
  match l with
  | line => left :: joined [','] pieces ++ [right]
  | page => Json.block left right level pieces

def member (m : String × Json) : List Char := Json.quoted m.1 ++ l.colon ++ l.print level m.2

theorem print_leaf (v : Json) (leaf : v.depth = 0) : l.print level v = compactChars v := by
  cases l with
  | line => rfl
  | page => exact pretty_leaf level v leaf

theorem print_array (items : List Json) :
    l.print level (.array items) =
      l.block level '[' ']' (items.map (l.print (level + 1))) := by
  cases l with
  | line =>
      show '[' :: joined [','] (compactItems items) ++ [']'] = _
      rw [compactItems_eq]
      rfl
  | page =>
      show Json.block '[' ']' level (prettyItems (level + 1) items) = _
      rw [prettyItems_eq]
      rfl

theorem print_object (members : List (String × Json)) :
    l.print level (.object members) =
      l.block level '\x7b' '\x7d' (members.map (l.member (level + 1))) := by
  cases l with
  | line =>
      have same : memberChars = line.member (level + 1) := by
        funext m
        simp [memberChars, member, colon, print]
      show '\x7b' :: joined [','] (compactMembers members) ++ ['\x7d'] = _
      rw [compactMembers_eq, same]
      rfl
  | page =>
      have same : prettyMember (level + 1) = page.member (level + 1) := by
        funext m
        simp [prettyMember, member, colon, print]
      show Json.block '\x7b' '\x7d' level (prettyMembers (level + 1) members) = _
      rw [prettyMembers_eq, same]
      rfl

theorem bracketed_iff (left right : Char) (pieces : List (List Char)) (text : List Char) :
    Bracketed l level left right pieces text ↔ text = l.block level left right pieces := by
  have items : pieces ≠ [] → l.block level left right pieces =
      left :: (joined [','] (pieces.map (l.gap (level + 1) ++ ·)) ++
        (l.gap level ++ [right])) := by
    intro present
    cases l with
    | line => simp [block, gap]
    | page => exact block_eq left right level pieces present
  constructor
  · intro bracketed
    cases bracketed with
    | empty =>
        cases l with
        | line => rfl
        | page => rfl
    | items _ present => exact (items present).symm
  · rintro rfl
    by_cases present : pieces = []
    · subst present
      cases l with
      | line => exact .empty
      | page => exact .empty
    · rw [items present]
      exact .items pieces present

end Layout

theorem toString_eq_decimalInt (n : Int) : (toString n).toList = decimalInt n := by
  cases n with
  | ofNat n =>
      show (Nat.repr n).toList = _
      simp [decimalInt, decimal]
  | negSucc n =>
      show ("-" ++ Nat.repr (n + 1)).toList = _
      simp [decimalInt, decimal]

theorem print_of_written (l : Layout) (level : Nat) (v : Json) (text : List Char)
    (written : Written l level v text) : text = l.print level v := by
  induction written with
  | null level => exact (l.print_leaf level .null rfl).symm
  | true level => exact (l.print_leaf level (.bool .true) rfl).symm
  | false level => exact (l.print_leaf level (.bool .false) rfl).symm
  | integer level n range =>
      rw [l.print_leaf level (.number (.integer n range)) rfl]
      exact toString_eq_decimalInt n
  | float level x finite => exact (l.print_leaf level (.number (.float x finite)) rfl).symm
  | string level s text quoted =>
      rw [l.print_leaf level (.string s) rfl]
      exact (quoted_iff s text).mp quoted
  | array level items text each brackets ih =>
      have pieces : items.map Prod.snd = (items.map Prod.fst).map (l.print (level + 1)) := by
        rw [List.map_map]
        exact List.map_congr_left ih
      rw [pieces] at brackets
      rw [l.print_array]
      exact (l.bracketed_iff ..).mp brackets
  | object level members text names each brackets ih =>
      have pieces : (members.map fun m => m.1.2 ++ l.colon ++ m.2.2) =
          (members.map fun m => (m.1.1, m.2.1)).map (l.member (level + 1)) := by
        rw [List.map_map]
        apply List.map_congr_left
        intro m present
        rw [(quoted_iff _ _).mp (names m present), ih m present]
        rfl
      rw [pieces] at brackets
      rw [l.print_object]
      exact (l.bracketed_iff ..).mp brackets

theorem written_leaf (l : Layout) (level : Nat) (v : Json) (leaf : v.depth = 0) :
    Written l level v (compactChars v) := by
  cases v with
  | null => exact .null level
  | bool b =>
      cases b with
      | true => exact .true level
      | false => exact .false level
  | number n =>
      cases n with
      | integer n range =>
          have written := Written.integer (l := l) level n range
          rwa [toString_eq_decimalInt] at written
      | float x finite => exact .float level x finite
  | string s => exact .string level s _ ((quoted_iff s _).mpr rfl)
  | array items => exact absurd leaf (Nat.succ_ne_zero _)
  | object members => exact absurd leaf (Nat.succ_ne_zero _)

/-- Every value has a text in either layout. By induction on a bound of its depth. -/
theorem written_print (l : Layout) (limit level : Nat) (v : Json) (within : v.depth ≤ limit) :
    Written l level v (l.print level v) := by
  induction limit generalizing level v with
  | zero =>
      rw [l.print_leaf level v (Nat.le_zero.mp within)]
      exact written_leaf l level v (Nat.le_zero.mp within)
  | succ limit ih =>
      by_cases leaf : v.depth = 0
      · rw [l.print_leaf level v leaf]
        exact written_leaf l level v leaf
      cases v with
      | array items =>
          rw [depth_array] at within
          rw [l.print_array]
          have each : ∀ v ∈ items, Written l (level + 1) v (l.print (level + 1) v) := by
            intro v member
            exact ih _ v (le_trans (depth_le_items items v member) (Nat.le_of_succ_le_succ within))
          have written := Written.array level (items.map fun v => (v, l.print (level + 1) v)) _
            (List.forall_mem_map.mpr each) ((l.bracketed_iff ..).mpr rfl)
          simpa [Function.comp_def] using written
      | object members =>
          rw [depth_object] at within
          rw [l.print_object]
          -- Each name and value with its text, as the rule for objects takes them apart.
          let parts := members.map fun m => ((m.1, quoted m.1), (m.2, l.print (level + 1) m.2))
          have each : ∀ part ∈ parts, Quoted part.1.1 part.1.2 ∧
              Written l (level + 1) part.2.1 part.2.2 := by
            intro part member
            obtain ⟨m, present, rfl⟩ := List.mem_map.mp member
            exact ⟨(quoted_iff m.1 _).mpr rfl, ih _ m.2 (le_trans
              (depth_le_members members m present) (Nat.le_of_succ_le_succ within))⟩
          have written := Written.object level parts _ (fun part member => (each part member).1)
            (fun part member => (each part member).2) ((l.bracketed_iff ..).mpr rfl)
          have pieces : l.member (level + 1) =
              fun m => quoted m.1 ++ l.colon ++ l.print (level + 1) m.2 := rfl
          simpa [Function.comp_def, parts, pieces] using written
      | _ => exact absurd rfl leaf

/-- The rules of a layout allow one text for each value, the one that is printed. -/
theorem written_iff (l : Layout) (level : Nat) (v : Json) (text : List Char) :
    Written l level v text ↔ text = l.print level v := by
  constructor
  · exact print_of_written l level v text
  · rintro rfl
    exact written_print l v.depth level v (Nat.le_refl _)

end PgJson.Json
