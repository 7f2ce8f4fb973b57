import PgJson.Proofs.Json.Quoted
import PgJson.Proofs.Text.Fields

namespace PgJson.Json

open Text

namespace Reader

/-! ## Gaps -/

theorem skipSpace_visible {b : UInt8} (visible : isSpace b = false) (s : List UInt8) :
    skipSpace (b :: s) = b :: s := by
  rw [skipSpace, List.dropWhile_cons, visible]
  rfl

theorem isGapChar_cases (c : Char) (gap : isGapChar c) :
    c = ' ' ∨ c = '\t' ∨ c = '\n' ∨ c = '\r' := by
  simp only [isGapChar, Bool.or_eq_true, beq_iff_eq] at gap
  tauto

theorem skipSpace_gap (gap : List Char) (blank : Gap gap) (s : List UInt8) :
    skipSpace (Utf8.encode gap ++ s) = skipSpace s := by
  induction gap with
  | nil => rfl
  | cons c gap ih =>
      have others := ih fun d member => blank d (List.mem_cons_of_mem _ member)
      rcases isGapChar_cases c (blank c (List.mem_cons_self ..)) with rfl | rfl | rfl | rfl <;>
        exact others

theorem ends_gap (gap : List Char) (blank : Gap gap) (rest : List UInt8) (ends : Ends rest) :
    Ends (Utf8.encode gap ++ rest) := by
  cases gap with
  | nil => exact ends
  | cons c gap =>
      rcases isGapChar_cases c (blank c (List.mem_cons_self ..)) with rfl | rfl | rfl | rfl <;>
        exact ⟨by decide, by decide, by decide, by decide⟩

/-! ## Items -/

def Starts (text : List UInt8) : Prop :=
  ∃ first others, text = first :: others ∧ isSpace first = false ∧ first ≠ 0x5d

/-- A reader takes a text as a value from the front of any bytes, with a gap before it. -/
def Reads (item : Reader Json) (text : List Char) (v : Json) : Prop :=
  Starts (Utf8.encode text) ∧ ∀ gap rest, Gap gap → Ends rest →
    item (Utf8.encode gap ++ (Utf8.encode text ++ rest)) = .ok (v, rest)

theorem ends_comma (s : List UInt8) : Ends (0x2c :: s) :=
  ⟨by decide, by decide, by decide, by decide⟩

theorem ends_bracket (s : List UInt8) : Ends (0x5d :: s) :=
  ⟨by decide, by decide, by decide, by decide⟩

theorem ends_brace (s : List UInt8) : Ends (0x7d :: s) :=
  ⟨by decide, by decide, by decide, by decide⟩

theorem ends_pieces (pieces : List (List Char)) (s : List UInt8) (ends : Ends s) :
    Ends (Utf8.encode (pieces.flatMap (',' :: ·)) ++ s) := by
  cases pieces with
  | nil => exact ends
  | cons piece pieces => exact ends_comma _

theorem length_flatMap_comma (pieces : List (List Char)) :
    pieces.length ≤ (Utf8.encode (pieces.flatMap (',' :: ·))).length := by
  induction pieces with
  | nil => exact Nat.le_refl 0
  | cons piece pieces ih =>
      have comma : String.utf8EncodeChar ',' = [0x2c] := rfl
      rw [List.flatMap_cons, Utf8.encode_append, Utf8.encode_cons, comma, List.length_append,
        List.length_append, List.length_cons, List.length_singleton]
      omega

theorem length_pieces (gap : List Char) (pieces : List (List Char)) (s : List UInt8) :
    pieces.length < (Utf8.encode gap ++
      (Utf8.encode (pieces.flatMap (',' :: ·)) ++ s)).length + 1 := by
  have pieces := length_flatMap_comma pieces
  rw [List.length_append, List.length_append]
  omega

theorem encode_comma (piece : List Char) (pieces : List (List Char)) (s : List UInt8) :
    Utf8.encode ((piece :: pieces).flatMap (',' :: ·)) ++ s =
      0x2c :: (Utf8.encode piece ++ (Utf8.encode (pieces.flatMap (',' :: ·)) ++ s)) := by
  rw [List.flatMap_cons, Utf8.encode_append, List.append_assoc, Utf8.encode_cons, List.append_assoc]
  rfl

theorem encode_item (i : Item) (s : List UInt8) :
    Utf8.encode i.chars ++ s =
      Utf8.encode i.before ++ (Utf8.encode i.text ++ (Utf8.encode i.after ++ s)) := by
  rw [Item.chars, Utf8.encode_append, Utf8.encode_append, List.append_assoc, List.append_assoc]

theorem items_close (item : Reader Json) (steps : Nat) (s rest : List UInt8)
    (next : skipSpace s = 0x5d :: rest) : items item (steps + 1) s = .ok ([], rest) := by
  simp only [items, next]

theorem items_next (item : Reader Json) (steps : Nat) (s rest more : List UInt8) (b : UInt8)
    (comma : skipSpace s = 0x2c :: rest) (next : skipSpace rest = b :: more) (other : b ≠ 0x5d) :
    items item (steps + 1) s = (do
      let (v, s) ← item (b :: more)
      let (vs, s) ← items item steps s
      .ok (v :: vs, s)) := by
  simp only [items, comma, next]
  split
  · next empty => cases empty
  · next same => exact absurd (List.cons.inj same).1 other
  · rfl

theorem arrayBody_next (item : Reader Json) (s more : List UInt8) (b : UInt8)
    (next : skipSpace s = b :: more) (other : b ≠ 0x5d) :
    arrayBody item s = (do
      let (v, s) ← item (b :: more)
      let (vs, s) ← items item (s.length + 1) s
      .ok (.array (v :: vs), s)) := by
  simp only [arrayBody, next]
  split
  · next empty => cases empty
  · next same => exact absurd (List.cons.inj same).1 other
  · rfl

theorem skipSpace_item (item : Reader Json) (i : Item) (spaced : i.Spaced)
    (reads : Reads item i.text i.value) (rest : List UInt8) (ends : Ends rest) :
    ∃ first others, skipSpace (Utf8.encode i.chars ++ rest) = first :: others ∧ first ≠ 0x5d ∧
      item (first :: others) = .ok (i.value, Utf8.encode i.after ++ rest) := by
  obtain ⟨⟨first, others, written, visible, bracket⟩, read⟩ := reads
  have taken := read [] (Utf8.encode i.after ++ rest) gap_nil
    (ends_gap i.after spaced.2 rest ends)
  rw [written] at taken
  refine ⟨first, others ++ (Utf8.encode i.after ++ rest), ?_, bracket, taken⟩
  rw [encode_item, skipSpace_gap i.before spaced.1, written]
  exact skipSpace_visible visible _

theorem items_text (item : Reader Json) (is : List Item) (spaced : ∀ i ∈ is, i.Spaced)
    (reads : ∀ i ∈ is, Reads item i.text i.value) (gap : List Char) (blank : Gap gap)
    (rest : List UInt8) (steps : Nat) (enough : is.length < steps) :
    items item steps (Utf8.encode gap ++
        (Utf8.encode ((is.map Item.chars).flatMap (',' :: ·)) ++ 0x5d :: rest)) =
      .ok (is.map Item.value, rest) := by
  induction is generalizing gap steps with
  | nil =>
      obtain ⟨left, rfl⟩ : ∃ left, steps = left + 1 := ⟨steps - 1, by omega⟩
      exact items_close item left _ rest (skipSpace_gap gap blank (0x5d :: rest))
  | cons i is ih =>
      rw [List.length_cons] at enough
      obtain ⟨left, rfl⟩ : ∃ left, steps = left + 1 := ⟨steps - 1, by omega⟩
      rw [List.forall_mem_cons] at spaced reads
      rw [List.map_cons, encode_comma]
      have ends := ends_pieces (is.map Item.chars) _ (ends_bracket rest)
      obtain ⟨first, others, next, bracket, taken⟩ :=
        skipSpace_item item i spaced.1 reads.1 _ ends
      have remaining := ih spaced.2 reads.2 i.after spaced.1.2 left (by omega)
      rw [items_next item left _ _ others first (skipSpace_gap gap blank _) next bracket, taken]
      simp only [remaining, bind, Except.bind, List.map_cons]

theorem arrayBody_text (item : Reader Json) (is : List Item) (present : is ≠ [])
    (spaced : ∀ i ∈ is, i.Spaced) (reads : ∀ i ∈ is, Reads item i.text i.value)
    (rest : List UInt8) :
    arrayBody item (Utf8.encode (joined [','] (is.map Item.chars)) ++ 0x5d :: rest) =
      .ok (.array (is.map Item.value), rest) := by
  cases is with
  | nil => exact absurd rfl present
  | cons i is =>
      rw [List.forall_mem_cons] at spaced reads
      rw [List.map_cons, joined_cons, Utf8.encode_append, List.append_assoc]
      have ends := ends_pieces (is.map Item.chars) _ (ends_bracket rest)
      obtain ⟨first, others, next, bracket, taken⟩ :=
        skipSpace_item item i spaced.1 reads.1 _ ends
      have steps := length_pieces i.after (is.map Item.chars) (0x5d :: rest)
      rw [List.length_map] at steps
      have remaining := items_text item is spaced.2 reads.2 i.after spaced.1.2 rest _ steps
      rw [arrayBody_next item _ others first next bracket, taken]
      simp only [remaining, bind, Except.bind, List.map_cons]

/-! ## Members -/

theorem member_text (item : Reader Json) (m : Member) (named : m.Named) (spaced : m.item.Spaced)
    (reads : Reads item m.item.text m.item.value) (rest : List UInt8) (ends : Ends rest) :
    ∃ bytes, skipSpace (Utf8.encode m.chars ++ rest) = 0x22 :: bytes ∧
      member item bytes = .ok (m.pair, Utf8.encode m.item.after ++ rest) := by
  obtain ⟨before, pieces, after⟩ := named
  have written : Utf8.encode m.chars ++ rest = Utf8.encode m.before ++
      0x22 :: (Utf8.encode m.body ++
        0x22 :: (Utf8.encode m.after ++ 0x3a :: (Utf8.encode m.item.chars ++ rest))) := by
    simp only [Member.chars, Utf8.encode_append, Utf8.encode_cons, List.append_assoc]
    rfl
  refine ⟨_, by rw [written, skipSpace_gap m.before before]; exact skipSpace_visible rfl _, ?_⟩
  have name := string_text m.body m.name pieces
    (Utf8.encode m.after ++ 0x3a :: (Utf8.encode m.item.chars ++ rest))
  have colon : ∀ s, skipSpace (Utf8.encode m.after ++ 0x3a :: s) = 0x3a :: s :=
    fun s => skipSpace_gap m.after after (0x3a :: s)
  have taken := reads.2 m.item.before (Utf8.encode m.item.after ++ rest) spaced.1
    (ends_gap m.item.after spaced.2 rest ends)
  rw [← encode_item] at taken
  simp only [member, name, colon, taken, bind, Except.bind]
  rfl

theorem memberList_close (item : Reader Json) (steps : Nat) (s rest : List UInt8)
    (next : skipSpace s = 0x7d :: rest) : memberList item (steps + 1) s = .ok ([], rest) := by
  simp only [memberList, next]

theorem memberList_next (item : Reader Json) (steps : Nat) (s rest more : List UInt8)
    (comma : skipSpace s = 0x2c :: rest) (next : skipSpace rest = 0x22 :: more) :
    memberList item (steps + 1) s = (do
      let (m, s) ← member item more
      let (ms, s) ← memberList item steps s
      .ok (m :: ms, s)) := by
  simp only [memberList, comma, next]

theorem memberList_text (item : Reader Json) (ms : List Member) (named : ∀ m ∈ ms, m.Named)
    (spaced : ∀ m ∈ ms, m.item.Spaced) (reads : ∀ m ∈ ms, Reads item m.item.text m.item.value)
    (gap : List Char) (blank : Gap gap) (rest : List UInt8) (steps : Nat)
    (enough : ms.length < steps) :
    memberList item steps (Utf8.encode gap ++
        (Utf8.encode ((ms.map Member.chars).flatMap (',' :: ·)) ++ 0x7d :: rest)) =
      .ok (ms.map Member.pair, rest) := by
  induction ms generalizing gap steps with
  | nil =>
      obtain ⟨left, rfl⟩ : ∃ left, steps = left + 1 := ⟨steps - 1, by omega⟩
      exact memberList_close item left _ rest (skipSpace_gap gap blank (0x7d :: rest))
  | cons m ms ih =>
      rw [List.length_cons] at enough
      obtain ⟨left, rfl⟩ : ∃ left, steps = left + 1 := ⟨steps - 1, by omega⟩
      rw [List.forall_mem_cons] at named spaced reads
      rw [List.map_cons, encode_comma]
      have ends := ends_pieces (ms.map Member.chars) _ (ends_brace rest)
      obtain ⟨bytes, next, taken⟩ := member_text item m named.1 spaced.1 reads.1 _ ends
      have remaining := ih named.2 spaced.2 reads.2 m.item.after spaced.1.2 left (by omega)
      rw [memberList_next item left _ _ bytes (skipSpace_gap gap blank _) next, taken]
      simp only [remaining, bind, Except.bind, List.map_cons]

theorem objectBody_text (item : Reader Json) (ms : List Member) (present : ms ≠ [])
    (named : ∀ m ∈ ms, m.Named) (spaced : ∀ m ∈ ms, m.item.Spaced)
    (reads : ∀ m ∈ ms, Reads item m.item.text m.item.value) (rest : List UInt8) :
    objectBody item (Utf8.encode (joined [','] (ms.map Member.chars)) ++ 0x7d :: rest) =
      .ok (ofMembers (ms.map Member.pair), rest) := by
  cases ms with
  | nil => exact absurd rfl present
  | cons m ms =>
      rw [List.forall_mem_cons] at named spaced reads
      rw [List.map_cons, joined_cons, Utf8.encode_append, List.append_assoc]
      have ends := ends_pieces (ms.map Member.chars) _ (ends_brace rest)
      obtain ⟨bytes, next, taken⟩ := member_text item m named.1 spaced.1 reads.1 _ ends
      have steps := length_pieces m.item.after (ms.map Member.chars) (0x7d :: rest)
      rw [List.length_map] at steps
      have remaining := memberList_text item ms named.2 spaced.2 reads.2 m.item.after spaced.1.2
        rest _ steps
      simp only [objectBody, next, taken, remaining, bind, Except.bind, List.map_cons]

/-! ## Values -/

theorem value_skipSpace (depth : Nat) (s t : List UInt8) (same : skipSpace s = skipSpace t) :
    value depth s = value depth t := by
  rw [value, value, same]

theorem ne_of_digit {b c : UInt8} (digit : (digit? b).isSome) (none : digit? c = none) :
    b ≠ c := by
  intro same
  rw [same, none] at digit
  exact absurd digit (by decide)

theorem isSpace_digit {b : UInt8} (digit : (digit? b).isSome) : isSpace b = false := by
  simp only [isSpace, Bool.or_eq_false_iff, beq_eq_false_iff_ne]
  exact ⟨⟨⟨ne_of_digit digit rfl, ne_of_digit digit rfl⟩, ne_of_digit digit rfl⟩,
    ne_of_digit digit rfl⟩

theorem value_digit (depth : Nat) (b : UInt8) (s : List UInt8) (digit : (digit? b).isSome) :
    value depth (b :: s) = number false (b :: s) := by
  have other : ∀ c, digit? c = none → b ≠ c := fun c none => ne_of_digit digit none
  rw [value, skipSpace_visible (isSpace_digit digit)]
  simp only [if_neg (other 0x6e rfl), if_neg (other 0x74 rfl), if_neg (other 0x66 rfl),
    if_neg (other 0x22 rfl), if_neg (other 0x5b rfl), if_neg (other 0x7b rfl),
    if_neg (other 0x2d rfl), digit, if_true]

theorem value_minus (depth : Nat) (s : List UInt8) : value depth (0x2d :: s) = number true s := by
  cases depth with
  | zero => rfl
  | succ depth => rfl

theorem value_quote (depth : Nat) (s : List UInt8) :
    value depth (0x22 :: s) = (do
      let (text, s) ← string s
      .ok (.string text, s)) := by
  cases depth with
  | zero => rfl
  | succ depth => rfl

theorem value_word (depth : Nat) (s : List UInt8) :
    value depth (0x6e :: s) = word .null "ull".toUTF8.toList s ∧
      value depth (0x74 :: s) = word (.bool true) "rue".toUTF8.toList s ∧
      value depth (0x66 :: s) = word (.bool false) "alse".toUTF8.toList s := by
  cases depth with
  | zero => exact ⟨rfl, rfl, rfl⟩
  | succ depth => exact ⟨rfl, rfl, rfl⟩

theorem words : "ull".toUTF8.toList = [0x75, 0x6c, 0x6c] ∧
    "rue".toUTF8.toList = [0x72, 0x75, 0x65] ∧
    "alse".toUTF8.toList = [0x61, 0x6c, 0x73, 0x65] := by
  decide +kernel

theorem reads_of_value (depth : Nat) (text : List Char) (v : Json)
    (starts : Starts (Utf8.encode text))
    (read : ∀ rest, Ends rest → value depth (Utf8.encode text ++ rest) = .ok (v, rest)) :
    Reads (value depth) text v := by
  refine ⟨starts, fun gap rest blank ends => ?_⟩
  rw [value_skipSpace depth _ _ (skipSpace_gap gap blank _)]
  exact read rest ends

theorem encode_unsigned (n : Numeral) : ∃ first others,
    Utf8.encode n.unsigned = first :: others ∧ (digit? first).isSome := by
  obtain ⟨first, others, written, digit⟩ := encode_head n.whole
  refine ⟨first, others ++ Utf8.encode (n.placesText ++ n.exponentText), ?_, digit⟩
  rw [Numeral.unsigned, Utf8.encode_append, written]
  rfl

theorem starts_numeral (n : Numeral) : Starts (Utf8.encode n.text) := by
  unfold Numeral.text
  cases n.negative with
  | false =>
      obtain ⟨first, others, front, digit⟩ := encode_unsigned n
      exact ⟨first, others, front, isSpace_digit digit, ne_of_digit digit rfl⟩
  | true => exact ⟨0x2d, _, rfl, rfl, by decide⟩

theorem value_numeral (depth : Nat) (n : Numeral) (rest : List UInt8) :
    value depth (Utf8.encode n.text ++ rest) =
      number n.negative (Utf8.encode n.unsigned ++ rest) := by
  unfold Numeral.text
  cases n.negative with
  | false =>
      obtain ⟨first, others, front, digit⟩ := encode_unsigned n
      rw [if_neg Bool.false_ne_true, List.nil_append, front]
      exact value_digit depth first (others ++ rest) digit
  | true => exact value_minus depth (Utf8.encode n.unsigned ++ rest)

theorem reads_number (depth : Nat) (n : Numeral) (v : Number) (value : n.value? = some v) :
    Reads (Reader.value depth) n.text (.number v) := by
  apply reads_of_value depth _ _ (starts_numeral n)
  intro rest ends
  rw [value_numeral]
  exact number_text n v value rest ends

theorem encode_between (left right : Char) (s : List Char) (rest : List UInt8) :
    Utf8.encode (left :: (s ++ [right])) ++ rest =
      String.utf8EncodeChar left ++ (Utf8.encode s ++ (String.utf8EncodeChar right ++ rest)) := by
  rw [Utf8.encode_cons, Utf8.encode_append, List.append_assoc, List.append_assoc, Utf8.encode_cons,
    List.append_assoc]
  rfl

/-- By induction on the text: a reader of values that nest as deep as it does takes it. -/
theorem reads_text (depth : Nat) (text : List Char) (v : Json) (grammar : IsText depth text v) :
    Reads (value depth) text v := by
  induction grammar with
  | null depth =>
      apply reads_of_value depth _ _ ⟨0x6e, _, rfl, rfl, by decide⟩
      intro rest _
      show value depth (0x6e :: 0x75 :: 0x6c :: 0x6c :: rest) = _
      rw [(value_word depth _).1, words.1]
      rfl
  | true depth =>
      apply reads_of_value depth _ _ ⟨0x74, _, rfl, rfl, by decide⟩
      intro rest _
      show value depth (0x74 :: 0x72 :: 0x75 :: 0x65 :: rest) = _
      rw [(value_word depth _).2.1, words.2.1]
      rfl
  | false depth =>
      apply reads_of_value depth _ _ ⟨0x66, _, rfl, rfl, by decide⟩
      intro rest _
      show value depth (0x66 :: 0x61 :: 0x6c :: 0x73 :: 0x65 :: rest) = _
      rw [(value_word depth _).2.2, words.2.2]
      rfl
  | number depth n v value => exact reads_number depth n v value
  | string depth body s pieces =>
      apply reads_of_value depth _ _ ⟨0x22, _, rfl, rfl, by decide⟩
      intro rest _
      rw [encode_between]
      show value depth (0x22 :: (Utf8.encode body ++ 0x22 :: rest)) = _
      rw [value_quote]
      simp only [string_text body s pieces, bind, Except.bind]
  | emptyArray depth gap blank =>
      apply reads_of_value (depth + 1) _ _ ⟨0x5b, _, rfl, rfl, by decide⟩
      intro rest _
      rw [encode_between]
      show arrayBody (value depth) (Utf8.encode gap ++ 0x5d :: rest) = _
      have bracket : skipSpace (0x5d :: rest) = 0x5d :: rest := rfl
      simp only [arrayBody, skipSpace_gap gap blank, bracket]
  | array depth is present spaced _ ih =>
      apply reads_of_value (depth + 1) _ _ ⟨0x5b, _, rfl, rfl, by decide⟩
      intro rest _
      rw [encode_between]
      exact arrayBody_text (value depth) is present spaced ih rest
  | emptyObject depth gap blank =>
      apply reads_of_value (depth + 1) _ _ ⟨0x7b, _, rfl, rfl, by decide⟩
      intro rest _
      rw [encode_between]
      show objectBody (value depth) (Utf8.encode gap ++ 0x7d :: rest) = _
      have brace : skipSpace (0x7d :: rest) = 0x7d :: rest := rfl
      simp only [objectBody, skipSpace_gap gap blank, brace]
  | object depth ms present named spaced _ ih =>
      apply reads_of_value (depth + 1) _ _ ⟨0x7b, _, rfl, rfl, by decide⟩
      intro rest _
      rw [encode_between]
      exact objectBody_text (value depth) ms present named spaced ih rest

end Reader

theorem parse_of_denoted (s : List Char) (v : Json) (denoted : Denoted maxDepth s v) :
    parse (Utf8.encode s) = .ok v := by
  obtain ⟨before, text, after, rfl, blank, blank', grammar⟩ := denoted
  have ends := Reader.ends_gap after blank' [] trivial
  have read := (Reader.reads_text maxDepth text v grammar).2 before _ blank ends
  have remains : Reader.skipSpace (Utf8.encode after ++ []) = [] :=
    Reader.skipSpace_gap after blank' []
  have whole : readText (Utf8.encode (before ++ (text ++ after))) = .ok v := by
    rw [Utf8.encode_append, Utf8.encode_append, ← List.append_nil (Utf8.encode after)]
    simp only [readText, read, remains, bind, Except.bind]
  rw [parse, whole]
  rfl

end PgJson.Json
