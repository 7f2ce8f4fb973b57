import PgJson.Proofs.Json.Complete
import Mathlib.Data.List.DropRight

/-! The reader takes only texts of the grammar. -/

namespace PgJson.Json

open Text

namespace Reader

/-! ## Gaps and words -/

theorem isGapChar_of_isSpace (b : UInt8) (space : isSpace b = true) :
    b < 0x80 ∧ isGapChar (Char.ofNat b.toNat) = true := by
  simp only [isSpace, Bool.or_eq_true, beq_iff_eq] at space
  rcases space with ((rfl | rfl) | rfl) | rfl <;> exact ⟨by decide, by decide⟩

theorem exists_gap (s : List Char) : ∃ gap others, s = gap ++ others ∧ Gap gap ∧
    skipSpace (Utf8.encode s) = Utf8.encode others := by
  refine ⟨s.takeWhile isGapChar, s.dropWhile isGapChar, List.takeWhile_append_dropWhile.symm,
    fun c member => List.mem_takeWhile_imp member, ?_⟩
  have skipped := skipSpace_gap (s.takeWhile isGapChar) (fun c member =>
    List.mem_takeWhile_imp member) (Utf8.encode (s.dropWhile isGapChar))
  rw [← Utf8.encode_append, List.takeWhile_append_dropWhile] at skipped
  rw [skipped]
  have stop := List.head?_dropWhile_not isGapChar s
  cases written : Utf8.encode (s.dropWhile isGapChar) with
  | nil => rfl
  | cons b rest =>
      apply skipSpace_visible
      by_contra space
      obtain ⟨short, gap⟩ := isGapChar_of_isSpace b (eq_true_of_ne_false space)
      obtain ⟨others, front, _⟩ := Utf8.encode_eq_cons _ b rest written short
      rw [front] at stop
      exact absurd gap (Bool.eq_false_iff.mp stop)

theorem word_sound {α : Type} (value v : α) (expected s rest : List UInt8)
    (read : word value expected s = .ok (v, rest)) : v = value ∧ s = expected ++ rest := by
  induction expected generalizing s with
  | nil =>
      cases read
      exact ⟨rfl, rfl⟩
  | cons e expected ih =>
      cases s with
      | nil => cases read
      | cons b s =>
          rw [word] at read
          split at read
          · next same =>
            obtain ⟨value, others⟩ := ih s read
            exact ⟨value, by rw [same, others, List.cons_append]⟩
          · cases read

theorem encode_eq_append (front : List UInt8) (short : ∀ b ∈ front, b < 0x80) (s : List Char)
    (rest : List UInt8) (written : Utf8.encode s = front ++ rest) :
    ∃ others, s = (front.map fun b => Char.ofNat b.toNat) ++ others ∧ rest = Utf8.encode others := by
  induction front generalizing s with
  | nil => exact ⟨s, rfl, written.symm⟩
  | cons b front ih =>
      rw [List.forall_mem_cons] at short
      obtain ⟨s, rfl, after⟩ := Utf8.encode_eq_cons s b _ written short.1
      obtain ⟨others, rfl, remains⟩ := ih short.2 s after.symm
      exact ⟨others, rfl, remains⟩

/-! ## Steps -/

section

variable (item : Reader Json) (steps : Nat) (s rest : List UInt8)

theorem items_cases (vs : List Json) (read : items item (steps + 1) s = .ok (vs, rest)) :
    (skipSpace s = 0x5d :: rest ∧ vs = []) ∨
      ∃ after v t others, skipSpace s = 0x2c :: after ∧ item (skipSpace after) = .ok (v, t) ∧
        items item steps t = .ok (others, rest) ∧ vs = v :: others := by
  rw [items] at read
  split at read
  · cases read
  · next close =>
    cases read
    exact .inl ⟨close, rfl⟩
  · next after comma =>
    split at read
    · cases read
    · cases read
    · obtain ⟨⟨v, t⟩, taken, more⟩ := (bind_ok_iff _ _ _).mp read
      obtain ⟨⟨others, rest⟩, behind, kept⟩ := (bind_ok_iff _ _ _).mp more
      cases kept
      exact .inr ⟨after, v, t, others, comma, taken, behind, rfl⟩
  · cases read

theorem arrayBody_cases (v : Json) (read : arrayBody item s = .ok (v, rest)) :
    (skipSpace s = 0x5d :: rest ∧ v = .array []) ∨
      ∃ first t others, item (skipSpace s) = .ok (first, t) ∧
        items item (t.length + 1) t = .ok (others, rest) ∧ v = .array (first :: others) := by
  rw [arrayBody] at read
  split at read
  · cases read
  · next close =>
    cases read
    exact .inl ⟨close, rfl⟩
  · obtain ⟨⟨first, t⟩, taken, more⟩ := (bind_ok_iff _ _ _).mp read
    obtain ⟨⟨others, rest⟩, behind, kept⟩ := (bind_ok_iff _ _ _).mp more
    cases kept
    exact .inr ⟨first, t, others, taken, behind, rfl⟩

theorem member_cases (pair : String × Json) (read : member item s = .ok (pair, rest)) :
    ∃ t after, string s = .ok (pair.1, t) ∧ skipSpace t = 0x3a :: after ∧
      item after = .ok (pair.2, rest) := by
  obtain ⟨⟨name, t⟩, named, more⟩ := (bind_ok_iff _ _ _).mp read
  dsimp only at more
  split at more
  · cases more
  · next after colon =>
    obtain ⟨⟨v, rest⟩, taken, kept⟩ := (bind_ok_iff _ _ _).mp more
    cases kept
    exact ⟨t, after, named, colon, taken⟩
  · cases more

theorem memberList_cases (pairs : List (String × Json))
    (read : memberList item (steps + 1) s = .ok (pairs, rest)) :
    (skipSpace s = 0x7d :: rest ∧ pairs = []) ∨
      ∃ after name pair t others, skipSpace s = 0x2c :: after ∧ skipSpace after = 0x22 :: name ∧
        member item name = .ok (pair, t) ∧ memberList item steps t = .ok (others, rest) ∧
        pairs = pair :: others := by
  rw [memberList] at read
  split at read
  · cases read
  · next close =>
    cases read
    exact .inl ⟨close, rfl⟩
  · next after comma =>
    split at read
    · cases read
    · cases read
    · next name quote =>
      obtain ⟨⟨pair, t⟩, taken, more⟩ := (bind_ok_iff _ _ _).mp read
      obtain ⟨⟨others, rest⟩, behind, kept⟩ := (bind_ok_iff _ _ _).mp more
      cases kept
      exact .inr ⟨after, name, pair, t, others, comma, quote, taken, behind, rfl⟩
    · cases read
  · cases read

theorem objectBody_cases (v : Json) (read : objectBody item s = .ok (v, rest)) :
    (skipSpace s = 0x7d :: rest ∧ v = .object []) ∨
      ∃ name pair t others, skipSpace s = 0x22 :: name ∧ member item name = .ok (pair, t) ∧
        memberList item (t.length + 1) t = .ok (others, rest) ∧
        v = ofMembers (pair :: others) := by
  rw [objectBody] at read
  split at read
  · cases read
  · next close =>
    cases read
    exact .inl ⟨close, rfl⟩
  · next name quote =>
    obtain ⟨⟨pair, t⟩, taken, more⟩ := (bind_ok_iff _ _ _).mp read
    obtain ⟨⟨others, rest⟩, behind, kept⟩ := (bind_ok_iff _ _ _).mp more
    cases kept
    exact .inr ⟨name, pair, t, others, quote, taken, behind, rfl⟩
  · cases read

end

/-! ## Arrays -/

/-- What a reader takes as a value is a text for it, with a gap before it. -/
def Takes (item : Reader Json) (text : List Char → Json → Prop) : Prop :=
  ∀ s v rest, item (Utf8.encode s) = .ok (v, rest) →
    ∃ gap front others, s = gap ++ (front ++ others) ∧ Gap gap ∧ text front v ∧
      rest = Utf8.encode others

variable (item : Reader Json) (text : List Char → Json → Prop) (takes : Takes item text)

include takes

theorem items_sound (steps : Nat) (s : List Char) (vs : List Json) (rest : List UInt8)
    (read : items item steps (Utf8.encode s) = .ok (vs, rest)) :
    ∃ (gap : List Char) (is : List Item) (others : List Char),
      s = gap ++ ((is.map Item.chars).flatMap (',' :: ·) ++ ']' :: others) ∧
      Gap gap ∧ (∀ i ∈ is, Gap i.before ∧ Gap i.after ∧ text i.text i.value) ∧
      vs = is.map Item.value ∧ rest = Utf8.encode others := by
  -- The gap behind an item is left over by its reader, so it stands in front of the rest.
  induction steps generalizing s vs rest with
  | zero => cases read
  | succ steps ih =>
      obtain ⟨gap, s, rfl, blank, skipped⟩ := exists_gap s
      rcases items_cases item steps _ rest vs read with
        ⟨close, none⟩ | ⟨behind, v, t, vs', comma, taken, more, same⟩
      · rw [skipped] at close
        obtain ⟨others, rfl, remains⟩ := Utf8.encode_eq_cons s 0x5d rest close (by decide)
        exact ⟨gap, [], others, rfl, blank, by simp, none, remains⟩
      · rw [skipped] at comma
        obtain ⟨s, rfl, written⟩ := Utf8.encode_eq_cons s 0x2c behind comma (by decide)
        obtain ⟨before, s, rfl, blank', skipped'⟩ := exists_gap s
        rw [written, skipped'] at taken
        obtain ⟨inner, front, s, rfl, blank'', here, rfl⟩ := takes s v t taken
        obtain ⟨after, is, s, rfl, blankAfter, texts, values, remains⟩ := ih s vs' rest more
        refine ⟨gap, ⟨before ++ inner, front, after, v⟩ :: is, s, ?_, blank, ?_, ?_, remains⟩
        · simp [Item.chars]
        · rw [List.forall_mem_cons]
          exact ⟨⟨gap_append _ _ blank' blank'', blankAfter, here⟩, texts⟩
        · rw [same, values, List.map_cons]

theorem arrayBody_sound (s : List Char) (v : Json) (rest : List UInt8)
    (read : arrayBody item (Utf8.encode s) = .ok (v, rest)) :
    (∃ gap others, s = gap ++ ']' :: others ∧ Gap gap ∧ v = .array [] ∧
        rest = Utf8.encode others) ∨
      ∃ (is : List Item) (others : List Char), is ≠ [] ∧
        s = joined [','] (is.map Item.chars) ++ ']' :: others ∧
        (∀ i ∈ is, Gap i.before ∧ Gap i.after ∧ text i.text i.value) ∧
        v = .array (is.map Item.value) ∧ rest = Utf8.encode others := by
  obtain ⟨before, s, rfl, blank, skipped⟩ := exists_gap s
  rcases arrayBody_cases item _ rest v read with
    ⟨close, none⟩ | ⟨first, t, vs, taken, more, same⟩
  · rw [skipped] at close
    obtain ⟨others, rfl, remains⟩ := Utf8.encode_eq_cons s 0x5d rest close (by decide)
    exact .inl ⟨before, others, rfl, blank, none, remains⟩
  · rw [skipped] at taken
    obtain ⟨inner, front, s, rfl, blank', here, rfl⟩ := takes s first t taken
    obtain ⟨after, is, s, rfl, blankAfter, texts, values, remains⟩ :=
      items_sound item text takes _ s vs rest more
    refine .inr ⟨⟨before ++ inner, front, after, first⟩ :: is, s, List.cons_ne_nil _ _, ?_, ?_, ?_,
      remains⟩
    · rw [List.map_cons, joined_cons]
      simp [Item.chars]
    · rw [List.forall_mem_cons]
      exact ⟨⟨gap_append _ _ blank blank', blankAfter, here⟩, texts⟩
    · rw [same, values, List.map_cons]

/-! ## Objects -/

theorem member_sound (s : List Char) (pair : String × Json) (rest : List UInt8)
    (read : member item (Utf8.encode s) = .ok (pair, rest)) :
    ∃ body name after before front others,
      s = body ++ '"' :: (after ++ ':' :: (before ++ (front ++ others))) ∧ Body body name ∧
        Gap after ∧ Gap before ∧ text front pair.2 ∧ pair.1 = .ofList name ∧
        rest = Utf8.encode others := by
  obtain ⟨afterName, colon, named, written, taken⟩ := member_cases item _ rest pair read
  obtain ⟨body, name, s, rfl, pieces, same, rfl⟩ := string_sound s pair.1 afterName named
  obtain ⟨after, s, rfl, blank, skipped⟩ := exists_gap s
  rw [skipped] at written
  obtain ⟨s, rfl, rfl⟩ := Utf8.encode_eq_cons s 0x3a colon written (by decide)
  obtain ⟨before, front, others, rfl, blank', here, remains⟩ := takes s pair.2 rest taken
  exact ⟨body, name, after, before, front, others, rfl, pieces, blank, blank', here, same, remains⟩

theorem memberList_sound (steps : Nat) (s : List Char) (pairs : List (String × Json))
    (rest : List UInt8) (read : memberList item steps (Utf8.encode s) = .ok (pairs, rest)) :
    ∃ (gap : List Char) (ms : List Member) (others : List Char),
      s = gap ++ ((ms.map Member.chars).flatMap (',' :: ·) ++ '\x7d' :: others) ∧ Gap gap ∧
      (∀ m ∈ ms, m.Named ∧ m.item.Spaced ∧ text m.item.text m.item.value) ∧
      pairs = ms.map Member.pair ∧ rest = Utf8.encode others := by
  induction steps generalizing s pairs rest with
  | zero => cases read
  | succ steps ih =>
      obtain ⟨gap, s, rfl, blank, skipped⟩ := exists_gap s
      rcases memberList_cases item steps _ rest pairs read with
        ⟨close, none⟩ | ⟨behind, quote, pair, t, pairs', comma, opened, taken, more, same⟩
      · rw [skipped] at close
        obtain ⟨others, rfl, remains⟩ := Utf8.encode_eq_cons s 0x7d rest close (by decide)
        exact ⟨gap, [], others, rfl, blank, by simp, none, remains⟩
      · rw [skipped] at comma
        obtain ⟨s, rfl, written⟩ := Utf8.encode_eq_cons s 0x2c behind comma (by decide)
        obtain ⟨ahead, s, rfl, blank', skipped'⟩ := exists_gap s
        rw [written, skipped'] at opened
        obtain ⟨s, rfl, rfl⟩ := Utf8.encode_eq_cons s 0x22 quote opened (by decide)
        obtain ⟨body, name, afterName, before, front, s, rfl, pieces, blankName, blankItem, here,
          first, rfl⟩ := member_sound item text takes s pair t taken
        obtain ⟨after, ms, s, rfl, blankAfter, texts, values, remains⟩ := ih s pairs' rest more
        refine ⟨gap, ⟨ahead, body, afterName, name, ⟨before, front, after, pair.2⟩⟩ :: ms, s, ?_,
          blank, ?_, ?_, remains⟩
        · simp [Member.chars, Item.chars]
        · rw [List.forall_mem_cons]
          exact ⟨⟨⟨blank', pieces, blankName⟩, ⟨blankItem, blankAfter⟩, here⟩, texts⟩
        · rw [same, values, List.map_cons, Member.pair, ← first]

theorem objectBody_sound (s : List Char) (v : Json) (rest : List UInt8)
    (read : objectBody item (Utf8.encode s) = .ok (v, rest)) :
    (∃ gap others, s = gap ++ '\x7d' :: others ∧ Gap gap ∧ v = .object [] ∧
        rest = Utf8.encode others) ∨
      ∃ (ms : List Member) (others : List Char), ms ≠ [] ∧
        s = joined [','] (ms.map Member.chars) ++ '\x7d' :: others ∧
        (∀ m ∈ ms, m.Named ∧ m.item.Spaced ∧ text m.item.text m.item.value) ∧
        v = ofMembers (ms.map Member.pair) ∧ rest = Utf8.encode others := by
  obtain ⟨ahead, s, rfl, blank, skipped⟩ := exists_gap s
  rcases objectBody_cases item _ rest v read with
    ⟨close, none⟩ | ⟨quote, pair, t, pairs, opened, taken, more, same⟩
  · rw [skipped] at close
    obtain ⟨others, rfl, remains⟩ := Utf8.encode_eq_cons s 0x7d rest close (by decide)
    exact .inl ⟨ahead, others, rfl, blank, none, remains⟩
  · rw [skipped] at opened
    obtain ⟨s, rfl, rfl⟩ := Utf8.encode_eq_cons s 0x22 quote opened (by decide)
    obtain ⟨body, name, afterName, before, front, s, rfl, pieces, blankName, blankItem, here,
      first, rfl⟩ := member_sound item text takes s pair t taken
    obtain ⟨after, ms, s, rfl, blankAfter, texts, values, remains⟩ :=
      memberList_sound item text takes _ s pairs rest more
    refine .inr ⟨⟨ahead, body, afterName, name, ⟨before, front, after, pair.2⟩⟩ :: ms, s,
      List.cons_ne_nil _ _, ?_, ?_, ?_, remains⟩
    · rw [List.map_cons, joined_cons]
      simp [Member.chars, Item.chars]
    · rw [List.forall_mem_cons]
      exact ⟨⟨⟨blank, pieces, blankName⟩, ⟨blankItem, blankAfter⟩, here⟩, texts⟩
    · rw [same, values, List.map_cons, Member.pair, ← first]

omit takes

/-! ## Values -/

theorem word_text {α : Type} (value v : α) (expected : List UInt8)
    (short : ∀ b ∈ expected, b < 0x80) (s : List Char) (rest : List UInt8)
    (read : word value expected (Utf8.encode s) = .ok (v, rest)) :
    v = value ∧ ∃ others, s = (expected.map fun b => Char.ofNat b.toNat) ++ others ∧
      rest = Utf8.encode others := by
  obtain ⟨same, written⟩ := word_sound value v expected _ rest read
  exact ⟨same, encode_eq_append expected short s rest written⟩

theorem value_sound (depth : Nat)
    (nested : ∀ inner, depth = inner + 1 → Takes (value inner) (IsText inner)) (s : List Char)
    (v : Json) (rest : List UInt8) (visible : skipSpace (Utf8.encode s) = Utf8.encode s)
    (read : value depth (Utf8.encode s) = .ok (v, rest)) :
    ∃ front others, s = front ++ others ∧ IsText depth front v ∧ rest = Utf8.encode others := by
  rw [value, visible] at read
  obtain ⟨b, after, written⟩ : ∃ b after, Utf8.encode s = b :: after := by
    cases written : Utf8.encode s with
    | nil =>
        rw [written] at read
        cases read
    | cons b after => exact ⟨b, after, rfl⟩
  -- A byte of the short form is a character of its own, so the text starts with it.
  have character : ∀ mark : UInt8, b = mark → mark < 0x80 →
      ∃ others, s = Char.ofNat mark.toNat :: others ∧ after = Utf8.encode others := by
    rintro mark rfl short
    exact Utf8.encode_eq_cons s b after written short
  rw [written] at read
  dsimp only at read
  split at read
  · next mark =>
    obtain ⟨s, rfl, rfl⟩ := character _ mark (by decide)
    rw [words.1] at read
    obtain ⟨rfl, others, rfl, remains⟩ := word_text _ v _ (by simp) s rest read
    exact ⟨_, others, rfl, .null depth, remains⟩
  split at read
  · next mark =>
    obtain ⟨s, rfl, rfl⟩ := character _ mark (by decide)
    rw [words.2.1] at read
    obtain ⟨rfl, others, rfl, remains⟩ := word_text _ v _ (by simp) s rest read
    exact ⟨_, others, rfl, .true depth, remains⟩
  split at read
  · next mark =>
    obtain ⟨s, rfl, rfl⟩ := character _ mark (by decide)
    rw [words.2.2] at read
    obtain ⟨rfl, others, rfl, remains⟩ := word_text _ v _ (by simp) s rest read
    exact ⟨_, others, rfl, .false depth, remains⟩
  split at read
  · next mark =>
    obtain ⟨s, rfl, rfl⟩ := character _ mark (by decide)
    obtain ⟨⟨t, afterString⟩, taken, kept⟩ := (bind_ok_iff _ _ _).mp read
    obtain ⟨body, name, others, rfl, pieces, rfl, remains⟩ := string_sound s t afterString taken
    cases kept
    exact ⟨'"' :: (body ++ ['"']), others, by simp, .string depth body name pieces, remains⟩
  split at read
  · next mark =>
    obtain ⟨s, rfl, rfl⟩ := character _ mark (by decide)
    cases depth with
    | zero => cases read
    | succ inner =>
        rcases arrayBody_sound _ _ (nested inner rfl) s v rest read with
          ⟨gap, others, rfl, blank, rfl, remains⟩ | ⟨is, others, present, rfl, texts, rfl, remains⟩
        · exact ⟨'[' :: (gap ++ [']']), others, by simp, .emptyArray inner gap blank, remains⟩
        · exact ⟨_, others, by simp, .array inner is present
            (fun i member => ⟨(texts i member).1, (texts i member).2.1⟩)
            (fun i member => (texts i member).2.2), remains⟩
  split at read
  · next mark =>
    obtain ⟨s, rfl, rfl⟩ := character _ mark (by decide)
    cases depth with
    | zero => cases read
    | succ inner =>
        rcases objectBody_sound _ _ (nested inner rfl) s v rest read with
          ⟨gap, others, rfl, blank, rfl, remains⟩ | ⟨ms, others, present, rfl, texts, rfl, remains⟩
        · exact ⟨'\x7b' :: (gap ++ ['\x7d']), others, by simp, .emptyObject inner gap blank, remains⟩
        · exact ⟨_, others, by simp, .object inner ms present (fun m member => (texts m member).1)
            (fun m member => (texts m member).2.1) (fun m member => (texts m member).2.2), remains⟩
  split at read
  · next mark =>
    obtain ⟨s, rfl, rfl⟩ := character _ mark (by decide)
    obtain ⟨n, x, others, sign, rfl, value, rfl, remains⟩ := number_sound true s v rest read
    refine ⟨n.text, others, ?_, .number depth n x value, remains⟩
    rw [Numeral.text, sign]
    rfl
  split at read
  · rw [← written] at read
    obtain ⟨n, x, others, sign, rfl, value, rfl, remains⟩ := number_sound false s v rest read
    refine ⟨n.text, others, ?_, .number depth n x value, remains⟩
    rw [Numeral.text, sign]
    rfl
  · cases read

theorem takes_of_nested (depth : Nat)
    (nested : ∀ inner, depth = inner + 1 → Takes (value inner) (IsText inner)) :
    Takes (value depth) (IsText depth) := by
  intro s v rest read
  obtain ⟨gap, s, rfl, blank, skipped⟩ := exists_gap s
  have visible : skipSpace (Utf8.encode s) = Utf8.encode s := by
    rw [← skipped]
    exact List.dropWhile_idempotent isSpace _
  rw [value_skipSpace depth _ _ (skipped.trans visible.symm)] at read
  obtain ⟨front, others, rfl, grammar, remains⟩ := value_sound depth nested s v rest visible read
  exact ⟨gap, front, others, rfl, blank, grammar, remains⟩

/-- By induction on the depth: the items of an array and the members of an object nest one less
deep. -/
theorem takes_value (depth : Nat) : Takes (value depth) (IsText depth) := by
  induction depth with
  | zero => exact takes_of_nested 0 fun _ same => nomatch same
  | succ depth ih =>
      apply takes_of_nested
      rintro inner ⟨⟩
      exact ih

end Reader

/-- A text is read as a value exactly if the grammar has it, with gaps around it, as a text that
denotes that value. -/
theorem parse_ok_iff (s : List Char) (v : Json) :
    parse (Utf8.encode s) = .ok v ↔ Denoted maxDepth s v := by
  refine ⟨fun read => ?_, parse_of_denoted s v⟩
  have whole : readText (Utf8.encode s) = .ok v := by
    rw [parse] at read
    cases done : readText (Utf8.encode s) with
    | ok w =>
        rw [done] at read
        cases read
        rfl
    | error f =>
        rw [done] at read
        cases read
  obtain ⟨⟨w, rest⟩, taken, last⟩ := (bind_ok_iff _ _ _).mp whole
  obtain ⟨before, text, others, rfl, blank, grammar, rfl⟩ :=
    Reader.takes_value maxDepth s w rest taken
  obtain ⟨after, others, rfl, blank', skipped⟩ := Reader.exists_gap others
  simp only [skipped] at last
  split at last
  · next empty =>
    cases last
    rw [Utf8.encode_eq_nil others empty, List.append_nil]
    exact ⟨before, text, after, rfl, blank, blank', grammar⟩
  · cases last

end PgJson.Json
