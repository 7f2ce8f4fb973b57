import PgJson.Json.Printer
import PgJson.Proofs.Text.Numeral
import Mathlib.Data.List.Forall2

/-!
Pretty text against compact text. They differ by white space outside of strings, and compact text
holds no control characters, so that it stays on one line whatever its strings hold.
-/

namespace PgJson.Json

open Text

/-- Where a character of a text stands: outside of strings, in one, or in one behind a backslash. -/
inductive Place where
  | outside
  | inside
  | behindSlash
  deriving DecidableEq, Repr

def Place.next (c : Char) : Place → Place
  | outside => if c = '"' then inside else outside
  | inside => if c = '"' then outside else if c = '\\' then behindSlash else inside
  | behindSlash => inside

def unspaced : Place → List Char → List Char
  | _, [] => []
  | p, c :: s => if p = .outside ∧ isBlank c then unspaced p s else c :: unspaced (p.next c) s

/-- The one line that is left of a text without the white space outside of its strings, whatever
follows the text. -/
structure OneLine (s line : List Char) : Prop where
  unspaced_eq : ∀ rest, unspaced .outside (s ++ rest) = line ++ unspaced .outside rest
  visible : ∀ c ∈ line, 0x20 ≤ c.toNat

namespace OneLine

theorem gap (s : List Char) (blank : ∀ c ∈ s, isBlank c) : OneLine s [] := by
  refine ⟨?_, by simp⟩
  intro rest
  induction s with
  | nil => rfl
  | cons c s ih =>
      rw [List.forall_mem_cons] at blank
      rw [List.cons_append, unspaced, if_pos ⟨rfl, blank.1⟩]
      exact ih blank.2

theorem append (s t line line' : List Char) (first : OneLine s line) (second : OneLine t line') :
    OneLine (s ++ t) (line ++ line') := by
  constructor
  · intro rest
    rw [List.append_assoc, first.unspaced_eq, second.unspaced_eq, List.append_assoc]
  · rw [List.forall_mem_append]
    exact ⟨first.visible, second.visible⟩

end OneLine

/-! ## Words, brackets and numbers -/

def IsToken (c : Char) : Bool := 0x20 < c.toNat && c.toNat < 0x7f && c != '"'

theorem isToken_iff (c : Char) : IsToken c = true ↔ 0x20 < c.toNat ∧ c.toNat < 0x7f ∧ c ≠ '"' := by
  simp [IsToken, and_assoc]

theorem isToken_of_isDigit (c : Char) (digit : c.isDigit) : IsToken c = true := by
  have bounds := isDigit_bounds c digit
  rw [isToken_iff]
  refine ⟨by omega, by omega, ?_⟩
  intro quote
  rw [quote] at digit
  cases digit

theorem isBlank_of_isToken (c : Char) (token : IsToken c = true) : isBlank c = false := by
  obtain ⟨low, high, _⟩ := (isToken_iff c).mp token
  simp only [isBlank, Bool.or_eq_false_iff, Bool.and_eq_false_iff, beq_eq_false_iff_ne,
    decide_eq_false_iff_not]
  omega

theorem OneLine.tokens (s : List Char) (all : s.all IsToken = true) : OneLine s s := by
  rw [List.all_eq_true] at all
  constructor
  · intro rest
    induction s with
    | nil => rfl
    | cons c s ih =>
        rw [List.forall_mem_cons] at all
        have kept : ¬ (Place.outside = .outside ∧ isBlank c = true) := by
          simp [isBlank_of_isToken c all.1]
        have quote : c ≠ '"' := ((isToken_iff c).mp all.1).2.2
        rw [List.cons_append, unspaced, if_neg kept, Place.next, if_neg quote, ih all.2,
          List.cons_append]
  · intro c member
    exact Nat.le_of_lt ((isToken_iff c).mp (all c member)).1

theorem all_decimal (n : Nat) : (decimal n).all IsToken = true := by
  rw [List.all_eq_true]
  intro c member
  exact isToken_of_isDigit c (isDigit_of_mem_decimal n c member)

theorem all_padded (width n : Nat) : (padded width n).all IsToken = true := by
  rw [List.all_eq_true]
  intro c member
  exact isToken_of_isDigit c (isDigit_of_mem_padded width n c member)

theorem all_decimalInt (n : Int) : (decimalInt n).all IsToken = true := by
  cases n with
  | ofNat n => exact all_decimal n
  | negSucc n => simp [decimalInt, all_decimal, IsToken]

theorem all_plain (x : Scientific) : x.plain.all IsToken = true := by
  unfold Scientific.plain
  split
  · split
    · rfl
    · simp [all_decimal, IsToken]
  · next n _ =>
    have digits := all_padded (n + 2) x.digits
    rw [List.all_eq_true] at digits ⊢
    intro c member
    rcases List.mem_append.mp member with whole | rest
    · exact digits c (List.mem_of_mem_take whole)
    · rcases List.mem_cons.mp rest with point | places
      · rw [point]
        rfl
      · exact digits c (List.mem_of_mem_drop places)

theorem all_withExponent (x : Scientific) : x.withExponent.all IsToken = true := by
  have digits := all_decimal x.digits
  simp only [Scientific.withExponent, List.all_append, List.all_cons, Bool.and_eq_true]
  constructor
  · split
    · rfl
    · next d written => rwa [written] at digits
    · next d rest _ written =>
      rw [written, List.all_cons, Bool.and_eq_true] at digits
      simp only [List.all_cons, Bool.and_eq_true]
      exact ⟨digits.1, rfl, digits.2⟩
  · refine ⟨rfl, ?_⟩
    split
    · exact all_decimalInt _
    · exact all_decimalInt _

theorem all_number (n : Number) : n.text.all IsToken = true := by
  cases n with
  | integer n range => exact all_decimalInt n
  | float x finite =>
      have sign : x.sign.all IsToken = true := by
        unfold Binary64.sign
        split
        · rfl
        · rfl
      rw [Number.text, Binary64.jsonText, List.all_append, sign, Scientific.jsonText]
      split
      · split
        · exact all_plain _
        · rw [List.all_append, all_plain]
          rfl
      · exact all_withExponent _

/-! ## Strings -/

theorem unspaced_inside (c : Char) (s : List Char) (quote : c ≠ '"') (slash : c ≠ '\\') :
    unspaced .inside (c :: s) = c :: unspaced .inside s := by
  simp [unspaced, Place.next, quote, slash]

theorem hexDigit_ne (n : Nat) :
    hexDigit n ≠ '"' ∧ hexDigit n ≠ '\\' ∧ 0x20 ≤ (hexDigit n).toNat := by
  have all : ∀ d < 16, Nat.digitChar d ≠ '"' ∧ Nat.digitChar d ≠ '\\' ∧
      0x20 ≤ (Nat.digitChar d).toNat := by decide
  exact all (n % 16) (Nat.mod_lt n (by decide))

theorem unspaced_escaped (c : Char) (rest : List Char) :
    unspaced .inside (escaped c ++ rest) = escaped c ++ unspaced .inside rest := by
  have marked : ∀ mark : Char, unspaced .inside ('\\' :: mark :: rest) =
      '\\' :: mark :: unspaced .inside rest := by
    intro mark
    simp [unspaced, Place.next]
  unfold escaped
  split
  · exact marked _
  · exact marked _
  · exact marked _
  · exact marked _
  · exact marked _
  · exact marked _
  · exact marked _
  · next quote slash _ _ _ _ _ =>
    split
    · obtain ⟨highQuote, highSlash, _⟩ := hexDigit_ne (c.toNat / 16)
      obtain ⟨lowQuote, lowSlash, _⟩ := hexDigit_ne c.toNat
      simp [unspaced, Place.next, highQuote, highSlash, lowQuote, lowSlash]
    · exact unspaced_inside c rest quote slash

theorem visible_escaped (c : Char) : ∀ d ∈ escaped c, 0x20 ≤ d.toNat := by
  have high := (hexDigit_ne (c.toNat / 16)).2.2
  have low := (hexDigit_ne c.toNat).2.2
  unfold escaped
  split
  · simp
  · simp
  · simp
  · simp
  · simp
  · simp
  · simp
  · split
    · simp [high, low]
    · next visible => simpa using visible

theorem unspaced_body (s rest : List Char) :
    unspaced .inside (s.flatMap escaped ++ '"' :: rest) =
      s.flatMap escaped ++ '"' :: unspaced .outside rest := by
  induction s with
  | nil => simp [unspaced, Place.next]
  | cons c s ih =>
      rw [List.flatMap_cons, List.append_assoc, unspaced_escaped, ih, List.append_assoc]

theorem OneLine.quoted (s : String) : OneLine (quoted s) (quoted s) := by
  constructor
  · intro rest
    have blank : isBlank '"' = false := rfl
    simp [Json.quoted, unspaced, Place.next, blank, unspaced_body]
  · intro c member
    simp only [Json.quoted, List.cons_append, List.mem_cons, List.mem_append, List.mem_flatMap,
      List.not_mem_nil, or_false] at member
    rcases member with start | ⟨d, _, part⟩ | finish
    · rw [start]
      decide
    · exact visible_escaped d c part
    · rw [finish]
      decide

/-! ## Lists and values -/

theorem mem_indentation (level : Nat) (c : Char) (member : c ∈ indentation level) :
    c = '\n' ∨ c = ' ' :=
  (List.mem_cons.mp member).imp_right List.eq_of_mem_replicate

theorem blank_indentation (level : Nat) : ∀ c ∈ indentation level, isBlank c := by
  intro c member
  rcases mem_indentation level c member with line | space
  · rw [line]
    rfl
  · rw [space]
    rfl

theorem OneLine.joined (gap : List Char) (blank : ∀ c ∈ gap, isBlank c)
    (texts lines : List (List Char)) (each : List.Forall₂ OneLine texts lines) :
    OneLine (Text.joined (',' :: gap) texts) (Text.joined [','] lines) := by
  induction each with
  | nil => exact .gap [] (by simp)
  | @cons text line texts lines first others ih =>
      cases others with
      | nil => exact first
      | cons second rest =>
          have comma : OneLine (',' :: gap) [','] :=
            .append [','] gap [','] [] (.tokens [','] rfl) (.gap gap blank)
          exact .append _ _ _ _ (.append _ _ _ _ first comma) ih

theorem OneLine.block (left right : Char) (level : Nat) (texts lines : List (List Char))
    (brackets : [left, right].all IsToken = true) (each : List.Forall₂ OneLine texts lines) :
    OneLine (block left right level texts) (left :: Text.joined [','] lines ++ [right]) := by
  simp only [List.all_cons, List.all_nil, Bool.and_true, Bool.and_eq_true] at brackets
  have opened : OneLine [left] [left] := .tokens [left] (by simp [brackets.1])
  have closed : OneLine [right] [right] := .tokens [right] (by simp [brackets.2])
  have items := OneLine.joined (indentation (level + 1)) (blank_indentation _) texts lines each
  cases each with
  | nil => exact .append _ _ _ _ opened closed
  | cons first others =>
      have before := OneLine.gap (indentation (level + 1)) (blank_indentation _)
      have after := OneLine.gap (indentation level) (blank_indentation _)
      have whole := OneLine.append _ _ _ _
        (.append _ _ _ _ (.append _ _ _ _ (.append _ _ _ _ opened before) items) after) closed
      simpa [Json.block] using whole

mutual

theorem oneLine_value (level : Nat) : (v : Json) → OneLine (prettyChars level v) (compactChars v)
  | .null => .tokens _ rfl
  | .bool true => .tokens _ rfl
  | .bool false => .tokens _ rfl
  | .number n => .tokens _ (all_number n)
  | .string s => .quoted s
  | .array items => .block _ _ level _ _ rfl (oneLine_items (level + 1) items)
  | .object members => .block _ _ level _ _ rfl (oneLine_members (level + 1) members)

theorem oneLine_items (level : Nat) : (items : List Json) →
    List.Forall₂ OneLine (prettyItems level items) (compactItems items)
  | [] => .nil
  | item :: rest => .cons (oneLine_value level item) (oneLine_items level rest)

theorem oneLine_members (level : Nat) : (members : List (String × Json)) →
    List.Forall₂ OneLine (prettyMembers level members) (compactMembers members)
  | [] => .nil
  | (name, value) :: rest => by
      have colon : OneLine [':', ' '] [':'] :=
        .append [':'] [' '] [':'] [] (.tokens _ rfl) (.gap _ (by simp [isBlank]))
      have member := OneLine.append _ _ _ _ (.append _ _ _ _ (.quoted name) colon)
        (oneLine_value level value)
      simp only [List.append_assoc, List.cons_append, List.nil_append] at member
      exact .cons member (oneLine_members level rest)

end

/-- Without the white space outside of its strings pretty text is compact text. -/
theorem unspaced_pretty (level : Nat) (v : Json) :
    unspaced .outside (prettyChars level v) = compactChars v := by
  have whole := (oneLine_value level v).unspaced_eq []
  rwa [List.append_nil, unspaced, List.append_nil] at whole

end PgJson.Json
