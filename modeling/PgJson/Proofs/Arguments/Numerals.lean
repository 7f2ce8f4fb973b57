import PgJson.Proofs.Arguments.Values
import PgJson.Proofs.Json.RoundTrip
import Mathlib.Data.List.Forall2

/-!
Number literals among the arguments. The test that tells a negative number from an option has no
room for a sign in the exponent, so a negative literal with one is refused as an unknown option.
-/

namespace PgJson

namespace Json.Numeral

def signedExponent (n : Numeral) : Bool := n.exponent.any fun e => e.minus.isSome

/-- The literal is negative and has a sign in its exponent. -/
def likeOption (n : Numeral) : Bool := n.negative && n.signedExponent

def firstDigit (n : Numeral) : Char := n.whole.chars.head n.whole.present

def argument (n : Numeral) : String := .ofList n.text

theorem unsigned_eq_cons (n : Numeral) : ∃ rest, n.unsigned = n.firstDigit :: rest :=
  ⟨n.whole.chars.tail ++ (n.placesText ++ n.exponentText), by
    rw [unsigned, firstDigit, ← List.cons_append, List.cons_head_tail]⟩

theorem isDigit_firstDigit (n : Numeral) : n.firstDigit.isDigit :=
  n.whole.digits _ (List.head_mem n.whole.present)

theorem firstDigit_ne_dash (n : Numeral) : n.firstDigit ≠ '-' := by
  intro same
  have digit := n.isDigit_firstDigit
  rw [same] at digit
  exact absurd digit (by decide)

theorem argument_ne_dashes (n : Numeral) : n.argument ≠ "--" := by
  obtain ⟨rest, unsigned⟩ := n.unsigned_eq_cons
  intro same
  have inside : n.firstDigit ∈ n.argument.toList := by
    rw [argument, String.toList_ofList, text, unsigned]
    exact List.mem_append_right _ (List.mem_cons_self ..)
  rw [same] at inside
  exact n.firstDigit_ne_dash (by simpa using inside)

end Json.Numeral

namespace Arguments

open Json

/-! ## The test for a number -/

theorem numberFrom_digit (first dotted : Bool) (c : Char) (digit : c.isDigit) (rest : List Char) :
    numberFrom first dotted (c :: rest) = numberFrom false dotted rest := by
  have point : c ≠ '.' := by
    rintro rfl
    exact absurd digit (by decide)
  have mark : (c == 'e' || c == 'E') = false := by
    rw [Bool.or_eq_false_iff, beq_eq_false_iff_ne, beq_eq_false_iff_ne]
    constructor <;> rintro rfl <;> exact absurd digit (by decide)
  rw [numberFrom, mark, digit]
  · rfl
  · exact point

theorem numberFrom_digits (s : List Char) (digits : ∀ c ∈ s, c.isDigit) (dotted : Bool)
    (rest : List Char) : numberFrom false dotted (s ++ rest) = numberFrom false dotted rest := by
  induction s with
  | nil => rfl
  | cons c s ih =>
      rw [List.cons_append, numberFrom_digit false dotted c (digits c (List.mem_cons_self ..))]
      exact ih fun d member => digits d (List.mem_cons_of_mem _ member)

theorem numberFrom_exponent (dotted : Bool) (n : Numeral) :
    numberFrom false dotted n.exponentText = !n.signedExponent := by
  unfold Numeral.exponentText Numeral.signedExponent
  cases n.exponent with
  | none => rfl
  | some e =>
      have behind : numberFrom false dotted e.text =
          (e.power != [] && e.power.all Char.isDigit) := by
        unfold Exponent.text
        cases e.capital <;> rfl
      show numberFrom false dotted e.text = !e.minus.isSome
      rw [behind]
      unfold Exponent.power
      match e.minus with
      | none =>
          have all : e.digits.chars.all Char.isDigit = true := List.all_eq_true.mpr e.digits.digits
          have some : (e.digits.chars != []) = true := bne_iff_ne.mpr e.digits.present
          show (e.digits.chars != [] && e.digits.chars.all Char.isDigit) = true
          rw [all, some]
          rfl
      | some false => rfl
      | some true => rfl

theorem isNumber_unsigned (n : Numeral) : isNumber n.unsigned = !n.signedExponent := by
  have places : numberFrom false false (n.placesText ++ n.exponentText) = !n.signedExponent := by
    unfold Numeral.placesText
    cases n.places with
    | none => exact numberFrom_exponent false n
    | some places =>
        show numberFrom false true (places.chars ++ n.exponentText) = _
        rw [numberFrom_digits places.chars places.digits]
        exact numberFrom_exponent true n
  obtain ⟨rest, text⟩ := n.unsigned_eq_cons
  have front : isNumber n.unsigned = numberFrom false false n.unsigned := by
    rw [isNumber, text, numberFrom_digit true false _ n.isDigit_firstDigit,
      numberFrom_digit false false _ n.isDigit_firstDigit]
  rw [front, Numeral.unsigned, numberFrom_digits n.whole.chars n.whole.digits, places]

/-! ## Values among the arguments -/

theorem short_digit (c : Char) (digit : c.isDigit) :
    short c = .refused (.unknown (.ofList ['-', c])) := by
  unfold short
  split
  · exact absurd digit (by decide)
  · exact absurd digit (by decide)
  · rfl

theorem item_numeral (n : Numeral) :
    item n.argument =
      if n.likeOption then .refused (.unknown (.ofList ['-', n.firstDigit])) else .value := by
  obtain ⟨rest, text⟩ := n.unsigned_eq_cons
  unfold Numeral.likeOption Numeral.argument Numeral.text
  cases n.negative with
  | false =>
      rw [item_plain]
      · rfl
      · rw [String.toList_ofList, if_neg Bool.false_ne_true, List.nil_append, text]
        exact fun same => n.firstDigit_ne_dash (Option.some.inj same)
  | true =>
      have value : item (.ofList ('-' :: n.unsigned)) =
          if isNumber n.unsigned then .value else short n.firstDigit := by
        unfold item
        rw [String.toList_ofList, text]
        split
        · next same =>
          exact absurd (List.cons.inj (List.cons.inj same).2).1 n.firstDigit_ne_dash
        · next same =>
          cases same
          rfl
        · next other => exact absurd rfl (other _ _)
      show item (.ofList ('-' :: n.unsigned)) = _
      rw [value, isNumber_unsigned, short_digit _ n.isDigit_firstDigit]
      cases n.signedExponent <;> rfl

/-! ## Number literals -/

theorem parameter_numeral (n : Numeral) (v : Number) (value : n.value? = some v) :
    parameter n.argument = .number v := by
  have read : parseString? n.argument = some (.number v) := by
    rw [parseString?, Utf8.encodeString, Numeral.argument, String.toList_ofList,
      parse_numeral n v value]
    rfl
  rw [parameter, read]
  rfl

theorem parameters_numerals (params : List Numeral) (numbers : List Number)
    (range : List.Forall₂ (fun n v => n.value? = some v) params numbers) :
    (params.map Numeral.argument).map parameter = numbers.map .number := by
  induction range with
  | nil => rfl
  | cons value _ ih => rw [List.map_cons, List.map_cons, List.map_cons, ih,
      parameter_numeral _ _ value]

/-- A statement and number literals are the statement and its numbers, in order, but for the
literals that look like options: the first of them is refused. -/
theorem parse_numerals (sql : String) (plain : sql.toList.head? ≠ some '-')
    (params : List Numeral) (numbers : List Number)
    (range : List.Forall₂ (fun n v => n.value? = some v) params numbers) :
    parse (sql :: params.map Numeral.argument) =
      match params.find? Numeral.likeOption with
      | none => .ok (.run ⟨sql, numbers.map .number, false⟩)
      | some n => .error (.unknown (.ofList ['-', n.firstDigit])) := by
  have values : ∀ front : List Numeral, (∀ n ∈ front, n.likeOption = false) →
      ∀ arg ∈ sql :: front.map Numeral.argument, item arg = .value := by
    intro front none arg member
    rcases List.mem_cons.mp member with rfl | member
    · exact item_plain arg plain
    · obtain ⟨n, inside, rfl⟩ := List.mem_map.mp member
      rw [item_numeral, none n inside]
      rfl
  cases found : params.find? Numeral.likeOption with
  | none =>
      have none : ∀ n ∈ params, n.likeOption = false := fun n member =>
        Bool.eq_false_iff.mpr (List.find?_eq_none.mp found n member)
      have taken := parseFrom_values _ (values params none) [] false []
      rw [List.append_nil] at taken
      rw [parse, taken, List.nil_append, parseFrom, ofValues,
        parameters_numerals params numbers range]
  | some n =>
      obtain ⟨like, front, rest, rfl, none⟩ := List.find?_eq_some_iff_append.mp found
      have taken := parseFrom_values _
        (values front fun m member => by simpa using none m member) [] false
        (n.argument :: rest.map Numeral.argument)
      have refused := item_numeral n
      rw [if_pos like] at refused
      rw [parse, List.map_append, List.map_cons, ← List.cons_append, taken, parseFrom,
        if_neg n.argument_ne_dashes, refused]

def signedLiteral : Numeral :=
  ⟨true, ⟨['1'], by decide, by simp⟩, none,
    some ⟨false, some true, ⟨['5'], by decide, by simp⟩⟩, by decide⟩

theorem parse_numerals_sign :
    parse ["SELECT $1", "-5"] =
        .ok (.run ⟨"SELECT $1", [.number (.integer (-5) (by decide))], false⟩) ∧
      parse ["SELECT $1, $2", "-5", "-1e-5"] = .error (.unknown "-1") :=
  ⟨parse_numerals "SELECT $1" (by decide) [.ofNat true 5] _ (.cons rfl .nil),
    parse_numerals "SELECT $1, $2" (by decide) [.ofNat true 5, signedLiteral]
      [.integer (-5) (by decide), signedLiteral.value?.get (by decide +kernel)]
      (.cons rfl (.cons (Option.some_get _).symm .nil))⟩

end Arguments
end PgJson
