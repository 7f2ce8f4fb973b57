import PgJson.Json.Parser
import PgJson.Json.Printer
import PgJson.Proofs.Text.Digits
import PgJson.Proofs.Outcome
import PgJson.Proofs.Text.Utf8
import Mathlib.Data.List.TakeWhile

namespace PgJson.Json

open Text

structure Digits where
  chars : List Char
  present : chars ≠ []
  digits : ∀ c ∈ chars, c.isDigit

def Digits.values (d : Digits) : List Nat := d.chars.map fun c => c.toNat - 48

structure Exponent where
  capital : Bool
  minus : Option Bool
  digits : Digits

/-- A number literal as it is written, with no needless zero in front. -/
structure Numeral where
  negative : Bool
  whole : Digits
  places : Option Digits
  exponent : Option Exponent
  leading : whole.chars.head? = some '0' → whole.chars = ['0']

def Exponent.power (e : Exponent) : List Char :=
  match e.minus with
  | none => e.digits.chars
  | some minus => (if minus then '-' else '+') :: e.digits.chars

def Exponent.text (e : Exponent) : List Char := (if e.capital then 'E' else 'e') :: e.power

namespace Numeral

def placesText (n : Numeral) : List Char :=
  match n.places with
  | none => []
  | some places => '.' :: places.chars

def exponentText (n : Numeral) : List Char :=
  match n.exponent with
  | none => []
  | some e => e.text

def unsigned (n : Numeral) : List Char := n.whole.chars ++ (n.placesText ++ n.exponentText)

def text (n : Numeral) : List Char := (if n.negative then ['-'] else []) ++ n.unsigned

def literal (n : Numeral) : Literal :=
  ⟨n.negative, n.whole.values, n.places.map Digits.values,
    n.exponent.map fun e => (e.minus == some true, e.digits.values)⟩

/-- The number that a literal stands for, `none` beyond the doubles. -/
def value? (n : Numeral) : Option Number := n.literal.value?

def ofNat (negative : Bool) (n : Nat) : Numeral :=
  ⟨negative, ⟨decimal n, Nat.toDigits_ne_nil, isDigit_of_mem_decimal n⟩, none, none,
    decimal_leading n⟩

end Numeral

def NoDigit : List UInt8 → Prop
  | [] => True
  | b :: _ => Reader.digit? b = none

def Ends : List UInt8 → Prop
  | [] => True
  | b :: _ => Reader.digit? b = none ∧ b ≠ 0x2e ∧ b ≠ 0x65 ∧ b ≠ 0x45

theorem noDigit_of_ends (rest : List UInt8) (ends : Ends rest) : NoDigit rest := by
  cases rest with
  | nil => trivial
  | cons b rest => exact ends.1

namespace Reader

/-! ## Digits -/

theorem digit?_byte (c : Char) (digit : c.isDigit) :
    digit? (UInt8.ofNat c.toNat) = some (c.toNat - 48) := by
  have bounds := isDigit_bounds c digit
  have value : (UInt8.ofNat c.toNat).toNat = c.toNat := Utf8.toNat_byte (by omega)
  have within : 0x30 ≤ UInt8.ofNat c.toNat ∧ UInt8.ofNat c.toNat ≤ 0x39 := by
    rw [UInt8.le_iff_toNat_le, UInt8.le_iff_toNat_le, value]
    exact bounds
  rw [digit?, if_pos within, value]

theorem encode_digits (s : List Char) (digits : ∀ c ∈ s, c.isDigit) :
    Utf8.encode s = s.map fun c => UInt8.ofNat c.toNat := by
  induction s with
  | nil => rfl
  | cons c s ih =>
      have bounds := isDigit_bounds c (digits c (List.mem_cons_self ..))
      rw [Utf8.encode_cons, Utf8.encodeChar_ascii c (by omega),
        ih (fun d member => digits d (List.mem_cons_of_mem _ member))]
      rfl

theorem takeDigits_noDigit (rest : List UInt8) (stop : NoDigit rest) :
    takeDigits rest = ([], rest) := by
  cases rest with
  | nil => rfl
  | cons b rest =>
      have other : digit? b = none := stop
      simp [takeDigits, other]

theorem takeDigits_digits (s : List Char) (digits : ∀ c ∈ s, c.isDigit) (rest : List UInt8)
    (stop : NoDigit rest) :
    takeDigits (Utf8.encode s ++ rest) = (s.map fun c => c.toNat - 48, rest) := by
  rw [encode_digits s digits]
  induction s with
  | nil => exact takeDigits_noDigit rest stop
  | cons c s ih =>
      have first := digit?_byte c (digits c (List.mem_cons_self ..))
      have others := ih (fun d member => digits d (List.mem_cons_of_mem _ member))
      simp only [List.map_cons, List.cons_append, takeDigits, first, others]

theorem encode_head (d : Digits) :
    ∃ first others, Utf8.encode d.chars = first :: others ∧ (digit? first).isSome := by
  obtain ⟨chars, present, digits⟩ := d
  cases chars with
  | nil => exact absurd rfl present
  | cons c s =>
      refine ⟨_, _, encode_digits _ digits, ?_⟩
      rw [digit?_byte c (digits c (List.mem_cons_self ..))]
      rfl

theorem takeDigits_text (d : Digits) (rest : List UInt8) (stop : NoDigit rest) :
    takeDigits (Utf8.encode d.chars ++ rest) = (d.values, rest) :=
  takeDigits_digits d.chars d.digits rest stop

theorem values_ne_nil (d : Digits) : d.values ≠ [] := by
  intro none
  exact d.present (List.map_eq_nil_iff.mp none)

theorem digits_map (s : List Char) :
    Literal.digits (s.map fun c => c.toNat - 48) = digitsNumber s := by
  rw [Literal.digits, List.foldl_map, digitsNumber, Nat.ofDigitChars_eq_foldl]
  congr 1
  funext n c
  exact congrArg (· + _) (Nat.mul_comm ..)

/-! ## The parts of a number -/

theorem wholePart_text (d : Digits) (leading : d.chars.head? = some '0' → d.chars = ['0'])
    (rest : List UInt8) (stop : NoDigit rest) :
    wholePart (Utf8.encode d.chars ++ rest) = .ok (d.values, rest) := by
  obtain ⟨chars, present, digits⟩ := d
  cases chars with
  | nil => exact absurd rfl present
  | cons c s =>
      have digit := digits c (List.mem_cons_self ..)
      have followers : ∀ d ∈ s, d.isDigit := fun d member =>
        digits d (List.mem_cons_of_mem _ member)
      have bounds := isDigit_bounds c digit
      by_cases zero : c = '0'
      · subst zero
        cases leading rfl
        show wholePart (0x30 :: rest) = .ok ([0], rest)
        cases rest with
        | nil => rfl
        | cons b rest =>
            have none : digit? b = none := stop
            show (if (digit? b).isSome then _ else _) = _
            rw [none]
            rfl
      · have other : c.toNat ≠ 48 := fun same => zero (Char.toNat_inj.mp same)
        obtain ⟨d, value⟩ : ∃ d, c.toNat - 48 = d + 1 := ⟨c.toNat - 49, by omega⟩
        show wholePart (Utf8.encode (c :: s) ++ rest) = _
        rw [Utf8.encode_cons, Utf8.encodeChar_ascii c (by omega)]
        simp only [List.cons_append, List.nil_append, wholePart, digit?_byte c digit, value,
          takeDigits_digits s followers rest stop, Digits.values, List.map_cons]

theorem fractionPart_none (rest : List UInt8) (other : rest.head? ≠ some 0x2e) :
    fractionPart rest = .ok (none, rest) := by
  unfold fractionPart
  split
  · exact absurd rfl other
  · rfl

theorem fractionPart_text (d : Digits) (rest : List UInt8) (stop : NoDigit rest) :
    fractionPart (0x2e :: (Utf8.encode d.chars ++ rest)) = .ok (some d.values, rest) := by
  rw [fractionPart, takeDigits_text d rest stop]
  cases values : d.values with
  | nil => exact absurd values (values_ne_nil d)
  | cons first others => rfl

theorem exponentPart_ends (rest : List UInt8) (ends : Ends rest) :
    exponentPart rest = .ok (none, rest) := by
  cases rest with
  | nil => rfl
  | cons b rest =>
      have mark : ¬(b = 0x65 ∨ b = 0x45) := by
        rintro (small | capital)
        · exact ends.2.2.1 small
        · exact ends.2.2.2 capital
      simp only [exponentPart, if_neg mark]

theorem exponentDigits_text (negative : Bool) (d : Digits) (rest : List UInt8)
    (stop : NoDigit rest) :
    exponentDigits negative (Utf8.encode d.chars ++ rest) =
      .ok (some (negative, d.values), rest) := by
  obtain ⟨first, others, written, _⟩ := encode_head d
  have taken := takeDigits_text d rest stop
  rw [written, List.cons_append] at taken ⊢
  rw [exponentDigits, taken]
  cases values : d.values with
  | nil => exact absurd values (values_ne_nil d)
  | cons first others => rfl

theorem exponentPart_digits (mark b : UInt8) (s : List UInt8) (marked : mark = 0x65 ∨ mark = 0x45)
    (digit : (digit? b).isSome) :
    exponentPart (mark :: b :: s) = exponentDigits false (b :: s) := by
  have plus : b ≠ 0x2b := by
    rintro rfl
    exact absurd digit (by decide)
  have minus : b ≠ 0x2d := by
    rintro rfl
    exact absurd digit (by decide)
  simp only [exponentPart, if_pos marked]
  split
  · next same => exact absurd (List.cons.inj same).1 plus
  · next same => exact absurd (List.cons.inj same).1 minus
  · rfl

theorem encode_exponent (e : Exponent) : ∃ mark, (mark = 0x65 ∨ mark = 0x45) ∧
    Utf8.encode e.text = mark :: Utf8.encode e.power := by
  unfold Exponent.text
  cases e.capital with
  | false => exact ⟨0x65, .inl rfl, rfl⟩
  | true => exact ⟨0x45, .inr rfl, rfl⟩

theorem exponentPart_text (e : Exponent) (rest : List UInt8) (stop : NoDigit rest) :
    exponentPart (Utf8.encode e.text ++ rest) =
      .ok (some (e.minus == some true, e.digits.values), rest) := by
  obtain ⟨mark, marked, written⟩ := encode_exponent e
  rw [written]
  unfold Exponent.power
  match e.minus with
  | none =>
      obtain ⟨first, others, text, digit⟩ := encode_head e.digits
      have read := exponentDigits_text false e.digits rest stop
      simp only [text, List.cons_append] at read ⊢
      rw [exponentPart_digits mark first _ marked digit]
      exact read
  | some false =>
      show exponentPart (mark :: 0x2b :: (Utf8.encode e.digits.chars ++ rest)) = _
      rw [exponentPart, if_pos marked]
      exact exponentDigits_text false e.digits rest stop
  | some true =>
      show exponentPart (mark :: 0x2d :: (Utf8.encode e.digits.chars ++ rest)) = _
      rw [exponentPart, if_pos marked]
      exact exponentDigits_text true e.digits rest stop

/-! ## Numbers -/

theorem exponentText_read (n : Numeral) (rest : List UInt8) (ends : Ends rest) :
    exponentPart (Utf8.encode n.exponentText ++ rest) = .ok (n.literal.exponent, rest) ∧
      NoDigit (Utf8.encode n.exponentText ++ rest) ∧
      (Utf8.encode n.exponentText ++ rest).head? ≠ some 0x2e := by
  have stop := noDigit_of_ends rest ends
  unfold Numeral.exponentText Numeral.literal
  cases n.exponent with
  | none =>
      refine ⟨exponentPart_ends rest ends, stop, ?_⟩
      cases rest with
      | nil => exact nofun
      | cons b rest => exact fun point => ends.2.1 (Option.some.inj point)
  | some e =>
      obtain ⟨mark, marked, written⟩ := encode_exponent e
      refine ⟨exponentPart_text e rest stop, ?_, ?_⟩
      · simp only [written]
        rcases marked with rfl | rfl
        · exact (rfl : digit? 0x65 = none)
        · exact (rfl : digit? 0x45 = none)
      · simp only [written, List.cons_append, List.head?_cons]
        rcases marked with rfl | rfl <;> decide

theorem literal_text (n : Numeral) (rest : List UInt8) (ends : Ends rest) :
    literal n.negative (Utf8.encode n.unsigned ++ rest) = .ok (n.literal, rest) := by
  obtain ⟨power, stop, point⟩ := exponentText_read n rest ends
  rw [Numeral.unsigned, Utf8.encode_append, Utf8.encode_append, List.append_assoc,
    List.append_assoc]
  have fraction : fractionPart (Utf8.encode n.placesText ++
      (Utf8.encode n.exponentText ++ rest)) =
        .ok (n.literal.fraction, Utf8.encode n.exponentText ++ rest) ∧
      NoDigit (Utf8.encode n.placesText ++ (Utf8.encode n.exponentText ++ rest)) := by
    unfold Numeral.placesText Numeral.literal
    cases n.places with
    | none => exact ⟨fractionPart_none _ point, stop⟩
    | some places => exact ⟨fractionPart_text places _ stop, (rfl : digit? 0x2e = none)⟩
  have front := wholePart_text n.whole n.leading _ fraction.2
  simp only [literal, front, fraction.1, power, bind, Except.bind]
  rfl

theorem number_text (n : Numeral) (v : Number) (value : n.value? = some v) (rest : List UInt8)
    (ends : Ends rest) :
    number n.negative (Utf8.encode n.unsigned ++ rest) = .ok (.number v, rest) := by
  have read : n.literal.value? = some v := value
  simp only [number, literal_text n rest ends, bind, Except.bind, read]

theorem number_refused (n : Numeral) (value : n.value? = none) (rest : List UInt8)
    (ends : Ends rest) : ∃ f, number n.negative (Utf8.encode n.unsigned ++ rest) = .error f := by
  have read : n.literal.value? = none := value
  simp only [number, literal_text n rest ends, bind, Except.bind, read]
  exact ⟨_, rfl⟩

theorem value?_ofNat (negative : Bool) (n : Nat) (i : Int)
    (value : i = if negative then -(n : Int) else n)
    (range : -0x8000000000000000 ≤ i ∧ i < 0x10000000000000000) (signed : negative → n ≠ 0) :
    (Numeral.ofNat negative n).value? = some (.integer i range) := by
  subst value
  show Literal.value? ⟨negative, (decimal n).map fun c => c.toNat - 48, none, none⟩ = _
  simp only [Literal.value?, digits_map, digitsNumber_decimal, Option.isNone_none, and_self,
    if_true]
  rw [dif_pos]
  refine ⟨range, ?_⟩
  rintro ⟨minus, zero⟩
  have := signed minus
  rw [if_pos minus] at zero
  omega

theorem unsigned_ofNat (negative : Bool) (n : Nat) :
    (Numeral.ofNat negative n).unsigned = decimal n := List.append_nil _

/-! ## What is read -/

theorem encode_digit (s : List Char) (b : UInt8) (rest : List UInt8) (d : Nat)
    (written : Utf8.encode s = b :: rest) (digit : digit? b = some d) :
    ∃ c others, s = c :: others ∧ c.isDigit ∧ c.toNat - 48 = d ∧ rest = Utf8.encode others := by
  have within : 0x30 ≤ b ∧ b ≤ 0x39 := by
    by_contra outside
    rw [digit?, if_neg outside] at digit
    cases digit
  have short : b < 0x80 := UInt8.lt_of_le_of_lt within.2 (by decide)
  obtain ⟨others, front, after⟩ := Utf8.encode_eq_cons s b rest written short
  rw [digit?, if_pos within] at digit
  rw [UInt8.le_iff_toNat_le, UInt8.le_iff_toNat_le] at within
  have value : (Char.ofNat b.toNat).toNat = b.toNat := by
    have valid : b.toNat.isValidChar := .inl (by have := b.toNat_lt; omega)
    rw [Char.ofNat, dif_pos valid]
    rfl
  refine ⟨_, others, front, ?_, ?_, after⟩
  · rw [Char.isDigit_iff_toNat, value]
    exact within
  · rw [value]
    exact Option.some.inj digit

theorem noDigit_encode (s : List Char) (stop : ∀ c, s.head? = some c → c.isDigit = false) :
    NoDigit (Utf8.encode s) := by
  cases written : Utf8.encode s with
  | nil => trivial
  | cons b rest =>
      cases digit : digit? b with
      | none => exact digit
      | some d =>
          obtain ⟨c, others, rfl, isDigit, _⟩ := encode_digit s b rest d written digit
          rw [stop c rfl] at isDigit
          cases isDigit

theorem takeDigits_encode (s : List Char) :
    takeDigits (Utf8.encode s) =
      ((s.takeWhile Char.isDigit).map fun c => c.toNat - 48,
        Utf8.encode (s.dropWhile Char.isDigit)) := by
  have stop := noDigit_encode (s.dropWhile Char.isDigit) (by
    intro c front
    have kept := List.head?_dropWhile_not Char.isDigit s
    rw [front] at kept
    exact kept)
  have digits : ∀ c ∈ s.takeWhile Char.isDigit, c.isDigit := fun c member =>
    List.mem_takeWhile_imp member
  have taken := takeDigits_digits _ digits _ stop
  rwa [← Utf8.encode_append, List.takeWhile_append_dropWhile] at taken

theorem exists_digits (s : List Char) (ds : List Nat) (rest : List UInt8) (present : ds ≠ [])
    (taken : takeDigits (Utf8.encode s) = (ds, rest)) :
    ∃ (d : Digits) (others : List Char), s = d.chars ++ others ∧ d.values = ds ∧
      rest = Utf8.encode others := by
  rw [takeDigits_encode] at taken
  obtain ⟨values, after⟩ := Prod.mk.inj taken
  have chars : s.takeWhile Char.isDigit ≠ [] := by
    intro none
    rw [none] at values
    exact present values.symm
  exact ⟨⟨_, chars, fun c member => List.mem_takeWhile_imp member⟩, s.dropWhile Char.isDigit,
    List.takeWhile_append_dropWhile.symm, values, after.symm⟩

theorem wholePart_sound (s : List Char) (ds : List Nat) (rest : List UInt8)
    (read : wholePart (Utf8.encode s) = .ok (ds, rest)) :
    ∃ (d : Digits) (others : List Char), s = d.chars ++ others ∧
      (d.chars.head? = some '0' → d.chars = ['0']) ∧ d.values = ds ∧ rest = Utf8.encode others := by
  cases written : Utf8.encode s with
  | nil =>
      rw [written] at read
      cases read
  | cons b more =>
      rw [written] at read
      cases digit : digit? b with
      | none =>
          simp only [wholePart, digit] at read
          cases read
      | some d =>
          obtain ⟨c, others, rfl, isDigit, value, after⟩ := encode_digit s b more d written digit
          cases d with
          | zero =>
              have zero : c = '0' := by
                have bounds := isDigit_bounds c isDigit
                exact Char.toNat_inj.mp (show c.toNat = 48 by omega)
              subst zero
              have result : ds = [0] ∧ rest = more := by
                simp only [wholePart, digit] at read
                split at read
                · split at read
                  · cases read
                  · cases read
                    exact ⟨rfl, rfl⟩
                · cases read
                  exact ⟨rfl, rfl⟩
              obtain ⟨rfl, rfl⟩ := result
              exact ⟨⟨['0'], List.cons_ne_nil _ _, by simp⟩, others, rfl, fun _ => rfl, rfl, after⟩
          | succ d =>
              simp only [wholePart, digit] at read
              obtain ⟨rfl, rfl⟩ := Prod.mk.inj (Except.ok.inj read)
              rw [after, takeDigits_encode]
              have digits : ∀ x ∈ c :: others.takeWhile Char.isDigit, x.isDigit := by
                intro x member
                rcases List.mem_cons.mp member with rfl | later
                · exact isDigit
                · exact List.mem_takeWhile_imp later
              refine ⟨⟨c :: others.takeWhile Char.isDigit, List.cons_ne_nil _ _, digits⟩,
                others.dropWhile Char.isDigit, ?_, ?_, ?_, rfl⟩
              · rw [List.cons_append, List.takeWhile_append_dropWhile]
              · intro zero
                cases Option.some.inj zero
                cases value
              · rw [Digits.values, List.map_cons, value]

theorem fractionPart_sound (s : List Char) (ds : Option (List Nat)) (rest : List UInt8)
    (read : fractionPart (Utf8.encode s) = .ok (ds, rest)) :
    ∃ (places : Option Digits) (others : List Char),
      s = places.elim [] (fun d => '.' :: d.chars) ++ others ∧ ds = places.map Digits.values ∧
        rest = Utf8.encode others := by
  unfold fractionPart at read
  split at read
  · next more written =>
    obtain ⟨s, rfl, after⟩ := Utf8.encode_eq_cons s 0x2e more written (by decide)
    rw [after] at read
    split at read
    · cases read
    · cases read
    · next digits others _ present taken =>
      cases read
      obtain ⟨d, others, rfl, values, after⟩ := exists_digits s _ _ (fun none => present none) taken
      exact ⟨some d, others, rfl, congrArg some values.symm, after⟩
  · cases read
    exact ⟨none, s, rfl, rfl, rfl⟩

theorem exponentDigits_sound (negative : Bool) (s : List Char) (e : Option (Bool × List Nat))
    (rest : List UInt8) (read : exponentDigits negative (Utf8.encode s) = .ok (e, rest)) :
    ∃ (d : Digits) (others : List Char), s = d.chars ++ others ∧ e = some (negative, d.values) ∧
      rest = Utf8.encode others := by
  unfold exponentDigits at read
  split at read
  · cases read
  · next b more written =>
    rw [← written] at read
    split at read
    · cases read
    · next digits others present taken =>
      cases read
      obtain ⟨d, others, rfl, values, after⟩ := exists_digits s _ _ present taken
      exact ⟨d, others, rfl, by rw [values], after⟩

theorem exponentPart_sound (s : List Char) (e : Option (Bool × List Nat)) (rest : List UInt8)
    (read : exponentPart (Utf8.encode s) = .ok (e, rest)) :
    ∃ (x : Option Exponent) (others : List Char), s = x.elim [] Exponent.text ++ others ∧
      e = x.map (fun x => (x.minus == some true, x.digits.values)) ∧
        rest = Utf8.encode others := by
  unfold exponentPart at read
  split at read
  · next b more written =>
    split at read
    · next mark =>
      obtain ⟨capital, same⟩ : ∃ capital : Bool, b = if capital then 0x45 else 0x65 := by
        rcases mark with small | capital
        · exact ⟨false, small⟩
        · exact ⟨true, capital⟩
      have short : b < 0x80 := by
        rw [same]
        cases capital <;> decide
      obtain ⟨s, front, after⟩ := Utf8.encode_eq_cons s b more written short
      have letter : Char.ofNat b.toNat = if capital then 'E' else 'e' := by
        rw [same]
        cases capital <;> rfl
      rw [front, letter]
      split at read
      · next digits =>
        obtain ⟨s, rfl, behind⟩ := Utf8.encode_eq_cons s 0x2b digits after.symm (by decide)
        rw [behind] at read
        obtain ⟨d, others, rfl, value, remains⟩ := exponentDigits_sound _ s e rest read
        exact ⟨some ⟨capital, some false, d⟩, others, rfl, value, remains⟩
      · next digits =>
        obtain ⟨s, rfl, behind⟩ := Utf8.encode_eq_cons s 0x2d digits after.symm (by decide)
        rw [behind] at read
        obtain ⟨d, others, rfl, value, remains⟩ := exponentDigits_sound _ s e rest read
        exact ⟨some ⟨capital, some true, d⟩, others, rfl, value, remains⟩
      · rw [after] at read
        obtain ⟨d, others, rfl, value, remains⟩ := exponentDigits_sound _ s e rest read
        exact ⟨some ⟨capital, none, d⟩, others, rfl, value, remains⟩
    · cases read
      exact ⟨none, s, rfl, rfl, written.symm⟩
  · next written =>
    cases read
    exact ⟨none, s, rfl, rfl, written.symm⟩

/-- The parts that are read are those of a literal at the front. -/
theorem literal_sound (negative : Bool) (s : List Char) (l : Literal) (rest : List UInt8)
    (read : literal negative (Utf8.encode s) = .ok (l, rest)) :
    ∃ (n : Numeral) (others : List Char), n.negative = negative ∧ s = n.unsigned ++ others ∧
      l = n.literal ∧ rest = Utf8.encode others := by
  obtain ⟨⟨whole, afterWhole⟩, first, behind⟩ := (bind_ok_iff _ _ _).mp read
  obtain ⟨d, s, rfl, leading, rfl, rfl⟩ := wholePart_sound s whole afterWhole first
  obtain ⟨⟨fraction, afterFraction⟩, second, last⟩ := (bind_ok_iff _ _ _).mp behind
  obtain ⟨⟨exponent, afterExponent⟩, third, kept⟩ := (bind_ok_iff _ _ _).mp last
  cases kept
  obtain ⟨places, s, rfl, rfl, rfl⟩ := fractionPart_sound s fraction afterFraction second
  obtain ⟨e, others, rfl, rfl, rfl⟩ := exponentPart_sound s exponent rest third
  have parts : d.chars ++ (places.elim [] (fun d => '.' :: d.chars) ++ e.elim [] Exponent.text) =
      Numeral.unsigned ⟨negative, d, places, e, leading⟩ := by
    cases places <;> cases e <;> rfl
  refine ⟨⟨negative, d, places, e, leading⟩, others, rfl, ?_, rfl, rfl⟩
  rw [← parts, List.append_assoc, List.append_assoc]

theorem number_sound (negative : Bool) (s : List Char) (v : Json) (rest : List UInt8)
    (read : number negative (Utf8.encode s) = .ok (v, rest)) :
    ∃ (n : Numeral) (x : Number) (others : List Char), n.negative = negative ∧
      s = n.unsigned ++ others ∧ n.value? = some x ∧ v = .number x ∧ rest = Utf8.encode others := by
  obtain ⟨⟨l, after⟩, parts, kept⟩ := (bind_ok_iff _ _ _).mp read
  obtain ⟨n, others, sign, rfl, rfl, rfl⟩ := literal_sound negative s l after parts
  cases value : n.literal.value? with
  | none =>
      simp only [value] at kept
      cases kept
  | some x =>
      simp only [value] at kept
      cases kept
      exact ⟨n, x, others, sign, rfl, value, rfl, rfl⟩

end Reader
end PgJson.Json
