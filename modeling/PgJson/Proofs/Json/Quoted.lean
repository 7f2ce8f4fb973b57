import PgJson.Proofs.Json.Grammar
import PgJson.Proofs.Outcome

namespace PgJson.Json

def Plain (b : UInt8) : Prop := b ≠ 0x22 ∧ b ≠ 0x5c ∧ 0x20 ≤ b

theorem plain_of_toNat {n : Nat} (byte : n < 256) (quote : n ≠ 0x22) (slash : n ≠ 0x5c)
    (control : 0x20 ≤ n) : Plain (UInt8.ofNat n) := by
  have value : (UInt8.ofNat n).toNat = n := Utf8.toNat_byte byte
  refine ⟨?_, ?_, ?_⟩
  · intro same
    rw [same] at value
    exact quote value.symm
  · intro same
    rw [same] at value
    exact slash value.symm
  · rw [UInt8.le_iff_toNat_le, value]
    exact control

theorem plain_encodeChar (c : Char) (quote : c ≠ '"') (slash : c ≠ '\\')
    (control : 0x20 ≤ c.toNat) : ∀ b ∈ String.utf8EncodeChar c, Plain b := by
  have quote : c.toNat ≠ 0x22 := fun same => quote (Char.toNat_inj.mp same)
  have slash : c.toNat ≠ 0x5c := fun same => slash (Char.toNat_inj.mp same)
  unfold String.utf8EncodeChar
  rw [Char.toNat_val]
  generalize c.toNat = n at *
  show ∀ b ∈ if n ≤ 0x7f then _ else _, Plain b
  split
  · intro b member
    rw [List.mem_singleton.mp member]
    exact plain_of_toNat (by omega) quote slash control
  split
  · intro b member
    simp only [List.mem_cons, List.not_mem_nil, or_false] at member
    rcases member with rfl | rfl <;>
      exact plain_of_toNat (by omega) (by omega) (by omega) (by omega)
  split
  · intro b member
    simp only [List.mem_cons, List.not_mem_nil, or_false] at member
    rcases member with rfl | rfl | rfl <;>
      exact plain_of_toNat (by omega) (by omega) (by omega) (by omega)
  · intro b member
    simp only [List.mem_cons, List.not_mem_nil, or_false] at member
    rcases member with rfl | rfl | rfl | rfl <;>
      exact plain_of_toNat (by omega) (by omega) (by omega) (by omega)

namespace Reader

def before (bytes : List UInt8) (read : List UInt8 × List UInt8) : List UInt8 × List UInt8 :=
  (bytes ++ read.1, read.2)

theorem stringBytes_plain (bytes more : List UInt8) (plain : ∀ b ∈ bytes, Plain b) (steps : Nat) :
    stringBytes (steps + bytes.length) (bytes ++ more) =
      (stringBytes steps more).map (before bytes) := by
  induction bytes with
  | nil =>
      show stringBytes steps more = _
      cases stringBytes steps more with
      | error f => rfl
      | ok read => rfl
  | cons b bytes ih =>
      obtain ⟨quote, slash, control⟩ := plain b (List.mem_cons_self ..)
      have others := ih (fun other member => plain other (List.mem_cons_of_mem _ member))
      have visible : ¬ b < 0x20 := UInt8.not_lt.mpr control
      rw [List.length_cons, ← Nat.add_assoc, List.cons_append, stringBytes, if_neg quote,
        if_neg slash, if_neg visible, others]
      cases stringBytes steps more with
      | error f => rfl
      | ok read => rfl

theorem stringBytes_escape (bytes sequence more : List UInt8) (steps : Nat)
    (read : escape (sequence ++ more) = .ok (bytes, more)) :
    stringBytes (steps + 1) (0x5c :: sequence ++ more) =
      (stringBytes steps more).map (before bytes) := by
  show (escape (sequence ++ more) >>= fun _ => _) = _
  rw [read]
  show (stringBytes steps more >>= fun read => .ok (bytes ++ read.1, read.2)) = _
  cases stringBytes steps more with
  | error f => rfl
  | ok read => rfl

/-! ## Escapes -/

theorem hexValue?_ascii (c : Char) (n : Nat) (value : Text.hexValue? c = some n) :
    c.toNat ≤ 0x7f := by
  simp only [Text.hexValue?, Char.le_def, UInt32.le_iff_toNat_le] at value
  have digits : '9'.val.toNat = 57 ∧ 'f'.val.toNat = 102 ∧ 'F'.val.toNat = 70 := by decide
  rw [digits.1, digits.2.1, digits.2.2] at value
  unfold Char.toNat
  split at value
  · omega
  split at value
  · omega
  split at value
  · omega
  · cases value

theorem hexDigit?_byte (c : Char) (n : Nat) (value : Text.hexValue? c = some n) :
    Utf8.encode [c] = [UInt8.ofNat c.toNat] ∧ hexDigit? (UInt8.ofNat c.toNat) = some n := by
  have ascii := hexValue?_ascii c n value
  refine ⟨congrArg (· ++ []) (Utf8.encodeChar_ascii c ascii), ?_⟩
  rw [hexDigit?, Utf8.toNat_byte (by omega), Char.ofNat_toNat]
  exact value

theorem hexDigit?_short (b : UInt8) (n : Nat) (value : hexDigit? b = some n) : b < 0x80 := by
  have ascii := hexValue?_ascii _ n value
  have byte := b.toNat_lt
  have valid : b.toNat.isValidChar := .inl (by omega)
  rw [Char.ofNat, dif_pos valid] at ascii
  rw [UInt8.lt_iff_toNat_lt]
  exact Nat.lt_succ_of_le ascii

theorem hex4_text (digits : List Char) (n : Nat) (hex : Hex4 digits n) (more : List UInt8) :
    hex4 (Utf8.encode digits ++ more) = .ok (n, more) := by
  obtain ⟨a, b, c, d, w, x, y, z, first, second, third, fourth⟩ := hex
  obtain ⟨byteA, readA⟩ := hexDigit?_byte a w first
  obtain ⟨byteB, readB⟩ := hexDigit?_byte b x second
  obtain ⟨byteC, readC⟩ := hexDigit?_byte c y third
  obtain ⟨byteD, readD⟩ := hexDigit?_byte d z fourth
  have bytes : Utf8.encode [a, b, c, d] ++ more = UInt8.ofNat a.toNat :: UInt8.ofNat b.toNat ::
      UInt8.ofNat c.toNat :: UInt8.ofNat d.toNat :: more := by
    show Utf8.encode ([a] ++ ([b] ++ ([c] ++ [d]))) ++ more = _
    rw [Utf8.encode_append, Utf8.encode_append, Utf8.encode_append, byteA, byteB, byteC, byteD]
    rfl
  rw [bytes]
  simp only [hex4, readA, readB, readC, readD]

theorem isLowSurrogate_iff (n : Nat) : isLowSurrogate n = true ↔ 0xdc00 ≤ n ∧ n ≤ 0xdfff := by
  rw [isLowSurrogate, Bool.and_eq_true, decide_eq_true_eq, decide_eq_true_eq]

theorem isHighSurrogate_iff (n : Nat) : isHighSurrogate n = true ↔ 0xd800 ≤ n ∧ n ≤ 0xdbff := by
  rw [isHighSurrogate, Bool.and_eq_true, decide_eq_true_eq, decide_eq_true_eq]

theorem encode_singleton (c : Char) : Utf8.encode [c] = String.utf8EncodeChar c := by
  rw [Utf8.encode_cons]
  exact List.append_nil _

theorem escape_text (sequence : List Char) (c : Char) (escaped : Escape sequence c)
    (more : List UInt8) :
    escape (Utf8.encode sequence ++ more) = .ok (String.utf8EncodeChar c, more) := by
  cases escaped with
  | short mark c known =>
      simp only [shortEscapes, List.mem_cons, Prod.mk.injEq, List.not_mem_nil, or_false] at known
      rcases known with ⟨rfl, rfl⟩ | ⟨rfl, rfl⟩ | ⟨rfl, rfl⟩ | ⟨rfl, rfl⟩ | ⟨rfl, rfl⟩ |
        ⟨rfl, rfl⟩ | ⟨rfl, rfl⟩ | ⟨rfl, rfl⟩ <;> rfl
  | unicode digits n hex scalar =>
      have low : ¬isLowSurrogate n = true := by
        rw [isLowSurrogate_iff]
        omega
      have high : ¬isHighSurrogate n = true := by
        rw [isHighSurrogate_iff]
        omega
      show unicodeEscape (Utf8.encode digits ++ more) = _
      simp only [unicodeEscape, hex4_text digits n hex, bind, Except.bind, if_neg low, if_neg high,
        encode_singleton]
  | pair digits digits' high low first second upper lower =>
      have notLow : ¬isLowSurrogate high = true := by
        rw [isLowSurrogate_iff]
        omega
      have isHigh := (isHighSurrogate_iff high).mpr upper
      have isLow := (isLowSurrogate_iff low).mpr lower
      have front : Utf8.encode ('u' :: (digits ++ '\\' :: 'u' :: digits')) ++ more =
          0x75 :: (Utf8.encode digits ++ 0x5c :: 0x75 :: (Utf8.encode digits' ++ more)) := by
        rw [Utf8.encode_cons, Utf8.encode_append, List.append_assoc, List.append_assoc]
        rfl
      rw [front]
      show unicodeEscape _ = _
      simp only [unicodeEscape, hex4_text digits high first, bind, Except.bind, if_neg notLow,
        if_pos isHigh, lowSurrogate, hex4_text digits' low second, if_pos isLow, encode_singleton]

theorem stringBytes_piece (piece : List Char) (c : Char) (here : Piece piece c)
    (more : List UInt8) (steps : Nat) (enough : (Utf8.encode piece).length ≤ steps) :
    ∃ left, steps ≤ left + (Utf8.encode piece).length ∧
      stringBytes steps (Utf8.encode piece ++ more) =
        (stringBytes left more).map (before (String.utf8EncodeChar c)) := by
  cases here with
  | plain c quote slash visible =>
      rw [encode_singleton] at enough ⊢
      refine ⟨steps - (String.utf8EncodeChar c).length, by omega, ?_⟩
      have taken := stringBytes_plain _ more (plain_encodeChar c quote slash visible)
        (steps - (String.utf8EncodeChar c).length)
      rw [Nat.sub_add_cancel enough] at taken
      exact taken
  | escape sequence c escaped =>
      have slash : Utf8.encode ('\\' :: sequence) = 0x5c :: Utf8.encode sequence := rfl
      rw [slash, List.length_cons] at enough ⊢
      refine ⟨steps - 1, by omega, ?_⟩
      have taken := stringBytes_escape _ (Utf8.encode sequence) more (steps - 1)
        (escape_text sequence c escaped more)
      rw [Nat.sub_add_cancel (by omega)] at taken
      exact taken

theorem stringBytes_body (body s : List Char) (pieces : Body body s) (rest : List UInt8)
    (steps : Nat) (enough : (Utf8.encode body).length < steps) :
    stringBytes steps (Utf8.encode body ++ 0x22 :: rest) = .ok (Utf8.encode s, 0x22 :: rest) := by
  induction pieces generalizing steps with
  | nil =>
      obtain ⟨left, more⟩ : ∃ left, steps = left + 1 := ⟨steps - 1, by omega⟩
      rw [more]
      rfl
  | cons piece c body s here _ ih =>
      rw [Utf8.encode_append, List.length_append] at enough
      obtain ⟨left, remaining, taken⟩ := stringBytes_piece piece c here
        (Utf8.encode body ++ 0x22 :: rest) steps (by omega)
      rw [Utf8.encode_append, List.append_assoc, taken, ih left (by omega), Utf8.encode_cons]
      rfl

theorem string_text (body s : List Char) (pieces : Body body s) (rest : List UInt8) :
    string (Utf8.encode body ++ 0x22 :: rest) = .ok (.ofList s, rest) := by
  have taken := stringBytes_body body s pieces rest (Utf8.encode body ++ 0x22 :: rest).length
    (by simp)
  simp only [string, taken, bind, Except.bind, Utf8.decode_encode, List.drop_one, List.tail_cons]

/-! ## What is read -/

theorem hex4_sound (s : List Char) (n : Nat) (rest : List UInt8)
    (read : hex4 (Utf8.encode s) = .ok (n, rest)) :
    ∃ digits others, s = digits ++ others ∧ Hex4 digits n ∧ rest = Utf8.encode others := by
  unfold hex4 at read
  split at read
  · next a b c d more written =>
    split at read
    · next _ _ _ _ w x y z first second third fourth =>
      have shortA := hexDigit?_short a w first
      have shortB := hexDigit?_short b x second
      have shortC := hexDigit?_short c y third
      have shortD := hexDigit?_short d z fourth
      obtain ⟨s₁, rfl, afterA⟩ := Utf8.encode_eq_cons s a (b :: c :: d :: more) written shortA
      obtain ⟨s₂, rfl, afterB⟩ := Utf8.encode_eq_cons s₁ b (c :: d :: more) afterA.symm shortB
      obtain ⟨s₃, rfl, afterC⟩ := Utf8.encode_eq_cons s₂ c (d :: more) afterB.symm shortC
      obtain ⟨others, rfl, afterD⟩ := Utf8.encode_eq_cons s₃ d more afterC.symm shortD
      cases read
      exact ⟨_, others, rfl, .digits _ _ _ _ w x y z first second third fourth, afterD⟩
    · cases read
  · cases read

theorem lowSurrogate_sound (s : List Char) (n : Nat) (rest : List UInt8)
    (read : lowSurrogate (Utf8.encode s) = .ok (n, rest)) :
    ∃ digits others, s = '\\' :: 'u' :: (digits ++ others) ∧ Hex4 digits n ∧
      (0xdc00 ≤ n ∧ n ≤ 0xdfff) ∧ rest = Utf8.encode others := by
  unfold lowSurrogate at read
  split at read
  · cases read
  · cases read
  · next more written =>
    obtain ⟨s₁, rfl, slash⟩ := Utf8.encode_eq_cons s 0x5c (0x75 :: more) written (by decide)
    obtain ⟨s₂, rfl, mark⟩ := Utf8.encode_eq_cons s₁ 0x75 more slash.symm (by decide)
    obtain ⟨⟨low, after⟩, number, kept⟩ := (bind_ok_iff _ _ _).mp read
    rw [mark] at number
    obtain ⟨digits, others, rfl, hex, remains⟩ := hex4_sound s₂ low after number
    dsimp only at kept
    split at kept
    · next isLow =>
      cases kept
      exact ⟨digits, others, rfl, hex, (isLowSurrogate_iff _).mp isLow, remains⟩
    · cases kept
  · cases read
  · cases read

theorem unicodeEscape_sound (s : List Char) (bytes rest : List UInt8)
    (read : unicodeEscape (Utf8.encode s) = .ok (bytes, rest)) :
    ∃ sequence c others, s = sequence ++ others ∧ Escape ('u' :: sequence) c ∧
      bytes = String.utf8EncodeChar c ∧ rest = Utf8.encode others := by
  obtain ⟨⟨n, after⟩, first, kept⟩ := (bind_ok_iff _ _ _).mp read
  obtain ⟨digits, s, rfl, hex, remains⟩ := hex4_sound s n after first
  dsimp only at kept
  split at kept
  · cases kept
  next notLow =>
  rw [isLowSurrogate_iff] at notLow
  split at kept
  · next isHigh =>
    rw [remains] at kept
    obtain ⟨⟨low, after'⟩, second, joint⟩ := (bind_ok_iff _ _ _).mp kept
    obtain ⟨digits', others, rfl, hex', isLow, remains'⟩ := lowSurrogate_sound s low after' second
    obtain ⟨value, same⟩ := Prod.mk.inj (Except.ok.inj joint)
    rw [encode_singleton] at value
    refine ⟨digits ++ '\\' :: 'u' :: digits', _, others, by simp,
      .pair digits digits' n low hex hex' ((isHighSurrogate_iff n).mp isHigh) isLow, value.symm, ?_⟩
    rw [← same]
    exact remains'
  · next notHigh =>
    rw [isHighSurrogate_iff] at notHigh
    cases kept
    exact ⟨digits, _, s, rfl, .unicode digits n hex (by omega), encode_singleton _, remains⟩

theorem escape_sound (s : List Char) (bytes rest : List UInt8)
    (read : escape (Utf8.encode s) = .ok (bytes, rest)) :
    ∃ sequence c others, s = sequence ++ others ∧ Escape sequence c ∧
      bytes = String.utf8EncodeChar c ∧ rest = Utf8.encode others := by
  -- All escapes of one letter have the same proof, with their row of the table.
  have short : ∀ (mark c : Char) (b : UInt8) (more : List UInt8), Utf8.encode s = b :: more →
      b < 0x80 → Char.ofNat b.toNat = mark → (mark, c) ∈ shortEscapes →
      bytes = String.utf8EncodeChar c → rest = more →
      ∃ sequence c others, s = sequence ++ others ∧ Escape sequence c ∧
        bytes = String.utf8EncodeChar c ∧ rest = Utf8.encode others := by
    intro mark c b more written ascii first known value remains
    obtain ⟨others, same, after⟩ := Utf8.encode_eq_cons s b more written ascii
    rw [first] at same
    exact ⟨[mark], c, others, same, .short mark c known, value, remains.trans after⟩
  unfold escape at read
  split at read
  · cases read
  next b more written =>
  split at read
  · cases read
    exact short '"' '"' _ _ written (by decide) rfl (by decide) rfl rfl
  · cases read
    exact short '\\' '\\' _ _ written (by decide) rfl (by decide) rfl rfl
  · cases read
    exact short '/' '/' _ _ written (by decide) rfl (by decide) rfl rfl
  · cases read
    exact short 'b' '\x08' _ _ written (by decide) rfl (by decide) rfl rfl
  · cases read
    exact short 'f' '\x0c' _ _ written (by decide) rfl (by decide) rfl rfl
  · cases read
    exact short 'n' '\n' _ _ written (by decide) rfl (by decide) rfl rfl
  · cases read
    exact short 'r' '\r' _ _ written (by decide) rfl (by decide) rfl rfl
  · cases read
    exact short 't' '\t' _ _ written (by decide) rfl (by decide) rfl rfl
  · obtain ⟨others, rfl, after⟩ := Utf8.encode_eq_cons s 0x75 more written (by decide)
    rw [after] at read
    obtain ⟨sequence, c, others, rfl, escaped, value, remains⟩ :=
      unicodeEscape_sound others bytes rest read
    exact ⟨'u' :: sequence, c, others, rfl, escaped, value, remains⟩
  · cases read

theorem stringBytes_plain_sound (bytes more : List UInt8) (plain : ∀ b ∈ bytes, Plain b)
    (steps : Nat) (read rest : List UInt8)
    (done : stringBytes steps (bytes ++ more) = .ok (read, rest)) :
    ∃ left others, stringBytes left more = .ok (others, rest) ∧ read = bytes ++ others ∧
      steps = left + bytes.length := by
  induction bytes generalizing steps read with
  | nil => exact ⟨steps, read, done, rfl, rfl⟩
  | cons b bytes ih =>
      obtain ⟨quote, slash, control⟩ := plain b (List.mem_cons_self ..)
      have visible : ¬ b < 0x20 := UInt8.not_lt.mpr control
      cases steps with
      | zero => cases done
      | succ steps =>
          rw [List.cons_append, stringBytes, if_neg quote, if_neg slash, if_neg visible] at done
          obtain ⟨⟨more', after⟩, taken, kept⟩ := (bind_ok_iff _ _ _).mp done
          cases kept
          obtain ⟨left, others, last, same, count⟩ :=
            ih (fun other member => plain other (List.mem_cons_of_mem _ member)) steps more' taken
          exact ⟨left, others, last, congrArg (b :: ·) same, congrArg (· + 1) count⟩

/-- By induction on the steps left: a character takes one or more of them. -/
theorem stringBytes_sound (steps : Nat) (s : List Char) (bytes rest : List UInt8)
    (read : stringBytes steps (Utf8.encode s) = .ok (bytes, rest)) :
    ∃ body t others, s = body ++ '"' :: others ∧ Body body t ∧ bytes = Utf8.encode t ∧
      rest = 0x22 :: Utf8.encode others := by
  induction steps using Nat.strong_induction_on generalizing s bytes rest with
  | h steps ih =>
  cases s with
  | nil => cases steps <;> cases read
  | cons c s =>
  by_cases quote : c = '"'
  · subst quote
    cases steps with
    | zero => cases read
    | succ steps =>
        cases read
        exact ⟨[], [], s, rfl, .nil, rfl, rfl⟩
  by_cases slash : c = '\\'
  · subst slash
    cases steps with
    | zero => cases read
    | succ steps =>
        obtain ⟨⟨first, after⟩, escaped, behind⟩ := (bind_ok_iff _ _ _).mp read
        obtain ⟨sequence, c, others, rfl, here, value, remains⟩ := escape_sound s first after escaped
        obtain ⟨⟨more, after'⟩, taken, kept⟩ := (bind_ok_iff _ _ _).mp behind
        cases kept
        rw [remains] at taken
        obtain ⟨body, t, others, rfl, pieces, later, remains'⟩ :=
          ih steps (Nat.lt_succ_self _) others more rest taken
        refine ⟨'\\' :: sequence ++ body, c :: t, others, by simp,
          .cons _ c body t (.escape _ c here) pieces, ?_, remains'⟩
        rw [Utf8.encode_cons, value, later]
  -- A longer form takes a step for each of its bytes, hence the induction on all smaller counts.
  by_cases visible : 0x20 ≤ c.toNat
  · rw [Utf8.encode_cons] at read
    obtain ⟨left, more, taken, same, count⟩ := stringBytes_plain_sound _ _
      (plain_encodeChar c quote slash visible) steps bytes rest read
    have present : 0 < (String.utf8EncodeChar c).length := by
      obtain ⟨first, others, bytes, _⟩ := Utf8.scan_encodeChar c
      rw [bytes]
      exact Nat.succ_pos _
    obtain ⟨body, t, others, rfl, pieces, later, remains⟩ := ih left (by omega) s more rest taken
    refine ⟨[c] ++ body, c :: t, others, rfl, .cons _ c body t (.plain c quote slash visible) pieces,
      ?_, remains⟩
    rw [Utf8.encode_cons, same, later]
  · have control : UInt8.ofNat c.toNat < 0x20 := by
      rw [UInt8.lt_iff_toNat_lt, Utf8.toNat_byte (by omega)]
      exact Nat.lt_of_not_le visible
    have other : ∀ b : UInt8, 0x20 ≤ b → UInt8.ofNat c.toNat ≠ b := fun b above same =>
      UInt8.not_lt.mpr above (same ▸ control)
    rw [Utf8.encode_cons, Utf8.encodeChar_ascii c (by omega), List.singleton_append] at read
    cases steps with
    | zero => cases read
    | succ steps =>
        rw [stringBytes, if_neg (other 0x22 (by decide)), if_neg (other 0x5c (by decide)),
          if_pos control] at read
        cases read

theorem string_sound (s : List Char) (t : String) (rest : List UInt8)
    (read : string (Utf8.encode s) = .ok (t, rest)) :
    ∃ body cs others, s = body ++ '"' :: others ∧ Body body cs ∧ t = .ofList cs ∧
      rest = Utf8.encode others := by
  obtain ⟨⟨bytes, after⟩, taken, kept⟩ := (bind_ok_iff _ _ _).mp read
  obtain ⟨body, cs, others, rfl, pieces, rfl, rfl⟩ := stringBytes_sound _ s bytes after taken
  simp only [Utf8.decode_encode, List.drop_one, List.tail_cons] at kept
  obtain ⟨value, remains⟩ := Prod.mk.inj (Except.ok.inj kept)
  exact ⟨body, cs, others, rfl, pieces, value.symm, remains.symm⟩

end Reader

/-! ## What is printed -/

theorem hexValue?_hexDigit (n : Nat) : Text.hexValue? (Text.hexDigit n) = some (n % 16) := by
  have small : ∀ m < 16, Text.hexValue? (Text.hexDigit m) = some m := by decide
  have rest := small (n % 16) (Nat.mod_lt _ (by decide))
  rwa [Text.hexDigit, Nat.mod_mod] at rest

theorem piece_escaped (c : Char) : Piece (escaped c) c := by
  unfold escaped
  split
  · exact .escape _ _ (.short '"' '"' (by decide))
  · exact .escape _ _ (.short '\\' '\\' (by decide))
  · exact .escape _ _ (.short 'b' '\x08' (by decide))
  · exact .escape _ _ (.short 'f' '\x0c' (by decide))
  · exact .escape _ _ (.short 'n' '\n' (by decide))
  · exact .escape _ _ (.short 'r' '\r' (by decide))
  · exact .escape _ _ (.short 't' '\t' (by decide))
  · next quote slash _ _ _ _ _ =>
    by_cases control : c.toNat < 0x20
    · rw [if_pos control]
      have hex := Hex4.digits '0' '0' _ _ 0 0 _ _ (by decide) (by decide)
        (hexValue?_hexDigit (c.toNat / 16)) (hexValue?_hexDigit c.toNat)
      have number : ((0 * 16 + 0) * 16 + c.toNat / 16 % 16) * 16 + c.toNat % 16 = c.toNat := by
        omega
      have escaped := Escape.unicode _ _ hex (by omega)
      rw [number, Char.ofNat_toNat] at escaped
      exact .escape _ c escaped
    · rw [if_neg control]
      exact .plain c quote slash (Nat.le_of_not_lt control)

theorem body_escaped (s : List Char) : Body (s.flatMap escaped) s := by
  induction s with
  | nil => exact .nil
  | cons c s ih => exact .cons (escaped c) c _ s (piece_escaped c) ih

end PgJson.Json
