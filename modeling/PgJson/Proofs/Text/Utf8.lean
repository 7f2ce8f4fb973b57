import PgJson.Text.Utf8

namespace PgJson.Utf8

theorem encode_append (front back : List Char) :
    encode (front ++ back) = encode front ++ encode back :=
  List.flatMap_append

theorem encode_cons (c : Char) (s : List Char) :
    encode (c :: s) = String.utf8EncodeChar c ++ encode s :=
  List.flatMap_cons

theorem encodeChar_ascii (c : Char) (ascii : c.toNat ≤ 0x7f) :
    String.utf8EncodeChar c = [UInt8.ofNat c.toNat] := by
  unfold String.utf8EncodeChar
  exact if_pos ascii

/-! ## One character -/

theorem toNat_byte {n : Nat} (small : n < 256) : (UInt8.ofNat n).toNat = n := by
  rw [UInt8.toNat_ofNat']
  exact Nat.mod_eq_of_lt small

theorem isContinuation_byte (n : Nat) : isContinuation (UInt8.ofNat (n % 64 + 0x80)) = true := by
  have value : (UInt8.ofNat (n % 64 + 0x80)).toNat = n % 64 + 0x80 := toNat_byte (by omega)
  simp only [isContinuation, Bool.and_eq_true, decide_eq_true_eq, UInt8.le_iff_toNat_le, value]
  constructor
  · show 128 ≤ _
    omega
  · show _ ≤ 191
    omega

theorem bits_byte (n : Nat) : bits (UInt8.ofNat (n % 64 + 0x80)) = n % 64 := by
  unfold bits
  rw [toNat_byte (by omega)]
  omega

theorem scan_one (n : Nat) (top : n ≤ 0x7f) (rest : List UInt8) :
    scan (UInt8.ofNat n) rest = .char (Char.ofNat n) 1 := by
  have value : (UInt8.ofNat n).toNat = n := toNat_byte (by omega)
  have small : UInt8.ofNat n < 0x80 := by
    rw [UInt8.lt_iff_toNat_lt, value]
    show n < 128
    omega
  rw [scan, if_pos small, value]

theorem scan_two (n : Nat) (bottom : 0x80 ≤ n) (top : n ≤ 0x7ff) (rest : List UInt8) :
    scan (UInt8.ofNat (n / 64 % 0x20 + 0xc0)) (UInt8.ofNat (n % 64 + 0x80) :: rest) =
      .char (Char.ofNat n) 2 := by
  have value : (UInt8.ofNat (n / 64 % 0x20 + 0xc0)).toNat = n / 64 + 0xc0 := by
    rw [toNat_byte (by omega)]
    omega
  generalize UInt8.ofNat (n / 64 % 0x20 + 0xc0) = a at value
  have h1 : ¬ a < 0x80 := by rw [UInt8.lt_iff_toNat_lt, value]; show ¬ _ < 128; omega
  have h2 : ¬ a < 0xc2 := by rw [UInt8.lt_iff_toNat_lt, value]; show ¬ _ < 194; omega
  have h3 : a < 0xe0 := by rw [UInt8.lt_iff_toNat_lt, value]; show _ < 224; omega
  rw [scan, if_neg h1, if_neg h2, if_pos h3, scan2, if_pos (isContinuation_byte n), bits_byte,
    value]
  congr 2
  omega

theorem isSecond_of_toNat {a b : UInt8} {m k : Nat} (lead : a.toNat = m) (next : b.toNat = k)
    (range : 0x80 ≤ k ∧ k ≤ 0xbf) (e0 : m = 0xe0 → 0xa0 ≤ k) (ed : m = 0xed → k ≤ 0x9f)
    (f0 : m = 0xf0 → 0x90 ≤ k) (f4 : m = 0xf4 → k ≤ 0x8f) : isSecond a b = true := by
  simp only [isSecond, isContinuation, beq_iff_eq, ← UInt8.toNat_inj, UInt8.le_iff_toNat_le, lead,
    next, UInt8.reduceToNat]
  split
  · simp only [Bool.and_eq_true, decide_eq_true_eq]
    omega
  split
  · simp only [Bool.and_eq_true, decide_eq_true_eq]
    omega
  split
  · simp only [Bool.and_eq_true, decide_eq_true_eq]
    omega
  split
  · simp only [Bool.and_eq_true, decide_eq_true_eq]
    omega
  · simp only [Bool.and_eq_true, decide_eq_true_eq]
    omega

theorem scan_three (n : Nat) (bottom : 0x800 ≤ n) (top : n ≤ 0xffff)
    (scalar : n < 0xd800 ∨ 0xdfff < n) (rest : List UInt8) :
    scan (UInt8.ofNat (n / 4096 % 0x10 + 0xe0))
        (UInt8.ofNat (n / 64 % 64 + 0x80) :: UInt8.ofNat (n % 64 + 0x80) :: rest) =
      .char (Char.ofNat n) 3 := by
  have value : (UInt8.ofNat (n / 4096 % 0x10 + 0xe0)).toNat = n / 4096 + 0xe0 := by
    rw [toNat_byte (by omega)]
    omega
  generalize UInt8.ofNat (n / 4096 % 0x10 + 0xe0) = a at value
  have h1 : ¬ a < 0x80 := by rw [UInt8.lt_iff_toNat_lt, value]; show ¬ _ < 128; omega
  have h2 : ¬ a < 0xc2 := by rw [UInt8.lt_iff_toNat_lt, value]; show ¬ _ < 194; omega
  have h3 : ¬ a < 0xe0 := by rw [UInt8.lt_iff_toNat_lt, value]; show ¬ _ < 224; omega
  have h4 : a < 0xf0 := by rw [UInt8.lt_iff_toNat_lt, value]; show _ < 240; omega
  have second : isSecond a (UInt8.ofNat (n / 64 % 64 + 0x80)) = true :=
    isSecond_of_toNat value (toNat_byte (by omega)) (by omega) (by omega) (by omega) (by omega)
      (by omega)
  rw [scan, if_neg h1, if_neg h2, if_neg h3, if_pos h4, scan3, if_pos second]
  simp only [isContinuation_byte, if_true, bits_byte, value]
  congr 2
  omega

theorem scan_four (n : Nat) (bottom : 0x10000 ≤ n) (top : n < 0x110000) (rest : List UInt8) :
    scan (UInt8.ofNat (n / 262144 % 0x08 + 0xf0))
        (UInt8.ofNat (n / 4096 % 64 + 0x80) :: UInt8.ofNat (n / 64 % 64 + 0x80) ::
          UInt8.ofNat (n % 64 + 0x80) :: rest) =
      .char (Char.ofNat n) 4 := by
  have value : (UInt8.ofNat (n / 262144 % 0x08 + 0xf0)).toNat = n / 262144 + 0xf0 := by
    rw [toNat_byte (by omega)]
    omega
  generalize UInt8.ofNat (n / 262144 % 0x08 + 0xf0) = a at value
  have h1 : ¬ a < 0x80 := by rw [UInt8.lt_iff_toNat_lt, value]; show ¬ _ < 128; omega
  have h2 : ¬ a < 0xc2 := by rw [UInt8.lt_iff_toNat_lt, value]; show ¬ _ < 194; omega
  have h3 : ¬ a < 0xe0 := by rw [UInt8.lt_iff_toNat_lt, value]; show ¬ _ < 224; omega
  have h4 : ¬ a < 0xf0 := by rw [UInt8.lt_iff_toNat_lt, value]; show ¬ _ < 240; omega
  have h5 : a < 0xf5 := by rw [UInt8.lt_iff_toNat_lt, value]; show _ < 245; omega
  have second : isSecond a (UInt8.ofNat (n / 4096 % 64 + 0x80)) = true :=
    isSecond_of_toNat value (toNat_byte (by omega)) (by omega) (by omega) (by omega) (by omega)
      (by omega)
  rw [scan, if_neg h1, if_neg h2, if_neg h3, if_neg h4, if_pos h5, scan4, if_pos second]
  simp only [isContinuation_byte, if_true, bits_byte, value]
  congr 2
  omega

/-- The first byte of a character announces the others, and together they are that character. -/
theorem scan_encodeChar (c : Char) :
    ∃ first others, String.utf8EncodeChar c = first :: others ∧
      ∀ rest, scan first (others ++ rest) = .char c (others.length + 1) := by
  have valid : c.toNat < 0xd800 ∨ 0xdfff < c.toNat ∧ c.toNat < 0x110000 := c.valid
  have whole : Char.ofNat c.toNat = c := Char.ofNat_toNat c
  unfold String.utf8EncodeChar
  rw [Char.toNat_val]
  generalize c.toNat = n at valid whole
  subst whole
  by_cases one : n ≤ 0x7f
  · refine ⟨_, _, if_pos one, ?_⟩
    intro rest
    exact scan_one n one rest
  rw [if_neg one]
  by_cases two : n ≤ 0x7ff
  · refine ⟨_, _, if_pos two, ?_⟩
    intro rest
    exact scan_two n (by omega) two rest
  rw [if_neg two]
  by_cases three : n ≤ 0xffff
  · refine ⟨_, _, if_pos three, ?_⟩
    intro rest
    exact scan_three n (by omega) three (by omega) rest
  · refine ⟨_, _, if_neg three, ?_⟩
    intro rest
    exact scan_four n (by omega) (by omega) rest

theorem encode_eq_cons (s : List Char) (b : UInt8) (rest : List UInt8)
    (written : encode s = b :: rest) (short : b < 0x80) :
    ∃ others, s = Char.ofNat b.toNat :: others ∧ rest = encode others := by
  cases s with
  | nil => cases written
  | cons c s =>
      obtain ⟨first, others, bytes, scanned⟩ := scan_encodeChar c
      rw [encode_cons, bytes, List.cons_append] at written
      obtain ⟨rfl, rfl⟩ := List.cons.inj written
      have known := scanned (encode s)
      rw [scan, if_pos short] at known
      obtain ⟨same, alone⟩ := Scan.char.inj known
      have none : others = [] := List.length_eq_zero_iff.mp (by omega)
      exact ⟨s, by rw [same], by rw [none, List.nil_append]⟩

theorem encode_eq_nil (s : List Char) (written : encode s = []) : s = [] := by
  cases s with
  | nil => rfl
  | cons c s =>
      obtain ⟨first, others, bytes, scanned⟩ := scan_encodeChar c
      rw [encode_cons, bytes] at written
      cases written

/-! ## Texts -/

theorem decodeFrom_pending (index : Nat) (passed rest : List UInt8) :
    decodeFrom index passed.length (passed ++ rest) =
      decodeFrom (index + passed.length) 0 rest := by
  induction passed generalizing index with
  | nil => rfl
  | cons first others ih =>
      simp only [List.length_cons, List.cons_append, decodeFrom, ih]
      congr 1
      omega

theorem decodeFrom_encode (index : Nat) (s : List Char) :
    decodeFrom index 0 (encode s) = .ok s := by
  induction s generalizing index with
  | nil => rfl
  | cons c s ih =>
      obtain ⟨first, others, bytes, scanned⟩ := scan_encodeChar c
      rw [encode_cons, bytes, List.cons_append, decodeFrom, scanned]
      simp only [Nat.add_sub_cancel, decodeFrom_pending, ih]
      rfl

def Fault.shift (n : Nat) (f : Fault) : Fault := { f with index := n + f.index }

theorem decodeFrom_add (n index pending : Nat) (bytes : List UInt8) :
    decodeFrom (n + index) pending bytes =
      (decodeFrom index pending bytes).mapError (Fault.shift n) := by
  induction bytes generalizing index pending with
  | nil => cases pending with
    | zero => rfl
    | succ pending => rfl
  | cons a rest ih =>
      cases pending with
      | succ pending =>
          rw [decodeFrom, decodeFrom, Nat.add_assoc, ih]
      | zero =>
          rw [decodeFrom, decodeFrom]
          cases scan a rest with
          | char c width =>
              dsimp only
              rw [Nat.add_assoc, ih]
              cases decodeFrom (index + 1) (width - 1) rest with
              | ok s => rfl
              | error f => rfl
          | invalid length => rfl
          | truncated => rfl

theorem decodeFrom_ascii (index : Nat) (front : List Char) (rest : List UInt8)
    (ascii : ∀ c ∈ front, c.toNat ≤ 0x7f) :
    decodeFrom index 0 (encode front ++ rest) =
      (front ++ ·) <$> decodeFrom (index + front.length) 0 rest := by
  induction front generalizing index with
  | nil =>
      show decodeFrom index 0 rest = id <$> decodeFrom index 0 rest
      rw [id_map]
  | cons c front ih =>
      rw [List.forall_mem_cons] at ascii
      rw [encode_cons, encodeChar_ascii c ascii.1, List.cons_append, List.cons_append,
        List.nil_append, decodeFrom, scan_one _ ascii.1]
      dsimp only
      rw [ih _ ascii.2, Char.ofNat_toNat, List.length_cons, Nat.add_comm front.length 1, ← Nat.add_assoc]
      cases decodeFrom (index + 1 + front.length) 0 rest with
      | ok s => rfl
      | error f => rfl

theorem decode_encode (s : List Char) : decode (encode s) = .ok s := decodeFrom_encode 0 s

end PgJson.Utf8
