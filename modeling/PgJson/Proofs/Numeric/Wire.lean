import PgJson.Column
import PgJson.Proofs.Numeric.Decimal
import PgJson.Proofs.Numeric.Sum
import PgJson.Proofs.Wire.Bytes

namespace PgJson

namespace Numeric

/-! ## Display scales -/

theorem Sum.rescale_eq (s : Sum) (scale : Nat) (nonneg : 0 ≤ s.mantissa) (more : scale < s.scale) :
    s.rescale scale = ⟨((2 * s.mantissa.natAbs + 10 ^ (s.scale - scale)) /
      (2 * 10 ^ (s.scale - scale)) : Nat), scale⟩ := by
  rw [rescale, if_neg (Nat.not_le.mpr more)]
  simp only [Nat.pow_eq]
  rcases Int.lt_or_eq_of_le nonneg with positive | zero
  · rw [Int.sign_eq_one_of_pos positive, one_mul]
  · have unit : 0 < 10 ^ (s.scale - scale) := by positivity
    rw [← zero, Int.natAbs_zero, Nat.mul_zero, Nat.zero_add, Nat.div_eq_of_lt (by omega)]
    rfl

theorem Sum.rescale_bounds (s : Sum) (scale : Nat) (held : s.Held (-8)) :
    0 ≤ (s.rescale scale).mantissa ∧ (s.rescale scale).mantissa < Decimal.limit ∧
      (s.rescale scale).scale ≤ 28 ∧ (s.rescale scale).scale ≤ scale := by
  have nonneg := held.nonneg
  have below := held.below
  have places : s.scale ≤ 28 := held.places
  by_cases enough : s.scale ≤ scale
  · rw [rescale, if_pos enough]
    exact ⟨nonneg, below, places, enough⟩
  · rw [rescale_eq s scale nonneg (Nat.lt_of_not_le enough)]
    have unit : 2 ≤ 10 ^ (s.scale - scale) :=
      le_trans (by decide) (Nat.pow_le_pow_right (by decide) (by omega : 1 ≤ s.scale - scale))
    generalize 10 ^ (s.scale - scale) = u at *
    have quotient : (2 * s.mantissa.natAbs + u) / (2 * u) ≤ s.mantissa.natAbs := by
      rcases Nat.eq_zero_or_pos s.mantissa.natAbs with zero | positive
      · rw [zero, Nat.mul_zero, Nat.zero_add, Nat.div_eq_of_lt (by omega)]
      · apply Nat.div_le_of_le_mul
        nlinarith
    exact ⟨Int.natCast_nonneg _, by show ((_ : Nat) : Int) < _; omega, by show scale ≤ 28; omega,
      le_refl _⟩

theorem Sum.rescale_value (s : Sum) (scale : Nat) (nonneg : 0 ≤ s.mantissa) (m p : Nat)
    (few : p ≤ scale) (equal : s.value = m / 10 ^ p) : (s.rescale scale).value = s.value := by
  by_cases enough : s.scale ≤ scale
  · rw [rescale, if_pos enough]
  · have more : scale < s.scale := Nat.lt_of_not_le enough
    rw [rescale_eq s scale nonneg more]
    obtain ⟨mantissa, places⟩ := s
    obtain ⟨n, rfl⟩ := Int.eq_ofNat_of_zero_le nonneg
    simp only [value, Int.natAbs_natCast, Int.cast_natCast] at *
    have product := eq_mul_pow n m places p (by omega) equal
    have power : 10 ^ (places - p) = 10 ^ (scale - p) * 10 ^ (places - scale) := by
      rw [← pow_add]
      congr 1
      omega
    have unit : 0 < 10 ^ (places - scale) := by positivity
    rw [power, ← Nat.mul_assoc] at product
    have quotient : (2 * n + 10 ^ (places - scale)) / (2 * 10 ^ (places - scale)) =
        m * 10 ^ (scale - p) := by
      generalize 10 ^ (places - scale) = u at *
      have parts : 2 * n + u = u + 2 * u * (m * 10 ^ (scale - p)) := by
        rw [product]
        ring
      rw [parts, Nat.add_mul_div_left _ _ (by omega), Nat.div_eq_of_lt (by omega), Nat.zero_add]
    have whole : (10 : ℚ) ^ scale = 10 ^ (scale - p) * 10 ^ p := by
      rw [← pow_add, Nat.sub_add_cancel few]
    rw [quotient, equal, whole]
    push_cast
    rw [mul_comm (m : ℚ), mul_div_mul_left _ _ (by positivity)]

/-! ## Numbers as they are sent -/

structure Sent.WellFormed (n : Sent) : Prop where
  weight : -0x8000 ≤ n.weight ∧ n.weight < 0x8000
  sign : n.sign < 0x10000
  scale : -0x8000 ≤ n.scale ∧ n.scale < 0x8000
  count : n.digits.length < 0x10000
  digits : ∀ d ∈ n.digits, IsDigit d
  nan : n.sign = nan → n.digits = []

def Sent.bytes (n : Sent) : Bytes :=
  Wire.ofNat n.digits.length 2 ++ (Wire.ofInt n.weight 2 ++ (Wire.ofNat n.sign 2 ++
    (Wire.ofInt n.scale 2 ++ n.digits.flatMap (Wire.ofInt · 2))))

theorem pair_ofNat (n : Nat) : ∃ a b, Wire.ofNat n 2 = [a, b] := ⟨_, _, rfl⟩

theorem digitsOf_bytes (digits : List Int) (range : ∀ d ∈ digits, IsDigit d) :
    digitsOf digits.length (digits.flatMap (Wire.ofInt · 2)) = some digits := by
  induction digits with
  | nil => rfl
  | cons digit rest ih =>
      obtain ⟨low, high⟩ := range digit (List.mem_cons_self ..)
      obtain ⟨a, b, pair⟩ := pair_ofNat (digit % Nat.pow 256 2).toNat
      have pair : Wire.ofInt digit 2 = [a, b] := pair
      have read := Wire.signed_ofInt digit 2 (by norm_num; omega) (by norm_num; omega)
      have others := ih fun d member => range d (List.mem_cons_of_mem _ member)
      rw [pair] at read
      rw [List.flatMap_cons, pair, List.length_cons]
      show (Wire.signed [a, b] :: ·) <$>
        digitsOf rest.length (rest.flatMap (Wire.ofInt · 2)) = _
      rw [others, read]
      rfl

theorem ofBytes?_bytes (n : Sent) (wellFormed : n.WellFormed) : Sent.ofBytes? n.bytes = some n := by
  obtain ⟨weight, sign, scale, count, digits, nan_⟩ := wellFormed
  obtain ⟨c₁, c₂, countPair⟩ := pair_ofNat n.digits.length
  obtain ⟨w₁, w₂, weightPair⟩ := pair_ofNat (n.weight % Nat.pow 256 2).toNat
  obtain ⟨s₁, s₂, signPair⟩ := pair_ofNat n.sign
  obtain ⟨d₁, d₂, scalePair⟩ := pair_ofNat (n.scale % Nat.pow 256 2).toNat
  have weightPair : Wire.ofInt n.weight 2 = [w₁, w₂] := weightPair
  have scalePair : Wire.ofInt n.scale 2 = [d₁, d₂] := scalePair
  have countRead := Wire.unsigned_ofNat_of_lt n.digits.length 2 count
  have signRead := Wire.unsigned_ofNat_of_lt n.sign 2 sign
  have weightRead := Wire.signed_ofInt n.weight 2 (by norm_num; omega) (by norm_num; omega)
  have scaleRead := Wire.signed_ofInt n.scale 2 (by norm_num; omega) (by norm_num; omega)
  rw [countPair] at countRead
  rw [signPair] at signRead
  rw [weightPair] at weightRead
  rw [scalePair] at scaleRead
  have counted : (if n.sign = nan then 0 else n.digits.length) = n.digits.length := by
    split
    · next same =>
      rw [nan_ same]
      rfl
    · rfl
  rw [Sent.bytes, countPair, weightPair, signPair, scalePair]
  show Sent.mk (Wire.signed [w₁, w₂]) (Wire.unsigned [s₁, s₂]) (Wire.signed [d₁, d₂]) <$>
    digitsOf (if Wire.unsigned [s₁, s₂] = nan then 0 else Wire.unsigned [c₁, c₂])
      (n.digits.flatMap (Wire.ofInt · 2)) = _
  rw [weightRead, signRead, scaleRead, countRead, counted, digitsOf_bytes n.digits digits]
  rfl

/-! ## What becomes of a number -/

namespace Sent

def value (n : Sent) : ℚ := (if n.sign = 0 then 1 else -1) * digitsValue n.weight n.digits

/-- There is a decimal of 96 bits for it, of no more places than it is displayed with. -/
def Carried (n : Sent) : Prop :=
  ∃ m p : Nat, m < Decimal.limit ∧ p ≤ n.scale.toNat ∧ digitsValue n.weight n.digits = m / 10 ^ p

def Accepted (n : Sent) : Prop :=
  (n.sign = 0 ∨ n.sign = 0x4000) ∧
    (n.digits = [] ∨ 0 ≤ n.scale ∧ InRange n.weight n.digits)

def Overflows (n : Sent) : Prop :=
  (n.sign = 0 ∨ n.sign = 0x4000) ∧ 0 ≤ n.scale ∧ TooLarge n.weight n.digits

/-- The sum of the digits, on the scale it is displayed with, is the number itself just where there
is a decimal for that. -/
theorem rescaled_value (n : Sent) (range : ∀ d ∈ n.digits, IsDigit d) (t : Sum)
    (held : t.Held (-8)) (done : sum ⟨0, 0⟩ n.weight n.digits = .ok t) :
    (t.rescale n.scale.toNat).value = digitsValue n.weight n.digits ↔ n.Carried := by
  obtain ⟨nonneg, below, _, few⟩ := Sum.rescale_bounds t n.scale.toNat held
  constructor
  · intro same
    obtain ⟨m, natural⟩ := Int.eq_ofNat_of_zero_le nonneg
    refine ⟨m, _, by omega, few, ?_⟩
    rw [← same, Sum.value, natural, Int.cast_natCast]
  · rintro ⟨m, p, small, places, whole⟩
    have exact := sum_value n.digits ⟨0, 0⟩ t n.weight range (zero_held n.weight) m p small
      (by rw [zero_value, zero_add, whole]) done
    rw [Sum.rescale_value t _ held.nonneg m p places exact, exact, whole]

theorem signed_value (sign : Nat) (s : Sum) (nonneg : 0 ≤ s.mantissa)
    (form : s.mantissa.natAbs < Decimal.limit ∧ s.scale ≤ 28) (q : ℚ) :
    (Decimal.mk (sign != 0) s.mantissa.natAbs s.scale form.1 form.2).value =
      (if sign = 0 then 1 else -1) * q ↔ s.value = q := by
  have natural : ((s.mantissa.natAbs : Nat) : ℚ) = s.mantissa := by
    rw [← Int.cast_natCast, Int.natAbs_of_nonneg nonneg]
  rw [Decimal.value, Sum.value, natural]
  by_cases plus : sign = 0
  · simp [plus]
  · simp [plus]

theorem toDecimal_cases (n : Sent) (range : ∀ d ∈ n.digits, IsDigit d) :
    (∃ d, n.toDecimal = .ok d ∧ n.Accepted ∧ (d.value = n.value ↔ n.Carried)) ∨
      (∃ cause, n.toDecimal = Outcome.fail cause ∧ ¬ n.Accepted ∧ ¬ n.Overflows) ∨
      n.toDecimal = Outcome.crash ∧ ¬ n.Accepted ∧ n.Overflows := by
  by_cases signed : n.sign = 0 ∨ n.sign = 0x4000
  · have number : n.sign ≠ nan := by
      rcases signed with plus | minus
      · rw [plus]
        decide
      · rw [minus]
        decide
    have sign : ¬ (n.sign ≠ 0 ∧ n.sign ≠ 0x4000) := by omega
    unfold toDecimal
    rw [if_neg number, if_neg sign]
    by_cases empty : n.digits = []
    · rw [if_pos empty]
      have zero : digitsValue n.weight n.digits = 0 := by rw [empty, digitsValue]
      refine .inl ⟨_, rfl, ⟨signed, .inl empty⟩, iff_of_true ?_ ⟨0, 0, by decide, by omega, ?_⟩⟩
      · rw [value, zero, Decimal.value]
        simp [Decimal.zero]
      · rw [zero]
        norm_num
    rw [if_neg empty]
    -- Without digits the scale is not looked at, so it may be anything there.
    by_cases negative : n.scale < 0
    · rw [if_pos negative]
      refine .inr (.inl ⟨_, rfl, ?_, fun large => absurd large.2.1 (by omega)⟩)
      rintro ⟨_, none | ⟨scale, _⟩⟩
      · exact empty none
      · omega
    rw [if_neg negative]
    have scale : 0 ≤ n.scale := not_lt.mp negative
    rcases sum_cases n.digits n.weight range empty with
      ⟨t, done, held, inside⟩ | ⟨failed, outside, small⟩ | ⟨crashed, outside, large⟩
    · left
      have bounds := Sum.rescale_bounds t n.scale.toNat held
      have exact := rescaled_value n range t held done
      rw [done]
      have form : (t.rescale n.scale.toNat).mantissa.natAbs < Decimal.limit ∧
          (t.rescale n.scale.toNat).scale ≤ 28 := ⟨by omega, bounds.2.2.1⟩
      have parts : Decimal.ofParts? (n.sign != 0) (t.rescale n.scale.toNat).mantissa.natAbs
          (t.rescale n.scale.toNat).scale = some ⟨_, _, _, form.1, form.2⟩ := dif_pos form
      have same := signed_value n.sign _ bounds.1 form (digitsValue n.weight n.digits)
      refine ⟨⟨_, _, _, form.1, form.2⟩, ?_, ⟨signed, .inr ⟨scale, inside⟩⟩, same.trans exact⟩
      simp only [bind, Except.bind, parts]
    · refine .inr (.inl ⟨.numericTooWide, by rw [failed]; rfl, ?_, fun other => small other.2.2⟩)
      rintro ⟨_, none | ⟨_, inside⟩⟩
      · exact empty none
      · exact outside inside
    · refine .inr (.inr ⟨by rw [crashed]; rfl, ?_, ⟨signed, scale, large⟩⟩)
      rintro ⟨_, none | ⟨_, inside⟩⟩
      · exact empty none
      · exact outside inside
  · right
    left
    have unaccepted : ¬ n.Accepted := fun accepted => signed accepted.1
    have other : ¬ n.Overflows := fun large => signed large.1
    unfold toDecimal
    by_cases number : n.sign = nan
    · rw [if_pos number]
      exact ⟨_, rfl, unaccepted, other⟩
    · rw [if_neg number, if_pos (by omega)]
      exact ⟨_, rfl, unaccepted, other⟩

end Sent
end Numeric

namespace Column

/-- A number that is accepted is given back exactly where there is a decimal for it, and rounded
otherwise. What is not accepted fails with an error that names the column, but for a first digit too
large, which crashes. -/
theorem decode_numeric (c : Column) (index : Nat) (n : Numeric.Sent)
    (numeric : c.type = .builtIn "NUMERIC") (wellFormed : n.WellFormed) :
    (∃ v, c.decode index (some n.bytes) = .ok v ∧ n.Accepted ∧ (v.Denotes n.value ↔ n.Carried)) ∨
      (∃ cause, c.decode index (some n.bytes) =
          Outcome.fail (.decode c.name (.cell index cause)) ∧ ¬ n.Accepted ∧ ¬ n.Overflows) ∨
      c.decode index (some n.bytes) = Outcome.crash ∧ ¬ n.Accepted ∧ n.Overflows := by
  obtain ⟨name, type⟩ := c
  cases numeric
  have sent : Numeric.decode n.bytes = n.toDecimal := by
    rw [Numeric.decode, Numeric.ofBytes?_bytes n wellFormed]
    rfl
  have decoded : (Column.mk name (.builtIn "NUMERIC")).decode index (some n.bytes) =
      ((Decimal.toJson <$> Numeric.decode n.bytes).mapCause (.cell index)).mapCause
        (.decode name) := rfl
  rw [decoded, sent]
  rcases n.toDecimal_cases wellFormed.digits with
    ⟨d, made, accepted, exact⟩ | ⟨cause, failed, refused⟩ | ⟨crashed, refused⟩
  · rw [made]
    refine .inl ⟨d.toJson, rfl, accepted, ?_⟩
    rw [d.toJson_denotes, exact]
  · rw [failed]
    exact .inr (.inl ⟨cause, rfl, refused⟩)
  · rw [crashed]
    exact .inr (.inr ⟨rfl, refused⟩)

theorem decode_numeric_rounds :
    let n : Numeric.Sent := ⟨7, 0, 1, [7, 9228, 1625, 1426, 4337, 5935, 4395, 334, 9000]⟩
    n.WellFormed ∧ ∃ v, (Column.mk "v" (.builtIn "NUMERIC")).decode 0 (some n.bytes) = .ok v ∧
      ¬ v.Denotes n.value := by
  intro n
  have wellFormed : n.WellFormed := by
    refine ⟨by decide, by decide, by decide, by decide, ?_, by decide⟩
    simp [n, Numeric.IsDigit]
  have digits : Numeric.digitsValue n.weight n.digits = 792281625142643375935439503349 / 10 := by
    norm_num [n, Numeric.digitsValue]
  have uncarried : ¬ n.Carried := by
    rintro ⟨m, p, small, places, equal⟩
    rw [digits] at equal
    have few : p ≤ 1 := places
    rcases Nat.le_one_iff_eq_zero_or_eq_one.mp few with rfl | rfl
    · have tens : (792281625142643375935439503349 : ℚ) = m * 10 := by linarith
      have tens : 792281625142643375935439503349 = m * 10 := by exact_mod_cast tens
      omega
    · have same : (792281625142643375935439503349 : ℚ) = m := by linarith
      have same : 792281625142643375935439503349 = m := by exact_mod_cast same
      rw [← same] at small
      exact absurd small (by decide)
  have accepted : n.Accepted := by
    refine ⟨.inl rfl, .inr ⟨by decide, by decide, by decide, ?_⟩⟩
    rw [digits]
    norm_num [Decimal.limit]
  refine ⟨wellFormed, ?_⟩
  rcases decode_numeric ⟨"v", .builtIn "NUMERIC"⟩ 0 n rfl wellFormed with
    ⟨v, made, _, exact⟩ | ⟨_, _, refused, _⟩ | ⟨_, refused, _⟩
  · exact ⟨v, made, fun denotes => uncarried (exact.mp denotes)⟩
  · exact absurd accepted refused
  · exact absurd accepted refused

end Column
end PgJson
