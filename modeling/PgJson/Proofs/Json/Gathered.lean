import PgJson.Proofs.Json.Numeral
import PgJson.Proofs.Number.Rounding

namespace PgJson.Json

open Text

namespace Literal

/-! ## Digits -/

theorem foldl_digits (n : Nat) (ds : List Nat) :
    ds.foldl (fun n d => n * 10 + d) n = n * 10 ^ ds.length + digits ds := by
  induction ds generalizing n with
  | nil => rw [List.foldl_nil, List.length_nil, pow_zero, Nat.mul_one]; rfl
  | cons d ds ih =>
      rw [digits, List.foldl_cons, List.foldl_cons, ih, ih, List.length_cons, pow_succ]
      ring

theorem digits_append (front back : List Nat) :
    digits (front ++ back) = digits front * 10 ^ back.length + digits back := by
  rw [digits, List.foldl_append, foldl_digits]
  rfl

theorem digits_lt (ds : List Nat) (decimal : ∀ d ∈ ds, d < 10) : digits ds < 10 ^ ds.length := by
  induction ds with
  | nil => exact Nat.one_pos
  | cons d ds ih =>
      rw [List.forall_mem_cons] at decimal
      have rest := ih decimal.2
      have split := digits_append [d] ds
      have one : digits [d] = d := Nat.zero_add d
      rw [one] at split
      rw [List.length_cons, pow_succ]
      show digits ([d] ++ ds) < _
      have top := Nat.mul_le_mul_right (10 ^ ds.length) (Nat.le_of_lt_succ decimal.1)
      rw [split]
      omega

theorem gather_parts (significand : Nat) (ds : List Nat) (fits : significand < limit64) :
    ∃ taken, ds = taken ++ (gather significand ds).2 ∧
      (gather significand ds).1 = significand * 10 ^ taken.length + digits taken ∧
      (gather significand ds).1 < limit64 ∧
      ((gather significand ds).2 ≠ [] → ∃ d ∈ ds, limit64 ≤ (gather significand ds).1 * 10 + d) := by
  induction ds generalizing significand with
  | nil => exact ⟨[], rfl, (Nat.mul_one _).symm, fits, fun left => absurd rfl left⟩
  | cons d ds ih =>
      rw [gather]
      split
      · next more =>
        obtain ⟨taken, parts, value, small, full⟩ := ih _ more
        refine ⟨d :: taken, congrArg (d :: ·) parts, ?_, small, fun left => ?_⟩
        · have split := digits_append [d] taken
          have one : digits [d] = d := Nat.zero_add d
          rw [one] at split
          rw [value, List.length_cons, pow_succ]
          show _ = _ + digits ([d] ++ taken)
          rw [split]
          ring
        · obtain ⟨e, member, past⟩ := full left
          exact ⟨e, List.mem_cons_of_mem _ member, past⟩
      · next past =>
        exact ⟨[], rfl, (Nat.mul_one _).symm, fits,
          fun _ => ⟨d, List.mem_cons_self .., Nat.le_of_not_lt past⟩⟩

/-! ## What a literal writes -/

def places (l : Literal) : List Nat := l.fraction.getD []

def shift (l : Literal) : Int :=
  match l.exponent with
  | none => 0
  | some (false, ds) => digits ds
  | some (true, ds) => -digits ds

def size (l : Literal) : ℚ :=
  digits (l.whole ++ l.places) * 10 ^ (l.shift - l.places.length)

theorem scaled_eq (l : Literal) :
    l.scaled = ((gather (gather 0 l.whole).1 l.places).1,
      ((gather 0 l.whole).2.length : Int) -
        (l.places.length - (gather (gather 0 l.whole).1 l.places).2.length : Nat) + l.shift) := by
  obtain ⟨negative, whole, fraction, exponent⟩ := l
  cases fraction with
  | none => rfl
  | some ds => rfl

theorem head_between (m k r : Nat) (small : r < 10 ^ k) (x : Int) :
    (m : ℚ) * 10 ^ x ≤ (m * 10 ^ k + r : Nat) * (10 : ℚ) ^ (x - k) ∧
      (m * 10 ^ k + r : Nat) * (10 : ℚ) ^ (x - k) < (m + 1) * 10 ^ x := by
  have scale : (10 : ℚ) ^ x = 10 ^ k * (10 : ℚ) ^ (x - k) := by
    rw [← zpow_natCast, ← zpow_add₀ (by norm_num)]
    congr 1
    ring
  have positive : (0 : ℚ) < 10 ^ (x - k) := zpow_pos (by norm_num) _
  have small : (r : ℚ) < 10 ^ k := by exact_mod_cast small
  have nonneg : (0 : ℚ) ≤ r := Nat.cast_nonneg r
  rw [scale]
  push_cast
  constructor
  · nlinarith [mul_nonneg nonneg (le_of_lt positive)]
  · nlinarith [mul_lt_mul_of_pos_right small positive]

theorem within_of_between (m : Nat) (step a b : ℚ) (large : 0x1000000000000000 ≤ m)
    (positive : 0 < step) (first : m * step ≤ a ∧ a < (m + 1) * step)
    (second : m * step ≤ b ∧ b < (m + 1) * step) :
    Within (1 / 0x1000000000000000) 0 a b := by
  have large : (0x1000000000000000 : ℚ) ≤ m := by exact_mod_cast large
  have part : step ≤ b * (1 / 0x1000000000000000) := by
    have scaled := mul_le_mul_of_nonneg_right large (le_of_lt positive)
    linarith
  have apart : |a - b| ≤ step := by
    rw [abs_le]
    constructor <;> linarith
  unfold Within
  linarith

/-- Two numbers with the same first digits and others behind them, at the place of the first. -/
theorem within_heads (m : Nat) (front back : List Nat) (decimal : ∀ d ∈ front ++ back, d < 10)
    (large : 0x1000000000000000 ≤ m) (x : Int) :
    Within (1 / 0x1000000000000000) 0
      ((m * 10 ^ front.length + digits front : Nat) * 10 ^ (x - front.length))
      ((m * 10 ^ back.length + digits back : Nat) * 10 ^ (x - back.length)) := by
  have first := digits_lt front fun d member => decimal d (List.mem_append_left _ member)
  have second := digits_lt back fun d member => decimal d (List.mem_append_right _ member)
  exact within_of_between m (10 ^ x) _ _ large (zpow_pos (by norm_num) _)
    (head_between m front.length _ first x) (head_between m back.length _ second x)

theorem within_dropped (m : Nat) (back : List Nat) (decimal : ∀ d ∈ back, d < 10)
    (large : back ≠ [] → 0x1000000000000000 ≤ m) (x : Int) :
    Within (1 / 0x1000000000000000) 0 (m * 10 ^ x)
      ((m * 10 ^ back.length + digits back : Nat) * 10 ^ (x - back.length)) := by
  have itself : (m : ℚ) * 10 ^ x = (m * 10 ^ ([] : List Nat).length + digits [] : Nat) *
      10 ^ (x - (([] : List Nat).length : Int)) := by
    simp [digits]
  rw [itself]
  by_cases none : back = []
  · rw [none, ← itself]
    have positive : (0 : ℚ) ≤ m * 10 ^ x :=
      mul_nonneg (Nat.cast_nonneg _) (zpow_nonneg (by norm_num) _)
    exact Within.self _ _ _ positive (by norm_num) (le_refl _)
  · exact within_heads m [] back decimal (large none) x

/-- What is gathered is the number written, but for the digits that no longer fit. -/
theorem scaled_within (l : Literal) (decimal : ∀ d ∈ l.whole ++ l.places, d < 10) :
    l.scaled.1 < limit64 ∧
      Within (1 / 0x1000000000000000) 0 (l.scaled.1 * 10 ^ l.scaled.2) l.size := by
  obtain ⟨taken, whole, first, small, full⟩ := gather_parts 0 l.whole (by decide)
  obtain ⟨taken', places, second, small', full'⟩ := gather_parts _ l.places small
  rw [scaled_eq, size]
  dsimp only
  have large : ∀ n d, d ∈ l.whole ++ l.places → limit64 ≤ n * 10 + d →
      0x1000000000000000 ≤ n := by
    intro n d member past
    have below := decimal d member
    unfold limit64 at past
    omega
  generalize gather 0 l.whole = front at *
  obtain ⟨significand, dropped⟩ := front
  generalize gather significand l.places = back at *
  obtain ⟨significand', dropped'⟩ := back
  dsimp only at *
  have count : l.places.length - dropped'.length = taken'.length := by
    rw [places, List.length_append, Nat.add_sub_cancel]
  have decimal' : ∀ d ∈ dropped ++ (taken' ++ dropped'), d < 10 := by
    intro d member
    apply decimal d
    rw [whole, places, List.append_assoc]
    exact List.mem_append_right _ member
  have leading : digits taken = significand := by omega
  refine ⟨small', ?_⟩
  rw [count]
  -- Digits that are dropped before the point leave a full significand, whatever places follow.
  by_cases cut : dropped = []
  · subst cut
    have written : digits (l.whole ++ l.places) =
        significand' * 10 ^ dropped'.length + digits dropped' := by
      rw [whole, places, List.append_nil, ← List.append_assoc, digits_append, digits_append,
        leading, second]
    have exponent : l.shift - (l.places.length : Int) =
        ((([] : List Nat).length : Int) - taken'.length + l.shift) - dropped'.length := by
      rw [places, List.length_append, List.length_nil]
      push_cast
      ring
    rw [written, exponent]
    apply within_dropped significand' dropped' fun d member => decimal' d (by simp [member])
    intro rest
    obtain ⟨d, member, past⟩ := full' rest
    exact large significand' d (List.mem_append_right _ member) past
  · obtain ⟨d, member, past⟩ := full cut
    have least := large significand d (List.mem_append_left _ member) past
    have written : digits (l.whole ++ l.places) =
        significand * 10 ^ (dropped ++ (taken' ++ dropped')).length +
          digits (dropped ++ (taken' ++ dropped')) := by
      rw [whole, places, List.append_assoc, digits_append, leading]
    have exponent : l.shift - (l.places.length : Int) =
        (dropped.length + l.shift) - (dropped ++ (taken' ++ dropped')).length := by
      rw [places, List.length_append, List.length_append, List.length_append]
      push_cast
      ring
    have exponent' : (dropped.length : Int) - taken'.length + l.shift =
        (dropped.length + l.shift) - taken'.length := by ring
    rw [written, exponent, exponent', second]
    apply within_heads significand taken' _ _ least
    intro d member
    rcases List.mem_append.mp member with inside | inside
    · exact decimal' d (by simp [inside])
    · exact decimal' d inside

end Literal
end PgJson.Json
