import PgJson.Proofs.Text.Plain
import PgJson.Proofs.Text.Utf8
import Mathlib.Algebra.Order.Group.Int
import Mathlib.Data.Char
import Mathlib.Order.Compare

/-!
Texts compared from the front. Numbers written in as many digits compare as the numbers do, and so
do numbers that are left out where they are zero, if what follows stands below their first
characters.
-/

namespace PgJson

/-- What is decided by a first part compares as that part, and where it is the same as the rest. -/
theorem compare_of_parts {α β : Type} [LinearOrder α] [LinearOrder β] (a b : α) (x y : β)
    (rest : Ordering) (below : a < b → x < y) (above : b < a → y < x)
    (same : a = b → compare x y = rest) : compare x y = (compare a b).then rest := by
  rcases lt_trichotomy a b with lt | eq | gt
  · rw [compare_lt_iff_lt.mpr (below lt), compare_lt_iff_lt.mpr lt]
    rfl
  · rw [same eq, compare_eq_iff_eq.mpr eq]
    rfl
  · rw [compare_gt_iff_gt.mpr (above gt), compare_gt_iff_gt.mpr gt]
    rfl

theorem mul_add_lt (k a b r s : Nat) (small : r < k) (lt : a < b) : a * k + r < b * k + s := by
  have step : (a + 1) * k ≤ b * k := Nat.mul_le_mul_right k lt
  rw [Nat.succ_mul] at step
  omega

theorem compare_mul_add (k a b r s : Nat) (first : r < k) (second : s < k) :
    compare (a * k + r) (b * k + s) = (compare a b).then (compare r s) := by
  apply compare_of_parts a b
  · exact mul_add_lt k a b r s first
  · exact mul_add_lt k b a s r second
  · intro same
    rw [same]
    rcases lt_trichotomy r s with lt | eq | gt
    · rw [compare_lt_iff_lt.mpr lt, compare_lt_iff_lt]
      omega
    · rw [eq, Std.compare_self, Std.compare_self]
    · rw [compare_gt_iff_gt.mpr gt, compare_gt_iff_gt]
      omega

theorem compare_div_mod (k m n : Nat) (positive : 0 < k) :
    compare m n = (compare (m / k) (n / k)).then (compare (m % k) (n % k)) := by
  rw [← compare_mul_add k _ _ _ _ (Nat.mod_lt m positive) (Nat.mod_lt n positive),
    Nat.div_add_mod' m k, Nat.div_add_mod' n k]

namespace Text

theorem digitsNumber_cons (c : Char) (s : List Char) :
    digitsNumber (c :: s) = (c.toNat - 48) * 10 ^ s.length + digitsNumber s := by
  have whole := digitsNumber_append [c] s
  have first := digitsNumber_concat [] c
  rw [List.nil_append] at first
  rw [List.singleton_append, first] at whole
  simpa using whole

theorem compare_isDigit (c d : Char) (first : c.isDigit) (second : d.isDigit) :
    compare c d = compare (c.toNat - 48) (d.toNat - 48) := by
  have boundsC := isDigit_bounds c first
  have boundsD := isDigit_bounds d second
  rcases lt_trichotomy c d with lt | eq | gt
  · have lt' : c.toNat < d.toNat := lt
    rw [compare_lt_iff_lt.mpr lt, eq_comm, compare_lt_iff_lt]
    omega
  · rw [eq, Std.compare_self, Std.compare_self]
  · have gt' : d.toNat < c.toNat := gt
    rw [compare_gt_iff_gt.mpr gt, eq_comm, compare_gt_iff_gt]
    omega

theorem compare_digits (s t u v : List Char) (first : ∀ c ∈ s, c.isDigit)
    (second : ∀ c ∈ t, c.isDigit) (length : s.length = t.length) :
    compare (s ++ u) (t ++ v) =
      (compare (digitsNumber s) (digitsNumber t)).then (compare u v) := by
  induction s generalizing t with
  | nil =>
      rw [List.length_eq_zero_iff.mp length.symm, Std.compare_self]
      rfl
  | cons c s ih =>
      cases t with
      | nil => simp at length
      | cons d t =>
          rw [List.forall_mem_cons] at first second
          have length : s.length = t.length := Nat.succ.inj length
          have small := digitsNumber_lt s first.2
          have small' := digitsNumber_lt t second.2
          rw [← length] at small'
          calc
            compare (c :: s ++ u) (d :: t ++ v)
            _ = (compare c d).then (compare (s ++ u) (t ++ v)) := List.compare_cons_cons
            _ = ((compare (c.toNat - 48) (d.toNat - 48)).then
                  (compare (digitsNumber s) (digitsNumber t))).then (compare u v) := by
              rw [ih t first.2 second.2 length, compare_isDigit c d first.1 second.1,
                Ordering.then_assoc]
            _ = (compare (digitsNumber (c :: s)) (digitsNumber (d :: t))).then (compare u v) := by
              rw [digitsNumber_cons, digitsNumber_cons, ← length,
                compare_mul_add _ _ _ _ _ small small']

theorem compare_padded (width m n : Nat) (u v : List Char) (wide : 0 < width)
    (first : m < 10 ^ width) (second : n < 10 ^ width) :
    compare (padded width m ++ u) (padded width n ++ v) =
      (compare m n).then (compare u v) := by
  have length : (padded width m).length = (padded width n).length := by
    rw [length_padded width m wide first, length_padded width n wide second]
  rw [compare_digits _ _ u v (isDigit_of_mem_padded width m) (isDigit_of_mem_padded width n) length,
    digitsNumber_padded, digitsNumber_padded]

/-- A text that stands below a character: it ends at once, or its first character does. -/
def Below (rest : List Char) (c : Char) : Prop := ∀ d ∈ rest.head?, d < c

theorem compare_below (rest s : List Char) (c : Char) (below : Below rest c) :
    compare rest (c :: s) = .lt ∧ compare (c :: s) rest = .gt := by
  cases rest with
  | nil => exact ⟨List.compare_nil_cons, List.compare_cons_nil⟩
  | cons d rest =>
      have lt : d < c := below d rfl
      rw [List.compare_cons_cons, List.compare_cons_cons, compare_lt_iff_lt.mpr lt,
        compare_gt_iff_gt.mpr lt]
      exact ⟨rfl, rfl⟩

/-- Texts of numbers, of which zero has none, compare as the numbers if the others do and what
follows stands below the first character of each. -/
theorem compare_optional (text : Nat → List Char) (rest : List Char) (m n : Nat)
    (zero : text 0 = [])
    (starts : ∀ k, 0 < k → k ≤ max m n → ∃ c s, text k = c :: s ∧ Below rest c)
    (others : 0 < m → 0 < n → compare (text m ++ rest) (text n ++ rest) = compare m n) :
    compare (text m ++ rest) (text n ++ rest) = compare m n := by
  rcases Nat.eq_zero_or_pos m with noneM | posM
  · rcases Nat.eq_zero_or_pos n with noneN | posN
    · rw [noneM, noneN, Std.compare_self, Std.compare_self]
    · obtain ⟨c, s, written, below⟩ := starts n posN (Nat.le_max_right ..)
      rw [noneM, zero, written, compare_lt_iff_lt.mpr posN]
      exact (compare_below rest (s ++ rest) c below).1
  · rcases Nat.eq_zero_or_pos n with noneN | posN
    · obtain ⟨c, s, written, below⟩ := starts m posM (Nat.le_max_left ..)
      rw [noneN, zero, written, compare_gt_iff_gt.mpr posM]
      exact (compare_below rest (s ++ rest) c below).2
    · exact others posM posN

end Text

namespace Utf8

theorem compare_encode (s t : List Char) (first : ∀ c ∈ s, c.toNat ≤ 0x7f)
    (second : ∀ c ∈ t, c.toNat ≤ 0x7f) : compare (encode s) (encode t) = compare s t := by
  induction s generalizing t with
  | nil =>
      cases t with
      | nil => rfl
      | cons d t =>
          rw [List.forall_mem_cons] at second
          rw [encode_cons, encodeChar_ascii d second.1]
          rfl
  | cons c s ih =>
      rw [List.forall_mem_cons] at first
      cases t with
      | nil =>
          rw [encode_cons, encodeChar_ascii c first.1]
          rfl
      | cons d t =>
          rw [List.forall_mem_cons] at second
          have byte : compare (UInt8.ofNat c.toNat) (UInt8.ofNat d.toNat) = compare c d := by
            have lt : UInt8.ofNat c.toNat < UInt8.ofNat d.toNat ↔ c < d := by
              rw [UInt8.lt_iff_toNat_lt, toNat_byte (by omega), toNat_byte (by omega)]
              rfl
            have eq : UInt8.ofNat c.toNat = UInt8.ofNat d.toNat ↔ c = d := by
              rw [← UInt8.toNat_inj, toNat_byte (by omega), toNat_byte (by omega), Char.toNat_inj]
            simp only [compare, compareOfLessAndEq, lt, eq]
          rw [encode_cons, encode_cons, encodeChar_ascii c first.1, encodeChar_ascii d second.1,
            List.singleton_append, List.singleton_append, List.compare_cons_cons,
            List.compare_cons_cons, byte, ih t first.2 second.2]

end Utf8
end PgJson
