import PgJson.Wire.Bytes
import Mathlib.Tactic.Ring
import Mathlib.Tactic.Linarith

namespace PgJson.Wire

theorem unsigned_append (front back : Bytes) :
    unsigned (front ++ back) = unsigned front * 256 ^ back.length + unsigned back := by
  have general : ∀ n : Nat, back.foldl (fun n b => n * 256 + b.toNat) n =
      n * 256 ^ back.length + unsigned back := by
    unfold unsigned
    induction back with
    | nil =>
        intro n
        simp
    | cons b back ih =>
        intro n
        rw [List.foldl_cons, List.foldl_cons, ih, ih (0 * 256 + b.toNat), List.length_cons,
          pow_succ]
        ring
  rw [unsigned, List.foldl_append]
  exact general _

theorem unsigned_cons (b : UInt8) (rest : Bytes) :
    unsigned (b :: rest) = b.toNat * 256 ^ rest.length + unsigned rest := by
  have split := unsigned_append [b] rest
  simpa [unsigned] using split

theorem unsigned_lt (bytes : Bytes) : unsigned bytes < 256 ^ bytes.length := by
  induction bytes with
  | nil => decide
  | cons b rest ih =>
      have byte : b.toNat + 1 ≤ 256 := b.toNat_lt
      rw [unsigned_cons, List.length_cons, pow_succ]
      calc
        b.toNat * 256 ^ rest.length + unsigned rest < (b.toNat + 1) * 256 ^ rest.length := by
          linarith
        _ ≤ 256 * 256 ^ rest.length := Nat.mul_le_mul_right _ byte
        _ = 256 ^ rest.length * 256 := Nat.mul_comm _ _

theorem unsigned_ofNat (n width : Nat) : unsigned (ofNat n width) = n % 256 ^ width := by
  induction width generalizing n with
  | zero => simp [ofNat, unsigned, Nat.mod_one]
  | succ width ih =>
      have last : unsigned [UInt8.ofNat n] = n % 256 := by simp [unsigned]
      rw [ofNat, unsigned_append, ih, last, List.length_singleton, pow_one, pow_succ,
        Nat.mul_comm (256 ^ width) 256, Nat.mod_mul]
      omega

theorem unsigned_ofNat_of_lt (n width : Nat) (small : n < 256 ^ width) :
    unsigned (ofNat n width) = n := by
  rw [unsigned_ofNat]
  exact Nat.mod_eq_of_lt small

theorem signed_eq (bytes : Bytes) :
    signed bytes = if 2 * unsigned bytes < 256 ^ bytes.length then (unsigned bytes : Int)
      else unsigned bytes - 256 ^ bytes.length := by
  cases bytes with
  | nil => simp [signed, unsigned]
  | cons b rest =>
      have below := unsigned_lt rest
      have whole := unsigned_cons b rest
      have top : b < 0x80 ↔ 2 * unsigned (b :: rest) < 256 ^ (b :: rest).length := by
        rw [UInt8.lt_iff_toNat_lt, whole, List.length_cons, pow_succ]
        show b.toNat < 128 ↔ _
        constructor
        · intro small
          have : (b.toNat + 1) * 256 ^ rest.length ≤ 128 * 256 ^ rest.length :=
            Nat.mul_le_mul_right _ small
          linarith
        · intro half
          by_contra large
          have : 128 * 256 ^ rest.length ≤ b.toNat * 256 ^ rest.length :=
            Nat.mul_le_mul_right _ (by omega)
          linarith
      simp only [signed, top, Nat.pow_eq, Nat.cast_pow, Nat.cast_ofNat]

theorem signed_bounds (bytes : Bytes) :
    -(256 ^ bytes.length) ≤ 2 * signed bytes ∧ 2 * signed bytes < 256 ^ bytes.length := by
  have below : (unsigned bytes : Int) < 256 ^ bytes.length := by exact_mod_cast unsigned_lt bytes
  have value := signed_eq bytes
  split at value
  · next half =>
    have half : 2 * (unsigned bytes : Int) < 256 ^ bytes.length := by exact_mod_cast half
    omega
  · next half =>
    have half : (256 : Int) ^ bytes.length ≤ 2 * unsigned bytes := by
      exact_mod_cast not_lt.mp half
    omega

theorem signed_ofInt (n : Int) (width : Nat) (low : -(256 ^ width) ≤ 2 * n)
    (high : 2 * n < 256 ^ width) : signed (ofInt n width) = n := by
  have power : ((256 : Int) ^ width) = ((256 ^ width : Nat) : Int) := by push_cast; rfl
  have size : (ofInt n width).length = width := length_ofNat _ _
  have value : (unsigned (ofInt n width) : Int) = n % 256 ^ width := by
    have nonneg : 0 ≤ n % 256 ^ width := Int.emod_nonneg _ (by positivity)
    have below : n % 256 ^ width < 256 ^ width := Int.emod_lt_of_pos _ (by positivity)
    rw [ofInt, unsigned_ofNat_of_lt]
    · rw [Nat.pow_eq, ← power]
      exact Int.toNat_of_nonneg nonneg
    · rw [Nat.pow_eq, ← power]
      omega
  have half : 2 * unsigned (ofInt n width) < 256 ^ width ↔
      2 * (unsigned (ofInt n width) : Int) < 256 ^ width := by
    rw [power]
    omega
  rw [signed_eq, size]
  simp only [half, value]
  have positive : (0 : Int) < 256 ^ width := by positivity
  generalize (256 : Int) ^ width = limit at *
  by_cases sign : 0 ≤ n
  · have same : n % limit = n := Int.emod_eq_of_lt sign (by omega)
    rw [same, if_pos high]
  · have wrapped : n % limit = n + limit := by
      rw [← Int.add_emod_right, Int.emod_eq_of_lt (by omega) (by omega)]
    rw [wrapped, if_neg (by omega)]
    omega

theorem split?_append (front back : Bytes) :
    split? front.length (front ++ back) = some (front, back) := by
  rw [split?, if_pos (by simp)]
  simp

end PgJson.Wire
