import PgJson.Proofs.Text.Utf8
import PgJson.Url.Percent

namespace PgJson.Percent

theorem decode_append (front back : Bytes) (plain : ∀ b ∈ front, b ≠ 0x25) :
    decode (front ++ back) = front ++ decode back := by
  induction front with
  | nil => rfl
  | cons b front ih =>
      rw [List.forall_mem_cons] at plain
      rw [List.cons_append, decode.eq_def]
      simp only [if_neg plain.1, ih plain.2, List.cons_append]

theorem decodeText_append (front back : List Char)
    (plain : ∀ c ∈ front, c.toNat ≤ 0x7f ∧ c ≠ '%') :
    decodeText (front ++ back) =
      match decodeText back with
      | .ok text => .ok (.ofList front ++ text)
      | .error fault => .error (fault.shift front.length) := by
  have ascii : ∀ c ∈ front, c.toNat ≤ 0x7f := fun c member => (plain c member).1
  have bytes : ∀ b ∈ Utf8.encode front, b ≠ 0x25 := by
    intro b member
    obtain ⟨c, there, own⟩ := List.mem_flatMap.mp member
    obtain ⟨small, other⟩ := plain c there
    rw [Utf8.encodeChar_ascii c small, List.mem_singleton] at own
    subst own
    intro percent
    apply other
    have value := congrArg UInt8.toNat percent
    rw [Utf8.toNat_byte (by omega)] at value
    exact Char.ext_iff.mpr (UInt32.toNat_inj.mp value)
  unfold decodeText decodeChars Utf8.decode
  rw [Utf8.encode_append, decode_append _ _ bytes, Utf8.decodeFrom_ascii 0 _ _ ascii,
    Nat.add_comm, Utf8.decodeFrom_add]
  cases Utf8.decodeFrom 0 0 (decode (Utf8.encode back)) with
  | ok s =>
      show Except.ok (String.ofList (front ++ s)) = _
      rw [String.ofList_append]
      rfl
  | error fault => rfl

end PgJson.Percent
