namespace PgJson

abbrev Bytes := List UInt8

namespace Wire

def unsigned (bytes : Bytes) : Nat := bytes.foldl (fun n b => n * 256 + b.toNat) 0

def signed (bytes : Bytes) : Int :=
  match bytes with
  | [] => 0
  | b :: _ => if b < 0x80 then unsigned bytes else unsigned bytes - Nat.pow 256 bytes.length

def ofNat (n : Nat) : (width : Nat) → Bytes
  | 0 => []
  | width + 1 => ofNat (n / 256) width ++ [.ofNat n]

theorem length_ofNat (n width : Nat) : (ofNat n width).length = width := by
  induction width generalizing n with
  | zero => rfl
  | succ width ih => simp [ofNat, ih]

def ofInt (n : Int) (width : Nat) : Bytes := ofNat (n % Nat.pow 256 width).toNat width

def split? (n : Nat) (bytes : Bytes) : Option (Bytes × Bytes) :=
  if n ≤ bytes.length then some (bytes.splitAt n) else none

end Wire
end PgJson
