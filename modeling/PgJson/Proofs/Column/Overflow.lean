import PgJson.Proofs.Cell.Dimensions
import PgJson.Proofs.Numeric.Wire
import PgJson.Proofs.Outcome

/-!
The binary forms of values, and the values that a decoder crashes on: dates beyond its calendar and
numbers with a first digit beyond its decimals.
-/

namespace PgJson

namespace Scalar

def Form (bytes : Bytes) : Scalar → Prop
  | bool => bytes.length = 1
  | int2 => bytes.length = 2
  | int4 | float4 => bytes.length = 4
  | int8 | float8 => bytes.length = 8
  | numeric => ∃ n : Numeric.Sent, n.WellFormed ∧ bytes = n.bytes
  | text => True
  | uuid => bytes.length = 16

def Overflows (bytes : Bytes) : Scalar → Prop
  | numeric => ∃ n : Numeric.Sent, n.WellFormed ∧ bytes = n.bytes ∧ n.Overflows
  | _ => False

end Scalar

namespace ColumnKind

/-- The binary forms of the values of a type. An array may have any dimensions and lower bounds, and
a date or an instant any number of days or microseconds. -/
def Form (bytes : Bytes) : ColumnKind → Prop
  | scalar s => s.Form bytes
  | array s => ∃ a : Cell.SentArray, a.WellFormed ∧ bytes = a.bytes ∧
      ∀ element ∈ a.elements, ∀ b ∈ element, s.Form b
  | jsonb => ∃ text, bytes = 1 :: text
  | date => bytes.length = 4
  | timestamptz | timestamp | time => bytes.length = 8
  | json | other => True

/-- The value is a day without a date, an instant on such a day, a number that overflows, or an array
that is read up to such a number. -/
def Overflows (bytes : Bytes) : ColumnKind → Prop
  | scalar s => s.Overflows bytes
  | array s => ∃ a : Cell.SentArray, a.WellFormed ∧ bytes = a.bytes ∧
      (∃ length, a.dimensions = [(length, 1)]) ∧
      ∃ (i : Nat) (b : Bytes), a.elements[i]? = some (some b) ∧ s.Overflows b ∧
        ∀ j < i, ∀ element, a.elements[j]? = some element →
          ∃ v, Cell.element s.decode element = .ok v
  | date => ¬ (Date.firstDay ≤ Wire.signed bytes ∧ Wire.signed bytes ≤ Date.lastDay)
  | timestamptz | timestamp =>
    ¬ (Date.firstDay ≤ Timestamp.dayOf (Wire.signed bytes) ∧
      Timestamp.dayOf (Wire.signed bytes) ≤ Date.lastDay)
  | _ => False

end ColumnKind

namespace Cell

/-! ## Decoders that never crash -/

theorem integer_ne_crash (width : Nat) (bytes : Bytes) : integer width bytes ≠ Outcome.crash := by
  unfold integer
  split
  · exact nofun
  · split
    · exact nofun
    · dsimp only
      split
      · exact nofun
      · split
        · exact nofun
        · exact nofun

theorem text_ne_crash (bytes : Bytes) : text bytes ≠ Outcome.crash := by
  unfold text
  split
  · exact nofun
  · exact nofun

theorem uuid_ne_crash (bytes : Bytes) : uuid bytes ≠ Outcome.crash := by
  unfold uuid
  split
  · exact nofun
  · exact nofun

theorem json_ne_crash (bytes : Bytes) : json bytes ≠ Outcome.crash := by
  unfold json
  split
  · exact nofun
  · exact nofun

/-! ## Decoders of fixed sizes -/

theorem split?_eq_some (n : Nat) (bytes : Bytes) (enough : n ≤ bytes.length) :
    Wire.split? n bytes = some (bytes.splitAt n) := if_pos enough

theorem bool_ne_crash (bytes : Bytes) (size : bytes.length = 1) : bool bytes ≠ Outcome.crash := by
  obtain ⟨b, rfl⟩ := List.length_eq_one_iff.mp size
  exact nofun

theorem float4_ne_crash (bytes : Bytes) (size : bytes.length = 4) :
    float4 bytes ≠ Outcome.crash := by
  rw [float4, split?_eq_some 4 bytes (Nat.le_of_eq size.symm)]
  exact nofun

theorem float8_ne_crash (bytes : Bytes) (size : bytes.length = 8) :
    float8 bytes ≠ Outcome.crash := by
  rw [float8, split?_eq_some 8 bytes (Nat.le_of_eq size.symm)]
  exact nofun

theorem integer_of_length (width : Nat) (bytes : Bytes) (size : bytes.length = width)
    (least : 0 < width) (most : width ≤ 8) : integer width bytes = .ok (Wire.signed bytes) := by
  have nonempty : bytes ≠ [] := List.ne_nil_of_length_pos (size ▸ least)
  have power : (256 : Int) ^ width = 2 * 2 ^ (8 * width - 1) := by
    rw [← pow_succ', show (256 : Int) = 2 ^ 8 by rfl, ← pow_mul]
    congr 1
    omega
  obtain ⟨low, high⟩ := Wire.signed_bounds bytes
  rw [size, power] at low high
  unfold integer
  rw [if_neg nonempty, if_neg (by omega)]
  simp only [Nat.pow_eq, Nat.cast_pow, Nat.cast_ofNat]
  rw [if_neg (by omega), if_neg (by omega)]

theorem day_crash_iff (n : Int) :
    day n = Outcome.crash ↔ ¬ (Date.firstDay ≤ n ∧ n ≤ Date.lastDay) := by
  unfold day
  split
  · next range => exact ⟨(nomatch ·), fun outside => absurd range outside⟩
  · next outside => exact ⟨fun _ => outside, fun _ => rfl⟩

theorem date_crash_iff (bytes : Bytes) (size : bytes.length = 4) :
    date bytes = Outcome.crash ↔
      ¬ (Date.firstDay ≤ Wire.signed bytes ∧ Wire.signed bytes ≤ Date.lastDay) := by
  rw [date, integer_of_length 4 bytes size (by decide) (by decide), ← day_crash_iff]
  rfl

theorem timestamp_crash_iff (bytes : Bytes) (size : bytes.length = 8) :
    timestamp bytes = Outcome.crash ↔
      ¬ (Date.firstDay ≤ Timestamp.dayOf (Wire.signed bytes) ∧
        Timestamp.dayOf (Wire.signed bytes) ≤ Date.lastDay) := by
  rw [timestamp, integer_of_length 8 bytes size (by decide) (by decide), ← day_crash_iff]
  show (do let date ← day (Timestamp.dayOf (Wire.signed bytes)); _) = _ ↔ _
  rw [Outcome.crash, bind_error_iff]
  exact or_iff_left fun later => nomatch later.choose_spec.2

theorem time_ne_crash (bytes : Bytes) : time bytes ≠ Outcome.crash := by
  intro crashed
  rcases (bind_error_iff _ _ _).mp crashed with early | ⟨_, _, late⟩
  · exact integer_ne_crash 8 bytes early
  · cases late

end Cell

theorem Numeric.decode_bytes (n : Sent) (wellFormed : n.WellFormed) :
    decode n.bytes = n.toDecimal := by
  rw [decode, ofBytes?_bytes n wellFormed]
  rfl

theorem Numeric.Sent.toDecimal_of_overflows (n : Sent) (large : n.Overflows) :
    n.toDecimal = Outcome.crash := by
  obtain ⟨weight, sign, scale, digits⟩ := n
  obtain ⟨signed, nonneg, rfl, first, rest, rfl, least⟩ := large
  have signed : sign = 0 ∨ sign = 0x4000 := signed
  have nonneg : 0 ≤ scale := nonneg
  have number : sign ≠ nan := by
    rcases signed with rfl | rfl
    · decide
    · decide
  have wide : Decimal.limit ≤ (part first 7).mantissa.natAbs := by
    show 0x1000000000000000000000000 ≤ (first * ((10000000000000000000000000000 : Nat) : Int)).natAbs
    omega
  unfold toDecimal
  rw [if_neg number, if_neg (by omega), if_neg (List.cons_ne_nil _ _), if_neg (by omega)]
  dsimp only
  rw [sum, if_neg (by decide)]
  dsimp only
  rw [if_pos wide]
  rfl

theorem Numeric.decode_crash_iff (n : Sent) (wellFormed : n.WellFormed) :
    decode n.bytes = Outcome.crash ↔ n.Overflows := by
  rw [decode_bytes n wellFormed]
  rcases n.toDecimal_cases wellFormed.digits with
    ⟨d, made, accepted, _⟩ | ⟨cause, failed, _, small⟩ | ⟨crashed, _, large⟩
  · refine ⟨fun crashed => ?_, fun large => ?_⟩
    · rw [made] at crashed
      cases crashed
    · exact n.toDecimal_of_overflows large
  · rw [failed]
    exact ⟨(nomatch ·), fun large => absurd large small⟩
  · exact ⟨fun _ => large, fun _ => crashed⟩

/-! ## Values -/

theorem Scalar.decode_crash_iff (s : Scalar) (bytes : Bytes) (form : s.Form bytes) :
    s.decode bytes = Outcome.crash ↔ s.Overflows bytes := by
  have never : ∀ {α : Type} (f : α → Json) (o : Outcome CellError α), o ≠ Outcome.crash →
      (f <$> o = Outcome.crash ↔ False) := by
    intro α f o safe
    exact iff_of_false (fun crashed => safe ((Outcome.map_error_iff f o .crash).mp crashed)) id
  cases s with
  | bool => exact never _ _ (Cell.bool_ne_crash bytes form)
  | int2 => exact never _ _ (Cell.integer_ne_crash 2 bytes)
  | int4 => exact never _ _ (Cell.integer_ne_crash 4 bytes)
  | int8 => exact never _ _ (Cell.integer_ne_crash 8 bytes)
  | float4 => exact never _ _ (Cell.float4_ne_crash bytes form)
  | float8 => exact never _ _ (Cell.float8_ne_crash bytes form)
  | text => exact never _ _ (Cell.text_ne_crash bytes)
  | uuid => exact never _ _ (Cell.uuid_ne_crash bytes)
  | numeric =>
      apply (Outcome.map_error_iff Decimal.toJson (Numeric.decode bytes) .crash).trans
      constructor
      · intro crashed
        obtain ⟨n, wellFormed, rfl⟩ := form
        exact ⟨n, wellFormed, rfl, (Numeric.decode_crash_iff n wellFormed).mp crashed⟩
      · rintro ⟨n, wellFormed, rfl, large⟩
        exact (Numeric.decode_crash_iff n wellFormed).mpr large

namespace ColumnKind

theorem decode_array_crash_iff (s : Scalar) (bytes : Bytes) (form : (array s).Form bytes) :
    (array s).decode bytes = Outcome.crash ↔ (array s).Overflows bytes := by
  apply (Outcome.map_error_iff Json.array (Cell.array s.decode bytes) .crash).trans
  constructor
  · intro crashed
    obtain ⟨a, wellFormed, rfl, forms⟩ := form
    rw [Cell.array_bytes s.decode a wellFormed] at crashed
    split at crashed
    · cases crashed
    · next length lower single =>
      split at crashed
      · next first =>
        subst first
        obtain ⟨i, element, found, fails, before⟩ := (Outcome.mapM_error_iff _ _ _).mp crashed
        cases element with
        | none => cases fails
        | some b =>
            have value := forms _ (List.mem_of_getElem? found) b rfl
            have large := (s.decode_crash_iff b value).mp fails
            exact ⟨a, wellFormed, rfl, ⟨length, single⟩, i, b, found, large, before⟩
      · cases crashed
    · cases crashed
  · rintro ⟨a, wellFormed, rfl, ⟨length, single⟩, i, b, found, large, before⟩
    rw [Cell.array_bytes s.decode a wellFormed, single]
    show a.elements.mapM (Cell.element s.decode) = .error .crash
    apply (Outcome.mapM_error_iff _ _ _).mpr
    refine ⟨i, some b, found, ?_, before⟩
    have value : s.Form b := by
      cases s with
      | numeric =>
          obtain ⟨n, wellFormed, same, _⟩ := large
          exact ⟨n, wellFormed, same⟩
      | _ => exact large.elim
    exact (s.decode_crash_iff b value).mpr large

/-- Of all values only those that overflow crash their decoder. -/
theorem decode_crash_iff (k : ColumnKind) (bytes : Bytes) (form : k.Form bytes) :
    k.decode bytes = Outcome.crash ↔ k.Overflows bytes := by
  cases k with
  | scalar s => exact s.decode_crash_iff bytes form
  | array s => exact decode_array_crash_iff s bytes form
  | json => exact iff_of_false (Cell.json_ne_crash bytes) id
  | jsonb =>
      obtain ⟨text, rfl⟩ := form
      exact iff_of_false (Cell.json_ne_crash text) id
  | timestamptz =>
      exact (Outcome.map_error_iff _ _ .crash).trans (Cell.timestamp_crash_iff bytes form)
  | timestamp =>
      exact (Outcome.map_error_iff _ _ .crash).trans (Cell.timestamp_crash_iff bytes form)
  | date => exact (Outcome.map_error_iff _ _ .crash).trans (Cell.date_crash_iff bytes form)
  | time =>
      exact (Outcome.map_error_iff _ _ .crash).trans (iff_of_false (Cell.time_ne_crash bytes) id)
  | other =>
      exact (Outcome.map_error_iff _ _ .crash).trans (iff_of_false (Cell.text_ne_crash bytes) id)

end ColumnKind

namespace Column

/-- The bytes are a value of the column's type. Of a type that only bears the name of another, and
of one without a decoder, nothing is asked. -/
def Holds (c : Column) (bytes : Bytes) : Prop :=
  (ColumnKind.ofName c.type.name).accepts c.type = true → (ColumnKind.ofName c.type.name).Form bytes

def Overflows (c : Column) (bytes : Bytes) : Prop :=
  (ColumnKind.ofName c.type.name).accepts c.type = true ∧
    (ColumnKind.ofName c.type.name).Overflows bytes

theorem decodeCell_crash_iff (c : Column) (index : Nat) (bytes : Bytes) (value : c.Holds bytes) :
    decodeCell c.type index bytes = Outcome.crash ↔ c.Overflows bytes := by
  unfold decodeCell Overflows
  rw [Outcome.mapCause_crash_iff]
  by_cases accepted : (ColumnKind.ofName c.type.name).accepts c.type = true
  · rw [if_pos accepted, ColumnKind.decode_crash_iff _ bytes (value accepted)]
    exact (and_iff_right accepted).symm
  · rw [if_neg accepted]
    exact iff_of_false (nomatch ·) fun large => accepted large.1

end Column
end PgJson
