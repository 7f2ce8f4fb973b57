import PgJson.Proofs.Column.Calendar

/-!
Columns of times of day. A day has one microsecond count more than it has times: that of the
midnight at its end, which is decoded as the midnight at its start.
-/

namespace PgJson

namespace TimeOfDay

theorem text_inj (s t : TimeOfDay) : s.text = t.text ↔ s = t := by
  constructor
  · intro same
    have read : some s.micros = some t.micros := by
      rw [← read?_text s, ← read?_text t, same]
    cases s
    cases t
    simpa using read
  · intro same
    rw [same]

theorem micros_ofMicros (n : Nat) : (ofMicros n).micros = n % microsPerDay := by
  show ((n : Int) % microsPerDay).toNat = _
  rw [← Int.natCast_mod, Int.toNat_natCast]

theorem ofMicros_eq_iff (m n : Nat) :
    ofMicros m = ofMicros n ↔ m % microsPerDay = n % microsPerDay := by
  rw [← micros_ofMicros m, ← micros_ofMicros n]
  constructor
  · intro same
    rw [same]
  · intro same
    cases first : ofMicros m
    cases second : ofMicros n
    simpa [first, second] using same

theorem mod_microsPerDay_eq_iff (m n : Nat) (first : m ≤ microsPerDay) (second : n ≤ microsPerDay) :
    m % microsPerDay = n % microsPerDay ↔
      m = n ∨ m = 0 ∧ n = microsPerDay ∨ m = microsPerDay ∧ n = 0 := by
  unfold microsPerDay at *
  omega

end TimeOfDay

namespace Column

theorem decode_timeOfDay (name : String) (index : Nat) (n : Nat) (inDay : n ≤ microsPerDay) :
    (Column.mk name (.builtIn "TIME")).decode index (some (Wire.ofInt n 8)) =
      .ok (jsonOfChars (TimeOfDay.ofMicros n).text) := by
  have size : microsPerDay = 86400000000 := rfl
  apply decode_value name "TIME" index _ _ (by decide)
  show (fun t => jsonOfChars t.text) <$> Cell.time (Wire.ofInt n 8) = _
  rw [Cell.time, Cell.integer_ofInt n (by omega) (by omega)]
  rfl

/-- Each count of a day is decoded to a text that names a time of that day, with the places that it
needs. The count is read off the text, but that of the midnight at the end: that text names the
midnight at the start. No other two counts share a text. -/
theorem decode_time (name : String) (index : Nat) :
    let decoded (n : Nat) :=
      (Column.mk name (.builtIn "TIME")).decode index (some (Wire.ofInt n 8))
    (∀ n ≤ microsPerDay, ∃ clock fraction : List Char,
        decoded n = .ok (jsonOfChars (clock ++ fraction)) ∧
          TimeOfDay.Form clock ∧ TimeOfDay.FractionForm fraction ∧
          (fraction = [] ↔ n % 1000000 = 0) ∧
          TimeOfDay.read? (clock ++ fraction) = some (if n = microsPerDay then 0 else n)) ∧
      ∀ m n, m ≤ microsPerDay → n ≤ microsPerDay →
        (decoded m = decoded n ↔ m = n ∨ m = 0 ∧ n = microsPerDay ∨ m = microsPerDay ∧ n = 0) := by
  intro decoded
  constructor
  · intro n inDay
    have text := decode_timeOfDay name index n inDay
    have read := TimeOfDay.read?_text (.ofMicros n)
    have count := TimeOfDay.micros_ofMicros n
    rw [TimeOfDay.text_eq] at text read
    refine ⟨_, _, text, TimeOfDay.form_clockText _,
      TimeOfDay.form_fractionText _ (Nat.mod_lt _ (by decide)), ?_, ?_⟩
    · have size : microsPerDay = 86400000000 := rfl
      rw [TimeOfDay.fractionText_eq_nil_iff, count, size]
      omega
    · rw [read, count]
      split
      · next last => rw [last, Nat.mod_self]
      · next before => rw [Nat.mod_eq_of_lt (Nat.lt_of_le_of_ne inDay before)]
  · intro m n first second
    calc
      decoded m = decoded n ↔ (TimeOfDay.ofMicros m).text = (TimeOfDay.ofMicros n).text := by
        simp only [decoded, decode_timeOfDay name index m first,
          decode_timeOfDay name index n second, jsonOfChars, Except.ok.injEq, Json.string.injEq,
          String.ofList_inj]
      _ ↔ m % microsPerDay = n % microsPerDay := by
        rw [TimeOfDay.text_inj, TimeOfDay.ofMicros_eq_iff]
      _ ↔ _ := TimeOfDay.mod_microsPerDay_eq_iff m n first second

theorem decode_time_midnight :
    let column : Column := ⟨"t", .builtIn "TIME"⟩
    microsPerDay ≤ microsPerDay ∧ 0 ≤ microsPerDay ∧
      column.decode 0 (some (Wire.ofInt microsPerDay 8)) =
        column.decode 0 (some (Wire.ofInt 0 8)) ∧
      ∃ text, column.decode 0 (some (Wire.ofInt microsPerDay 8)) = .ok (jsonOfChars text) ∧
        TimeOfDay.read? text = some 0 := by
  intro column
  obtain ⟨texts, shared⟩ := decode_time "t" 0
  obtain ⟨clock, fraction, decoded, _, _, _, read⟩ := texts microsPerDay (Nat.le_refl _)
  refine ⟨Nat.le_refl _, Nat.zero_le _, ?_, clock ++ fraction, decoded, read⟩
  exact (shared microsPerDay 0 (Nat.le_refl _) (Nat.zero_le _)).mpr (.inr (.inr ⟨rfl, rfl⟩))

end Column
end PgJson
