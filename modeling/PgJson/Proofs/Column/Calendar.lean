import PgJson.Proofs.Calendar.Reading
import PgJson.Proofs.Column.Overflow
import PgJson.Proofs.Parameter.RoundTrip

namespace PgJson

namespace Date

theorem daysToYear_first : daysToYear (-262143) = -96476249 := by
  rw [daysToYear_eq]
  rfl

theorem daysToYear_last : daysToYear 262143 = 95015280 := by
  rw [daysToYear_eq]
  rfl

theorem range_iff (n : Int) :
    firstDay ≤ n ∧ n ≤ lastDay ↔ daysToYear (-262143) ≤ n ∧ n < daysToYear 262143 := by
  have first : firstDay = -96476249 := rfl
  have last : lastDay = 95015279 := rfl
  rw [daysToYear_first, daysToYear_last, first, last]
  omega

end Date

namespace Cell

theorem integer_four (n : Int) (low : -0x80000000 ≤ n) (high : n < 0x80000000) :
    integer 4 (Wire.ofInt n 4) = .ok n := by
  rw [integer_of_length 4 (Wire.ofInt n 4) (Wire.length_ofNat _ _) (by decide) (by decide),
    Wire.signed_ofInt n 4 (by norm_num; omega) (by norm_num; omega)]

theorem date_ofInt (n : Int) (first : Date.daysToYear (-262143) ≤ n)
    (last : n < Date.daysToYear 262143) : date (Wire.ofInt n 4) = .ok (.ofDays n) := by
  have range := (Date.range_iff n).mpr ⟨first, last⟩
  rw [Date.daysToYear_first] at first
  rw [Date.daysToYear_last] at last
  rw [date, integer_four n (by omega) (by omega)]
  exact if_pos range

theorem timestamp_ofInt (t : Int) (first : Date.daysToYear (-262143) * microsPerDay ≤ t)
    (last : t < Date.daysToYear 262143 * microsPerDay) :
    timestamp (Wire.ofInt t 8) = .ok (.ofMicros t) := by
  have positive : (0 : Int) < microsPerDay := by decide
  have range := (Date.range_iff (Timestamp.dayOf t)).mpr
    ⟨(Int.le_ediv_iff_mul_le positive).mpr first, (Int.ediv_lt_iff_lt_mul positive).mpr last⟩
  have size : (microsPerDay : Int) = 86400000000 := rfl
  rw [Date.daysToYear_first, size] at first
  rw [Date.daysToYear_last, size] at last
  rw [timestamp, integer_ofInt t (by omega) (by omega)]
  show (day (Timestamp.dayOf t) >>= fun date => Except.ok (Timestamp.mk date (.ofMicros t))) = _
  rw [day, if_pos range]
  rfl

end Cell

namespace Column

theorem decode_timestamp (name : String) (index : Nat) (t : Int)
    (first : Date.daysToYear (-262143) * microsPerDay ≤ t)
    (last : t < Date.daysToYear 262143 * microsPerDay) :
    (Column.mk name (.builtIn "TIMESTAMP")).decode index (some (Wire.ofInt t 8)) =
        .ok (jsonOfChars (Timestamp.ofMicros t).text) ∧
      (Column.mk name (.builtIn "TIMESTAMPTZ")).decode index (some (Wire.ofInt t 8)) =
        .ok (jsonOfChars ((Timestamp.ofMicros t).text ++ "+00:00".toList)) := by
  have read := Cell.timestamp_ofInt t first last
  constructor
  · apply decode_value name "TIMESTAMP" index _ _ (by decide)
    show (fun t => jsonOfChars t.text) <$> Cell.timestamp (Wire.ofInt t 8) = _
    rw [read]
    rfl
  · apply decode_value name "TIMESTAMPTZ" index _ _ (by decide)
    show (fun t => jsonOfChars (t.text ++ "+00:00".toList)) <$> Cell.timestamp (Wire.ofInt t 8) = _
    rw [read]
    rfl

theorem decode_date (name : String) (index : Nat) (n : Int)
    (first : Date.daysToYear (-262143) ≤ n) (last : n < Date.daysToYear 262143) :
    (Column.mk name (.builtIn "DATE")).decode index (some (Wire.ofInt n 4)) =
      .ok (jsonOfChars (Date.ofDays n).text) := by
  apply decode_value name "DATE" index _ _ (by decide)
  show (fun d => jsonOfChars d.text) <$> Cell.date (Wire.ofInt n 4) = _
  rw [Cell.date_ofInt n first last]
  rfl

/-- Instants and days come as the texts that name them: a valid date, four digits of a year or a sign
and more, and a time of that day with the places that it needs. Reading the text gives the value back,
and an instant with a zone has the same text before its offset. -/
theorem decode_calendar (name : String) (index : Nat) :
    (∀ t : Int, Date.daysToYear (-262143) * microsPerDay ≤ t →
      t < Date.daysToYear 262143 * microsPerDay →
        ∃ (d : Date) (date clock fraction : List Char),
          (Column.mk name (.builtIn "TIMESTAMP")).decode index (some (Wire.ofInt t 8)) =
              .ok (jsonOfChars (date ++ 'T' :: (clock ++ fraction))) ∧
            (Column.mk name (.builtIn "TIMESTAMPTZ")).decode index (some (Wire.ofInt t 8)) =
              .ok (jsonOfChars (date ++ 'T' :: (clock ++ fraction) ++ "+00:00".toList)) ∧
            d.Form date ∧ Date.read? date = some d ∧ d.Valid ∧
            TimeOfDay.Form clock ∧ TimeOfDay.FractionForm fraction ∧
            (fraction = [] ↔ t % 1000000 = 0) ∧
            Timestamp.read? (date ++ 'T' :: (clock ++ fraction)) = some t) ∧
      ∀ n : Int, Date.daysToYear (-262143) ≤ n → n < Date.daysToYear 262143 →
        ∃ (d : Date) (text : List Char),
          (Column.mk name (.builtIn "DATE")).decode index (some (Wire.ofInt n 4)) =
              .ok (jsonOfChars text) ∧
            d.Form text ∧ Date.read? text = some d ∧ d.Valid ∧ d.count = n := by
  constructor
  · intro t first last
    obtain ⟨plain, zoned⟩ := decode_timestamp name index t first last
    have back := Timestamp.read?_text t
    have valid := Date.valid_ofDays (Timestamp.dayOf t)
    have text : (Timestamp.ofMicros t).text = (Date.ofDays (Timestamp.dayOf t)).text ++
        'T' :: ((TimeOfDay.ofMicros t).clockText ++
          TimeOfDay.fractionText ((TimeOfDay.ofMicros t).micros % 1000000)) := by
      rw [Timestamp.text, ← TimeOfDay.text_eq]
      rfl
    rw [text] at plain zoned back
    refine ⟨_, _, _, _, plain, zoned, Date.form_text _ valid, Date.read?_text _ valid, valid,
      TimeOfDay.form_clockText _, TimeOfDay.form_fractionText _ (Nat.mod_lt _ (by decide)), ?_, back⟩
    have size : (microsPerDay : Int) = 86400000000 := rfl
    rw [TimeOfDay.fractionText_eq_nil_iff]
    show (t % microsPerDay).toNat % 1000000 = 0 ↔ _
    rw [size]
    omega
  · intro n first last
    have valid := Date.valid_ofDays n
    exact ⟨.ofDays n, _, decode_date name index n first last, Date.form_text _ valid,
      Date.read?_text _ valid, valid, Date.count_ofDays n⟩

theorem decode_calendar_before_zero :
    let t : Int := -63113904000000001
    let text := "-0001-12-31T23:59:59.999999".toList
    Date.daysToYear (-262143) * microsPerDay ≤ t ∧ t < Date.daysToYear 262143 * microsPerDay ∧
      (Column.mk "at" (.builtIn "TIMESTAMP")).decode 0 (some (Wire.ofInt t 8)) =
        .ok (jsonOfChars text) ∧ Timestamp.read? text = some t := by
  intro t text
  have first : Date.daysToYear (-262143) * microsPerDay ≤ t := by
    rw [Date.daysToYear_first]
    decide
  have last : t < Date.daysToYear 262143 * microsPerDay := by
    rw [Date.daysToYear_last]
    decide
  have plain := (decode_timestamp "at" 0 t first last).1
  have written : (Timestamp.ofMicros t).text = text := by decide
  rw [written] at plain
  obtain ⟨_, date, clock, fraction, decoded, _, _, _, _, _, _, _, read⟩ :=
    (decode_calendar "at" 0).1 t first last
  rw [plain] at decoded
  have whole : text = date ++ 'T' :: (clock ++ fraction) :=
    String.ofList_injective (Json.string.inj (Except.ok.inj decoded))
  exact ⟨first, last, plain, whole ▸ read⟩

end Column
end PgJson
