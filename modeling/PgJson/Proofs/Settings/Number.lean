import PgJson.Proofs.Settings.OfVariables
import PgJson.Proofs.Text.Plain

namespace PgJson

namespace Text

/-- A number in decimal with any zeros and perhaps a plus in front, and blanks around it all. -/
def Shows (s : List Char) (n : Nat) : Prop :=
  ∃ before sign width after, s = before ++ (sign ++ padded width n ++ after) ∧
    (∀ c ∈ before, isBlank c) ∧ (sign = [] ∨ sign = ['+']) ∧ ∀ c ∈ after, isBlank c

theorem shows_decimal (n : Nat) (before after : List Char) (front : ∀ c ∈ before, isBlank c)
    (back : ∀ c ∈ after, isBlank c) : Shows (before ++ (decimal n ++ after)) n := by
  refine ⟨before, [], 0, after, ?_, front, .inl rfl, back⟩
  rw [List.nil_append, padded_zero]

theorem isNumeral_iff_padded (s : List Char) (n : Nat) :
    IsNumeral s n ↔ ∃ sign width, s = sign ++ padded width n ∧ (sign = [] ∨ sign = ['+']) := by
  constructor
  · rintro ⟨sign, digits, rfl, plus, present, all, rfl⟩
    exact ⟨sign, digits.length, by rw [padded_digitsNumber digits present all], plus⟩
  · rintro ⟨sign, width, rfl, plus⟩
    exact isNumeral_padded sign plus width n

theorem denotes_iff_shows (s : List Char) (n : Nat) : Denotes s n ↔ Shows s n := by
  constructor
  · rintro ⟨before, numeral, after, rfl, front, back, number⟩
    obtain ⟨sign, width, rfl, plus⟩ := (isNumeral_iff_padded numeral n).mp number
    exact ⟨before, sign, width, after, rfl, front, plus, back⟩
  · rintro ⟨before, sign, width, after, rfl, front, plus, back⟩
    exact ⟨before, sign ++ padded width n, after, rfl, front, back,
      isNumeral_padded sign plus width n⟩

theorem not_isNumeral_iff (limit : Nat) (s : List Char) :
    (¬∃ n < limit, IsNumeral s n) ↔ afterPlus s = [] ∨ (∃ c ∈ afterPlus s, ¬c.isDigit) ∨
      limit ≤ digitsNumber (afterPlus s) := by
  have one : (∃ n < limit, IsNumeral s n) ↔ afterPlus s ≠ [] ∧ (∀ c ∈ afterPlus s, c.isDigit) ∧
      digitsNumber (afterPlus s) < limit := by
    simp only [isNumeral_iff]
    constructor
    · rintro ⟨n, small, present, all, rfl⟩
      exact ⟨present, all, small⟩
    · rintro ⟨present, all, small⟩
      exact ⟨_, small, present, all, rfl⟩
  rw [one, not_and_or, not_and_or, not_not, not_lt]
  push Not
  rfl

end Text

namespace Settings

/-- How a text under a name is read as a number below `limit`. -/
structure ReadsBelow (limit : Nat) (key raw : String) (read : Except SettingsError (Option Nat)) :
    Prop where
  numeral : ∀ n, read = .ok (some n) ↔ Text.IsNumeral (Text.trim raw.toList) n ∧ n < limit
  shown : ∀ n, read = .ok (some n) ↔ Text.Shows raw.toList n ∧ n < limit
  printed : ∀ n < limit, ∀ before after : List Char, (∀ c ∈ before, Text.isBlank c) →
    (∀ c ∈ after, Text.isBlank c) → raw.toList = before ++ (Text.decimal n ++ after) →
      read = .ok (some n)
  refused : ∀ e, read = .error e ↔ e = .invalid key raw ∧
    let digits := Text.afterPlus (Text.trim raw.toList)
    (digits = [] ∨ (∃ c ∈ digits, ¬c.isDigit) ∨ limit ≤ Text.digitsNumber digits)

theorem number_some_iff (limit : Nat) (vars : Variables) (key raw : String)
    (set : vars key = some raw) (n : Nat) :
    number limit vars key = .ok (some n) ↔ Text.readBounded limit (Text.trim raw.toList) = .ok n := by
  rw [number_ok_iff, Holds]
  simp [set]

theorem number_refused_iff (limit : Nat) (positive : 0 < limit) (vars : Variables)
    (key raw : String) (set : vars key = some raw) (e : SettingsError) :
    number limit vars key = .error e ↔
      e = .invalid key raw ∧ ¬∃ n < limit, Text.IsNumeral (Text.trim raw.toList) n := by
  have unread : (∀ n, Text.readBounded limit (Text.trim raw.toList) ≠ .ok n) ↔
      ¬∃ n < limit, Text.IsNumeral (Text.trim raw.toList) n := by
    rw [not_exists]
    refine forall_congr' fun n => ?_
    rw [Ne, Text.readBounded_ok_iff limit n _ positive, and_comm]
  rw [number_error_iff, ← unread]
  simp only [set, Option.some.injEq, exists_eq_left']

theorem number_readsBelow (limit : Nat) (positive : 0 < limit) (vars : Variables)
    (key raw : String) (set : vars key = some raw) :
    ReadsBelow limit key raw (number limit vars key) := by
  have shown (n : Nat) : number limit vars key = .ok (some n) ↔
      Text.Shows raw.toList n ∧ n < limit := by
    rw [number_some_iff limit vars key raw set, Text.readBounded_trim_ok_iff limit n _ positive,
      Text.denotes_iff_shows]
  constructor
  case numeral =>
    intro n
    rw [number_some_iff limit vars key raw set, Text.readBounded_ok_iff limit n _ positive]
  case shown => exact shown
  case printed =>
    intro n small before after front back written
    rw [shown, written]
    exact ⟨Text.shows_decimal n before after front back, small⟩
  case refused =>
    intro e
    dsimp only
    rw [← Text.not_isNumeral_iff, number_refused_iff limit positive vars key raw set]

/-- A variable is read as a number of 32 or 64 bits exactly if it shows one, and as the number that it
shows; any other value is refused as it stands. Settings hold the numbers that were read. -/
theorem number_grammar (vars : Variables) :
    (∀ limit ∈ [Text.limit32, Text.limit64], ∀ key raw, vars key = some raw →
      ReadsBelow limit key raw (number limit vars key)) ∧
    ∀ s, ofVariables vars = .ok s →
      number Text.limit32 vars "DATABASE_MAX_CONNECTIONS" =
          .ok (s.database.maxConnections.map UInt32.toNat) ∧
        number Text.limit64 vars "DATABASE_TIMEOUT_SECS" =
          .ok (s.database.timeoutSecs.map UInt64.toNat) := by
  constructor
  · intro limit word key raw set
    have positive : 0 < limit := by
      rcases List.mem_pair.mp word with rfl | rfl
      · decide
      · decide
    exact number_readsBelow limit positive vars key raw set
  · intro s read
    obtain ⟨_, _, _, _, size, time⟩ := (ofVariables_ok_iff vars s).mp read
    exact ⟨(number_ok_iff _ _ _ _).mpr size, (number_ok_iff _ _ _ _).mpr time⟩

theorem number_grammar_limits :
    let vars : Variables := .ofList [("DATABASE_URL", "postgres://db/app"),
      ("DATABASE_MAX_CONNECTIONS", "\u3000+0004294967295\n"),
      ("DATABASE_TIMEOUT_SECS", " 4294967296 ")]
    let s : Settings := ⟨⟨"dbservice", .development⟩,
      ⟨"postgres://db/app", some 4294967295, some 4294967296⟩⟩
    ofVariables vars = .ok s ∧
      number Text.limit32 vars "DATABASE_MAX_CONNECTIONS" = .ok (some 4294967295) ∧
      number Text.limit64 vars "DATABASE_TIMEOUT_SECS" = .ok (some 4294967296) ∧
      number Text.limit32 vars "DATABASE_TIMEOUT_SECS" =
        .error (.invalid "DATABASE_TIMEOUT_SECS" " 4294967296 ") := by
  intro vars s
  obtain ⟨reads, held⟩ := number_grammar vars
  have read : ofVariables vars = .ok s := by decide +kernel
  obtain ⟨size, time⟩ := held s read
  have above := reads Text.limit32 (by simp) "DATABASE_TIMEOUT_SECS" " 4294967296 " rfl
  refine ⟨read, size, time, (above.refused _).mpr ⟨rfl, .inr (.inr ?_)⟩⟩
  decide +kernel

example : ["", " ", "+", "-0", "4 2", "\u0664", "18446744073709551616"].all (fun raw =>
    number Text.limit64 (.ofList [("SECS", raw)]) "SECS" == .error (.invalid "SECS" raw)) = true := by
  decide

end Settings
end PgJson
