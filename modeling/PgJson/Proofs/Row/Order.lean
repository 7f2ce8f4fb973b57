import PgJson.Proofs.Outcome
import PgJson.Row

namespace PgJson.Row

def read (row : Row) (c : Column) (j : Nat) : Outcome DbError Json :=
  match row[j]? with
  | some cell => c.decode j cell
  | none => Outcome.crash

def readAt? (columns : List Column) (rows : List Row) (i j : Nat) :
    Option (Outcome DbError Json) := do
  let row ← rows[i]?
  let c ← columns[j]?
  return read row c j

def Decodes (columns : List Column) (rows : List Row) (i j : Nat) : Prop :=
  ∀ outcome, readAt? columns rows i j = some outcome → ∃ v, outcome = .ok v

/-- Row by row, and column by column in each, the first failure is the one in row `i` and column
`j`. -/
structure FirstFailure (columns : List Column) (rows : List Row) (i j : Nat)
    (failure : Failure DbError) : Prop where
  fails : readAt? columns rows i j = some (.error failure)
  before : ∀ i' j', i' < i ∨ i' = i ∧ j' < j → Decodes columns rows i' j'

theorem readAt?_eq_some_iff (columns : List Column) (rows : List Row) (i j : Nat)
    (outcome : Outcome DbError Json) :
    readAt? columns rows i j = some outcome ↔
      ∃ row c, rows[i]? = some row ∧ columns[j]? = some c ∧ read row c j = outcome := by
  simp only [readAt?, Option.bind_eq_bind, Option.bind_eq_some_iff, Option.pure_def,
    Option.some.injEq]
  constructor
  · rintro ⟨row, found, c, named, same⟩
    exact ⟨row, c, found, named, same⟩
  · rintro ⟨row, c, found, named, same⟩
    exact ⟨row, found, c, named, same⟩

/-! ## One cell -/

theorem read_error (row : Row) (c : Column) (j : Nat) (e : DbError)
    (failed : read row c j = Outcome.fail e) :
    ∃ bytes cause, row[j]? = some (some bytes) ∧
      decodeCell c.type j bytes = Outcome.fail cause ∧ e = .decode c.name cause := by
  unfold read at failed
  split at failed
  · next cell found =>
    cases cell with
    | none => cases failed
    | some bytes =>
        obtain ⟨cause, fails, same⟩ := Outcome.mapCause_error _ _ e failed
        exact ⟨bytes, cause, found, fails, same⟩
  · cases failed

theorem read_crash_iff (row : Row) (c : Column) (j : Nat) :
    read row c j = Outcome.crash ↔
      row[j]? = none ∨ ∃ bytes, row[j]? = some (some bytes) ∧
        decodeCell c.type j bytes = Outcome.crash := by
  unfold read
  cases found : row[j]? with
  | none => simp
  | some cell =>
      cases cell with
      | none => simp [Column.decode, Outcome.crash]
      | some bytes => simp [Column.decode, Outcome.mapCause_crash_iff]

/-! ## One row -/

theorem membersFrom_eq_mapM (columns : List Column) (row : Row) (index : Nat) :
    membersFrom index columns (row.drop index) =
      (columns.zipIdx index).mapM fun place => (place.1.name, ·) <$> read row place.1 place.2 := by
  induction columns generalizing index with
  | nil =>
      unfold membersFrom
      rfl
  | cons c columns ih =>
      rw [List.zipIdx_cons, List.mapM_cons, ← ih (index + 1)]
      by_cases present : index < row.length
      · rw [List.drop_eq_getElem_cons present, membersFrom]
        have there : row[index]? = some row[index] := List.getElem?_eq_getElem present
        simp only [read, there]
        cases c.decode index row[index] with
        | error failure => rfl
        | ok v =>
            cases membersFrom (index + 1) columns (row.drop (index + 1)) with
            | error failure => rfl
            | ok rest => rfl
      · have absent : row.length ≤ index := Nat.le_of_not_lt present
        rw [List.drop_eq_nil_of_le absent, membersFrom]
        simp only [read, List.getElem?_eq_none absent]
        rfl

theorem toJson_eq_mapM (columns : List Column) (row : Row) :
    toJson columns row = Json.ofMembers <$>
      columns.zipIdx.mapM fun place => (place.1.name, ·) <$> read row place.1 place.2 := by
  rw [toJson, ← membersFrom_eq_mapM, List.drop_zero]

theorem place_iff (columns : List Column) (j : Nat) (place : Column × Nat) :
    columns.zipIdx[j]? = some place ↔ columns[j]? = some place.1 ∧ place.2 = j := by
  obtain ⟨c, k⟩ := place
  rw [List.getElem?_zipIdx, Option.map_eq_some_iff, Nat.zero_add]
  constructor
  · rintro ⟨c, named, same⟩
    cases same
    exact ⟨named, rfl⟩
  · rintro ⟨named, rfl⟩
    exact ⟨c, named, rfl⟩

/-- A row fails as the first of its cells that fails. -/
theorem toJson_error_iff (columns : List Column) (row : Row) (failure : Failure DbError) :
    toJson columns row = .error failure ↔
      ∃ (j : Nat) (c : Column), columns[j]? = some c ∧ read row c j = .error failure ∧
        ∀ j' < j, ∀ c', columns[j']? = some c' → ∃ v, read row c' j' = .ok v := by
  rw [toJson_eq_mapM, Outcome.map_error_iff, Outcome.mapM_error_iff]
  constructor
  · rintro ⟨j, ⟨c, place⟩, found, failed, before⟩
    obtain ⟨named, rfl⟩ := (place_iff ..).mp found
    refine ⟨place, c, named, (Outcome.map_error_iff _ _ _).mp failed, ?_⟩
    intro j' earlier c' named'
    obtain ⟨member, done⟩ := before j' earlier (c', j') ((place_iff ..).mpr ⟨named', rfl⟩)
    obtain ⟨v, value, _⟩ := (Outcome.map_ok_iff _ _ _).mp done
    exact ⟨v, value⟩
  · rintro ⟨j, c, named, failed, before⟩
    refine ⟨j, (c, j), (place_iff ..).mpr ⟨named, rfl⟩,
      (Outcome.map_error_iff _ _ _).mpr failed, ?_⟩
    rintro j' earlier ⟨c', place⟩ found
    obtain ⟨named', rfl⟩ := (place_iff ..).mp found
    obtain ⟨v, value⟩ := before place earlier c' named'
    exact ⟨(c'.name, v), (Outcome.map_ok_iff _ _ _).mpr ⟨v, value, rfl⟩⟩

theorem exists_toJson_ok_iff (columns : List Column) (row : Row) :
    (∃ v, toJson columns row = .ok v) ↔
      ∀ j c, columns[j]? = some c → ∃ v, read row c j = .ok v := by
  constructor
  · rintro ⟨v, whole⟩ j c named
    rw [toJson_eq_mapM] at whole
    obtain ⟨members, done, _⟩ := (Outcome.map_ok_iff _ _ _).mp whole
    have all := (Outcome.exists_mapM_ok_iff _ _).mp ⟨members, done⟩
    have there := (place_iff columns j (c, j)).mpr ⟨named, rfl⟩
    obtain ⟨member, value⟩ := all _ (List.mem_of_getElem? there)
    obtain ⟨w, value, _⟩ := (Outcome.map_ok_iff _ _ _).mp value
    exact ⟨w, value⟩
  · intro all
    cases result : toJson columns row with
    | ok v => exact ⟨v, rfl⟩
    | error failure =>
        obtain ⟨j, c, named, failed, _⟩ := (toJson_error_iff columns row failure).mp result
        obtain ⟨v, value⟩ := all j c named
        rw [failed] at value
        cases value

/-! ## All rows -/

theorem mapM_toJson_error_iff (columns : List Column) (rows : List Row)
    (failure : Failure DbError) :
    rows.mapM (toJson columns) = .error failure ↔
      ∃ i j, FirstFailure columns rows i j failure := by
  rw [Outcome.mapM_error_iff]
  constructor
  · rintro ⟨i, row, found, failed, before⟩
    obtain ⟨j, c, named, fails, earlier⟩ := (toJson_error_iff columns row failure).mp failed
    refine ⟨i, j, (readAt?_eq_some_iff ..).mpr ⟨row, c, found, named, fails⟩, ?_⟩
    intro i' j' place outcome there
    obtain ⟨row', c', found', named', rfl⟩ := (readAt?_eq_some_iff ..).mp there
    rcases place with above | ⟨rfl, left⟩
    · exact (exists_toJson_ok_iff columns row').mp (before i' above row' found') j' c' named'
    · rw [found] at found'
      cases found'
      exact earlier j' left c' named'
  · rintro ⟨i, j, first⟩
    obtain ⟨row, c, found, named, fails⟩ := (readAt?_eq_some_iff ..).mp first.fails
    have reads : ∀ i' j' row' c', i' < i ∨ i' = i ∧ j' < j → rows[i']? = some row' →
        columns[j']? = some c' → ∃ v, read row' c' j' = .ok v := by
      intro i' j' row' c' place found' named'
      exact first.before i' j' place _ ((readAt?_eq_some_iff ..).mpr ⟨row', c', found', named', rfl⟩)
    refine ⟨i, row, found, (toJson_error_iff columns row failure).mpr ⟨j, c, named, fails, ?_⟩, ?_⟩
    · intro j' left c' named'
      exact reads i j' row c' (.inr ⟨rfl, left⟩) found named'
    · intro i' above row' found'
      apply (exists_toJson_ok_iff columns row').mpr
      intro j' c' named'
      exact reads i' j' row' c' (.inl above) found' named'

theorem exists_mapM_toJson_ok_iff (columns : List Column) (rows : List Row) :
    (∃ values, rows.mapM (toJson columns) = .ok values) ↔ ∀ i j, Decodes columns rows i j := by
  constructor
  · intro done i j outcome there
    obtain ⟨row, c, found, named, rfl⟩ := (readAt?_eq_some_iff ..).mp there
    have whole := (Outcome.exists_mapM_ok_iff _ _).mp done row (List.mem_of_getElem? found)
    exact (exists_toJson_ok_iff columns row).mp whole j c named
  · intro all
    cases result : rows.mapM (toJson columns) with
    | ok values => exact ⟨values, rfl⟩
    | error failure =>
        obtain ⟨i, j, first⟩ := (mapM_toJson_error_iff columns rows failure).mp result
        obtain ⟨v, value⟩ := all i j _ first.fails
        cases value

end PgJson.Row
