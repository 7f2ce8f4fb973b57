import PgJson.EnvFile.Basic

/-!
Variables of a process with those of a file behind them: what is set before counts, and of the lines
that are read the first that sets a name.
-/

namespace PgJson

namespace EnvFile

open Text

def Line.pair? : Line → Option (String × String)
  | blank => none
  | setting key value => some (key, value)

def assignments (read : List Line) : List (String × String) := read.filterMap Line.pair?

def SetFirst (read : List Line) (name value : String) : Prop :=
  ∃ before after, read = before ++ .setting name value :: after ∧
    ∀ other, .setting name other ∉ before

/-- Variables of a process with what lines set behind them. -/
structure Merged (vars : Variables) (read : List Line) (merged : Variables) : Prop where
  process : ∀ name value, vars name = some value → merged name = some value
  file : ∀ name value, vars name = none → (merged name = some value ↔ SetFirst read name value)

def known (vars : Variables) (read : List Line) : Variables :=
  vars.backedBy (.ofList (assignments read))

/-- Lines are read one by one, each with the variables known behind those in front of it, up to the
first that is malformed. -/
inductive Reads (vars : Variables) : List Line → List (List Char) → List Line → Prop
  | done (before : List Line) : Reads vars before [] []
  | malformed (before : List Line) (line : List Char) (rest : List (List Char))
      (bad : readLine? (known vars before) line = none) : Reads vars before (line :: rest) []
  | line (before : List Line) (line : List Char) (rest : List (List Char)) (shown : Line)
      (read : List Line) (good : readLine? (known vars before) line = some shown)
      (others : Reads vars (before ++ [shown]) rest read) :
      Reads vars before (line :: rest) (shown :: read)

/-- Lines give a variable that the process does not have a value that it cannot hold. -/
def Unstorable (vars : Variables) (read : List Line) : Prop :=
  ∃ name value, vars name = none ∧ SetFirst read name value ∧ isStorable value = false

/-! ## The first setting of a name -/

theorem setFirst_cons (l : Line) (read : List Line) (name value : String) :
    SetFirst (l :: read) name value ↔
      l = .setting name value ∨ (∀ other, l ≠ .setting name other) ∧ SetFirst read name value := by
  constructor
  · rintro ⟨before, after, same, unset⟩
    cases before with
    | nil => exact .inl (List.cons.inj same).1
    | cons first before =>
        obtain ⟨rfl, rfl⟩ := List.cons.inj same
        refine .inr ⟨?_, before, after, rfl, ?_⟩
        · exact fun other here => unset other (here ▸ List.mem_cons_self ..)
        · exact fun other member => unset other (List.mem_cons_of_mem _ member)
  · rintro (rfl | ⟨otherwise, before, after, rfl, unset⟩)
    · exact ⟨[], read, rfl, fun _ => List.not_mem_nil⟩
    · refine ⟨l :: before, after, rfl, ?_⟩
      intro other member
      rcases List.mem_cons.mp member with same | member
      · exact otherwise other same.symm
      · exact unset other member

theorem assignments_append (front back : List Line) :
    assignments (front ++ back) = assignments front ++ assignments back := List.filterMap_append

theorem lookup_assignments (read : List Line) (name value : String) :
    (assignments read).lookup name = some value ↔ SetFirst read name value := by
  induction read with
  | nil =>
      refine iff_of_false nofun ?_
      rintro ⟨before, after, same, _⟩
      exact absurd same.symm (by simp)
  | cons l read ih =>
      rw [setFirst_cons, ← ih]
      cases l with
      | blank =>
          show (assignments read).lookup name = some value ↔ _
          simp
      | setting key given =>
          show ((key, given) :: assignments read).lookup name = some value ↔ _
          rw [List.lookup_cons]
          by_cases same : name = key
          · subst same
            simp
          · have other : ¬(key = name) := fun back => same back.symm
            simp [beq_eq_false_iff_ne.mpr same, other]

theorem merged_known (vars : Variables) (read : List Line) :
    Merged vars read (known vars read) where
  process _ _ set := Variables.backedBy_of_some set
  file name value unset := by
    rw [known, Variables.backedBy_of_none unset]
    exact lookup_assignments read name value

theorem merged_unique (vars first second : Variables) (read : List Line)
    (one : Merged vars read first) (other : Merged vars read second) : first = second := by
  funext name
  apply Option.ext
  intro value
  cases set : vars name with
  | some given => rw [one.process name given set, other.process name given set]
  | none => rw [one.file name value set, other.file name value set]

theorem known_append (vars : Variables) (front back : List Line) (name : String) :
    known vars (front ++ back) name =
      (known vars front name).or ((assignments back).lookup name) := by
  rw [known, known, assignments_append, Variables.backedBy, Variables.backedBy, Variables.ofList,
    Variables.ofList, List.lookup_append, Option.or_assoc]

theorem unstorable_iff (vars : Variables) (read : List Line) :
    Unstorable vars read ↔
      ∃ name value, vars name = none ∧ known vars read name = some value ∧
        isStorable value = false := by
  refine exists_congr fun name => exists_congr fun value => and_congr_right fun unset => ?_
  rw [(merged_known vars read).file name value unset]

/-! ## Reading line by line -/

theorem reads_total (vars : Variables) (lines : List (List Char)) (before : List Line) :
    ∃ read, Reads vars before lines read := by
  induction lines generalizing before with
  | nil => exact ⟨[], .done before⟩
  | cons line rest ih =>
      cases shown : readLine? (known vars before) line with
      | none => exact ⟨[], .malformed before line rest shown⟩
      | some l =>
          obtain ⟨read, others⟩ := ih (before ++ [l])
          exact ⟨l :: read, .line before line rest l read shown others⟩

theorem reads_unique (vars : Variables) (lines : List (List Char)) (before first second : List Line)
    (one : Reads vars before lines first) (other : Reads vars before lines second) :
    first = second := by
  induction one generalizing second with
  | done before => cases other; rfl
  | malformed before line rest bad =>
      cases other with
      | malformed => rfl
      | line _ _ _ shown read good others => exact nomatch bad.symm.trans good
  | line before line rest shown read good others ih =>
      cases other with
      | malformed _ _ _ bad => exact nomatch bad.symm.trans good
      | line _ _ _ shown' read' good' others' =>
          cases good.symm.trans good'
          rw [ih read' others']

theorem reads_append (vars : Variables) (lines rest : List (List Char))
    (before read after : List Line) (front : Reads vars before lines read)
    (whole : read.length = lines.length) (back : Reads vars (before ++ read) rest after) :
    Reads vars before (lines ++ rest) (read ++ after) := by
  induction front with
  | done before => rwa [List.append_nil] at back
  | malformed => cases whole
  | line before line others shown read good _ ih =>
      refine .line before line (others ++ rest) shown (read ++ after) good (ih ?_ ?_)
      · exact Nat.succ.inj whole
      · rwa [List.append_assoc, List.singleton_append]

theorem reads_at (vars : Variables) (lines : List (List Char)) (before read : List Line)
    (reads : Reads vars before lines read) (i : Nat) (line : List Char) (shown : Line)
    (there : lines[i]? = some line) (here : read[i]? = some shown) :
    readLine? (known vars (before ++ read.take i)) line = some shown := by
  induction reads generalizing i with
  | done => cases there
  | malformed => cases here
  | line before first rest l read good others ih =>
      cases i with
      | zero =>
          cases there
          cases here
          rw [List.take_zero, List.append_nil]
          exact good
      | succ i =>
          rw [List.take_succ_cons, ← List.singleton_append, ← List.append_assoc]
          exact ih i there here

/-! ## What reading leaves -/

theorem unstorable_last (vars : Variables) (before : List Line) (l : Line)
    (fine : ¬Unstorable vars before)
    (stored : ∀ key value, l = .setting key value →
      ((known vars before key).isSome || isStorable value) = true) :
    ¬Unstorable vars (before ++ [l]) := by
  rw [unstorable_iff] at fine ⊢
  rintro ⟨name, value, unset, given, bad⟩
  rw [known_append] at given
  cases earlier : known vars before name with
  | some first =>
      rw [earlier, Option.some_or] at given
      exact fine ⟨name, value, unset, earlier.trans given, bad⟩
  | none =>
      rw [earlier, Option.none_or] at given
      cases l with
      | blank => cases given
      | setting key text =>
          have listed : List.lookup name [(key, text)] = some value := given
          rw [List.lookup_cons] at listed
          by_cases same : name = key
          · subst same
            rw [beq_self_eq_true] at listed
            cases listed
            have fits := stored name value rfl
            rw [earlier, bad] at fits
            cases fits
          · rw [beq_eq_false_iff_ne.mpr same] at listed
            cases listed

theorem unstorable_setting (vars : Variables) (before after : List Line) (key value : String)
    (stored : ¬((known vars before key).isSome || isStorable value) = true) :
    Unstorable vars (before ++ [.setting key value] ++ after) := by
  rw [Bool.not_eq_true, Bool.or_eq_false_iff] at stored
  have unset : known vars before key = none := Option.not_isSome_iff_eq_none.mp (by simp [stored.1])
  have own : vars key = none := (Option.or_eq_none_iff.mp unset).1
  have listed : (assignments [.setting key value]).lookup key = some value := by
    show List.lookup key [(key, value)] = some value
    rw [List.lookup_cons, beq_self_eq_true]
  have given : known vars (before ++ [.setting key value] ++ after) key = some value := by
    rw [known_append, known_append, unset, Option.none_or, listed, Option.some_or]
  exact (unstorable_iff ..).mpr ⟨key, value, own, given, stored.2⟩

/-! ## One line -/

theorem settingsFrom_malformed (vars : Variables) (before : List Line) (line : List Char)
    (rest : List (List Char)) (bad : readLine? (known vars before) line = none) :
    settingsFrom vars (assignments before) (line :: rest) = some (assignments before) := by
  have here : readLine? (vars.backedBy (.ofList (assignments before))) line = none := bad
  simp only [settingsFrom, here]

theorem settingsFrom_blank (vars : Variables) (before : List Line) (line : List Char)
    (rest : List (List Char)) (good : readLine? (known vars before) line = some .blank) :
    settingsFrom vars (assignments before) (line :: rest) =
      settingsFrom vars (assignments (before ++ [.blank])) rest := by
  have here : readLine? (vars.backedBy (.ofList (assignments before))) line = some .blank := good
  have same : assignments (before ++ [.blank]) = assignments before := by
    rw [assignments_append]
    exact List.append_nil _
  simp only [settingsFrom, here, same]

theorem settingsFrom_setting (vars : Variables) (before : List Line) (line : List Char)
    (rest : List (List Char)) (key value : String)
    (good : readLine? (known vars before) line = some (.setting key value)) :
    settingsFrom vars (assignments before) (line :: rest) =
      if (known vars before key).isSome || isStorable value then
        settingsFrom vars (assignments (before ++ [.setting key value])) rest
      else none := by
  have here : readLine? (vars.backedBy (.ofList (assignments before))) line =
    some (.setting key value) := good
  have behind : assignments (before ++ [.setting key value]) =
    assignments before ++ [(key, value)] := assignments_append ..
  simp only [settingsFrom, here, behind]
  rfl

/-! ## A whole file -/

/-- Lines set what they say up to the first malformed one, unless a value among them cannot be
stored. -/
theorem settingsFrom_reads (vars : Variables) (lines : List (List Char)) (before read : List Line)
    (reads : Reads vars before lines read) (fine : ¬Unstorable vars before) :
    ¬Unstorable vars (before ++ read) ∧
        settingsFrom vars (assignments before) lines = some (assignments (before ++ read)) ∨
      Unstorable vars (before ++ read) ∧ settingsFrom vars (assignments before) lines = none := by
  induction reads with
  | done before =>
      rw [List.append_nil]
      exact .inl ⟨fine, rfl⟩
  | malformed before line rest bad =>
      rw [List.append_nil]
      exact .inl ⟨fine, settingsFrom_malformed vars before line rest bad⟩
  | line before line rest shown read good others ih =>
      rw [← List.singleton_append, ← List.append_assoc]
      cases shown with
      | blank =>
          rw [settingsFrom_blank vars before line rest good]
          exact ih (unstorable_last vars before .blank fine nofun)
      | setting key value =>
          rw [settingsFrom_setting vars before line rest key value good]
          -- A name that is set already keeps its value, so a null is no harm there.
          split
          · next stored =>
            apply ih (unstorable_last vars before _ fine _)
            rintro _ _ ⟨⟩
            exact stored
          · next lost => exact .inr ⟨unstorable_setting vars before read key value lost, rfl⟩

end EnvFile
end PgJson
