import PgJson.Proofs.EnvFile.Lines
import PgJson.Proofs.EnvFile.Merge
import PgJson.Proofs.EnvFile.Value
import PgJson.Proofs.Settings.OfVariables

/-!
Settings from the variables of a process and a file: those from the merged variables, unless the
file sets one to a value that no process can hold.
-/

namespace PgJson

namespace EnvFile

open Text

def linesOf (text : String) : List (List Char) := lines (withoutMark text.toList)

/-- A text that ends with a line end outside quotes and has no malformed line. -/
structure WellFormed (vars : Variables) (text : String) : Prop where
  ended : text.toList.getLast? = some '\n'
  closed : leftOpen [] .word (physicalLines (withoutMark text.toList)) = false
  whole : ∀ read, Reads vars [] (linesOf text) read → read.length = (linesOf text).length

/-- Wherever a value mentions a name, it shows what the variables merged with the lines in front
have under it, and nothing if they do not have it. -/
def SeesFront (vars : Variables) (lines : List (List Char)) (read : List Line) : Prop :=
  ∀ (i : Nat) (line : List Char) (key value : String), lines[i]? = some line →
    read[i]? = some (.setting key value) → ∀ merged, Merged vars (read.take i) merged →
    ∀ (front use shown : List Char) (quoted : Bool) (name : List Char),
      takeSetting (trim line) = some (key.toList, front ++ use) → front.head? ≠ some '#' →
      Passes merged front quoted shown → Mentions name use →
      ∃ tail, value.toList = shown ++ ((merged (.ofList name)).getD "").toList ++ tail

theorem linesOf_append (vars : Variables) (text rest : String) (fine : WellFormed vars text) :
    ∃ others, linesOf (text ++ rest) = linesOf text ++ others := by
  have present : text.toList ≠ [] := by
    intro none
    have ended := fine.ended
    rw [none] at ended
    cases ended
  have ended := getLast?_withoutMark text.toList fine.ended
  rw [linesOf, String.toList_append, withoutMark_append _ _ present,
    lines_append _ _ ended fine.closed]
  exact ⟨_, rfl⟩

theorem not_unstorable_nil (vars : Variables) : ¬Unstorable vars [] := by
  rintro ⟨name, value, _, ⟨before, after, none, _⟩, _⟩
  exact absurd none.symm (by simp)

theorem load?_reads (vars : Variables) (text : String) (read : List Line)
    (reads : Reads vars [] (linesOf text) read) :
    ¬Unstorable vars read ∧ vars.load? (some text) = some (known vars read) ∨
      Unstorable vars read ∧ vars.load? (some text) = none := by
  have load : vars.load? (some text) = (settingsFrom vars (assignments []) (linesOf text)).map
    fun held => vars.backedBy (.ofList held) := rfl
  rw [load]
  rcases settingsFrom_reads vars _ [] read reads (not_unstorable_nil vars) with
    ⟨fine, set⟩ | ⟨lost, none⟩
  · refine .inl ⟨fine, ?_⟩
    rw [set]
    rfl
  · refine .inr ⟨lost, ?_⟩
    rw [none]
    rfl

theorem load?_eq_none_iff (vars : Variables) (text : String) :
    vars.load? (some text) = none ↔
      ∃ read, Reads vars [] (linesOf text) read ∧ Unstorable vars read := by
  constructor
  · intro lost
    obtain ⟨read, reads⟩ := reads_total vars (linesOf text) []
    rcases load?_reads vars text read reads with ⟨_, stored⟩ | ⟨unstorable, _⟩
    · simp [lost] at stored
    · exact ⟨read, reads, unstorable⟩
  · rintro ⟨read, reads, unstorable⟩
    rcases load?_reads vars text read reads with ⟨storable, _⟩ | ⟨_, lost⟩
    · exact absurd unstorable storable
    · exact lost

theorem readLine?_setting (vars : Variables) (line text : List Char) (key value : String)
    (set : readLine? vars line = some (.setting key value)) (name : List Char)
    (split : takeSetting (trim line) = some (name, text)) (present : text ≠ [])
    (visible : text.head? ≠ some '#') : value? vars text = some value.toList := by
  unfold readLine? at set
  split at set
  · cases set
  · cases set
  · rw [split] at set
    simp only [Option.bind_eq_bind, Option.bind_some] at set
    split at set
    · exact absurd rfl present
    · exact absurd rfl visible
    · obtain ⟨chars, read, same⟩ := Option.bind_eq_some_iff.mp set
      cases same
      rw [read, String.toList_ofList]

theorem seesFront_reads (vars : Variables) (lines : List (List Char)) (read : List Line)
    (reads : Reads vars [] lines read) : SeesFront vars lines read := by
  intro i line key value there here merged merges front use shown quoted name split visible passes
    mentions
  have set := reads_at vars lines [] read reads i line _ there here
  rw [List.nil_append, merged_unique vars _ merged _ (merged_known vars _) merges] at set
  obtain ⟨rest, dollar⟩ : ∃ rest, use = '$' :: rest := by
    cases mentions with
    | plain => exact ⟨_, rfl⟩
    | braced => exact ⟨_, rfl⟩
  have present : front ++ use ≠ [] := by simp [dollar]
  have head : (front ++ use).head? ≠ some '#' := by
    cases front with
    | nil => simp [dollar]
    | cons c front => exact visible
  exact value?_mentions merged front quoted shown name use value.toList passes mentions
    (readLine?_setting merged line _ key value set _ split present head)

theorem load?_append (vars : Variables) (text rest : String) (fine : WellFormed vars text)
    (read : List Line) (reads : Reads vars [] (linesOf text) read) (later : Variables)
    (loaded : vars.load? (some (text ++ rest)) = some later) (name value : String)
    (set : known vars read name = some value) : later name = some value := by
  obtain ⟨others, lines⟩ := linesOf_append vars text rest fine
  obtain ⟨after, behind⟩ := reads_total vars others read
  have all : Reads vars [] (linesOf (text ++ rest)) (read ++ after) := by
    rw [lines]
    exact reads_append vars _ others [] read after reads (fine.whole read reads) behind
  rcases load?_reads vars _ _ all with ⟨_, stored⟩ | ⟨_, lost⟩
  · cases loaded.symm.trans stored
    rw [known_append, set, Option.some_or]
  · cases loaded.symm.trans lost

end EnvFile

open EnvFile

/-- The settings with a file are those from the merged variables, except that a value which no
process can hold, set where nothing was, ends the program. A file changes no settings that are all
set already, and a name in a value stands for what is merged in front of it. What follows a
well-formed text takes back nothing that it sets, where the two together load. -/
theorem Settings.ofVariables_load (vars : Variables) (text : String) :
    ∃ read merged, Reads vars [] (linesOf text) read ∧ Merged vars read merged ∧
      (¬Unstorable vars read →
        (vars.load? (some text)).map ofVariables = some (ofVariables merged)) ∧
      (Unstorable vars read → vars.load? (some text) = none) ∧
      ((∀ name ∈ names, (vars name).isSome) → ofVariables merged = ofVariables vars) ∧
      (WellFormed vars text → ∀ rest later, vars.load? (some (text ++ rest)) = some later →
        ∀ name value, merged name = some value → later name = some value) ∧
      SeesFront vars (linesOf text) read := by
  obtain ⟨read, reads⟩ := reads_total vars (linesOf text) []
  refine ⟨read, known vars read, reads, merged_known vars read, ?_, ?_, ?_, ?_,
    seesFront_reads vars _ read reads⟩
  · intro fine
    rcases load?_reads vars text read reads with ⟨_, stored⟩ | ⟨lost, _⟩
    · rw [stored]
      rfl
    · exact absurd lost fine
  · intro lost
    rcases load?_reads vars text read reads with ⟨fine, _⟩ | ⟨_, none⟩
    · exact absurd lost fine
    · exact none
  · intro all
    refine Settings.ofVariables_congr _ _ fun name member => ?_
    obtain ⟨value, set⟩ := Option.isSome_iff_exists.mp (all name member)
    rw [(merged_known vars read).process name value set, set]
  · intro fine rest later loaded name value set
    exact load?_append vars text rest fine read reads later loaded name value set

namespace EnvFile

def process : Variables :=
  .ofList [("APP_ENV", "staging"), ("APP_NAME", "reports"), ("DATABASE_URL", "postgres://h/d"),
    ("DATABASE_MAX_CONNECTIONS", "5"), ("DATABASE_TIMEOUT_SECS", "9")]

def chained : String := "A=1\nB=\"x$\x7bA\x7d\"\n"

theorem reads_chained :
    Reads process [] (linesOf chained) [.setting "A" "1", .setting "B" "x1"] := by
  have lines : linesOf chained = ["A=1\n".toList, "B=\"x$\x7bA\x7d\"\n".toList] := by decide
  rw [lines]
  exact .line _ _ _ _ _ (by decide) (.line _ _ _ _ _ (by decide) (.done _))

theorem wellFormed_chained : WellFormed process chained where
  ended := by decide
  closed := by decide
  whole read reads := by
    rw [reads_unique process _ [] read _ reads reads_chained]
    decide

end EnvFile

theorem Settings.ofVariables_load_chained :
    (process.load? (some chained)).map ofVariables = some (ofVariables process) ∧
      (∀ rest later, process.load? (some (chained ++ rest)) = some later →
        later "B" = some "x1") ∧
      ∃ tail, "x1".toList = ['x'] ++ "1".toList ++ tail := by
  obtain ⟨read, merged, reads, merges, result, lost, own, kept, sees⟩ :=
    ofVariables_load process chained
  cases reads_unique process _ [] read _ reads reads_chained
  have same := merged_unique process merged _ _ merges (merged_known process _)
  have stored : ¬Unstorable process [.setting "A" "1", .setting "B" "x1"] := by
    intro unstorable
    exact absurd (lost unstorable) (by decide)
  refine ⟨?_, ?_, ?_⟩
  · rw [result stored, own (by decide)]
  · intro rest later loaded
    exact kept wellFormed_chained rest later loaded "B" "x1" (by rw [same]; decide)
  · exact sees 1 "B=\"x$\x7bA\x7d\"\n".toList "B" "x1" (by decide) rfl _ (merged_known process _)
      ['"', 'x'] ['$', '\x7b', 'A', '\x7d', '"'] ['x'] true ['A'] (by decide) (by decide)
      (fun rest => rfl) (.braced ['"'] (by decide))

end PgJson
