import PgJson.Proofs.Settings.OfVariables
import Mathlib.Data.List.Forall2

/-!
The checks that variables pass before settings are made of them. They are made in a fixed order, and
the first that fails is the error.
-/

namespace PgJson

def FirstFailing {α : Type} (holds : α → Prop) (xs : List α) (x : α) : Prop :=
  ∃ before after, xs = before ++ x :: after ∧ (∀ y ∈ before, holds y) ∧ ¬holds x

theorem firstFailing_nil {α : Type} (holds : α → Prop) (x : α) : ¬FirstFailing holds [] x := by
  rintro ⟨before, after, none, _⟩
  exact absurd none.symm (by simp)

theorem firstFailing_cons {α : Type} (holds : α → Prop) (x y : α) (xs : List α) :
    FirstFailing holds (x :: xs) y ↔ ¬holds x ∧ y = x ∨ holds x ∧ FirstFailing holds xs y := by
  constructor
  · rintro ⟨before, after, parts, passed, failed⟩
    cases before with
    | nil =>
        obtain ⟨rfl, _⟩ := List.cons.inj parts
        exact .inl ⟨failed, rfl⟩
    | cons z before =>
        obtain ⟨rfl, rest⟩ := List.cons.inj parts
        rw [List.forall_mem_cons] at passed
        exact .inr ⟨passed.1, before, after, rest, passed.2, failed⟩
  · rintro (⟨failed, rfl⟩ | ⟨here, before, after, rfl, passed, failed⟩)
    · exact ⟨[], xs, rfl, nofun, failed⟩
    · exact ⟨x :: before, after, rfl, List.forall_mem_cons.mpr ⟨here, passed⟩, failed⟩

theorem exists_firstFailing_iff {α : Type} (holds : α → Prop) (xs : List α) :
    (∃ x, FirstFailing holds xs x) ↔ ∃ x ∈ xs, ¬holds x := by
  constructor
  · rintro ⟨x, before, after, rfl, _, failed⟩
    exact ⟨x, List.mem_append_right _ (List.mem_cons_self ..), failed⟩
  · rintro ⟨x, member, failed⟩
    induction xs with
    | nil => cases member
    | cons y xs ih =>
        simp only [firstFailing_cons]
        by_cases here : holds y
        · rcases List.mem_cons.mp member with rfl | later
          · exact absurd here failed
          · obtain ⟨z, first⟩ := ih later
            exact ⟨z, .inr ⟨here, first⟩⟩
        · exact ⟨y, .inl ⟨here, rfl⟩⟩

namespace Variables

def only (vars : Variables) (names : List String) : Variables := fun name =>
  if name ∈ names then vars name else none

end Variables

namespace Settings

/-! ## Names of environments -/

/-- The characters that a lower-case letter is the whole lower-case form of. Beyond ASCII there is
one: the Kelvin sign becomes a `k`. -/
def Lowers (c letter : Char) : Prop :=
  c = letter ∨ c = letter.toUpper ∨ c = '\u212a' ∧ letter = 'k'

def Names (raw : String) (env : Environment) : Prop :=
  List.Forall₂ Lowers raw.toList env.name.toList

theorem ofName?_eq_some_iff (s : String) (env : Environment) :
    Environment.ofName? s = some env ↔ s = env.name := by
  constructor
  · intro known
    unfold Environment.ofName? at known
    split at known
    · cases known; rfl
    · cases known; rfl
    · cases known; rfl
    · cases known
  · rintro rfl
    cases env with
    | development => rfl
    | staging => rfl
    | production => rfl

theorem toNat_toLower (c : Char) :
    c.toLower.toNat = if 65 ≤ c.toNat ∧ c.toNat ≤ 90 then c.toNat + 32 else c.toNat := by
  have range : c.val ≥ 'A'.val ∧ c.val ≤ 'Z'.val ↔ 65 ≤ c.toNat ∧ c.toNat ≤ 90 := by
    rw [ge_iff_le, UInt32.le_iff_toNat_le, UInt32.le_iff_toNat_le]
    rfl
  unfold Char.toLower
  by_cases capital : 65 ≤ c.toNat ∧ c.toNat ≤ 90
  · have most : c.val.toNat ≤ 90 := capital.2
    rw [dif_pos (range.mpr capital), if_pos capital]
    show (c.val + 32).toNat = c.val.toNat + 32
    rw [UInt32.toNat_add]
    exact Nat.mod_eq_of_lt (by show c.val.toNat + 32 < 4294967296; omega)
  · rw [dif_neg (mt range.mp capital), if_neg capital]

theorem toNat_toUpper (c : Char) (lower : 97 ≤ c.toNat ∧ c.toNat ≤ 122) :
    c.toUpper.toNat = c.toNat - 32 := by
  have range : 'a'.val ≤ c.val ∧ c.val ≤ 'z'.val := by
    rw [UInt32.le_iff_toNat_le, UInt32.le_iff_toNat_le]
    exact lower
  have least : 97 ≤ c.val.toNat := lower.1
  have most : c.val.toNat ≤ 122 := lower.2
  unfold Char.toUpper
  rw [dif_pos range]
  show (c.val + ('A'.val - 'a'.val)).toNat = c.val.toNat - 32
  rw [UInt32.toNat_add]
  show (c.val.toNat + 4294967264) % 4294967296 = _
  omega

theorem toLower_eq_iff (c letter : Char) (lower : letter.isLower) (other : letter ≠ 'k') :
    c.toLower = letter ↔ Lowers c letter := by
  have range : 97 ≤ letter.toNat ∧ letter.toNat ≤ 122 := by
    have both : (decide ('a'.val ≤ letter.val) && decide (letter.val ≤ 'z'.val)) = true := lower
    rw [Bool.and_eq_true, decide_eq_true_eq, decide_eq_true_eq, UInt32.le_iff_toNat_le,
      UInt32.le_iff_toNat_le] at both
    exact both
  simp only [Lowers, other, and_false, or_false, ← Char.toNat_inj, toNat_toLower,
    toNat_toUpper letter range]
  split
  · omega
  · omega

theorem readEnvironment?_eq_some_iff (raw : String) (env : Environment) :
    readEnvironment? raw = some env ↔ Names raw env := by
  have letters : env.name.toList.all fun letter => letter.isLower && letter != 'k' := by
    cases env with
    | development => decide
    | staging => decide
    | production => decide
  have same (c letter : Char) (pair : (c, letter) ∈ raw.toList.zip env.name.toList) :
      c.toLower = letter ↔ Lowers c letter := by
    have fine := List.all_eq_true.mp letters letter (List.of_mem_zip pair).2
    rw [Bool.and_eq_true, bne_iff_ne] at fine
    exact toLower_eq_iff c letter fine.1 fine.2
  rw [readEnvironment?, ofName?_eq_some_iff, ← String.toList_inj, String.toList_ofList, Names,
    ← List.forall₂_eq_eq_eq, List.forall₂_map_left_iff, List.forall₂_iff_zip, List.forall₂_iff_zip]
  refine and_congr_right fun _ => ?_
  exact ⟨fun all _ _ pair => (same _ _ pair).mp (all pair),
    fun all _ _ pair => (same _ _ pair).mpr (all pair)⟩

/-! ## Checks -/

inductive Check where
  | environment
  | url
  | maxConnections
  | timeoutSecs
  deriving DecidableEq

namespace Check

def order : List Check := [environment, url, maxConnections, timeoutSecs]

def key : Check → String
  | environment => "APP_ENV"
  | url => "DATABASE_URL"
  | maxConnections => "DATABASE_MAX_CONNECTIONS"
  | timeoutSecs => "DATABASE_TIMEOUT_SECS"

def Accepts (raw : String) : Check → Prop
  | environment => ∃ env, Names raw env
  | url => Text.trim raw.toList ≠ []
  | maxConnections => ∃ n < Text.limit32, Text.Denotes raw.toList n
  | timeoutSecs => ∃ n < Text.limit64, Text.Denotes raw.toList n

def Passes (vars : Variables) (check : Check) : Prop :=
  match vars check.key with
  | none => check ≠ url
  | some raw => check.Accepts raw

def fault (vars : Variables) (check : Check) : SettingsError :=
  match check with
  | url => .missing check.key
  | _ => .invalid check.key ((vars check.key).getD "")

end Check

def Carries : Option String → Option Nat → Prop
  | none, n => n = none
  | some raw, n => ∃ k, n = some k ∧ Text.Denotes raw.toList k

/-- What the variables ask for. -/
structure Asks (vars : Variables) (s : Settings) : Prop where
  env : match vars "APP_ENV" with
    | none => s.app.env = .development
    | some raw => Names raw s.app.env
  name : s.app.name = (vars "APP_NAME").getD "dbservice"
  url : vars "DATABASE_URL" = some s.database.url
  maxConnections : Carries (vars "DATABASE_MAX_CONNECTIONS")
    (s.database.maxConnections.map UInt32.toNat)
  timeoutSecs : Carries (vars "DATABASE_TIMEOUT_SECS") (s.database.timeoutSecs.map UInt64.toNat)

/-- A reader that fails exactly where a check does, with the error of the check. -/
def Performs {α : Type} (vars : Variables) (check : Check) (read : Except SettingsError α) : Prop :=
  ∀ e, read = .error e ↔ ¬check.Passes vars ∧ e = check.fault vars

theorem performs_environment (vars : Variables) :
    Performs vars .environment (environment vars) := by
  intro e
  unfold environment Check.Passes Check.fault
  simp only [Check.key]
  cases set : vars "APP_ENV" with
  | none => simp
  | some raw =>
      have known : Check.environment.Accepts raw ↔ ∃ env, readEnvironment? raw = some env :=
        exists_congr fun env => (readEnvironment?_eq_some_iff raw env).symm
      simp only [known]
      cases read : readEnvironment? raw with
      | none => simp [eq_comm]
      | some env => simp

theorem performs_url (vars : Variables) : Performs vars .url (url vars) := by
  intro e
  unfold url Check.Passes Check.fault
  simp only [Check.key, Check.Accepts]
  cases set : vars "DATABASE_URL" with
  | none => simp [eq_comm]
  | some raw =>
      cases blank : isBlankText raw with
      | true =>
          have none : Text.trim raw.toList = [] := (Text.trim_eq_nil_iff _).mpr blank
          rw [Option.filter_some_neg (by simp [blank])]
          simp [none, eq_comm]
      | false =>
          have some : Text.trim raw.toList ≠ [] := fun none => by
            rw [Text.trim_eq_nil_iff] at none
            exact absurd (blank.symm.trans none) Bool.false_ne_true
          rw [Option.filter_some_pos (by simp [blank])]
          simp [some]

theorem performs_number (vars : Variables) (check : Check) (limit : Nat) (positive : 0 < limit)
    (other : check ≠ .url)
    (accepts : ∀ raw, check.Accepts raw ↔ ∃ n < limit, Text.Denotes raw.toList n) :
    Performs vars check (number limit vars check.key) := by
  intro e
  have fault : check.fault vars = .invalid check.key ((vars check.key).getD "") := by
    cases check with
    | url => exact absurd rfl other
    | environment => rfl
    | maxConnections => rfl
    | timeoutSecs => rfl
  rw [number_error_iff, Check.Passes, fault]
  cases set : vars check.key with
  | none => simp [other]
  | some raw =>
      have known : check.Accepts raw ↔ ∃ n, Text.readBounded limit (Text.trim raw.toList) = .ok n := by
        rw [accepts]
        refine exists_congr fun n => ?_
        rw [Text.readBounded_trim_ok_iff limit n _ positive, and_comm]
      simp [known, and_comm]

theorem bind_error_iff_first {α β : Type} (vars : Variables) (check : Check) (checks : List Check)
    (read : Except SettingsError α) (next : α → Except SettingsError β) (e : SettingsError)
    (performs : Performs vars check read)
    (others : ∀ a, read = .ok a → (next a = .error e ↔
      ∃ c, FirstFailing (Check.Passes vars) checks c ∧ e = c.fault vars)) :
    read >>= next = .error e ↔
      ∃ c, FirstFailing (Check.Passes vars) (check :: checks) c ∧ e = c.fault vars := by
  rw [bind_error_iff, performs e]
  simp only [firstFailing_cons]
  cases done : read with
  | error e' =>
      obtain ⟨failed, _⟩ := (performs e').mp done
      simp [failed]
  | ok a =>
      have passed : check.Passes vars := by
        by_contra failed
        have := (performs (check.fault vars)).mpr ⟨failed, rfl⟩
        rw [done] at this
        cases this
      simp [passed, others a done]

theorem ofVariables_error_iff (vars : Variables) (e : SettingsError) :
    ofVariables vars = .error e ↔
      ∃ c, FirstFailing (Check.Passes vars) Check.order c ∧ e = c.fault vars := by
  unfold ofVariables Check.order
  refine bind_error_iff_first vars _ _ _ _ e (performs_environment vars) fun env _ => ?_
  refine bind_error_iff_first vars _ _ _ _ e (performs_url vars) fun text _ => ?_
  refine bind_error_iff_first vars _ _ _ _ e
    (performs_number vars .maxConnections Text.limit32 (by decide) nofun fun _ => Iff.rfl)
    fun m _ => ?_
  refine bind_error_iff_first vars _ _ _ _ e
    (performs_number vars .timeoutSecs Text.limit64 (by decide) nofun fun _ => Iff.rfl) fun t _ => ?_
  refine iff_of_false nofun ?_
  rintro ⟨c, first, _⟩
  exact firstFailing_nil _ c first

theorem exists_error_iff (vars : Variables) :
    (∃ e, ofVariables vars = .error e) ↔ ∃ c, ¬Check.Passes vars c := by
  have each : ∀ c, c ∈ Check.order := by
    intro c
    cases c <;> decide
  simp only [ofVariables_error_iff]
  constructor
  · rintro ⟨e, c, ⟨before, after, _, _, failed⟩, _⟩
    exact ⟨c, failed⟩
  · rintro ⟨c, failed⟩
    obtain ⟨first, found⟩ := (exists_firstFailing_iff _ _).mpr ⟨c, each c, failed⟩
    exact ⟨_, first, found, rfl⟩

/-! ## Settings -/

theorem environment_ok_iff (vars : Variables) (env : Environment) :
    environment vars = .ok env ↔ match vars "APP_ENV" with
      | none => env = .development
      | some raw => Names raw env := by
  unfold environment
  cases set : vars "APP_ENV" with
  | none => simp [eq_comm]
  | some raw =>
      simp only [← readEnvironment?_eq_some_iff]
      cases readEnvironment? raw with
      | none => simp
      | some env => simp

theorem holds_iff (vars : Variables) (key : String) (limit : Nat) (n : Option Nat)
    (positive : 0 < limit) (small : ∀ k ∈ n, k < limit) :
    Holds vars key limit n ↔ Carries (vars key) n := by
  cases n with
  | none => cases set : vars key <;> simp [Holds, Carries, set]
  | some k =>
      have small := small k rfl
      simp only [Holds, Text.readBounded_trim_ok_iff limit k _ positive]
      cases set : vars key <;> simp [Carries, small]

theorem ofVariables_ok_iff_asks (vars : Variables) (s : Settings) :
    ofVariables vars = .ok s ↔ (∀ c, Check.Passes vars c) ∧ Asks vars s := by
  have size := holds_iff vars "DATABASE_MAX_CONNECTIONS" Text.limit32
    (s.database.maxConnections.map UInt32.toNat) (by decide) (word32_lt _)
  have time := holds_iff vars "DATABASE_TIMEOUT_SECS" Text.limit64
    (s.database.timeoutSecs.map UInt64.toNat) (by decide) (word64_lt _)
  have visible (url : String) : isBlankText url = false ↔ Text.trim url.toList ≠ [] := by
    rw [Ne, Text.trim_eq_nil_iff, Bool.not_eq_true, isBlankText]
  constructor
  · intro read
    refine ⟨?_, ?_⟩
    · intro c
      by_contra failed
      obtain ⟨e, refused⟩ := (exists_error_iff vars).mpr ⟨c, failed⟩
      cases read.symm.trans refused
    · obtain ⟨env, name, url, _, m, t⟩ := (ofVariables_ok_iff vars s).mp read
      exact ⟨(environment_ok_iff vars _).mp env, name, url, size.mp m, time.mp t⟩
  · rintro ⟨passed, env, name, url, m, t⟩
    have passed := passed .url
    simp only [Check.Passes, Check.key, url, Check.Accepts] at passed
    rw [ofVariables_ok_iff]
    exact ⟨(environment_ok_iff vars _).mpr env, name, url, (visible _).mpr passed, size.mpr m,
      time.mpr t⟩

/-- Variables are refused exactly if a check fails, for the first in the order of the checks; if all
pass, the settings are what they ask for. Only the five names count. -/
theorem ofVariables_first_fault (vars : Variables) :
    ((∃ e, ofVariables vars = .error e) ↔ ∃ c, ¬Check.Passes vars c) ∧
      (∀ e, ofVariables vars = .error e ↔
        ∃ c, FirstFailing (Check.Passes vars) Check.order c ∧ e = c.fault vars) ∧
      (∀ s, ofVariables vars = .ok s ↔ (∀ c, Check.Passes vars c) ∧ Asks vars s) ∧
      ofVariables vars = ofVariables (vars.only names) := by
  refine ⟨exists_error_iff vars, ofVariables_error_iff vars, ofVariables_ok_iff_asks vars, ?_⟩
  apply ofVariables_congr
  intro name member
  exact (if_pos member).symm

example : ofVariables (.ofList [("APP_ENV", " qa"), ("DATABASE_URL", " ")]) =
    .error (.invalid "APP_ENV" " qa") := rfl

end Settings
end PgJson
