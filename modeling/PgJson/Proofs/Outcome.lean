import PgJson.Outcome
import Mathlib.Data.List.Forall2

namespace PgJson

theorem bind_ok_iff {ε α β : Type} (x : Except ε α) (f : α → Except ε β) (b : β) :
    x >>= f = .ok b ↔ ∃ a, x = .ok a ∧ f a = .ok b := by
  cases x with
  | error e =>
      refine ⟨(nomatch ·), ?_⟩
      rintro ⟨a, same, _⟩
      cases same
  | ok a =>
      constructor
      · intro done
        exact ⟨a, rfl, done⟩
      · rintro ⟨a', same, done⟩
        cases same
        exact done

theorem bind_error_iff {ε α β : Type} (x : Except ε α) (f : α → Except ε β) (e : ε) :
    x >>= f = .error e ↔ x = .error e ∨ ∃ a, x = .ok a ∧ f a = .error e := by
  cases x with
  | error e' =>
      show (Except.error e' : Except ε β) = .error e ↔ _
      simp
  | ok a =>
      show f a = .error e ↔ _
      simp

namespace Outcome

variable {ε ε' α β : Type}

theorem map_ok_iff (f : α → β) (o : Outcome ε α) (b : β) :
    f <$> o = .ok b ↔ ∃ a, o = .ok a ∧ f a = b := by
  constructor
  · intro mapped
    cases o with
    | error failure => cases mapped
    | ok a =>
        cases mapped
        exact ⟨a, rfl, rfl⟩
  · rintro ⟨a, rfl, rfl⟩
    rfl

theorem map_error_iff (f : α → β) (o : Outcome ε α) (failure : Failure ε) :
    f <$> o = .error failure ↔ o = .error failure := by
  cases o with
  | error cause =>
      show (Except.error cause : Outcome ε β) = .error failure ↔ _
      simp only [Except.error.injEq]
  | ok a => exact ⟨(nomatch ·), (nomatch ·)⟩

theorem mapCause_ok_iff (f : ε → ε') (o : Outcome ε α) (a : α) :
    o.mapCause f = .ok a ↔ o = .ok a := by
  cases o with
  | ok b => simp only [mapCause, Except.ok.injEq]
  | error failure =>
      cases failure with
      | error cause => exact ⟨(nomatch ·), (nomatch ·)⟩
      | crash => exact ⟨(nomatch ·), (nomatch ·)⟩

theorem mapCause_error (f : ε → ε') (o : Outcome ε α) (e : ε')
    (failed : o.mapCause f = .error (.error e)) :
    ∃ cause, o = .error (.error cause) ∧ e = f cause := by
  cases o with
  | ok a => cases failed
  | error failure =>
      cases failure with
      | crash => cases failed
      | error cause =>
          cases failed
          exact ⟨cause, rfl, rfl⟩

theorem mapCause_crash_iff (f : ε → ε') (o : Outcome ε α) : o.mapCause f = crash ↔ o = crash := by
  cases o with
  | ok a => exact ⟨(nomatch ·), (nomatch ·)⟩
  | error failure =>
      cases failure with
      | crash => exact ⟨fun _ => rfl, fun _ => rfl⟩
      | error cause => exact ⟨(nomatch ·), (nomatch ·)⟩

theorem forall₂_of_mapM (f : α → Outcome ε β) (xs : List α) (ys : List β)
    (done : xs.mapM f = .ok ys) : List.Forall₂ (fun x y => f x = .ok y) xs ys := by
  induction xs generalizing ys with
  | nil =>
      cases done
      exact .nil
  | cons x xs ih =>
      rw [List.mapM_cons] at done
      cases first : f x with
      | error failure =>
          rw [first] at done
          cases done
      | ok y =>
          cases others : xs.mapM f with
          | error failure =>
              rw [first, others] at done
              cases done
          | ok rest =>
              rw [first, others] at done
              cases done
              exact .cons first (ih rest others)

theorem mapM_error_iff (f : α → Outcome ε β) (xs : List α) (failure : Failure ε) :
    xs.mapM f = .error failure ↔
      ∃ (i : Nat) (x : α), xs[i]? = some x ∧ f x = .error failure ∧
        ∀ j < i, ∀ y, xs[j]? = some y → ∃ b, f y = .ok b := by
  induction xs with
  | nil =>
      constructor
      · intro failed
        cases failed
      · rintro ⟨i, x, found, _⟩
        cases found
  | cons x xs ih =>
      rw [List.mapM_cons]
      cases first : f x with
      | error cause =>
          constructor
          · intro failed
            cases failed
            refine ⟨0, x, rfl, first, ?_⟩
            intro j before
            cases before
          · rintro ⟨i, y, found, failed, before⟩
            cases i with
            | zero =>
                cases found
                rw [first] at failed
                cases failed
                rfl
            | succ i =>
                obtain ⟨b, done⟩ := before 0 (Nat.succ_pos i) x rfl
                rw [first] at done
                cases done
      | ok b =>
          have onward : (do
              let value ← (Except.ok b : Outcome ε β)
              let values ← xs.mapM f
              pure (value :: values)) = .error failure ↔ xs.mapM f = .error failure := by
            show (do let values ← xs.mapM f; pure (b :: values)) = _ ↔ _
            rw [bind_error_iff]
            exact or_iff_left fun later => nomatch later.choose_spec.2
          rw [onward, ih]
          constructor
          · rintro ⟨i, y, found, failed, before⟩
            refine ⟨i + 1, y, found, failed, ?_⟩
            intro j earlier z there
            cases j with
            | zero =>
                cases there
                exact ⟨b, first⟩
            | succ j => exact before j (Nat.lt_of_succ_lt_succ earlier) z there
          · rintro ⟨i, y, found, failed, before⟩
            cases i with
            | zero =>
                cases found
                rw [first] at failed
                cases failed
            | succ i =>
                refine ⟨i, y, found, failed, ?_⟩
                intro j earlier z there
                exact before (j + 1) (Nat.succ_lt_succ earlier) z there

theorem exists_mapM_ok_iff (f : α → Outcome ε β) (xs : List α) :
    (∃ ys, xs.mapM f = .ok ys) ↔ ∀ x ∈ xs, ∃ y, f x = .ok y := by
  constructor
  · rintro ⟨ys, done⟩
    have each := forall₂_of_mapM f xs ys done
    clear done
    induction each with
    | nil => simp
    | cons first others ih =>
        intro x member
        rcases List.mem_cons.mp member with rfl | member
        · exact ⟨_, first⟩
        · exact ih x member
  · intro all
    cases result : xs.mapM f with
    | ok ys => exact ⟨ys, rfl⟩
    | error failure =>
        obtain ⟨i, x, found, failed, _⟩ := (mapM_error_iff f xs failure).mp result
        obtain ⟨y, done⟩ := all x (List.mem_of_getElem? found)
        rw [failed] at done
        cases done

end Outcome
end PgJson
