import PgJson.Proofs.Server.Types

/-! The search for types, over a connection that learns on the way: it finds all that the server can
tell, and nothing else. -/

namespace PgJson.Connection

/-- A connection that has come from another knows all that that one did, and only what is so. -/
structure Grown (s : Server) (c later : Connection) : Prop where
  keeps : ∀ oid t, c.known? oid = some t → later.known? oid = some t
  sound : ∀ oid t, later.known? oid = some t → ∃ n, Denotes s c n (.numbered oid) t

theorem Grown.of_types (s : Server) (c later later' : Connection) (grown : Grown s c later)
    (same : later'.types = later.types) : Grown s c later' := by
  have known : ∀ oid, later'.known? oid = later.known? oid := by
    intro oid
    simp only [known?, same]
  constructor
  · intro oid t found
    rw [known]
    exact grown.keeps oid t found
  · intro oid t found
    rw [known] at found
    exact grown.sound oid t found

theorem Grown.refl (s : Server) (c : Connection) : Grown s c c := by
  constructor
  · intro oid t found
    exact found
  · intro oid t found
    exact ⟨0, .known 0 oid t found⟩

theorem Grown.learn (s : Server) (c later : Connection) (grown : Grown s c later) (n oid : Nat)
    (t : SqlType) (denotes : Denotes s c n (.numbered oid) t) :
    Grown s c { later with types := (oid, t) :: later.types } := by
  have other : ∀ oid', oid' ≠ oid →
      known? { later with types := (oid, t) :: later.types } oid' = later.known? oid' := by
    intro oid' apart
    simp only [known?, List.lookup_cons, beq_false_of_ne apart]
  have itself : ∀ u, known? { later with types := (oid, t) :: later.types } oid = some u →
      ∃ m, Denotes s c m (.numbered oid) u := by
    intro u found
    cases number : SqlType.ofNumber? oid with
    | none =>
        obtain rfl : t = u := by simpa [known?, number] using found
        exact ⟨n, denotes⟩
    | some v =>
        obtain rfl : v = u := by simpa [known?, number] using found
        exact ⟨0, .known 0 oid v (by simp [known?, number])⟩
  -- What is learnt twice is learnt alike, since a number stands for one type.
  constructor
  · intro oid' u found
    by_cases same : oid' = oid
    · subst same
      cases found' : known? { later with types := (oid', t) :: later.types } oid' with
      | none => simp [known?] at found'
      | some v =>
          obtain ⟨m, now⟩ := itself v found'
          rw [now.unique s c (.known 0 oid' u found)]
    · rw [other oid' same]
      exact grown.keeps oid' u found
  · intro oid' u found
    by_cases same : oid' = oid
    · subst same
      exact itself u found
    · rw [other oid' same] at found
      exact grown.sound oid' u found

/-- What a task finds is right, and it finds something if all that it needs is in reach. The
connection may have been used before, and is used up to here only to learn. -/
def Finds {α : Type} (s : Server) (c : Connection) (task : Task α) (right : α → Prop)
    (reach : Prop) : Prop :=
  ∀ later, Grown s c later → Grown s c (task.perform later).2 ∧
    (∀ a, (task.perform later).1 = some a → right a) ∧
    (reach → ∃ a, (task.perform later).1 = some a)

section Tasks

variable {α β : Type} {s : Server} {c : Connection} {right : α → Prop} {right' : β → Prop}
  {reach : Prop}

theorem Task.perform_bind (t : Task α) (f : α → Task β) (c : Connection) :
    (t >>= f).perform c =
      match t.perform c with
      | (none, c) => (none, c)
      | (some a, c) => (f a).perform c := by
  simp only [perform, OptionT.run_bind, Option.elimM, StateT.run_bind]
  cases (t.run).run c with
  | mk found c =>
      cases found with
      | none => rfl
      | some a => rfl

theorem Finds.pure (a : α) (so : right a) : Finds s c (Pure.pure a) right reach := by
  intro later grown
  refine ⟨grown, ?_, fun _ => ⟨a, rfl⟩⟩
  intro b same
  cases same
  exact so

theorem Finds.failure (out : ¬ reach) : Finds s c (failure : Task α) right reach := by
  intro later grown
  exact ⟨grown, fun _ none => (nomatch none), fun within => absurd within out⟩

theorem Finds.bind {t : Task α} {f : α → Task β} (first : Finds s c t right reach)
    (next : ∀ a, right a → Finds s c (f a) right' reach) : Finds s c (t >>= f) right' reach := by
  intro later grown
  obtain ⟨grown, sound, complete⟩ := first later grown
  rw [Task.perform_bind]
  cases ended : t.perform later with
  | mk found later =>
      rw [ended] at grown sound complete
      cases found with
      | none =>
          refine ⟨grown, fun _ none => (nomatch none), ?_⟩
          intro within
          obtain ⟨_, none⟩ := complete within
          cases none
      | some a => exact next a (sound a rfl) later grown

theorem Finds.mono {right₂ : α → Prop} {reach₂ : Prop} {t : Task α}
    (finds : Finds s c t right reach) (weaker : ∀ a, right a → right₂ a)
    (nearer : reach₂ → reach) : Finds s c t right₂ reach₂ := by
  intro later grown
  obtain ⟨grown, sound, complete⟩ := finds later grown
  exact ⟨grown, fun a found => weaker a (sound a found), fun within => complete (nearer within)⟩

theorem Finds.get_bind {f : Connection → Task β}
    (next : ∀ later, Grown s c later → Finds s c (f later) right' reach) :
    Finds s c (get >>= f) right' reach :=
  fun later grown => next later grown later grown

theorem Finds.modify {f : Connection → Connection}
    (learns : ∀ later, Grown s c later → Grown s c (f later)) :
    Finds s c (modify f : Task Unit) (fun _ => True) reach :=
  fun later grown => ⟨learns later grown, fun _ _ => trivial, fun _ => ⟨(), rfl⟩⟩

theorem Finds.ask (capacity : Nat) (q : Question) :
    Finds s c (ask capacity q) (fun _ => True) reach := by
  apply Finds.modify
  intro later grown
  exact .of_types s c later _ grown rfl

theorem Finds.mapM {γ : Type} {f : γ → Task α} {rights : γ → α → Prop} (xs : List γ)
    (each : ∀ x ∈ xs, Finds s c (f x) (rights x) reach) :
    Finds s c (xs.mapM f) (List.Forall₂ rights xs) reach := by
  induction xs with
  | nil => exact .pure [] .nil
  | cons x xs ih =>
      rw [List.mapM_cons]
      apply Finds.bind (each x (List.mem_cons_self ..))
      intro a first
      apply Finds.bind (ih fun y member => each y (List.mem_cons_of_mem x member))
      intro as rest
      exact .pure (a :: as) (.cons first rest)

theorem ownType_finds (capacity : Nat) (find : TypeRef → Task SqlType)
    {rights : TypeRef → SqlType → Prop} (own : OwnType)
    (each : ∀ ref ∈ own.shape.parts, Finds s c (find ref) (rights ref) reach) :
    Finds s c (ownType capacity find own)
      (fun t => ∃ part : TypeRef → SqlType,
        (∀ ref ∈ own.shape.parts, rights ref (part ref)) ∧ t = own.made part) reach := by
  obtain ⟨oid, name, shape⟩ := own
  cases shape with
  | simple => exact .pure _ ⟨fun _ => .own name, nofun, rfl⟩
  | labels =>
      apply Finds.bind (Finds.ask capacity .labels)
      intro _ _
      exact .pure _ ⟨fun _ => .own name, nofun, rfl⟩
  | domain base =>
      apply Finds.bind (each base (by simp [TypeShape.parts]))
      intro t found
      exact .pure _ ⟨fun _ => t, by simpa [TypeShape.parts] using found, rfl⟩
  | array element =>
      apply Finds.bind (each element (by simp [TypeShape.parts]))
      intro t found
      exact .pure _ ⟨fun _ => t, by simpa [TypeShape.parts] using found, rfl⟩
  | range bound =>
      apply Finds.bind (Finds.ask capacity .bound)
      intro _ _
      apply Finds.bind (each bound (by simp [TypeShape.parts]))
      intro t found
      exact .pure _ ⟨fun _ => t, by simpa [TypeShape.parts] using found, rfl⟩
  | composite fields =>
      apply Finds.bind (Finds.ask capacity .fields)
      intro _ _
      apply Finds.bind (Finds.mapM fields each)
      intro types found
      -- A reference may stand in several fields; any of them tells what it stands for.
      have chosen : ∀ ref, ∃ t, ref ∈ fields → rights ref t := by
        intro ref
        by_cases member : ref ∈ fields
        · obtain ⟨i, within, rfl⟩ := List.getElem_of_mem member
          have within' : i < types.length := found.length_eq ▸ within
          exact ⟨types[i], fun _ => found.get within within'⟩
        · exact ⟨.own name, fun present => absurd present member⟩
      choose part so using chosen
      exact .pure _ ⟨part, so, rfl⟩

/-- The search is right at any depth, and complete for what it can reach in so many levels. -/
theorem typeOf_finds (s : Server) (capacity : Nat) (c : Connection) (depth : Nat) (ref : TypeRef) :
    Finds s c (typeOf s capacity depth ref) (fun t => ∃ n, Denotes s c n ref t)
      (∃ n t, n < depth ∧ Denotes s c n ref t) := by
  induction depth generalizing ref with
  | zero =>
      cases ref with
      | named name => exact .pure _ ⟨0, .named 0 name⟩
      | numbered oid =>
          apply Finds.failure
          rintro ⟨n, t, early, _⟩
          exact absurd early (Nat.not_lt_zero n)
  | succ depth ih =>
      cases ref with
      | named name => exact .pure _ ⟨0, .named 0 name⟩
      | numbered oid =>
          apply Finds.get_bind
          intro later grown
          cases found : (SqlType.ofNumber? oid).or (later.types.lookup oid) with
          | some t => exact .pure t (grown.sound oid t found)
          | none =>
              have unknown : c.known? oid = none := by
                cases before : c.known? oid with
                | none => rfl
                | some t => exact absurd (grown.keeps oid t before) (by simp [known?, found])
              apply Finds.bind (Finds.ask capacity .type)
              intro _ _
              cases listed : s.ownType? oid with
              | none =>
                  apply Finds.failure
                  rintro ⟨n, t, _, denotes⟩
                  cases denotes with
                  | known _ _ _ found => simp [unknown] at found
                  | own _ _ _ _ _ found => simp [listed] at found
              | some own =>
                  -- The parts of a type within reach are in reach one level further down.
                  have each : ∀ ref ∈ own.shape.parts, Finds s c (typeOf s capacity depth ref)
                      (fun t => ∃ n, Denotes s c n ref t)
                      (∃ n t, n < depth + 1 ∧ Denotes s c n (.numbered oid) t) := by
                    intro ref member
                    apply (ih ref).mono (fun _ so => so)
                    rintro ⟨n, t, within, denotes⟩
                    cases denotes with
                    | known _ _ _ found => simp [unknown] at found
                    | own n _ own' part _ listed' parts =>
                        have same : own = own' := Option.some.inj (listed.symm.trans listed')
                        subst same
                        exact ⟨n, part ref, by omega, parts ref member⟩
                  apply Finds.bind (ownType_finds capacity _ own each)
                  rintro t ⟨part, parts, rfl⟩
                  have denotes : Denotes s c (s.types.length + 1) (.numbered oid)
                      (own.made part) := by
                    apply Denotes.own _ oid own part unknown listed
                    intro ref member
                    obtain ⟨n, denotes⟩ := parts ref member
                    exact denotes.within_length s c
                  apply Finds.bind
                  · apply Finds.modify
                    intro later grown
                    exact grown.learn s c later _ oid _ denotes
                  · intro _ _
                    exact .pure _ ⟨_, denotes⟩

end Tasks

/-! ## Columns -/

def Describes (s : Server) (c : Connection) (named : String × TypeRef) (column : Column) : Prop :=
  column.name = named.1 ∧ ∃ n, Denotes s c n named.2 column.type

theorem describes_unique (s : Server) (c : Connection) : Relator.RightUnique (Describes s c) := by
  intro named column column' one other
  obtain ⟨name, n, denotes⟩ := one
  obtain ⟨name', m, denotes'⟩ := other
  obtain ⟨_, type⟩ := column
  obtain ⟨_, type'⟩ := column'
  obtain rfl : type = type' := denotes.unique s c denotes'
  obtain rfl : _ = _ := name.trans name'.symm
  rfl

theorem Describes.known {s : Server} {c : Connection} {named : List (String × TypeRef)}
    {found : List Column} (described : List.Forall₂ (Describes s c) named found) :
    ∀ column ∈ named, ∃ n t, Denotes s c n column.2 t := by
  intro column member
  obtain ⟨i, within, rfl⟩ := List.getElem_of_mem member
  obtain ⟨_, n, denotes⟩ := described.get within (described.length_eq ▸ within)
  exact ⟨n, _, denotes⟩

theorem columns_finds (s : Server) (capacity : Nat) (c : Connection)
    (named : List (String × TypeRef)) :
    Finds s c (columns s capacity named) (List.Forall₂ (Describes s c) named)
      (∀ column ∈ named, ∃ n t, Denotes s c n column.2 t) := by
  apply Finds.mapM
  intro column member
  obtain ⟨name, ref⟩ := column
  have found := typeOf_finds s capacity c (s.types.length + 1) ref
  show Finds s c ((Column.mk name) <$> typeOf s capacity (s.types.length + 1) ref) _ _
  rw [map_eq_pure_bind]
  apply Finds.bind (found.mono (fun _ so => so) ?_)
  · intro t denotes
    exact .pure _ ⟨rfl, denotes⟩
  · intro known
    obtain ⟨n, t, denotes⟩ := known _ member
    exact ⟨s.types.length, t, Nat.lt_succ_self _, denotes.within_length s c⟩

/-- The columns of a statement are found exactly if each type stands for something, and they are the
ones that the names and types stand for. -/
theorem columns_eq_some_iff (s : Server) (capacity : Nat) (c : Connection)
    (named : List (String × TypeRef)) (found : List Column) :
    ((columns s capacity named).perform c).1 = some found ↔
      List.Forall₂ (Describes s c) named found := by
  obtain ⟨_, sound, complete⟩ := columns_finds s capacity c named c (.refl s c)
  constructor
  · exact sound found
  · intro described
    obtain ⟨found', ended⟩ := complete (Describes.known described)
    rw [ended, (describes_unique s c).forall₂ described (sound found' ended)]

theorem columns_isSome_iff (s : Server) (capacity : Nat) (c : Connection)
    (named : List (String × TypeRef)) :
    ((columns s capacity named).perform c).1.isSome ↔
      ∀ column ∈ named, ∃ n t, Denotes s c n column.2 t := by
  obtain ⟨_, sound, complete⟩ := columns_finds s capacity c named c (.refl s c)
  rw [Option.isSome_iff_exists]
  constructor
  · rintro ⟨found, ended⟩
    exact Describes.known (sound found ended)
  · exact complete

end PgJson.Connection
