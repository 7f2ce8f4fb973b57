import PgJson.Proofs.Server.Search

namespace PgJson.Connection

/-- The columns that the rows of a statement come in: those known for its text, or else those that
the server describes, if all their types are found. -/
def layout? (s : Server) (capacity : Nat) (c : Connection) (sql : String) (r : Reply) :
    Option (List Column) :=
  match c.find? (.client sql) with
  | some st => some st.columns
  | none => ((columns s capacity r.columns).perform c).1

/-- Where a reply breaks off while a statement is under way. A text that the connection knows is not
parsed again, and after a description with a type that is not found nothing more is asked for. -/
def break? (s : Server) (capacity : Nat) (c : Connection) (sql : String) (r : Reply) :
    Option Break :=
  match r.interruption with
  | none => none
  | some (.parse, b) => if (c.find? (.client sql)).isSome then none else some b
  | some (_, b) => if (c.layout? s capacity sql r).isSome then some b else none

/-- A statement that the connection knows, or that the server parses and whose columns have types
that it can tell. -/
def Described (s : Server) (c : Connection) (sql : String) (r : Reply) : Prop :=
  (c.find? (.client sql)).isSome ∨
    (∀ b, r.interruption ≠ some (.parse, b)) ∧
      ∀ column ∈ r.columns, ∃ n t, Denotes s c n column.2 t

/-- What the server gets of a call. The types of a statement that the connection knows are those it
was described by. The values follow once the statement has been described. -/
structure SentFor (s : Server) (c : Connection) (call : Call) (r : Reply) (x : Sent) : Prop where
  sql : x.sql = call.sql
  types : x.types = match c.find? (.client call.sql) with
    | none => (call.params.map Parameter.ofJson).map Parameter.typeName
    | some st => st.types
  bound : Described s c call.sql r →
    x.values = some ((call.params.map Parameter.ofJson).map Parameter.bytes?)
  unbound : ¬ Described s c call.sql r → x.values = none

section

variable (s : Server) (capacity : Nat) (c : Connection) (r : Reply)

theorem layout?_of_unknown (sql : String) (unknown : c.find? (.client sql) = none)
    (found : List Column) :
    c.layout? s capacity sql r = some found ↔ List.Forall₂ (Describes s c) r.columns found := by
  rw [layout?, unknown]
  exact columns_eq_some_iff s capacity c r.columns found

/-- There is a layout exactly if the connection knows the statement or every column is of a type that
the server comes with, that the connection has asked about, or that the server knows down to all the
types that it is made from. -/
theorem layout?_isSome_iff (sql : String) :
    (c.layout? s capacity sql r).isSome ↔ (c.find? (.client sql)).isSome ∨
      ∀ column ∈ r.columns, ∃ n t, Denotes s c n column.2 t := by
  unfold layout?
  cases c.find? (.client sql) with
  | some st => simp
  | none => simpa using columns_isSome_iff s capacity c r.columns

theorem prepare_of_known (sql : String) (types : List String) (st : Statement)
    (known : c.find? (.client sql) = some st) :
    prepare s capacity c sql types r = (.ok st, c.keep capacity st) := by
  unfold prepare
  rw [known]

theorem prepare_of_broken (sql : String) (types : List String) (b : Break)
    (unknown : c.find? (.client sql) = none) (broken : r.interruption = some (.parse, b)) :
    prepare s capacity c sql types r = (.error b.cause, b.after c) := by
  unfold prepare
  rw [unknown, broken]

theorem prepare_of_parsed (sql : String) (types : List String)
    (unknown : c.find? (.client sql) = none) (parsed : ∀ b, r.interruption ≠ some (.parse, b)) :
    prepare s capacity c sql types r =
      match (columns s capacity r.columns).perform c with
      | (none, c) => (.error .rowNotFound, c)
      | (some columns, c) =>
        (.ok ⟨.client sql, types, columns⟩, c.keep capacity ⟨.client sql, types, columns⟩) := by
  unfold prepare
  rw [unknown]
  split
  · next known => cases known
  · next b _ broken => exact absurd broken (parsed b)
  · rfl

theorem exchange_of_tooMany (call : Call) (many : valueLimit < call.params.length) :
    c.exchange s capacity call r = (.error (tooMany call.params.length), none) := by
  unfold exchange
  rw [if_pos many]

theorem exchange_of_prepared (call : Call) (few : call.params.length ≤ valueLimit) :
    let parameters := call.params.map Parameter.ofJson
    let types := parameters.map Parameter.typeName
    ∃ e, (c.exchange s capacity call r).2 = some e ∧
      e.sent = match (prepare s capacity c call.sql types r).1 with
        | .error _ => ⟨call.sql, types, none⟩
        | .ok st => ⟨call.sql, st.types, some (parameters.map Parameter.bytes?)⟩ := by
  intro parameters types
  unfold exchange
  rw [if_neg (Nat.not_lt.mpr few)]
  cases prepare s capacity c call.sql types r with
  | mk prepared after =>
      cases prepared with
      | error e => exact ⟨_, rfl, rfl⟩
      | ok st =>
          cases r.interruption with
          | none => exact ⟨_, rfl, rfl⟩
          | some stop =>
              obtain ⟨stage, b⟩ := stop
              cases stage with
              | parse => exact ⟨_, rfl, rfl⟩
              | bind => exact ⟨_, rfl, rfl⟩
              | rows => exact ⟨_, rfl, rfl⟩

/-- A statement is prepared exactly if it is described, with the types asked for unless the
connection knows others. -/
theorem prepare_cases (sql : String) (types : List String) :
    (Described s c sql r ∧ ∃ st, (prepare s capacity c sql types r).1 = .ok st ∧
        st.types = match c.find? (.client sql) with
          | none => types
          | some st => st.types) ∨
      ¬ Described s c sql r ∧ c.find? (.client sql) = none ∧
        ∃ e, (prepare s capacity c sql types r).1 = .error e := by
  cases known : c.find? (.client sql) with
  | some st =>
      rw [prepare_of_known s capacity c r sql types st known]
      exact .inl ⟨.inl (by simp [known]), st, rfl, rfl⟩
  | none =>
      by_cases parsed : ∀ b, r.interruption ≠ some (.parse, b)
      · rw [prepare_of_parsed s capacity c r sql types known parsed]
        have found_iff := columns_isSome_iff s capacity c r.columns
        cases found : (columns s capacity r.columns).perform c with
        | mk columns after =>
            rw [found] at found_iff
            cases columns with
            | none =>
                refine .inr ⟨?_, rfl, _, rfl⟩
                rintro (within | ⟨_, types⟩)
                · simp [known] at within
                · exact absurd (found_iff.mpr types) (by simp)
            | some columns => exact .inl ⟨.inr ⟨parsed, found_iff.mp rfl⟩, _, rfl, rfl⟩
      · obtain ⟨b, broken⟩ : ∃ b, r.interruption = some (.parse, b) := by
          simpa using parsed
        rw [prepare_of_broken s capacity c r sql types b known broken]
        refine .inr ⟨?_, rfl, _, rfl⟩
        rintro (within | ⟨parsed', _⟩)
        · simp [known] at within
        · exact parsed' b broken

theorem exchange_sent (call : Call) (few : call.params.length ≤ valueLimit) :
    ∃ e, (c.exchange s capacity call r).2 = some e ∧ SentFor s c call r e.sent := by
  obtain ⟨e, ended, sent⟩ := exchange_of_prepared s capacity c r call few
  refine ⟨e, ended, ?_⟩
  rcases prepare_cases s capacity c r call.sql
    ((call.params.map Parameter.ofJson).map Parameter.typeName) with
    ⟨described, st, prepared, types⟩ | ⟨other, unknown, cause, failed⟩
  · rw [prepared] at sent
    rw [sent]
    exact ⟨rfl, types, fun _ => rfl, fun lost => absurd described lost⟩
  · rw [failed] at sent
    rw [sent]
    exact ⟨rfl, by rw [unknown], fun described => absurd described other, fun _ => rfl⟩

theorem exchange_eq (call : Call) :
    (c.exchange s capacity call r).1 =
      if valueLimit < call.params.length then .error (tooMany call.params.length)
      else match c.break? s capacity call.sql r, c.layout? s capacity call.sql r with
      | some b, _ => .error b.cause
      | none, none => .error .rowNotFound
      | none, some columns => .ok (columns, r.rows) := by
  unfold exchange
  split
  · rfl
  · unfold prepare break? layout?
    cases known : c.find? (.client call.sql) with
    | some st =>
        cases r.interruption with
        | none => rfl
        | some stop =>
            obtain ⟨stage, b⟩ := stop
            cases stage with
            | parse => rfl
            | bind => rfl
            | rows => rfl
    | none =>
        cases described : (columns s capacity r.columns).perform c with
        | mk found after =>
            cases interrupted : r.interruption with
            | none =>
                cases found with
                | none => rfl
                | some columns => rfl
            | some stop =>
                obtain ⟨stage, b⟩ := stop
                cases stage with
                | parse => rfl
                | bind =>
                    cases found with
                    | none => rfl
                    | some columns => rfl
                | rows =>
                    cases found with
                    | none => rfl
                    | some columns => rfl

end

end PgJson.Connection
