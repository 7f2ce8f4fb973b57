import PgJson.Proofs.Settings.Loaders
import Mathlib.Logic.Relation

/-!
The forms that settings are read from. Each of the three structures is an object or an array, and what
is read depends on nothing but the values of its fields.
-/

namespace PgJson
namespace Settings

inductive Record where
  | settings
  | app
  | database

namespace Record

def fields : Record → List String
  | settings => ["app", "database"]
  | app => ["name", "env"]
  | database => ["url", "max_connections", "timeout_secs"]

def required : Record → Nat
  | settings => 2
  | app => 0
  | database => 1

/-- The value of the field at a place: of an array the item, of an object what has the name. -/
def field? (r : Record) (place : Nat) : Json → Option Json
  | .array items => items[place]?
  | .object members => r.fields[place]?.bind fun name => members.lookup name
  | _ => none

def Fits (r : Record) : Json → Prop
  | .array items => items.length ≤ r.fields.length
  | .object _ => True
  | _ => False

def named (r : Record) (items : List Json) : Json := .ofMembers (r.fields.zip items)

def withField (r : Record) (place : Nat) (x : Json) : Json → Json
  | .array items => .array (items.set place x)
  | .object members =>
    .object (r.fields[place]?.elim members fun name => Json.put name x members)
  | v => v

def find? : Record → Json → Option Json
  | settings, v => some v
  | app, v => settings.field? 0 v
  | database, v => settings.field? 1 v

def replace (inner : Json) : Record → Json → Json
  | settings, _ => inner
  | app, v => settings.withField 0 inner v
  | database, v => settings.withField 1 inner v

/-! ## Fields -/

theorem fields_nodup (r : Record) : r.fields.Nodup := by
  cases r with
  | settings => decide
  | app => decide
  | database => decide

theorem field?_put (r : Record) (place : Nat) (name : String) (x : Json)
    (members : List (String × Json)) (unknown : name ∉ r.fields) :
    r.field? place (.object (Json.put name x members)) = r.field? place (.object members) := by
  simp only [field?]
  cases known : r.fields[place]? with
  | none => rfl
  | some field =>
      have other : field ≠ name := by
        rintro rfl
        exact unknown (List.mem_of_getElem? known)
      simp only [Option.bind_some, Json.lookup_put, if_neg other]

theorem names_zip (names : List String) (items : List Json) (distinct : names.Nodup) :
    ((names.zip items).map (·.1)).Nodup := by
  induction names generalizing items with
  | nil => exact List.nodup_nil
  | cons name names ih =>
      obtain ⟨new, distinct⟩ := List.nodup_cons.mp distinct
      cases items with
      | nil => exact List.nodup_nil
      | cons x items =>
          refine List.nodup_cons.mpr ⟨?_, ih items distinct⟩
          intro member
          obtain ⟨m, held, same⟩ := List.mem_map.mp member
          have same : m.1 = name := same
          apply new
          rw [← same]
          exact (List.of_mem_zip held).1

theorem lookup_zip (names : List String) (items : List Json) (distinct : names.Nodup)
    (place : Nat) (name : String) (known : names[place]? = some name) :
    (Json.members (names.zip items)).lookup name = items[place]? := by
  cases held : items[place]? with
  | some x =>
      have pair : (names.zip items)[place]? = some (name, x) :=
        List.getElem?_zip_eq_some.mpr ⟨known, held⟩
      exact Json.get?_ofMembers _ (names_zip names items distinct) name x
        (List.mem_of_getElem? pair)
  | none =>
      rw [Json.lookup_members, List.lookup_eq_none_iff]
      intro m member
      rw [bne_iff_ne]
      rintro rfl
      obtain ⟨other, pair⟩ := List.mem_iff_getElem?.mp (List.mem_reverse.mp member)
      obtain ⟨field, item⟩ := List.getElem?_zip_eq_some.mp pair
      obtain ⟨small, _⟩ := List.getElem?_eq_some_iff.mp known
      have same : place = other := (List.getElem?_inj small distinct).mp (known.trans field.symm)
      rw [same, item] at held
      cases held

theorem field?_named (r : Record) (place : Nat) (items : List Json)
    (few : items.length ≤ r.fields.length) :
    r.field? place (r.named items) = r.field? place (.array items) := by
  simp only [named, Json.ofMembers, field?]
  cases known : r.fields[place]? with
  | none =>
      have past := few.trans (List.getElem?_eq_none_iff.mp known)
      exact (List.getElem?_eq_none past).symm
  | some name => exact lookup_zip r.fields items r.fields_nodup place name known

theorem field?_withField_self (r : Record) (place : Nat) (x old v : Json)
    (held : r.field? place v = some old) : r.field? place (r.withField place x v) = some x := by
  cases v with
  | array items =>
      obtain ⟨small, _⟩ := List.getElem?_eq_some_iff.mp held
      exact List.getElem?_set_self small
  | object members =>
      simp only [withField, field?] at held ⊢
      cases known : r.fields[place]? with
      | none =>
          rw [known] at held
          cases held
      | some name => simp only [Option.elim_some, Option.bind_some, Json.lookup_put, if_pos]
  | null | bool _ | number _ | string _ => cases held

theorem field?_withField_ne (r : Record) (place other : Nat) (x v : Json) (distinct : place ≠ other) :
    r.field? other (r.withField place x v) = r.field? other v := by
  cases v with
  | array items => exact List.getElem?_set_ne distinct
  | object members =>
      simp only [withField, field?]
      cases known : r.fields[place]? with
      | none => rfl
      | some name =>
          cases asked : r.fields[other]? with
          | none => rfl
          | some name' =>
              have distinct' : name' ≠ name := by
                rintro rfl
                obtain ⟨small, _⟩ := List.getElem?_eq_some_iff.mp known
                exact distinct
                  ((List.getElem?_inj small r.fields_nodup).mp (known.trans asked.symm))
              simp only [Option.elim_some, Option.bind_some, Json.lookup_put, if_neg distinct']
  | null | bool _ | number _ | string _ => rfl

theorem fits_withField (r : Record) (place : Nat) (x v : Json) :
    r.Fits (r.withField place x v) ↔ r.Fits v := by
  cases v with
  | array items => simp only [withField, Fits, List.length_set]
  | object members => exact Iff.rfl
  | null | bool _ | number _ | string _ => exact Iff.rfl

/-- Values that a structure is read from alike: their fields are the same. -/
structure Alike (r : Record) (v w : Json) : Prop where
  fits : r.Fits v ↔ r.Fits w
  fields : ∀ place, r.field? place v = r.field? place w

theorem alike_named (r : Record) (items : List Json) (few : items.length ≤ r.fields.length) :
    r.Alike (r.named items) (.array items) :=
  ⟨iff_of_true trivial few, fun place => r.field?_named place items few⟩

end Record

/-! ## What is read -/

theorem noMore_ok_iff (count : Nat) (items : List Json) (u : Unit) :
    noMore count items = .ok u ↔ items.length ≤ count := by
  unfold noMore
  split
  · exact iff_of_false nofun (by omega)
  · exact iff_of_true rfl (by omega)

theorem requiredItem_ok_iff {α : Type} (length : Nat) (expected : String) (given : Option α)
    (a : α) : requiredItem length expected given = .ok a ↔ given = some a := by
  cases given with
  | none => exact iff_of_false nofun nofun
  | some b => simp only [requiredItem, Except.ok.injEq, Option.some.injEq]

theorem requiredField_ok_iff {α : Type} (name : String) (given : Option α) (a : α) :
    requiredField name given = .ok a ↔ given = some a := by
  cases given with
  | none => exact iff_of_false nofun nofun
  | some b => simp only [requiredField, Except.ok.injEq, Option.some.injEq]

theorem appOfJson_ok_iff (v : Json) (app : AppSettings) :
    appOfJson v = .ok app ↔ Record.app.Fits v ∧ ∃ name env,
      optional string (Record.app.field? 0 v) = .ok name ∧
        optional environmentOfJson (Record.app.field? 1 v) = .ok env ∧
        appOfParts name env = app := by
  cases v with
  | array items =>
      simp only [appOfJson, bind_ok_iff, noMore_ok_iff, Except.ok.injEq]
      constructor
      · rintro ⟨name, named, env, placed, _, few, same⟩
        exact ⟨few, name, env, named, placed, same⟩
      · rintro ⟨few, name, env, named, placed, same⟩
        exact ⟨name, named, env, placed, (), few, same⟩
  | object members =>
      simp only [appOfJson, bind_ok_iff, Except.ok.injEq]
      constructor
      · rintro ⟨env, placed, name, named, same⟩
        exact ⟨trivial, name, env, named, placed, same⟩
      · rintro ⟨_, name, env, named, placed, same⟩
        exact ⟨env, placed, name, named, same⟩
  | null | bool _ | number _ | string _ =>
      refine iff_of_false ?_ And.left
      intro read
      cases read

theorem databaseOfJson_ok_iff (v : Json) (d : DatabaseSettings) :
    databaseOfJson v = .ok d ↔ Record.database.Fits v ∧ ∃ url size time,
      optional string (Record.database.field? 0 v) = .ok (some url) ∧
        optional maxConnectionsOfJson (Record.database.field? 1 v) = .ok size ∧
        optional timeoutOfJson (Record.database.field? 2 v) = .ok time ∧
        databaseOfParts url size time = d := by
  cases v with
  | array items =>
      simp only [databaseOfJson, bind_ok_iff, noMore_ok_iff, requiredItem_ok_iff,
        Except.ok.injEq]
      constructor
      · rintro ⟨_, addressed, url, rfl, size, sized, time, timed, _, few, same⟩
        exact ⟨few, url, size, time, addressed, sized, timed, same⟩
      · rintro ⟨few, url, size, time, addressed, sized, timed, same⟩
        exact ⟨some url, addressed, url, rfl, size, sized, time, timed, (), few, same⟩
  | object members =>
      simp only [databaseOfJson, bind_ok_iff, requiredField_ok_iff, Except.ok.injEq]
      constructor
      · rintro ⟨size, sized, time, timed, _, addressed, url, rfl, same⟩
        exact ⟨trivial, url, size, time, addressed, sized, timed, same⟩
      · rintro ⟨_, url, size, time, addressed, sized, timed, same⟩
        exact ⟨size, sized, time, timed, some url, addressed, url, rfl, same⟩
  | null | bool _ | number _ | string _ =>
      refine iff_of_false ?_ And.left
      intro read
      cases read

theorem ofJson_ok_iff (v : Json) (s : Settings) :
    ofJson v = .ok s ↔ Record.settings.Fits v ∧
      optional appOfJson (Record.settings.field? 0 v) = .ok (some s.app) ∧
      optional databaseOfJson (Record.settings.field? 1 v) = .ok (some s.database) := by
  obtain ⟨app, database⟩ := s
  cases v with
  | array items =>
      simp only [ofJson, bind_ok_iff, noMore_ok_iff, requiredItem_ok_iff, Except.ok.injEq,
        Settings.mk.injEq]
      constructor
      · rintro ⟨_, first, _, rfl, _, second, _, rfl, _, few, rfl, rfl⟩
        exact ⟨few, first, second⟩
      · rintro ⟨few, first, second⟩
        exact ⟨_, first, app, rfl, _, second, database, rfl, (), few, rfl, rfl⟩
  | object members =>
      simp only [ofJson, bind_ok_iff, requiredField_ok_iff, Except.ok.injEq, Settings.mk.injEq]
      constructor
      · rintro ⟨_, first, _, second, _, rfl, _, rfl, rfl, rfl⟩
        exact ⟨trivial, first, second⟩
      · rintro ⟨_, first, second⟩
        exact ⟨_, first, _, second, app, rfl, database, rfl, rfl, rfl⟩
  | null | bool _ | number _ | string _ =>
      refine iff_of_false ?_ And.left
      intro read
      cases read

theorem appOfJson_alike (v w : Json) (alike : Record.app.Alike v w) (app : AppSettings) :
    appOfJson v = .ok app ↔ appOfJson w = .ok app := by
  simp only [appOfJson_ok_iff, alike.fits, alike.fields]

theorem databaseOfJson_alike (v w : Json) (alike : Record.database.Alike v w)
    (d : DatabaseSettings) : databaseOfJson v = .ok d ↔ databaseOfJson w = .ok d := by
  simp only [databaseOfJson_ok_iff, alike.fits, alike.fields]

theorem ofJson_alike (v w : Json) (alike : Record.settings.Alike v w) (s : Settings) :
    ofJson v = .ok s ↔ ofJson w = .ok s := by
  simp only [ofJson_ok_iff, alike.fits, alike.fields]

theorem optional_some_ok_iff {α : Type} (read : Json → Except ShapeError α) (v : Json) (a : α) :
    optional read (some v) = .ok (some a) ↔ read v = .ok a := by
  constructor
  · intro done
    rw [optional] at done
    cases value : read v with
    | error e =>
        rw [value] at done
        cases done
    | ok b =>
        rw [value] at done
        cases done
        rfl
  · exact optional_some read v a

theorem optional_item_lt {α : Type} (read : Json → Except ShapeError α) (items : List Json)
    (place : Nat) (a : α) (done : optional read items[place]? = .ok (some a)) :
    place < items.length := by
  cases held : items[place]? with
  | none =>
      rw [held] at done
      cases done
  | some v =>
      obtain ⟨small, _⟩ := List.getElem?_eq_some_iff.mp held
      exact small

theorem ofJson_replace (r : Record) (v inner inner' : Json) (found : r.find? v = some inner)
    (alike : r.Alike inner' inner) (s : Settings) :
    ofJson (r.replace inner' v) = .ok s ↔ ofJson v = .ok s := by
  cases r with
  | settings =>
      cases found
      exact ofJson_alike inner' v alike s
  | app =>
      have own := Record.settings.field?_withField_self 0 inner' inner v found
      have other := Record.settings.field?_withField_ne 0 1 inner' v (by decide)
      have found : Record.settings.field? 0 v = some inner := found
      simp only [Record.replace, ofJson_ok_iff, Record.fits_withField, own, other, found,
        optional_some_ok_iff, appOfJson_alike inner' inner alike]
  | database =>
      have own := Record.settings.field?_withField_self 1 inner' inner v found
      have other := Record.settings.field?_withField_ne 1 0 inner' v (by decide)
      have found : Record.settings.field? 1 v = some inner := found
      simp only [Record.replace, ofJson_ok_iff, Record.fits_withField, own, other, found,
        optional_some_ok_iff, databaseOfJson_alike inner' inner alike]

/-! ## Unknown names -/

theorem appOfJson_put (name : String) (x : Json) (members : List (String × Json))
    (unknown : name ∉ Record.app.fields) :
    appOfJson (.object (Json.put name x members)) = appOfJson (.object members) := by
  have env : (Json.put name x members).lookup "env" = members.lookup "env" :=
    Record.app.field?_put 1 name x members unknown
  have named : (Json.put name x members).lookup "name" = members.lookup "name" :=
    Record.app.field?_put 0 name x members unknown
  rw [appOfJson, appOfJson, env, named]

theorem databaseOfJson_put (name : String) (x : Json) (members : List (String × Json))
    (unknown : name ∉ Record.database.fields) :
    databaseOfJson (.object (Json.put name x members)) = databaseOfJson (.object members) := by
  have url : (Json.put name x members).lookup "url" = members.lookup "url" :=
    Record.database.field?_put 0 name x members unknown
  have size : (Json.put name x members).lookup "max_connections" =
      members.lookup "max_connections" :=
    Record.database.field?_put 1 name x members unknown
  have time : (Json.put name x members).lookup "timeout_secs" = members.lookup "timeout_secs" :=
    Record.database.field?_put 2 name x members unknown
  rw [databaseOfJson, databaseOfJson, url, size, time]

theorem ofJson_put (name : String) (x : Json) (members : List (String × Json))
    (unknown : name ∉ Record.settings.fields) :
    ofJson (.object (Json.put name x members)) = ofJson (.object members) := by
  have app : (Json.put name x members).lookup "app" = members.lookup "app" :=
    Record.settings.field?_put 0 name x members unknown
  have database : (Json.put name x members).lookup "database" = members.lookup "database" :=
    Record.settings.field?_put 1 name x members unknown
  rw [ofJson, ofJson, app, database]

theorem optional_withField {α : Type} (read : Json → Except ShapeError α) (r : Record)
    (place other : Nat) (v inner inner' : Json) (found : r.field? place v = some inner)
    (same : place = other → read inner' = read inner) :
    optional read (r.field? other (r.withField place inner' v)) =
      optional read (r.field? other v) := by
  by_cases own : place = other
  · rw [← own, r.field?_withField_self place inner' inner v found, found, optional, optional,
      same own]
  · rw [r.field?_withField_ne place other inner' v own]

theorem ofJson_withField (place : Nat) (v inner inner' : Json)
    (found : Record.settings.field? place v = some inner)
    (app : place = 0 → appOfJson inner' = appOfJson inner)
    (database : place = 1 → databaseOfJson inner' = databaseOfJson inner) :
    ofJson (Record.settings.withField place inner' v) = ofJson v := by
  have first := optional_withField appOfJson .settings place 0 v inner inner' found app
  have second := optional_withField databaseOfJson .settings place 1 v inner inner' found database
  cases v with
  | array items =>
      have first : optional appOfJson (items.set place inner')[0]? = optional appOfJson items[0]? :=
        first
      have second : optional databaseOfJson (items.set place inner')[1]? =
          optional databaseOfJson items[1]? := second
      rw [Record.withField, ofJson, ofJson, first, second, noMore, noMore, List.length_set]
  | object members =>
      obtain ⟨members', replaced⟩ :
          ∃ members', Record.settings.withField place inner' (.object members) = .object members' :=
        ⟨_, rfl⟩
      rw [replaced] at first second ⊢
      have first : optional appOfJson (members'.lookup "app") =
          optional appOfJson (members.lookup "app") := first
      have second : optional databaseOfJson (members'.lookup "database") =
          optional databaseOfJson (members.lookup "database") := second
      rw [ofJson, ofJson, first, second]
  | null | bool _ | number _ | string _ => cases found

theorem ofJson_replace_put (r : Record) (v : Json) (name : String) (x : Json)
    (members : List (String × Json)) (found : r.find? v = some (.object members))
    (unknown : name ∉ r.fields) :
    ofJson (r.replace (.object (Json.put name x members)) v) = ofJson v := by
  cases r with
  | settings =>
      cases found
      exact ofJson_put name x members unknown
  | app =>
      apply ofJson_withField 0 v _ _ found
      · intro _
        exact appOfJson_put name x members unknown
      · exact nofun
  | database =>
      apply ofJson_withField 1 v _ _ found
      · exact nofun
      · intro _
        exact databaseOfJson_put name x members unknown

/-! ## Arrays of the wrong length -/

theorem length_of_ofJson (r : Record) (v : Json) (items : List Json) (s : Settings)
    (found : r.find? v = some (.array items)) (read : ofJson v = .ok s) :
    r.required ≤ items.length ∧ items.length ≤ r.fields.length := by
  obtain ⟨few, app, database⟩ := (ofJson_ok_iff v s).mp read
  cases r with
  | settings =>
      cases found
      exact ⟨optional_item_lt databaseOfJson items 1 s.database database, few⟩
  | app =>
      have found : Record.settings.field? 0 v = some (.array items) := found
      rw [found, optional_some_ok_iff, appOfJson_ok_iff] at app
      exact ⟨Nat.zero_le _, app.1⟩
  | database =>
      have found : Record.settings.field? 1 v = some (.array items) := found
      rw [found, optional_some_ok_iff, databaseOfJson_ok_iff] at database
      obtain ⟨few, url, _, _, addressed, _⟩ := database
      exact ⟨optional_item_lt string items 0 url addressed, few⟩

theorem exists_error_of_length (r : Record) (v : Json) (items : List Json)
    (found : r.find? v = some (.array items))
    (wrong : items.length < r.required ∨ r.fields.length < items.length) :
    ∃ e, ofJson v = .error e := by
  cases read : ofJson v with
  | error e => exact ⟨e, rfl⟩
  | ok s =>
      obtain ⟨enough, few⟩ := length_of_ofJson r v items s found read
      omega

/-! ## All forms -/

/-- One change of form: an object has an unknown name more, or an array that is not too long becomes
the object of its fields. -/
inductive Reworded : Json → Json → Prop where
  | put (r : Record) (v : Json) (members : List (String × Json)) (name : String) (x : Json)
      (found : r.find? v = some (.object members)) (unknown : name ∉ r.fields) :
      Reworded v (r.replace (.object (Json.put name x members)) v)
  | named (r : Record) (v : Json) (items : List Json) (found : r.find? v = some (.array items))
      (few : items.length ≤ r.fields.length) : Reworded v (r.replace (r.named items) v)

theorem ofJson_reworded (v w : Json) (change : Reworded v w) (s : Settings) :
    ofJson v = .ok s ↔ ofJson w = .ok s := by
  cases change with
  | put r _ members name x found unknown => rw [ofJson_replace_put r v name x members found unknown]
  | named r _ items found few =>
      exact (ofJson_replace r v _ _ found (r.alike_named items few) s).symm

theorem ofJson_eqvGen (v w : Json) (changes : Relation.EqvGen Reworded v w) (s : Settings) :
    ofJson v = .ok s ↔ ofJson w = .ok s := by
  induction changes with
  | rel v w change => exact ofJson_reworded v w change s
  | refl v => exact Iff.rfl
  | symm v w _ ih => exact ih.symm
  | trans u v w _ _ first second => exact first.trans second

/-- An unknown name changes neither the settings nor the error, whichever structure it is put into. A
structure that is an array is read as the object of its fields is, which has no more fields than the
array has items, and the two forms may be mixed. An array that stops before a required field is
rejected, and so is one that goes on after the last field. -/
theorem ofJson_forms :
    (∀ (r : Record) (v : Json) (members : List (String × Json)) (name : String) (x : Json),
      r.find? v = some (.object members) → name ∉ r.fields →
      ofJson (r.replace (.object (Json.put name x members)) v) = ofJson v) ∧
    (∀ (r : Record) (v : Json) (items : List Json) (s : Settings),
      r.find? v = some (.array items) → items.length ≤ r.fields.length →
      (ofJson v = .ok s ↔ ofJson (r.replace (r.named items) v) = .ok s)) ∧
    (∀ (v w : Json) (s : Settings), Relation.EqvGen Reworded v w →
      (ofJson v = .ok s ↔ ofJson w = .ok s)) ∧
    ∀ (r : Record) (v : Json) (items : List Json), r.find? v = some (.array items) →
      items.length < r.required ∨ r.fields.length < items.length →
      ∃ e, ofJson v = .error e := by
  refine ⟨?_, ?_, ?_, exists_error_of_length⟩
  · intro r v members name x found unknown
    exact ofJson_replace_put r v name x members found unknown
  · intro r v items s found few
    exact ofJson_reworded v _ (.named r v items found few) s
  · intro v w s changes
    exact ofJson_eqvGen v w changes s

theorem ofJson_forms_mixed :
    let url : Json := .string "postgres://db/app"
    let v : Json := .array [.array [.string "api"], .ofMembers [("url", url)]]
    let w : Json := .ofMembers [("app", .ofMembers [("name", .string "api")]),
      ("database", .ofMembers [("url", url), ("pool", .null)])]
    let s : Settings := ⟨⟨"api", .development⟩, ⟨"postgres://db/app", none, none⟩⟩
    (ofJson v = .ok s ∧ ofJson w = .ok s ∧
        ofJson (.array [.ofMembers [("name", .string "api")], .ofMembers [("url", url)]]) = .ok s) ∧
      (∃ e, ofJson (.array [.array [.string "api"], .array []]) = .error e) ∧
      ofJson (.ofMembers [("app", .ofMembers [("env", .string "qa"), ("zone", .null)])]) =
        ofJson (.ofMembers [("app", .ofMembers [("env", .string "qa")])]) := by
  intro url v w s
  obtain ⟨put, named, reworded, wrong⟩ := ofJson_forms
  have read : ofJson v = .ok s := rfl
  have changes : Relation.EqvGen Reworded v w := by
    have app := Reworded.named .app v [.string "api"] rfl (by decide)
    have whole := Reworded.named .settings _ [.ofMembers [("name", .string "api")],
      .ofMembers [("url", url)]] (rfl : Record.settings.find? (Record.app.replace _ v) = _)
      (by decide)
    have database := Reworded.put .database _ [("url", url)] "pool" .null
      (rfl : Record.database.find? (.ofMembers [("app", .ofMembers [("name", .string "api")]),
        ("database", .ofMembers [("url", url)])]) = _) (by decide)
    exact .trans _ _ _ (.rel _ _ app) (.trans _ _ _ (.rel _ _ whole) (.rel _ _ database))
  refine ⟨⟨read, (reworded v w s changes).mp read, ?_⟩, ?_, ?_⟩
  · exact (named .app v [.string "api"] s rfl (by decide)).mp read
  · exact wrong .database (.array [.array [.string "api"], .array []]) [] rfl (.inl (by decide))
  · exact put .app (.ofMembers [("app", .ofMembers [("env", .string "qa")])])
      [("env", .string "qa")] "zone" .null rfl (by decide)

end Settings
end PgJson
