import PgJson.Arguments.Basic
import PgJson.Proofs.Json.Accuracy
import PgJson.Proofs.Json.RoundTrip
import PgJson.Proofs.Json.Sound

/-!
Which value an argument is: the one that its text denotes, and else its characters as they are. No
string is denoted by its own characters, since its text has the quotes besides.
-/

namespace PgJson

namespace Json

theorem length_body (body s : List Char) (pieces : Body body s) : s.length ≤ body.length := by
  induction pieces with
  | nil => exact Nat.le_refl 0
  | cons piece c body s here _ ih =>
      have present : 0 < piece.length := by
        cases here with
        | plain => exact Nat.one_pos
        | escape sequence => exact Nat.succ_pos _
      rw [List.length_cons, List.length_append]
      omega

theorem not_denoted_itself (depth : Nat) (s : List Char) : ¬Denoted depth s (.string (.ofList s)) := by
  rintro ⟨before, text, after, parts, _, _, grammar⟩
  generalize same : Json.string (.ofList s) = v at grammar
  cases grammar with
  | string _ body t pieces =>
      have equal : s = t := String.ofList_injective (Json.string.inj same)
      have short := length_body body t pieces
      have long := congrArg List.length parts
      simp only [List.length_append, List.length_cons, List.length_nil] at long
      rw [equal] at long
      omega
  | _ => cases same

end Json

namespace Arguments

open Json

theorem parameter_of_parse (raw : String) (v : Json)
    (read : Json.parse (Utf8.encode raw.toList) = .ok v) : parameter raw = v := by
  rw [parameter, parseString?, Utf8.encodeString, read]
  rfl

theorem parameter_of_refused (raw : String) (e : Json.Error)
    (refused : Json.parse (Utf8.encode raw.toList) = .error e) : parameter raw = .string raw := by
  rw [parameter, parseString?, Utf8.encodeString, refused]
  rfl

theorem parameter_string_iff (raw : String) :
    parameter raw = .string raw ↔ ∀ v, ¬Denoted maxDepth raw.toList v := by
  constructor
  · intro same v denoted
    rw [parameter_of_parse raw v ((parse_ok_iff _ _).mpr denoted)] at same
    rw [same] at denoted
    have itself := not_denoted_itself maxDepth raw.toList
    rw [String.ofList_toList] at itself
    exact itself denoted
  · intro none
    cases read : Json.parse (Utf8.encode raw.toList) with
    | ok v => exact absurd ((parse_ok_iff _ _).mp read) (none v)
    | error e => exact parameter_of_refused raw e read

theorem parameter_compact (v : Json) (exact : v.Exact) (within : v.depth ≤ 127) :
    parameter v.compact = v := by
  apply parameter_of_parse
  rw [Json.compact, String.toList_ofList]
  exact parse_compactChars v exact within

/-- An argument that is a text denoting a value is that value, and exactly the others are their own
characters, which can be sent in quotes; the compact text of a value without doubles is that value;
and a number of a text is what its literal writes, or near to it. -/
theorem parameter_denoted (raw : String) :
    (∀ v, Denoted 127 raw.toList v → parameter raw = v) ∧
      (parameter raw = .string raw ↔ ∀ v, ¬Denoted 127 raw.toList v) ∧
      parameter (.ofList (quoted raw)) = .string raw ∧
      (∀ v : Json, v.Exact → v.depth ≤ 127 → raw = v.compact → parameter raw = v) ∧
      ∀ n : Numeral, n.Near n.value? := by
  refine ⟨?_, parameter_string_iff raw, ?_, ?_, Numeral.value?_near⟩
  · intro v denoted
    exact parameter_of_parse raw v ((parse_ok_iff _ _).mpr denoted)
  · exact parameter_compact (.string raw) ⟨trivial, trivial⟩ (Nat.zero_le _)
  · rintro v exact within rfl
    exact parameter_compact v exact within

theorem parameter_denoted_gaps :
    parameter " [ -7 ]\n" = .array [.number (.integer (-7) (by decide))] ∧
      parameter "\"null\"" = .string "null" ∧ parameter "[null]" = .array [.null] := by
  have null : (Json.array [.null]).Exact :=
    ⟨⟨trivial, trivial, trivial⟩, trivial, trivial, trivial⟩
  have blank : ∀ c, isGapChar c = true → Gap [c] := by
    intro c gap d member
    rw [List.mem_singleton.mp member]
    exact gap
  have number : IsText 126 ['-', '7'] (.number (.integer (-7) (by decide))) :=
    .number 126 (.ofNat true 7) _ rfl
  have grammar := IsText.array 126 [⟨[' '], ['-', '7'], [' '], _⟩] (List.cons_ne_nil _ _)
    (List.forall_mem_singleton.mpr ⟨blank ' ' rfl, blank ' ' rfl⟩)
    (List.forall_mem_singleton.mpr number)
  obtain ⟨texts, _⟩ := parameter_denoted " [ -7 ]\n"
  obtain ⟨_, _, inQuotes, _⟩ := parameter_denoted "null"
  obtain ⟨_, _, _, compact, _⟩ := parameter_denoted "[null]"
  refine ⟨?_, inQuotes, compact (.array [.null]) null (by decide) rfl⟩
  exact texts _ ⟨[' '], _, ['\n'], rfl, blank ' ' rfl, blank '\n' rfl, grammar⟩

end Arguments
end PgJson
