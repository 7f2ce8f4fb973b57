import PgJson.Arguments.Basic

/-!
Values among the arguments. Behind `--` every text is one, in front of it every text that does not
start with a dash, so any statement and any parameters can be passed.
-/

namespace PgJson.Arguments

theorem item_plain (arg : String) (plain : arg.toList.head? ≠ some '-') : item arg = .value := by
  unfold item
  split
  · next same =>
    rw [same] at plain
    exact absurd rfl plain
  · next same =>
    rw [same] at plain
    exact absurd rfl plain
  · rfl

theorem parseFrom_values (front : List String) (each : ∀ arg ∈ front, item arg = .value)
    (values : List String) (compact : Bool) (rest : List String) :
    parseFrom values compact (front ++ rest) = parseFrom (values ++ front) compact rest := by
  induction front generalizing values with
  | nil => rw [List.nil_append, List.append_nil]
  | cons arg front ih =>
      have value := each arg (List.mem_cons_self ..)
      have inner : arg ≠ "--" := by
        rintro rfl
        exact absurd value (by decide)
      rw [List.cons_append, parseFrom, if_neg inner, value]
      show parseFrom (values ++ [arg]) compact (front ++ rest) = _
      rw [ih (fun other member => each other (List.mem_cons_of_mem _ member)), List.append_assoc,
        List.singleton_append]

theorem parseFrom_dashes (values : List String) (compact : Bool) (rest : List String) :
    parseFrom values compact ("--" :: rest) = ofValues compact (values ++ rest) := by
  rw [parseFrom, if_pos rfl]

theorem parseFrom_compact (values rest : List String) :
    parseFrom values false ("--compact" :: rest) = parseFrom values true rest := by
  have flag : item "--compact" = .compact := by decide
  rw [parseFrom, if_neg (by decide), flag]
  rfl

theorem parseFrom_plain (values : List String) (compact : Bool) (rest : List String)
    (plain : ∀ arg ∈ rest, arg.toList.head? ≠ some '-') :
    parseFrom values compact rest = ofValues compact (values ++ rest) := by
  have taken := parseFrom_values rest (fun arg member => item_plain arg (plain arg member)) values
    compact []
  rwa [List.append_nil, parseFrom] at taken

/-- Any statement and parameters are passed on behind `--`, with the flag in front of it or without;
texts that do not start with a dash are passed on without `--`, wherever the flag stands. -/
theorem parse_passes (sql : String) (raw : List String) :
    (∀ flagged : Bool, parse ((if flagged then ["--compact"] else []) ++ "--" :: sql :: raw) =
        .ok (.run ⟨sql, raw.map parameter, flagged⟩)) ∧
      ((∀ arg ∈ sql :: raw, arg.toList.head? ≠ some '-') →
        parse (sql :: raw) = .ok (.run ⟨sql, raw.map parameter, false⟩) ∧
          ∀ i, parse ((sql :: raw).take i ++ "--compact" :: (sql :: raw).drop i) =
            .ok (.run ⟨sql, raw.map parameter, true⟩)) := by
  constructor
  · intro flagged
    cases flagged with
    | false => exact parseFrom_dashes [] false (sql :: raw)
    | true => exact (parseFrom_compact [] _).trans (parseFrom_dashes [] true (sql :: raw))
  · intro plain
    refine ⟨parseFrom_plain [] false (sql :: raw) plain, ?_⟩
    intro i
    have front : ∀ arg ∈ (sql :: raw).take i, item arg = .value := fun arg member =>
      item_plain arg (plain arg (List.mem_of_mem_take member))
    have back : ∀ arg ∈ (sql :: raw).drop i, arg.toList.head? ≠ some '-' := fun arg member =>
      plain arg (List.mem_of_mem_drop member)
    rw [parse, parseFrom_values _ front, parseFrom_compact, parseFrom_plain _ true _ back,
      List.nil_append, List.take_append_drop]
    rfl

theorem parse_passes_flag :
    parse ["--compact", "--", "--compact", "-1"] =
        .ok (.run ⟨"--compact", [parameter "-1"], true⟩) ∧
      parse ["SELECT $1", "--compact", ""] = .ok (.run ⟨"SELECT $1", [parameter ""], true⟩) :=
  ⟨(parse_passes "--compact" ["-1"]).1 true,
    ((parse_passes "SELECT $1" [""]).2 (by decide)).2 1⟩

end PgJson.Arguments
