import PgJson.EnvFile.Basic

namespace PgJson

namespace Text

variable {α : Type}

theorem fields_append (isSeparator : α → Bool) (front rest : List α) (c : α)
    (separates : isSeparator c) :
    fields isSeparator (front ++ c :: rest) =
      fields isSeparator front ++ fields isSeparator rest := by
  induction front with
  | nil => simp [fields, separates]
  | cons x front ih =>
      rw [List.cons_append, fields, fields, ih]
      cases isSeparator x with
      | true => rfl
      | false =>
          cases pieces : fields isSeparator front with
          | nil => exact absurd pieces (fields_ne_nil _ _)
          | cons piece others => rfl

end Text

namespace EnvFile

open Text

/-- Whether lines end within one that is still open; `p` is where their reader stands in front of
them. -/
def leftOpen (held : List Char) (p : Place) : List (List Char) → Bool
  | [] => p != .word
  | line :: rest =>
    if (trimStart (held ++ line)).head? = some '#' then leftOpen [] .word rest
    else match scan [] p line with
      | .inr _ => leftOpen [] .word rest
      | .inl .word => leftOpen [] .word rest
      | .inl p => leftOpen (held ++ line) p rest

theorem physicalLines_newline (front rest : List Char) :
    physicalLines (front ++ '\n' :: rest) =
      (fields (· == '\n') front).map (· ++ ['\n']) ++ physicalLines rest := by
  have pieces := fields_append (· == '\n') front rest '\n' rfl
  have present := fields_ne_nil (· == '\n') rest
  have positive := List.length_pos_iff.mpr present
  have kept : ((fields (· == '\n') front).map (· ++ ['\n'])).filter (· != []) =
      (fields (· == '\n') front).map (· ++ ['\n']) := by
    rw [List.filter_eq_self]
    intro line member
    obtain ⟨piece, _, rfl⟩ := List.mem_map.mp member
    simp
  have last : (fields (· == '\n') front ++ fields (· == '\n') rest).length - 1 =
      (fields (· == '\n') front).length + ((fields (· == '\n') rest).length - 1) := by
    rw [List.length_append]
    omega
  simp only [physicalLines, pieces, List.dropLast_append_of_ne_nil present, last,
    List.drop_length_add_append, List.map_append, List.append_assoc, List.filter_append, kept]

theorem physicalLines_append (front rest : List Char) (ended : front.getLast? = some '\n') :
    physicalLines (front ++ rest) = physicalLines front ++ physicalLines rest := by
  obtain ⟨before, rfl⟩ := List.getLast?_eq_some_iff.mp ended
  rw [List.append_assoc, List.singleton_append, physicalLines_newline, physicalLines_newline]
  show _ = _ ++ [] ++ _
  rw [List.append_nil]

theorem joinLines_append (front rest : List (List Char)) (held : List Char) (p : Place)
    (fresh : p = .word → held = []) (closed : leftOpen held p front = false) :
    joinLines held p (front ++ rest) = joinLines held p front ++ joinLines [] .word rest := by
  induction front generalizing held p with
  | nil =>
      have word : p = .word := by simpa [leftOpen] using closed
      rw [fresh word, word]
      rfl
  | cons line front ih =>
      rw [leftOpen] at closed
      rw [List.cons_append, joinLines, joinLines]
      split
      · next comment =>
        rw [if_pos comment] at closed
        rw [ih [] .word (fun _ => rfl) closed]
        rfl
      · next other =>
        rw [if_neg other] at closed
        split
        · next kept found =>
          rw [found] at closed
          rw [ih [] .word (fun _ => rfl) closed]
          rfl
        · next found =>
          rw [found] at closed
          rw [ih [] .word (fun _ => rfl) closed]
          rfl
        · next q unfinished found =>
          simp only [found] at closed
          exact ih (held ++ line) q (fun word => absurd word unfinished) closed

theorem lines_append (front rest : List Char) (ended : front.getLast? = some '\n')
    (closed : leftOpen [] .word (physicalLines front) = false) :
    lines (front ++ rest) = lines front ++ lines rest := by
  rw [lines, physicalLines_append front rest ended,
    joinLines_append _ _ [] .word (fun _ => rfl) closed]
  rfl

theorem withoutMark_append (front rest : List Char) (present : front ≠ []) :
    withoutMark (front ++ rest) = withoutMark front ++ rest := by
  cases front with
  | nil => exact absurd rfl present
  | cons c front =>
      by_cases mark : c = '\ufeff'
      · subst mark
        rfl
      · rw [List.cons_append, withoutMark, withoutMark, List.cons_append]
        · exact fun rest same => mark (List.cons.inj same).1
        · exact fun rest same => mark (List.cons.inj same).1

theorem getLast?_withoutMark (s : List Char) (ended : s.getLast? = some '\n') :
    (withoutMark s).getLast? = some '\n' := by
  unfold withoutMark
  split
  · next rest =>
    cases rest with
    | nil => cases ended
    | cons c rest => rwa [List.getLast?_cons_cons] at ended
  · exact ended

end EnvFile
end PgJson
