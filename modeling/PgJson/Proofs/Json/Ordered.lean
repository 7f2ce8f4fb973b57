import PgJson.Proofs.Json.RoundTrip
import PgJson.Proofs.Json.Sound

namespace PgJson.Json

theorem every_array (p : Json → Prop) (items : List Json) (own : p (.array items))
    (all : ∀ v ∈ items, v.Every p) : (Json.array items).Every p :=
  ⟨own, (everyItem_iff p items).mpr all⟩

theorem every_ofMembers (pairs : List (String × Json)) (all : ∀ m ∈ pairs, m.2.Every Ascending) :
    (ofMembers pairs).Every Ascending := by
  refine ⟨ascending_ofMembers pairs, (everyMember_iff _ _).mpr ?_⟩
  intro m member
  exact all m (mem_of_mem_members pairs m member)

theorem ordered_leaf (v : Json) (leaf : v.depth = 0) : v.Every Ascending := by
  cases v with
  | array items => exact absurd leaf (Nat.succ_ne_zero _)
  | object members => exact absurd leaf (Nat.succ_ne_zero _)
  | _ => trivial

namespace Reader

def Yields {α : Type} (p : α → Prop) (r : Reader α) : Prop :=
  ∀ s v rest, r s = .ok (v, rest) → p v

section

variable (item : Reader Json) (p : Json → Prop) (each : Yields p item)

include each

theorem items_yields (steps : Nat) :
    Yields (fun vs => ∀ v ∈ vs, p v) (items item steps) := by
  induction steps with
  | zero =>
      intro s vs rest read
      cases read
  | succ steps ih =>
      intro s vs rest read
      rcases items_cases item steps s rest vs read with
        ⟨_, none⟩ | ⟨after, v, t, others, _, taken, more, same⟩
      · rw [none]
        exact List.forall_mem_nil _
      · rw [same, List.forall_mem_cons]
        exact ⟨each _ v t taken, ih t others rest more⟩

theorem arrayBody_yields :
    Yields (fun v => ∃ vs, v = .array vs ∧ ∀ w ∈ vs, p w) (arrayBody item) := by
  intro s v rest read
  rcases arrayBody_cases item s rest v read with ⟨_, none⟩ | ⟨first, t, others, taken, more, same⟩
  · exact ⟨[], none, List.forall_mem_nil _⟩
  · refine ⟨first :: others, same, ?_⟩
    rw [List.forall_mem_cons]
    exact ⟨each _ first t taken, items_yields item p each _ t others rest more⟩

theorem member_yields : Yields (fun m => p m.2) (member item) := by
  intro s m rest read
  obtain ⟨_, after, _, _, taken⟩ := member_cases item s rest m read
  exact each after m.2 rest taken

theorem memberList_yields (steps : Nat) :
    Yields (fun ms => ∀ m ∈ ms, p m.2) (memberList item steps) := by
  induction steps with
  | zero =>
      intro s ms rest read
      cases read
  | succ steps ih =>
      intro s ms rest read
      rcases memberList_cases item steps s rest ms read with
        ⟨_, none⟩ | ⟨_, name, m, t, others, _, _, taken, more, same⟩
      · rw [none]
        exact List.forall_mem_nil _
      · rw [same, List.forall_mem_cons]
        exact ⟨member_yields item p each name m t taken, ih t others rest more⟩

theorem objectBody_yields :
    Yields (fun v => ∃ ms, v = ofMembers ms ∧ ∀ m ∈ ms, p m.2) (objectBody item) := by
  intro s v rest read
  rcases objectBody_cases item s rest v read with
    ⟨_, none⟩ | ⟨name, m, t, others, _, taken, more, same⟩
  · exact ⟨[], none, List.forall_mem_nil _⟩
  · refine ⟨m :: others, same, ?_⟩
    rw [List.forall_mem_cons]
    exact ⟨member_yields item p each name m t taken,
      memberList_yields item p each _ t others rest more⟩

end

theorem word_yields {α : Type} (value : α) (expected : List UInt8) :
    Yields (· = value) (word value expected) := by
  intro s v rest read
  exact (word_sound value v expected s rest read).1

theorem number_yields (negative : Bool) : Yields (fun v => v.depth = 0) (number negative) := by
  intro s v rest read
  obtain ⟨⟨l, s⟩, _, more⟩ := (bind_ok_iff _ _ _).mp read
  dsimp only at more
  split at more
  · cases more
    rfl
  · cases more

theorem value_yields_of_nested (depth : Nat)
    (nested : ∀ inner, depth = inner + 1 → Yields (fun v => v.Every Ascending) (value inner)) :
    Yields (fun v => v.Every Ascending) (value depth) := by
  intro s v rest read
  rw [value] at read
  split at read
  · cases read
  split at read
  · rw [word_yields _ _ _ v rest read]
    trivial
  split at read
  · rw [word_yields _ _ _ v rest read]
    trivial
  split at read
  · rw [word_yields _ _ _ v rest read]
    trivial
  split at read
  · obtain ⟨⟨text, s⟩, _, kept⟩ := (bind_ok_iff _ _ _).mp read
    cases kept
    trivial
  split at read
  · cases depth with
    | zero => cases read
    | succ inner =>
        obtain ⟨vs, rfl, all⟩ := arrayBody_yields _ _ (nested inner rfl) _ v rest read
        exact every_array Ascending vs trivial all
  split at read
  · cases depth with
    | zero => cases read
    | succ inner =>
        obtain ⟨ms, rfl, all⟩ := objectBody_yields _ _ (nested inner rfl) _ v rest read
        exact every_ofMembers ms all
  split at read
  · exact ordered_leaf v (number_yields true _ v rest read)
  split at read
  · exact ordered_leaf v (number_yields false _ v rest read)
  · cases read

/-- By induction on the depth: what an array or an object holds is read one less deep. -/
theorem value_yields (depth : Nat) : Yields (fun v => v.Every Ascending) (value depth) := by
  induction depth with
  | zero => exact value_yields_of_nested 0 fun _ same => nomatch same
  | succ depth ih =>
      apply value_yields_of_nested
      intro inner same
      cases same
      exact ih

end Reader

theorem ordered_of_parse (bytes : List UInt8) (v : Json) (read : parse bytes = .ok v) :
    v.Every Ascending := by
  rw [parse] at read
  cases done : readText bytes with
  | error f =>
      rw [done] at read
      cases read
  | ok w =>
      rw [done] at read
      cases read
      obtain ⟨⟨w, rest⟩, taken, last⟩ := (bind_ok_iff _ _ _).mp done
      dsimp only at last
      split at last
      · cases last
        exact Reader.value_yields maxDepth bytes v rest taken
      · cases last

end PgJson.Json
