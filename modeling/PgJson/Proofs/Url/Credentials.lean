import PgJson.Proofs.Text.Fields
import PgJson.Url.Basic

/-!
URLs with a user and a password, whatever stands behind them. A further `@` in what follows moves
the host behind itself, and all before it belongs to the password.
-/

namespace PgJson
namespace Url

open Text

def isUnreserved (c : Char) : Bool := c.isAlphanum || ['-', '.', '_', '~'].contains c

structure Credentials where
  user : String
  password : String
  user_unreserved : user.toList.all isUnreserved = true
  password_unreserved : password.toList.all isUnreserved = true
  some_password : password ≠ ""

def Credentials.url (c : Credentials) (rest : String) : String :=
  "postgres://" ++ c.user ++ ":" ++ c.password ++ "@" ++ rest

def isInner (c : Char) : Bool :=
  0x20 < c.toNat && c.toNat ≤ 0x7f && !(['/', '?', '#', '@', ':', '%'].contains c)

theorem toNat_lt_of_isAlphanum (c : Char) (alphanumeric : c.isAlphanum = true) :
    c.toNat < 128 := by
  have ranges : (decide (65 ≤ c.val ∧ c.val ≤ 90) || 97 ≤ c.val && c.val ≤ 122 ||
      48 ≤ c.val && c.val ≤ 57) = true := alphanumeric
  simp only [Bool.or_eq_true, Bool.and_eq_true, decide_eq_true_eq, UInt32.le_iff_toNat_le,
    UInt32.reduceToNat] at ranges
  show c.val.toNat < 128
  omega

theorem isInner_of_unreserved (c : Char) (unreserved : isUnreserved c = true) :
    isInner c = true := by
  have table : ∀ n < 128, isUnreserved (Char.ofNat n) = true → isInner (Char.ofNat n) = true := by
    decide +kernel
  have small : c.toNat < 128 := by
    simp only [isUnreserved, Bool.or_eq_true, List.contains_eq_mem, List.mem_cons,
      List.not_mem_nil, or_false, decide_eq_true_eq] at unreserved
    rcases unreserved with alphanumeric | rfl | rfl | rfl | rfl
    · exact toNat_lt_of_isAlphanum c alphanumeric
    · decide
    · decide
    · decide
    · decide
  have whole := table c.toNat small
  rw [Char.ofNat_toNat] at whole
  exact whole unreserved

theorem bounds_of_inner (c : Char) (inner : isInner c = true) :
    0x20 < c.toNat ∧ c.toNat ≤ 0x7f ∧ c ≠ '%' := by
  simp only [isInner, List.contains_eq_mem, List.mem_cons, List.not_mem_nil, or_false, not_or,
    Bool.and_eq_true, Bool.not_eq_true', decide_eq_true_eq, decide_eq_false_iff_not] at inner
  obtain ⟨⟨visible, ascii⟩, _, _, _, _, _, percent⟩ := inner
  exact ⟨visible, ascii, percent⟩

theorem dropWhile_visible (s more : List Char) (some_s : s ≠ [])
    (visible : ∀ c ∈ s, 0x20 < c.toNat) :
    (s ++ more).dropWhile (fun c : Char => c.toNat ≤ 0x20) = s ++ more := by
  cases s with
  | nil => exact absurd rfl some_s
  | cons c s =>
      have large := visible c List.mem_cons_self
      exact List.dropWhile_cons_of_neg (by simpa using large)

def cleanEnd (rest : List Char) : List Char :=
  (rest.reverse.dropWhile fun c : Char => c.toNat ≤ 0x20).reverse.filter
    fun c => c != '\t' && c != '\n' && c != '\r'

theorem clean_append (front rest : List Char) (some_front : front ≠ [])
    (visible : ∀ c ∈ front, 0x20 < c.toNat) :
    clean (.ofList (front ++ rest)) = front ++ cleanEnd rest := by
  have kept : front.filter (fun c => c != '\t' && c != '\n' && c != '\r') = front := by
    refine List.filter_eq_self.mpr ?_
    intro c member
    have large := visible c member
    simp only [Bool.and_eq_true, bne_iff_ne]
    refine ⟨⟨?_, ?_⟩, ?_⟩
    all_goals
      rintro rfl
      exact absurd large (by decide)
  have behind : (front ++ rest).reverse.dropWhile (fun c : Char => c.toNat ≤ 0x20) =
      rest.reverse.dropWhile (fun c : Char => c.toNat ≤ 0x20) ++ front.reverse := by
    rw [List.reverse_append, List.dropWhile_append]
    split
    · next none_left =>
      rw [List.isEmpty_iff.mp none_left]
      have whole := dropWhile_visible front.reverse [] (mt List.reverse_eq_nil_iff.mp some_front)
        fun c member => visible c (List.mem_reverse.mp member)
      rwa [List.append_nil] at whole
    · rfl
  simp only [clean, String.toList_ofList]
  rw [dropWhile_visible front rest some_front visible, behind, List.reverse_append,
    List.reverse_reverse, List.filter_append, kept]
  rfl

/-! ## User and password -/

def authorityText (s : List Char) : List Char :=
  s.takeWhile fun c => !(Kind.plain.isSlash c || endsPath c)

/-- How much of an authority stands before its host: all up to the last `@`. -/
def strayLength (s : List Char) : Nat :=
  (authorityText s).length - ((authorityText s).reverse.takeWhile (· != '@')).length

/-- What a password takes along of the text behind it: its own `@` and all up to the last one of the
authority, which then is the one before the host. -/
def stray (s : List Char) : List Char := ('@' :: authorityText s).take (strayLength s)

theorem not_ends_of_inner (c : Char) (inner : isInner c = true) :
    (!(Kind.plain.isSlash c || endsPath c)) = true := by
  simp only [isInner, List.contains_eq_mem, List.mem_cons, List.not_mem_nil, or_false, not_or,
    Bool.and_eq_true, Bool.not_eq_true', decide_eq_false_iff_not] at inner
  obtain ⟨_, slash, question, hash, _⟩ := inner
  simp [Kind.isSlash, endsPath, slash, question, hash]

theorem authorityText_at (front rest : List Char)
    (passes : ∀ c ∈ front, (!(Kind.plain.isSlash c || endsPath c)) = true) :
    authorityText (front ++ '@' :: rest) = front ++ '@' :: authorityText rest := by
  unfold authorityText
  rw [List.takeWhile_append_of_pos passes]
  rfl

theorem takeWhile_append_at (back front : List Char) :
    (back ++ '@' :: front).takeWhile (· != '@') = back.takeWhile (· != '@') := by
  induction back with
  | nil => rfl
  | cons c back ih => rw [List.cons_append, List.takeWhile_cons, List.takeWhile_cons, ih]

theorem length_host_add_stray (s : List Char) :
    ((authorityText s).reverse.takeWhile (· != '@')).length + strayLength s =
      (authorityText s).length := by
  have part := (List.takeWhile_prefix (· != '@') (l := (authorityText s).reverse)).length_le
  rw [List.length_reverse] at part
  exact Nat.add_sub_cancel' part

theorem takeUser_at (front rest : List Char) (some_front : front ≠ [])
    (passes : ∀ c ∈ front, (!(Kind.plain.isSlash c || endsPath c)) = true) :
    takeUser .plain {} (front ++ '@' :: rest) =
      .ok ({ username := (cut (· == ':') (front ++ stray rest)).1,
             password := (cut (· == ':') (front ++ stray rest)).2.filter (· != []) },
        rest.drop (strayLength rest)) := by
  -- The host stands at the end of the authority, so its length is found in the rest and the
  -- lengths of all before it are counted from there.
  have text := authorityText_at front rest passes
  have host : (authorityText (front ++ '@' :: rest)).reverse.takeWhile (· != '@') =
      (authorityText rest).reverse.takeWhile (· != '@') := by
    rw [text, List.reverse_append, List.reverse_cons, List.append_assoc]
    exact takeWhile_append_at _ _
  have before : (authorityText (front ++ '@' :: rest)).length -
      ((authorityText rest).reverse.takeWhile (· != '@')).length =
        front.length + (strayLength rest + 1) := by
    rw [text, List.length_append, List.length_cons, ← length_host_add_stray rest]
    omega
  have user : (front ++ '@' :: authorityText rest).take
      (front.length + (strayLength rest + 1) - 1) = front ++ stray rest := by
    rw [← Nat.add_assoc, Nat.add_sub_cancel, List.take_length_add_append]
    rfl
  have behind : (front ++ '@' :: rest).drop (front.length + (strayLength rest + 1)) =
      rest.drop (strayLength rest) := by
    rw [List.drop_length_add_append]
    rfl
  have some_user : front ++ stray rest ≠ [] :=
    List.append_ne_nil_of_left_ne_nil some_front _
  unfold takeUser
  dsimp only
  rw [← authorityText, host, List.length_reverse, if_neg (by omega), before, text, user, behind,
    if_neg some_user]

theorem takeUser_password (user password rest : List Char) (some_password : password ≠ [])
    (user_inner : ∀ c ∈ user, isInner c = true)
    (password_inner : ∀ c ∈ password, isInner c = true) :
    takeUser .plain {} (user ++ ':' :: (password ++ '@' :: rest)) =
      .ok ({ username := user, password := some (password ++ stray rest) },
        rest.drop (strayLength rest)) := by
  have marked : ∀ c ∈ user, c ≠ ':' := by
    rintro c member rfl
    exact absurd (user_inner _ member) (by decide)
  have passes : ∀ c ∈ user ++ ':' :: password,
      (!(Kind.plain.isSlash c || endsPath c)) = true := by
    intro c member
    rcases List.mem_append.mp member with first | second
    · exact not_ends_of_inner c (user_inner c first)
    · rcases List.mem_cons.mp second with rfl | second
      · rfl
      · exact not_ends_of_inner c (password_inner c second)
  have regrouped : user ++ ':' :: (password ++ '@' :: rest) =
      (user ++ ':' :: password) ++ '@' :: rest := by
    rw [List.append_assoc]
    rfl
  have cutting : cut (· == ':') (user ++ ':' :: password ++ stray rest) =
      (user, some (password ++ stray rest)) := by
    rw [List.append_assoc]
    exact cut_separator ':' user (password ++ stray rest) marked
  have kept : (password ++ stray rest != []) = true := by
    simp [some_password]
  rw [regrouped, takeUser_at _ rest (by simp) passes, cutting]
  simp only [Option.filter_some, kept, if_true]

/-! ## The whole URL -/

theorem takeHost_password (u : Url) (one other : List Char) (s : List Char) :
    takeHost .plain { u with password := some other } s =
      (fun (v, rest) => ({ v with password := some other }, rest)) <$>
        takeHost .plain { u with password := some one } s := by
  unfold takeHost
  dsimp only
  rw [if_pos rfl, if_pos rfl]
  cases Host.kept (s.take (hostLength .plain false s)) with
  | error e => rfl
  | ok host =>
      show (if _ then _ else _) = _ <$> (if _ then _ else _)
      simp only [Option.isSome_some]
      split
      · rfl
      · split
        · next rest _ =>
          cases portOf .plain rest with
          | error e => rfl
          | ok found => rfl
        · rfl

/-- What a URL says apart from its password. -/
def bare (user rest : List Char) : Except UrlError Url := do
  let (u, s) ← takeHost .plain { username := user, password := some [] }
    (rest.drop (strayLength rest))
  .ok (takePath .plain u s)

theorem authority_password (user password rest : List Char) (some_password : password ≠ [])
    (user_inner : ∀ c ∈ user, isInner c = true)
    (password_inner : ∀ c ∈ password, isInner c = true) :
    authority .plain (user ++ ':' :: (password ++ '@' :: rest)) =
      (fun u => { u with password := some (password ++ stray rest) }) <$> bare user rest := by
  unfold authority bare
  rw [takeUser_password user password rest some_password user_inner password_inner]
  show (do
    let (u, s) ← takeHost .plain { username := user, password := some (password ++ stray rest) }
      (rest.drop (strayLength rest))
    .ok (takePath .plain u s)) = _
  rw [takeHost_password { username := user } [] (password ++ stray rest)]
  cases takeHost .plain { username := user, password := some [] }
    (rest.drop (strayLength rest)) with
  | error e => rfl
  | ok found => rfl

theorem parse_password (c : Credentials) (rest : String) :
    parse (c.url rest) =
      (fun u => { u with password := some (c.password.toList ++ stray (cleanEnd rest.toList)) }) <$>
        bare c.user.toList (cleanEnd rest.toList) := by
  obtain ⟨user, password, user_unreserved, password_unreserved, some_password⟩ := c
  have user_inner := fun c member =>
    isInner_of_unreserved c (List.all_eq_true.mp user_unreserved c member)
  have password_inner := fun c member =>
    isInner_of_unreserved c (List.all_eq_true.mp password_unreserved c member)
  have some_chars : password.toList ≠ [] := mt String.toList_eq_nil_iff.mp some_password
  obtain ⟨front, whole⟩ : ∃ front, front =
      "postgres://".toList ++ (user.toList ++ ':' :: (password.toList ++ ['@'])) := ⟨_, rfl⟩
  have text : Credentials.url ⟨user, password, user_unreserved, password_unreserved,
      some_password⟩ rest = .ofList (front ++ rest.toList) := by
    refine String.toList_inj.mp ?_
    simp [Credentials.url, whole]
  have some_front : front ≠ [] := by
    rw [whole]
    exact List.append_ne_nil_of_left_ne_nil (by decide) _
  -- Nothing in front of the rest is trimmed away, so only the end is cleaned.
  have visible : ∀ c ∈ front, 0x20 < c.toNat := by
    have scheme : "postgres://".toList.all (0x20 < ·.toNat) = true := by decide
    simp only [whole, List.forall_mem_append, List.forall_mem_cons]
    exact ⟨fun c member => of_decide_eq_true (List.all_eq_true.mp scheme c member),
      fun c member => (bounds_of_inner c (user_inner c member)).1, by decide,
      fun c member => (bounds_of_inner c (password_inner c member)).1, by decide, nofun⟩
  have behind : front ++ cleanEnd rest.toList = "postgres://".toList ++
      (user.toList ++ ':' :: (password.toList ++ '@' :: cleanEnd rest.toList)) := by
    simp [whole]
  have scheme : ∀ s : List Char, scheme? ("postgres://".toList ++ s) =
      some ("postgres", '/' :: '/' :: s) := by
    intro s
    rfl
  unfold parse
  rw [text, clean_append front rest.toList some_front visible, behind, scheme]
  exact authority_password user.toList password.toList (cleanEnd rest.toList) some_chars user_inner
    password_inner

end Url
end PgJson
