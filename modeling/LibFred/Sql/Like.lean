import Mathlib.Data.List.Infix

/-! LIKE: patterns with wildcards, on the bytes of a text in UTF-8. -/
namespace Sql

inductive LikeToken
  | anyText
  | anyChar
  | char (c : Char)
  deriving DecidableEq

/-- A pattern that ends with the escape character is refused. -/
def likeTokens : List Char → Option (List LikeToken)
  | [] => some []
  | ['\\'] => none
  | '\\' :: c :: pattern => (likeTokens pattern).map (.char c :: ·)
  | '%' :: pattern => (likeTokens pattern).map (.anyText :: ·)
  | '_' :: pattern => (likeTokens pattern).map (.anyChar :: ·)
  | c :: pattern => (likeTokens pattern).map (.char c :: ·)

/-- A byte inside of a character. -/
def isContinuation (c : Char) : Bool := 0x80 ≤ c.toNat ∧ c.toNat < 0xC0

def likeMatches : List LikeToken → List Char → Bool
  | [], text => text = []
  | .anyText :: tokens, text => text.tails.any fun rest => likeMatches tokens rest
  | .anyChar :: _, [] => false
  | .anyChar :: tokens, _ :: text => likeMatches tokens (text.dropWhile isContinuation)
  | .char _ :: _, [] => false
  | .char c :: tokens, a :: text => c = a && likeMatches tokens text

def like (text pattern : List Char) : Option Bool :=
  (likeTokens pattern).map fun tokens => likeMatches tokens text

variable {text pattern : List Char} {tokens : List LikeToken} {c : Char}

/-- The character has no meaning of its own in a pattern. -/
def Literal (c : Char) : Prop := c ≠ '%' ∧ c ≠ '_' ∧ c ≠ '\\'

theorem likeTokens_cons (hc : Literal c) :
    likeTokens (c :: pattern) = (likeTokens pattern).map (.char c :: ·) := by
  obtain ⟨hpercent, hunderscore, hescape⟩ := hc
  rw [likeTokens]
  · exact fun h => absurd h hescape
  · exact fun _ _ h => absurd h hescape
  · exact hpercent
  · exact hunderscore

theorem likeTokens_of_literal (h : ∀ c ∈ pattern, Literal c) :
    likeTokens pattern = some (pattern.map .char) := by
  induction pattern with
  | nil => rfl
  | cons c pattern ih =>
    obtain ⟨hc, hpattern⟩ := List.forall_mem_cons.mp h
    rw [likeTokens_cons hc, ih hpattern]
    rfl

theorem likeMatches_char : likeMatches (pattern.map .char) text = true ↔ text = pattern := by
  induction pattern generalizing text with
  | nil => simp [likeMatches]
  | cons c pattern ih =>
    cases text with
    | nil => simp [likeMatches]
    | cons a text =>
      rw [List.map_cons, likeMatches, Bool.and_eq_true, decide_eq_true_iff, ih, List.cons.injEq, eq_comm]

/-- Any text before a literal one. -/
theorem like_percent (h : ∀ c ∈ pattern, Literal c) :
    like text ('%' :: pattern) = some (decide (pattern <:+ text)) := by
  rw [like, likeTokens, likeTokens_of_literal h]
  simp only [Option.map_some, likeMatches, Option.some.injEq]
  rw [Bool.eq_iff_iff, List.any_eq_true, decide_eq_true_iff]
  simp only [likeMatches_char, List.mem_tails]
  exact exists_eq_right

theorem likeTokens_ne_none (h : pattern.getLast? ≠ some '\\') : likeTokens pattern ≠ none := by
  have hmap {tokens : Option (List LikeToken)} {token : LikeToken} (h : tokens ≠ none) :
      tokens.map (token :: ·) ≠ none := by simpa using h
  have hlast {c : Char} {l : List Char} (h : (c :: l).getLast? ≠ some '\\') :
      l.getLast? ≠ some '\\' := by
    cases l with
    | nil => simp
    | cons d l => rwa [List.getLast?_cons_cons] at h
  fun_induction likeTokens pattern with
  | case1 => simp
  | case2 => exact absurd rfl h
  | case3 c pattern ih => exact hmap (ih (hlast (hlast h)))
  | case4 pattern ih => exact hmap (ih (hlast h))
  | case5 pattern ih => exact hmap (ih (hlast h))
  | case6 c pattern _ _ _ _ ih => exact hmap (ih (hlast h))

theorem mem_likeTokens (h : likeTokens pattern = some tokens) (hliteral : Literal c)
    (hc : c ∈ pattern) : .char c ∈ tokens := by
  fun_induction likeTokens pattern generalizing tokens with
  | case1 => cases hc
  | case2 => cases h
  | case3 d pattern ih =>
    obtain ⟨rest, hrest, rfl⟩ := Option.map_eq_some_iff.mp h
    rcases List.mem_cons.mp hc with rfl | hc
    · exact absurd rfl hliteral.2.2
    · rcases List.mem_cons.mp hc with rfl | hc
      · exact List.mem_cons_self
      · exact List.mem_cons_of_mem _ (ih hrest hc)
  | case4 pattern ih =>
    obtain ⟨rest, hrest, rfl⟩ := Option.map_eq_some_iff.mp h
    rcases List.mem_cons.mp hc with rfl | hc
    · exact absurd rfl hliteral.1
    · exact List.mem_cons_of_mem _ (ih hrest hc)
  | case5 pattern ih =>
    obtain ⟨rest, hrest, rfl⟩ := Option.map_eq_some_iff.mp h
    rcases List.mem_cons.mp hc with rfl | hc
    · exact absurd rfl hliteral.2.1
    · exact List.mem_cons_of_mem _ (ih hrest hc)
  | case6 d pattern _ _ _ _ ih =>
    obtain ⟨rest, hrest, rfl⟩ := Option.map_eq_some_iff.mp h
    rcases List.mem_cons.mp hc with rfl | hc
    · exact List.mem_cons_self
    · exact List.mem_cons_of_mem _ (ih hrest hc)

theorem mem_of_likeMatches (h : likeMatches tokens text = true) (hc : .char c ∈ tokens) :
    c ∈ text := by
  fun_induction likeMatches tokens text with
  | case1 text => cases hc
  | case2 tokens text ih =>
    obtain ⟨rest, hrest, hmatches⟩ := List.any_eq_true.mp h
    have hmem := ih rest hmatches (List.mem_of_ne_of_mem (by simp) hc)
    exact ((List.mem_tails _ _).mp hrest).subset hmem
  | case3 => cases h
  | case4 tokens a text ih =>
    have hmem := ih h (List.mem_of_ne_of_mem (by simp) hc)
    exact List.mem_cons_of_mem _ ((List.dropWhile_sublist _).subset hmem)
  | case5 => cases h
  | case6 d tokens a text ih =>
    rw [Bool.and_eq_true, decide_eq_true_iff] at h
    rcases List.mem_cons.mp hc with heq | hc
    · cases heq
      rw [h.1]
      exact List.mem_cons_self
    · exact List.mem_cons_of_mem _ (ih h.2 hc)

/-- A letter of the pattern occurs in what it matches. -/
theorem mem_of_like (h : like text pattern = some true) (hliteral : Literal c) (hc : c ∈ pattern) :
    c ∈ text := by
  obtain ⟨tokens, htokens, hmatches⟩ := Option.map_eq_some_iff.mp h
  exact mem_of_likeMatches hmatches (mem_likeTokens htokens hliteral hc)

end Sql
