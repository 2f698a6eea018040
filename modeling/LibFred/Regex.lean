import Mathlib.Data.List.Basic

/-! Regular expressions over classes of letters: what they match, and how to decide it. -/

inductive Regex (α : Type*)
  | empty
  | eps
  | cls (p : α → Bool)
  | seq (r s : Regex α)
  | alt (r s : Regex α)
  | star (r : Regex α)

namespace Regex

variable {α : Type*}

inductive Matches : Regex α → List α → Prop
  | eps : Matches .eps []
  | cls {p : α → Bool} {a : α} : p a = true → Matches (.cls p) [a]
  | seq {r s : Regex α} {l l' : List α} : Matches r l → Matches s l' → Matches (.seq r s) (l ++ l')
  | altLeft {r s : Regex α} {l : List α} : Matches r l → Matches (.alt r s) l
  | altRight {r s : Regex α} {l : List α} : Matches s l → Matches (.alt r s) l
  | starNil {r : Regex α} : Matches (.star r) []
  | starCons {r : Regex α} {l l' : List α} :
    Matches r l → Matches (.star r) l' → Matches (.star r) (l ++ l')

variable {r s : Regex α} {a : α} {l l' : List α}

/-- Between zero and `n` times. -/
def upTo (r : Regex α) : Nat → Regex α
  | 0 => .eps
  | n + 1 => .alt .eps (.seq r (r.upTo n))

/-- Anywhere in a text. -/
def somewhere (r : Regex α) : Regex α :=
  .seq (.star (.cls fun _ => true)) (.seq r (.star (.cls fun _ => true)))

def nullable : Regex α → Bool
  | .empty => false
  | .eps => true
  | .cls _ => false
  | .seq r s => r.nullable && s.nullable
  | .alt r s => r.nullable || s.nullable
  | .star _ => true

/-- What is left to match after a first letter. -/
def deriv (a : α) : Regex α → Regex α
  | .empty => .empty
  | .eps => .empty
  | .cls p => if p a then .eps else .empty
  | .seq r s => if r.nullable then .alt (.seq (r.deriv a) s) (s.deriv a) else .seq (r.deriv a) s
  | .alt r s => .alt (r.deriv a) (s.deriv a)
  | .star r => .seq (r.deriv a) (.star r)

theorem not_matches_empty : ¬ Matches .empty l := nofun

theorem matches_eps : Matches .eps l ↔ l = [] := by
  constructor
  · rintro ⟨⟩
    rfl
  · rintro rfl
    exact .eps

theorem matches_cls {p : α → Bool} : Matches (.cls p) l ↔ ∃ a, p a = true ∧ l = [a] := by
  constructor
  · rintro ⟨⟩
    exact ⟨_, ‹_›, rfl⟩
  · rintro ⟨a, ha, rfl⟩
    exact .cls ha

theorem matches_seq : Matches (.seq r s) l ↔ ∃ l₁ l₂, l = l₁ ++ l₂ ∧ Matches r l₁ ∧ Matches s l₂ := by
  constructor
  · rintro ⟨⟩
    exact ⟨_, _, rfl, ‹_›, ‹_›⟩
  · rintro ⟨l₁, l₂, rfl, h₁, h₂⟩
    exact .seq h₁ h₂

theorem matches_alt : Matches (.alt r s) l ↔ Matches r l ∨ Matches s l := by
  constructor
  · intro h
    cases h with
    | altLeft h => exact .inl h
    | altRight h => exact .inr h
  · rintro (h | h)
    · exact .altLeft h
    · exact .altRight h

theorem nullable_iff : r.nullable = true ↔ Matches r [] := by
  induction r with
  | empty => simp [nullable, not_matches_empty]
  | eps => simp [nullable, matches_eps]
  | cls p => simp [nullable, matches_cls]
  | seq r s ihr ihs => simp [nullable, matches_seq, ihr, ihs]
  | alt r s ihr ihs => simp [nullable, matches_alt, ihr, ihs]
  | star r _ => exact ⟨fun _ => .starNil, fun _ => rfl⟩

/-- A text that begins with `a` and matches a repetition begins with a part that matches `r`. -/
theorem matches_star_cons :
    Matches (.star r) (a :: l) ↔ ∃ l₁ l₂, l = l₁ ++ l₂ ∧ Matches r (a :: l₁) ∧ Matches (.star r) l₂ := by
  constructor
  · intro h
    generalize hr : Regex.star r = r' at h
    generalize hl : a :: l = l' at h
    induction h generalizing l with
    | eps => cases hr
    | cls _ => cases hr
    | seq _ _ => cases hr
    | altLeft _ => cases hr
    | altRight _ => cases hr
    | starNil => cases hl
    | @starCons r₀ l₁ l₂ h₁ h₂ _ ih =>
      cases hr
      cases l₁ with
      | nil => exact ih rfl hl
      | cons b l₁ =>
        obtain ⟨rfl, rfl⟩ := List.cons.inj hl
        exact ⟨l₁, l₂, rfl, h₁, h₂⟩
  · rintro ⟨l₁, l₂, rfl, h₁, h₂⟩
    exact .starCons h₁ h₂

theorem matches_seq_cons : Matches (.seq r s) (a :: l) ↔
    (∃ l₁ l₂, l = l₁ ++ l₂ ∧ Matches r (a :: l₁) ∧ Matches s l₂) ∨ Matches r [] ∧ Matches s (a :: l) := by
  rw [matches_seq]
  constructor
  · rintro ⟨l₁, l₂, hl, h₁, h₂⟩
    cases l₁ with
    | nil => exact .inr ⟨h₁, hl ▸ h₂⟩
    | cons b l₁ =>
      obtain ⟨rfl, rfl⟩ := List.cons.inj hl
      exact .inl ⟨l₁, l₂, rfl, h₁, h₂⟩
  · rintro (⟨l₁, l₂, rfl, h₁, h₂⟩ | ⟨h₁, h₂⟩)
    · exact ⟨a :: l₁, l₂, rfl, h₁, h₂⟩
    · exact ⟨[], a :: l, rfl, h₁, h₂⟩

theorem deriv_iff : Matches (r.deriv a) l ↔ Matches r (a :: l) := by
  induction r generalizing l with
  | empty => exact ⟨nofun, nofun⟩
  | eps => exact ⟨nofun, nofun⟩
  | cls p =>
    rw [matches_cls, deriv]
    split
    · rename_i ha
      rw [matches_eps]
      constructor
      · rintro rfl
        exact ⟨a, ha, rfl⟩
      · rintro ⟨b, -, hl⟩
        exact (List.cons.inj hl).2
    · rename_i ha
      refine ⟨nofun, ?_⟩
      rintro ⟨b, hb, hl⟩
      rw [(List.cons.inj hl).1] at ha
      exact (ha hb).elim
  | seq r s ihr ihs =>
    rw [matches_seq_cons, ← nullable_iff, deriv]
    split
    · rename_i hn
      rw [matches_alt, matches_seq, ihs, and_iff_right hn]
      simp only [ihr]
    · rename_i hn
      rw [matches_seq, or_iff_left fun h => hn h.1]
      simp only [ihr]
  | alt r s ihr ihs => rw [deriv, matches_alt, matches_alt, ihr, ihs]
  | star r ih =>
    rw [deriv, matches_seq, matches_star_cons]
    simp only [ih]

instance decidableMatches (r : Regex α) (l : List α) : Decidable (r.Matches l) :=
  match l with
  | [] => decidable_of_iff _ nullable_iff
  | a :: l =>
    have := decidableMatches (r.deriv a) l
    decidable_of_iff _ deriv_iff

/-- No class tells a letter from its image. -/
def Invariant (f : α → α) : Regex α → Prop
  | .empty => True
  | .eps => True
  | .cls p => ∀ a, p (f a) = p a
  | .seq r s => r.Invariant f ∧ s.Invariant f
  | .alt r s => r.Invariant f ∧ s.Invariant f
  | .star r => r.Invariant f

theorem Invariant.upTo {f : α → α} (h : r.Invariant f) (n : Nat) : (r.upTo n).Invariant f := by
  induction n with
  | zero => trivial
  | succ n ih => exact ⟨trivial, h, ih⟩

theorem Invariant.somewhere {f : α → α} (h : r.Invariant f) : r.somewhere.Invariant f :=
  ⟨fun _ => rfl, h, fun _ => rfl⟩

theorem Invariant.deriv {f : α → α} (h : r.Invariant f) (a : α) : (r.deriv a).Invariant f := by
  induction r with
  | empty => trivial
  | eps => trivial
  | cls p =>
    rw [Regex.deriv]
    split <;> trivial
  | seq r s ihr ihs =>
    rw [Regex.deriv]
    split
    · exact ⟨⟨ihr h.1, h.2⟩, ihs h.2⟩
    · exact ⟨ihr h.1, h.2⟩
  | alt r s ihr ihs => exact ⟨ihr h.1, ihs h.2⟩
  | star r ih => exact ⟨ih h, h⟩

theorem Invariant.deriv_eq {f : α → α} (h : r.Invariant f) (a : α) : r.deriv (f a) = r.deriv a := by
  induction r with
  | empty => rfl
  | eps => rfl
  | cls p => rw [Regex.deriv, h a, Regex.deriv]
  | seq r s ihr ihs => rw [Regex.deriv, ihr h.1, ihs h.2, Regex.deriv]
  | alt r s ihr ihs => rw [Regex.deriv, ihr h.1, ihs h.2, Regex.deriv]
  | star r ih => rw [Regex.deriv, ih h, Regex.deriv]

/-- What the classes do not tell apart does not decide whether a text matches. -/
theorem Invariant.matches_map {f : α → α} (h : r.Invariant f) :
    Matches r (l.map f) ↔ Matches r l := by
  induction l generalizing r with
  | nil => rfl
  | cons a l ih =>
    rw [List.map_cons, ← deriv_iff, h.deriv_eq, ih (h.deriv a), deriv_iff]

end Regex
