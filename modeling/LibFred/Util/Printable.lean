import Mathlib.Data.List.Basic

/-! Texts that records are printed as, and the decimal numbers in them. -/
namespace LibFred.Util

/-- The text `s` with a named value behind it; an empty name or value leaves no separator. -/
def addPair (s : String) (pair : String × String) : String :=
  let s := if pair.1 = "" then s else s ++ " " ++ pair.1 ++ ":"
  if pair.2 = "" then s else s ++ " " ++ pair.2

def formatDataStructure (name : String) (pairs : List (String × String)) : String :=
  pairs.foldl addPair (" " ++ name)

/-- What a value is printed as behind its name. -/
def valueText (value : String) : List Char := if value = "" then [] else ' ' :: value.toList

theorem valueText_injective {value value' : String} (h : valueText value = valueText value') :
    value = value' := by
  unfold valueText at h
  split at h <;> split at h <;> simp_all [String.toList_inj]

@[simp] theorem valueText_repr (n : Nat) : valueText n.repr = ' ' :: Nat.toDigits 10 n := by
  simp [valueText, Nat.repr_ne_empty, Nat.toList_repr]

theorem toList_addPair {s name value : String} (hname : name ≠ "") :
    (addPair s (name, value)).toList =
      s.toList ++ ' ' :: (name.toList ++ ':' :: valueText value) := by
  simp only [addPair, valueText, if_neg hname]
  split <;> simp

theorem toDigits_injective {m n : Nat} (h : Nat.toDigits 10 m = Nat.toDigits 10 n) : m = n := by
  rw [← Nat.ofDigitChars_ten_toDigits (n := m), h, Nat.ofDigitChars_ten_toDigits]

/-- std::to_string of a signed number. -/
def intToString : Int → String
  | .ofNat n => n.repr
  | .negSucc n => "-" ++ (n + 1).repr

theorem repr_injective {m n : Nat} (h : m.repr = n.repr) : m = n :=
  toDigits_injective (by simpa [Nat.toList_repr] using congrArg String.toList h)

theorem minus_not_mem_repr {n : Nat} {s : String} : n.repr ≠ "-" ++ s := by
  intro h
  have hlist := congrArg String.toList h
  rw [Nat.toList_repr] at hlist
  have hminus : '-' ∈ Nat.toDigits 10 n := by simp [hlist]
  exact absurd (Nat.isDigit_of_mem_toDigits (by decide) (by decide) hminus) (by decide)

theorem intToString_injective {a b : Int} (h : intToString a = intToString b) : a = b := by
  cases a with
  | ofNat m =>
    cases b with
    | ofNat n => rw [repr_injective h]
    | negSucc n => exact (minus_not_mem_repr h).elim
  | negSucc m =>
    cases b with
    | ofNat n => exact (minus_not_mem_repr h.symm).elim
    | negSucc n =>
      have hlist := congrArg String.toList h
      simp only [intToString, String.toList_append, List.append_cancel_left_eq,
        Nat.toList_repr] at hlist
      rw [Nat.succ.inj (toDigits_injective hlist)]

theorem intToString_ne_empty {a : Int} : intToString a ≠ "" := by
  cases a with
  | ofNat n => exact Nat.repr_ne_empty
  | negSucc n =>
    intro h
    have hlist := congrArg String.toList h
    simp [intToString] at hlist

/-- Texts of `p` characters that end where another character follows are read back alone. -/
theorem append_inj_of_boundary {α : Type*} {p : α → Prop} {a b c d : List α}
    (ha : ∀ x ∈ a, p x) (hb : ∀ x ∈ b, p x) (hc : ∀ x ∈ c.head?, ¬ p x)
    (hd : ∀ x ∈ d.head?, ¬ p x) (h : a ++ c = b ++ d) : a = b ∧ c = d := by
  induction a generalizing b with
  | nil =>
    cases b with
    | nil => exact ⟨rfl, h⟩
    | cons y b =>
      rw [List.nil_append] at h
      exact absurd (hb y (by simp)) (hc y (by simp [h]))
  | cons x a ih =>
    cases b with
    | nil =>
      rw [List.nil_append] at h
      exact absurd (ha x (by simp)) (hd x (by simp [← h]))
    | cons y b =>
      obtain ⟨rfl, htail⟩ : x = y ∧ a ++ c = b ++ d := by simpa using h
      have ha' : ∀ z ∈ a, p z := fun z hz => ha z (List.mem_cons_of_mem _ hz)
      have hb' : ∀ z ∈ b, p z := fun z hz => hb z (List.mem_cons_of_mem _ hz)
      obtain ⟨rfl, hcd⟩ := ih ha' hb' htail
      exact ⟨rfl, hcd⟩

/-- A decimal number before a character that is no digit is read back alone. -/
theorem toDigits_append_inj {m n : Nat} {sep : Char} {c d : List Char} (hsep : ¬ sep.isDigit)
    (h : Nat.toDigits 10 m ++ sep :: c = Nat.toDigits 10 n ++ sep :: d) : m = n ∧ c = d := by
  obtain ⟨hmn, hcd⟩ := append_inj_of_boundary (p := (·.isDigit))
    (fun _ => Nat.isDigit_of_mem_toDigits (by decide) (by decide))
    (fun _ => Nat.isDigit_of_mem_toDigits (by decide) (by decide))
    (by simpa using hsep) (by simpa using hsep) h
  exact ⟨toDigits_injective hmn, (List.cons.inj hcd).2⟩

end LibFred.Util
