import Mathlib.Logic.Relation

/-! Relations that lead to terminal elements, which they lead on from nowhere. -/
namespace Relation

variable {α : Type*} {r : α → α → Prop} {a b c d e : α}

def Terminal (r : α → α → Prop) (a : α) : Prop := ∀ b, ¬ r a b

theorem Terminal.eq (h : Terminal r a) (hab : ReflTransGen r a b) : a = b := by
  rcases hab.cases_head with heq | ⟨c, hac, -⟩
  · exact heq
  · exact absurd hac (h c)

/-- A functional relation leads to one terminal element at most. -/
theorem Terminal.unique (hr : Relator.RightUnique r) (hb : Terminal r b) (hc : Terminal r c)
    (hab : ReflTransGen r a b) (hac : ReflTransGen r a c) : b = c := by
  rcases ReflTransGen.total_of_right_unique hr hab hac with hbc | hcb
  · exact hb.eq hbc
  · exact (hc.eq hcb).symm

/-- One more pair, which leads to a terminal element. -/
theorem reflTransGen_add_iff (hd : Terminal r d) (hne : c ≠ d) :
    ReflTransGen (fun x y => r x y ∨ x = c ∧ y = d) a e ↔
      ReflTransGen r a e ∨ ReflTransGen r a c ∧ e = d := by
  constructor
  · intro h
    induction h with
    | refl => exact .inl .refl
    | tail _ hstep ih =>
      rcases ih with hab | ⟨hac, rfl⟩
      · rcases hstep with hbe | ⟨rfl, rfl⟩
        · exact .inl (hab.tail hbe)
        · exact .inr ⟨hab, rfl⟩
      · rcases hstep with hbe | ⟨rfl, -⟩
        · exact absurd hbe (hd _)
        · exact absurd rfl hne
  · have hmono : ReflTransGen r ≤ ReflTransGen fun x y => r x y ∨ x = c ∧ y = d :=
      ReflTransGen.mono fun _ _ hxy => Or.inl hxy
    rintro (h | ⟨h, rfl⟩)
    · exact hmono a e h
    · exact (hmono a c h).tail (.inr ⟨rfl, rfl⟩)

end Relation
