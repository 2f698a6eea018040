import Mathlib.Order.WithBot

/-! Queries that order their rows and keep the first one. -/
namespace Sql

variable {α ρ : Type*} {r : ρ → ρ → Prop} [DecidableRel r] {choice : Nat} {rows : List ρ} {a : ρ}

/-- Among the values of a column NULL is the last. -/
def nullsLast (a : Option α) : WithTop α := a

@[simp] theorem nullsLast_none : nullsLast (none : Option α) = ⊤ := rfl

@[simp] theorem nullsLast_some (a : α) : nullsLast (some a) = (a : WithTop α) := rfl

/-- ORDER BY ... LIMIT 1: a row that no other row has to precede. The database is free to choose
among those. -/
def firstBy (r : ρ → ρ → Prop) [DecidableRel r] (choice : Nat) (rows : List ρ) : Option ρ :=
  let firsts := rows.filter fun a => ∀ b ∈ rows, r a b
  firsts[choice % firsts.length]?

theorem of_firstBy_eq_some (h : firstBy r choice rows = some a) :
    a ∈ rows ∧ ∀ b ∈ rows, r a b := by
  have hmem := List.mem_of_getElem? h
  simpa using hmem

omit [DecidableRel r] in
theorem exists_first [Std.Total r] [IsTrans ρ r] (hne : rows ≠ []) :
    ∃ a ∈ rows, ∀ b ∈ rows, r a b := by
  have hrefl : ∀ a, r a a := fun a => (Std.Total.total a a).elim id id
  induction rows with
  | nil => exact absurd rfl hne
  | cons b rows ih =>
    by_cases hrows : rows = []
    · subst hrows
      exact ⟨b, List.mem_cons_self, by simpa using hrefl b⟩
    · obtain ⟨a, ha, hfirst⟩ := ih hrows
      rcases Std.Total.total (r := r) a b with hab | hba
      · exact ⟨a, List.mem_cons_of_mem _ ha, List.forall_mem_cons.mpr ⟨hab, hfirst⟩⟩
      · refine ⟨b, List.mem_cons_self, List.forall_mem_cons.mpr ⟨hrefl b, fun c hc => ?_⟩⟩
        exact IsTrans.trans b a c hba (hfirst c hc)

/-- No row comes first only when there is none. -/
theorem firstBy_eq_none [Std.Total r] [IsTrans ρ r] : firstBy r choice rows = none ↔ rows = [] := by
  constructor
  · intro h
    by_contra hne
    obtain ⟨a, ha, hfirst⟩ := exists_first (r := r) hne
    have hmem : a ∈ rows.filter fun a => ∀ b ∈ rows, r a b := by simpa using ⟨ha, hfirst⟩
    have hpos := List.length_pos_of_mem hmem
    exact absurd (List.getElem?_eq_none_iff.mp h) (not_le.mpr (Nat.mod_lt choice hpos))
  · rintro rfl
    rfl

end Sql
