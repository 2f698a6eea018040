import Mathlib.Data.Nat.Notation
import Mathlib.Logic.Function.Basic

/-! Rows under READ COMMITTED. A transaction reads what it has written itself and what others have
committed; the row that it writes is locked until it ends. -/
namespace Sql

/-- The version of a row that is committed, and the one that the transaction which holds the lock of
the row has written. -/
structure Slot (ρ : Type*) where
  committed : Option ρ
  pending : Option (ℕ × ρ)

namespace Slot

variable {ρ : Type*} {s : Slot ρ} {t t' : ℕ} {r : ρ}

def empty : Slot ρ := ⟨none, none⟩

/-- The transaction has written the row. -/
def WrittenBy (s : Slot ρ) (t : ℕ) : Prop := ∃ p ∈ s.pending, p.1 = t

/-- Another transaction holds the lock of the row. -/
def LockedFor (s : Slot ρ) (t : ℕ) : Prop := ∃ p ∈ s.pending, p.1 ≠ t

instance : Decidable (s.WrittenBy t) := by unfold WrittenBy; infer_instance

instance : Decidable (s.LockedFor t) := by unfold LockedFor; infer_instance

/-- What the transaction reads. -/
def view (s : Slot ρ) (t : ℕ) : Option ρ :=
  if s.WrittenBy t then s.pending.map (·.2) else s.committed

def write (s : Slot ρ) (t : ℕ) (r : ρ) : Slot ρ := { s with pending := some (t, r) }

def commit (s : Slot ρ) (t : ℕ) : Slot ρ :=
  ⟨s.view t, if s.WrittenBy t then none else s.pending⟩

def rollback (s : Slot ρ) (t : ℕ) : Slot ρ :=
  { s with pending := if s.WrittenBy t then none else s.pending }

@[simp] theorem writtenBy_mk {c : Option ρ} : (⟨c, some (t', r)⟩ : Slot ρ).WrittenBy t ↔ t' = t := by
  simp [WrittenBy]

@[simp] theorem not_writtenBy_none {c : Option ρ} : ¬ (⟨c, none⟩ : Slot ρ).WrittenBy t := by
  simp [WrittenBy]

@[simp] theorem view_empty : (empty : Slot ρ).view t = none := by
  simp [view, empty]

theorem view_of_not_writtenBy (h : ¬ s.WrittenBy t) : s.view t = s.committed := if_neg h

theorem view_eq_some (h : s.view t = some r) :
    s.pending = some (t, r) ∨ ¬ s.WrittenBy t ∧ s.committed = some r := by
  obtain ⟨committed, pending⟩ := s
  rcases pending with _ | ⟨t', r'⟩
  · exact .inr ⟨not_writtenBy_none, by simpa [view] using h⟩
  · by_cases ht : t' = t
    · exact .inl (by simpa [view, ht] using h)
    · exact .inr ⟨by simpa using ht, by simpa [view, ht] using h⟩

@[simp] theorem view_write : (s.write t r).view t = some r := by
  simp [view, write]

/-- Other transactions do not see what is written. -/
theorem view_write_of_ne (h : ¬ s.LockedFor t) (hne : t ≠ t') : (s.write t r).view t' = s.view t' := by
  obtain ⟨committed, pending⟩ := s
  rcases pending with _ | ⟨t₀, r₀⟩
  · simp [view, write, hne]
  · obtain rfl : t₀ = t := by simpa [LockedFor] using h
    simp [view, write, hne]

theorem commit_of_not_writtenBy (h : ¬ s.WrittenBy t) : s.commit t = s := by
  simp [commit, h, view]

@[simp] theorem committed_commit : (s.commit t).committed = s.view t := rfl

theorem pending_commit (h : (s.commit t).pending = some (t', r)) :
    s.pending = some (t', r) ∧ ¬ s.WrittenBy t ∧ t' ≠ t := by
  by_cases hw : s.WrittenBy t
  · simp [commit, hw] at h
  · have hp : s.pending = some (t', r) := by simpa [commit, hw] using h
    exact ⟨hp, hw, fun ht => hw ⟨(t', r), hp, ht⟩⟩

/-- What other transactions see of a row after a commit. -/
theorem view_commit (hne : t ≠ t') :
    (s.commit t).view t' = s.view t' ∨
      ∃ r, s.pending = some (t, r) ∧ s.view t' = s.committed ∧ (s.commit t).view t' = some r := by
  obtain ⟨committed, pending⟩ := s
  rcases pending with _ | ⟨t₀, r₀⟩
  · exact .inl (congrArg (view · t') (commit_of_not_writtenBy not_writtenBy_none))
  · by_cases ht : t₀ = t
    · subst ht
      exact .inr ⟨r₀, rfl, by simp [view, hne], by simp [commit, view]⟩
    · exact .inl (congrArg (view · t') (commit_of_not_writtenBy (by simpa using ht)))

theorem pending_rollback (h : (s.rollback t).pending = some (t', r)) :
    s.pending = some (t', r) ∧ t' ≠ t := by
  by_cases hw : s.WrittenBy t
  · simp [rollback, hw] at h
  · have hp : s.pending = some (t', r) := by simpa [rollback, hw] using h
    exact ⟨hp, fun ht => hw ⟨(t', r), hp, ht⟩⟩

/-- A row that is rolled back looks to other transactions as it did. -/
theorem view_rollback (hne : t ≠ t') : (s.rollback t).view t' = s.view t' := by
  obtain ⟨committed, pending⟩ := s
  rcases pending with _ | ⟨t₀, r₀⟩
  · simp [rollback, view]
  · by_cases ht : t₀ = t
    · subst ht
      simp [rollback, view, hne]
    · simp [rollback, view, ht]

end Slot

end Sql
