import Mathlib.Data.List.Basic
import Mathlib.Data.Nat.Notation

/-! Locks of a table, which a transaction holds until it ends. -/
namespace Sql

/-- The modes of the statements that write a table, and of LOCK TABLE. -/
inductive LockMode
  | rowExclusive
  | exclusive
  | accessExclusive
  deriving DecidableEq

/-- Statements that write may run beside each other, and beside nothing else. -/
def LockMode.Conflicts (a b : LockMode) : Prop := ¬ (a = rowExclusive ∧ b = rowExclusive)

instance (a b : LockMode) : Decidable (a.Conflicts b) :=
  inferInstanceAs (Decidable (¬ (a = .rowExclusive ∧ b = .rowExclusive)))

@[simp] theorem LockMode.conflicts_exclusive {a : LockMode} : a.Conflicts .exclusive := by
  simp [Conflicts]

@[simp] theorem LockMode.conflicts_accessExclusive {a : LockMode} : a.Conflicts .accessExclusive := by
  simp [Conflicts]

/-- The locks that open transactions hold. -/
abbrev Locks := List (ℕ × LockMode)

namespace Locks

variable {locks : Locks} {t t' : ℕ} {mode : LockMode}

/-- No other transaction holds a lock that conflicts with the mode. -/
def Grants (locks : Locks) (t : ℕ) (mode : LockMode) : Prop :=
  ∀ l ∈ locks, l.1 ≠ t → ¬ l.2.Conflicts mode

instance : Decidable (locks.Grants t mode) :=
  inferInstanceAs (Decidable (∀ l ∈ locks, l.1 ≠ t → ¬ l.2.Conflicts mode))

def release (locks : Locks) (t : ℕ) : Locks := locks.filter (·.1 ≠ t)

@[simp] theorem mem_release {l : ℕ × LockMode} : l ∈ locks.release t ↔ l ∈ locks ∧ l.1 ≠ t := by
  simp [release]

theorem grants_exclusive : locks.Grants t .exclusive ↔ ∀ l ∈ locks, l.1 = t := by
  constructor
  · intro h l hl
    by_contra hne
    exact h l hl hne LockMode.conflicts_exclusive
  · intro h l hl hne
    exact absurd (h l hl) hne

theorem grants_accessExclusive : locks.Grants t .accessExclusive ↔ ∀ l ∈ locks, l.1 = t := by
  constructor
  · intro h l hl
    by_contra hne
    exact h l hl hne LockMode.conflicts_accessExclusive
  · intro h l hl hne
    exact absurd (h l hl) hne

end Locks

end Sql
