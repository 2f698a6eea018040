import Mathlib.Data.List.Basic
import Mathlib.Data.Nat.Notation

/-! Tables that rows are only inserted into, under READ COMMITTED. -/
namespace Sql

/-- A row, with the transaction that has inserted it as long as that is open. -/
structure Inserted (ρ : Type*) where
  row : ρ
  writer : Option ℕ

namespace Inserted

variable {ρ : Type*} {rows : List (Inserted ρ)} {t t' : ℕ} {r : ρ} {i : Inserted ρ}

/-- What a transaction reads: its own rows, and what others have committed. -/
def Visible (i : Inserted ρ) (t : ℕ) : Prop := ∀ t' ∈ i.writer, t' = t

instance : Decidable (i.Visible t) :=
  decidable_of_iff (i.writer = none ∨ i.writer = some t) (by
    unfold Visible
    cases i.writer <;> simp)

def view (rows : List (Inserted ρ)) (t : ℕ) : List ρ :=
  (rows.filter fun i => i.Visible t).map (·.row)

def committed (rows : List (Inserted ρ)) : List ρ :=
  (rows.filter fun i => i.writer = none).map (·.row)

theorem mem_committed : r ∈ committed rows ↔ ⟨r, none⟩ ∈ rows := by
  simp only [committed, List.mem_map, List.mem_filter, decide_eq_true_eq]
  constructor
  · rintro ⟨⟨row, writer⟩, ⟨hi, rfl⟩, rfl⟩
    exact hi
  · intro h
    exact ⟨_, ⟨h, rfl⟩, rfl⟩

/-- The rows of an open transaction. -/
def pending (rows : List (Inserted ρ)) (t : ℕ) : List ρ :=
  (rows.filter fun i => i.writer = some t).map (·.row)

theorem mem_pending : r ∈ pending rows t ↔ ⟨r, some t⟩ ∈ rows := by
  simp only [pending, List.mem_map, List.mem_filter, decide_eq_true_eq]
  constructor
  · rintro ⟨⟨row, writer⟩, ⟨hi, rfl⟩, rfl⟩
    exact hi
  · intro h
    exact ⟨_, ⟨h, rfl⟩, rfl⟩

def insert (rows : List (Inserted ρ)) (t : ℕ) (r : ρ) : List (Inserted ρ) := rows ++ [⟨r, some t⟩]

@[simp] theorem mem_insert : i ∈ insert rows t r ↔ i ∈ rows ∨ i = ⟨r, some t⟩ := by
  simp [insert]

@[simp] theorem committed_insert : committed (insert rows t r) = committed rows := by
  simp [committed, insert]

@[simp] theorem pending_insert : pending (insert rows t r) t = pending rows t ++ [r] := by
  simp [pending, insert]

theorem pending_insert_of_ne (h : t' ≠ t) : pending (insert rows t r) t' = pending rows t' := by
  simp [pending, insert, h.symm]

def commit (rows : List (Inserted ρ)) (t : ℕ) : List (Inserted ρ) :=
  rows.map fun i => if i.writer = some t then ⟨i.row, none⟩ else i

theorem mem_commit :
    i ∈ commit rows t ↔ i ∈ rows ∧ i.writer ≠ some t ∨ i.writer = none ∧ ⟨i.row, some t⟩ ∈ rows := by
  simp only [commit, List.mem_map]
  constructor
  · rintro ⟨j, hj, rfl⟩
    by_cases hw : j.writer = some t
    · rw [if_pos hw, ← hw]
      exact .inr ⟨rfl, hj⟩
    · rw [if_neg hw]
      exact .inl ⟨hj, hw⟩
  · rintro (⟨hi, hw⟩ | ⟨hw, hi⟩)
    · exact ⟨i, hi, if_neg hw⟩
    · refine ⟨_, hi, ?_⟩
      rw [if_pos rfl, ← hw]

theorem exists_of_mem_commit (h : i ∈ commit rows t) :
    ∃ j ∈ rows, j.row = i.row ∧ ∀ t' ∈ i.writer, t' ≠ t ∧ j = i := by
  rcases mem_commit.mp h with ⟨hi, hw⟩ | ⟨hw, hi⟩
  · exact ⟨i, hi, rfl, fun t' ht' => ⟨fun he => hw (he ▸ ht'), rfl⟩⟩
  · refine ⟨_, hi, rfl, fun t' ht' => ?_⟩
    rw [hw] at ht'
    cases ht'

/-- A row that is committed is seen by whoever saw it. -/
theorem exists_mem_commit (h : i ∈ rows) (hv : i.Visible t') :
    ∃ j ∈ commit rows t, j.Visible t' ∧ j.row = i.row := by
  by_cases hw : i.writer = some t
  · refine ⟨⟨i.row, none⟩, mem_commit.mpr (.inr ⟨rfl, ?_⟩), nofun, rfl⟩
    rw [← hw]
    exact h
  · exact ⟨i, mem_commit.mpr (.inl ⟨h, hw⟩), hv, rfl⟩

/-- A commit leaves the rows themselves alone. -/
theorem map_commit {β : Type*} {f : ρ → β} :
    (commit rows t).map (fun i => f i.row) = rows.map fun i => f i.row := by
  rw [commit, List.map_map]
  refine List.map_congr_left fun i _ => ?_
  by_cases hw : i.writer = some t <;> simp [hw]

theorem commit_of_pending_eq_nil (h : pending rows t = []) : commit rows t = rows := by
  have hid : ∀ i ∈ rows, (if i.writer = some t then ⟨i.row, none⟩ else i) = i := by
    rintro ⟨row, writer⟩ hi
    refine if_neg fun hw => ?_
    obtain rfl : writer = some t := hw
    simpa [h] using mem_pending.mpr hi
  rw [commit, List.map_congr_left hid, List.map_id']

/-- A commit adds the rows of its transaction to the committed ones. -/
theorem committed_commit_perm : (committed (commit rows t)).Perm (committed rows ++ pending rows t) := by
  induction rows with
  | nil => exact .nil
  | cons i rows ih =>
    obtain ⟨row, writer⟩ := i
    rcases writer with _ | t'
    · simpa [commit, committed, pending] using ih
    · by_cases ht : t' = t
      · subst ht
        have hcons := (ih.cons row).trans List.perm_middle.symm
        simpa [commit, committed, pending] using hcons
      · simpa [commit, committed, pending, ht] using ih

@[simp] theorem pending_commit_self : pending (commit rows t) t = [] := by
  refine List.eq_nil_iff_forall_not_mem.mpr fun r hr => ?_
  rcases mem_commit.mp (mem_pending.mp hr) with ⟨-, hw⟩ | ⟨hw, -⟩
  · exact hw rfl
  · cases hw

theorem pending_commit_of_ne (h : t' ≠ t) : pending (commit rows t) t' = pending rows t' := by
  induction rows with
  | nil => rfl
  | cons i rows ih =>
    obtain ⟨row, writer⟩ := i
    rcases writer with _ | w
    · simpa [commit, pending] using ih
    · by_cases hw : w = t
      · subst hw
        simpa [commit, pending, h.symm] using ih
      · by_cases hw' : w = t'
        · subst hw'
          simpa [commit, pending, hw] using ih
        · simpa [commit, pending, hw, hw'] using ih

def rollback (rows : List (Inserted ρ)) (t : ℕ) : List (Inserted ρ) :=
  rows.filter fun i => i.writer ≠ some t

@[simp] theorem mem_rollback : i ∈ rollback rows t ↔ i ∈ rows ∧ i.writer ≠ some t := by
  simp [rollback]

theorem rollback_of_pending_eq_nil (h : pending rows t = []) : rollback rows t = rows := by
  refine List.filter_eq_self.mpr ?_
  rintro ⟨row, writer⟩ hi
  refine decide_eq_true fun hw => ?_
  obtain rfl : writer = some t := hw
  simpa [h] using mem_pending.mpr hi

@[simp] theorem committed_rollback : committed (rollback rows t) = committed rows := by
  simp only [committed, rollback, List.filter_filter]
  congr 1
  refine List.filter_congr fun i _ => ?_
  by_cases h : i.writer = none <;> simp [h]

@[simp] theorem pending_rollback_self : pending (rollback rows t) t = [] := by
  simp [pending, rollback]

theorem pending_rollback_of_ne (h : t' ≠ t) : pending (rollback rows t) t' = pending rows t' := by
  simp only [pending, rollback, List.filter_filter]
  congr 1
  refine List.filter_congr fun i _ => ?_
  by_cases hw : i.writer = some t' <;> simp [hw, h]

end Inserted

end Sql
