import LibFred.Sql.Join
import LibFred.Sql.Table
import Mathlib.Data.List.MinMax

/-! GROUP BY with MAX, and the row of a group beside other rows. -/
namespace Sql

variable {α κ τ : Type*} [LinearOrder τ] {key : α → κ} {value : α → τ} {rows : List α} {k : κ} {a : α}
  {m : τ}

/-- MAX, which is NULL when there is no value. -/
def maximum (values : List τ) : Option τ := values.max?

theorem maximum_eq_none {values : List τ} : maximum values = none ↔ values = [] := List.max?_eq_none_iff

theorem maximum_eq_some {values : List τ} : maximum values = some m ↔ m ∈ values ∧ ∀ v ∈ values, v ≤ m :=
  List.max?_eq_some_iff

variable [DecidableEq κ]

def groupMaximum (key : α → κ) (value : α → τ) (rows : List α) (k : κ) : Option τ :=
  maximum ((rows.filter (key · = k)).map value)

/-- SELECT of the key and of the greatest value of every group. -/
def groupMax (key : α → κ) (value : α → τ) (rows : List α) : List (κ × τ) :=
  (rows.map key).dedup.filterMap fun k => (groupMaximum key value rows k).map (k, ·)

theorem groupMaximum_eq_none : groupMaximum key value rows k = none ↔ ∀ a ∈ rows, key a ≠ k := by
  simp [groupMaximum, maximum_eq_none]

theorem groupMaximum_eq_some : groupMaximum key value rows k = some m ↔
    (∃ a ∈ rows, key a = k ∧ value a = m) ∧ ∀ a ∈ rows, key a = k → value a ≤ m := by
  rw [groupMaximum, maximum_eq_some, List.forall_mem_map]
  simp [and_assoc]

section

variable {β : Type*} {P : β → Prop} {of : α → β} (date : β → τ)

/-- A group whose rows stand for the things of one kind. -/
theorem groupMaximum_of_eq_none (hP : ∀ b, P b ↔ ∃ a ∈ rows, key a = k ∧ of a = b) :
    groupMaximum key (fun a => date (of a)) rows k = none ↔ ∀ b, ¬ P b := by
  rw [groupMaximum_eq_none]
  constructor
  · intro h b hb
    obtain ⟨a, ha, hk, -⟩ := (hP b).mp hb
    exact h a ha hk
  · intro h a ha hk
    exact h (of a) ((hP (of a)).mpr ⟨a, ha, hk, rfl⟩)

theorem groupMaximum_of_eq_some (hP : ∀ b, P b ↔ ∃ a ∈ rows, key a = k ∧ of a = b) :
    groupMaximum key (fun a => date (of a)) rows k = some m ↔
      (∃ b, P b ∧ date b = m) ∧ ∀ b, P b → date b ≤ m := by
  rw [groupMaximum_eq_some]
  constructor
  · rintro ⟨⟨a, ha, hk, hm⟩, hmax⟩
    refine ⟨⟨of a, (hP _).mpr ⟨a, ha, hk, rfl⟩, hm⟩, fun b hb => ?_⟩
    obtain ⟨a', ha', hk', rfl⟩ := (hP b).mp hb
    exact hmax a' ha' hk'
  · rintro ⟨⟨b, hb, hm⟩, hmax⟩
    obtain ⟨a, ha, hk, rfl⟩ := (hP b).mp hb
    exact ⟨⟨a, ha, hk, hm⟩, fun a' ha' hk' => hmax (of a') ((hP _).mpr ⟨a', ha', hk', rfl⟩)⟩

end

theorem filter_groupMax :
    (groupMax key value rows).filter (·.1 = k) = ((groupMaximum key value rows k).map (k, ·)).toList := by
  have hgroup : ∀ k', Option.filter (fun p : κ × τ => decide (p.1 = k))
      ((groupMaximum key value rows k').map (k', ·)) =
        if k' = k then (groupMaximum key value rows k').map (k', ·) else none := by
    intro k'
    cases groupMaximum key value rows k' with
    | none => simp
    | some m => by_cases h : k' = k <;> simp [h]
  rw [groupMax, List.filter_filterMap]
  simp only [hgroup]
  cases hmax : groupMaximum key value rows k with
  | none =>
    refine List.filterMap_eq_nil_iff.mpr fun k' _ => ?_
    by_cases h : k' = k <;> simp [h, hmax]
  | some m =>
    obtain ⟨⟨a, ha, hk, -⟩, -⟩ := groupMaximum_eq_some.mp hmax
    refine (filterMap_eq_singleton (List.nodup_dedup _)).mpr ⟨k, ?_, by simp [hmax], fun k' _ hsome => ?_⟩
    · exact List.mem_dedup.mpr (List.mem_map.mpr ⟨a, ha, hk⟩)
    · by_contra hne
      simp [hne] at hsome

/-- A LEFT JOIN with the groups puts one row beside every row: its own group, or NULLs. -/
theorem leftJoin_groupMax {β : Type*} {of : β → κ} {bs : List β} :
    leftJoin (fun b (g : κ × τ) => g.1 = of b) bs (groupMax key value rows) =
      bs.map fun b => (b, (groupMaximum key value rows (of b)).map (of b, ·)) := by
  rw [leftJoin, ← List.flatMap_singleton' (bs.map _), List.flatMap_map]
  refine List.flatMap_congr fun b _ => ?_
  rw [filter_groupMax]
  cases groupMaximum key value rows (of b) with
  | none => rfl
  | some m => rfl

end Sql
