import LibFred.Order.Sorting

/-! One pass over rows that are clustered by a key, beside the keys in their order. -/
namespace Clusters

variable {α κ : Type*} [LinearOrder κ] {k : α → κ} {key : κ} {keys : List κ} {rows : List α} {a : α}

/-- Each key takes the rows that come next and have it; the rows that are left come last. -/
def distribute (k : α → κ) : List κ → List α → List (List α) × List α
  | [], rows => ([], rows)
  | key :: keys, rows =>
    let rest := distribute k keys (rows.dropWhile (k · = key))
    (rows.takeWhile (k · = key) :: rest.1, rest.2)

theorem dropWhile_eq_filter {p : α → Bool} {l : List α}
    (hl : l.Pairwise fun a b => p b = true → p a = true) : l.dropWhile p = l.filter (! p ·) := by
  induction l with
  | nil => rfl
  | cons a l ih =>
    obtain ⟨ha, hl⟩ := List.pairwise_cons.mp hl
    cases hpa : p a with
    | true => rw [List.dropWhile_cons_of_pos hpa, List.filter_cons_of_neg (by simp [hpa]), ih hl]
    | false =>
      have hall : ∀ b ∈ a :: l, (! p b) = true := by
        refine List.forall_mem_cons.mpr ⟨by rw [hpa]; rfl, fun b hb => ?_⟩
        cases hpb : p b with
        | false => rfl
        | true =>
          rw [ha b hb hpb] at hpa
          cases hpa
      rw [List.dropWhile_cons_of_neg (by simp [hpa]), List.filter_eq_self.mpr hall]

/-- When the rows are in the order of their keys, each key gets its own and none is left. -/
theorem distribute_eq (hrows : rows.Pairwise fun a b => k a ≤ k b) (hkeys : keys.Pairwise (· < ·))
    (hmem : ∀ a ∈ rows, k a ∈ keys) :
    distribute k keys rows = (keys.map fun key => rows.filter (k · = key), []) := by
  induction keys generalizing rows with
  | nil =>
    have hnone : rows = [] := List.eq_nil_iff_forall_not_mem.mpr fun a ha => by cases hmem a ha
    rw [distribute, hnone]
    rfl
  | cons key keys ih =>
    obtain ⟨hkey, hkeys⟩ := List.pairwise_cons.mp hkeys
    -- What is before a row of this key cannot have a lesser one.
    have hfirst : ∀ a ∈ rows, key ≤ k a := by
      intro a ha
      obtain heq | hmem := List.mem_cons.mp (hmem a ha)
      · exact heq.ge
      · exact (hkey _ hmem).le
    have hclustered : rows.Pairwise fun a b => decide (k b = key) = true → decide (k a = key) = true := by
      refine hrows.imp_of_mem fun {a b} ha _ hle hb => ?_
      rw [decide_eq_true_eq] at hb ⊢
      exact le_antisymm (hb ▸ hle) (hfirst a ha)
    have htake : rows.takeWhile (k · = key) = rows.filter (k · = key) := takeWhile_eq_filter hclustered
    have hdrop := dropWhile_eq_filter hclustered
    have hrest : ∀ a ∈ rows.filter (fun a => ! decide (k a = key)), k a ∈ keys := by
      intro a ha
      obtain ⟨ha, hne⟩ := List.mem_filter.mp ha
      exact (List.mem_cons.mp (hmem a ha)).resolve_left (by simpa using hne)
    rw [distribute, htake, hdrop, ih (hrows.filter _) hkeys hrest, List.map_cons]
    refine Prod.ext (congrArg (_ :: ·) (List.map_congr_left fun key' hkey' => ?_)) rfl
    rw [List.filter_filter]
    refine List.filter_congr fun a _ => ?_
    have hne := (hkey key' hkey').ne'
    by_cases heq : k a = key'
    · simp [heq, hne]
    · simp [heq]

end Clusters
