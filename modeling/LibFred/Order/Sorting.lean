import Mathlib.Data.List.Sort

/-! Sorting that leaves the order of equivalent elements open, as std::sort and ORDER BY do. -/

/-- Some rearrangement of the elements in which none is less than one before it. -/
structure Sorting {α : Type*} (lt : α → α → Bool) where
  sort : List α → List α
  perm : ∀ l, (sort l).Perm l
  ordered : ∀ l, (sort l).Pairwise fun a b => ¬ lt b a

namespace Sorting

variable {α κ : Type*} [LinearOrder κ]

/-- Sorting by a key with a stable algorithm. -/
def byKey (k : α → κ) : Sorting fun a b => decide (k a < k b) where
  sort l := l.insertionSort fun a b => k a ≤ k b
  perm l := l.perm_insertionSort _
  ordered l := by
    have hsorted := List.pairwise_insertionSort (fun a b => k a ≤ k b) l
    exact hsorted.imp fun h => by simpa using h

variable {lt lt' : α → α → Bool} {l : List α} {p : α → Bool} {a : α}

/-- An order that tells more elements apart sorts them too. -/
def coarsen (order : Sorting lt') (h : ∀ a b, lt a b = true → lt' a b = true) : Sorting lt where
  sort := order.sort
  perm := order.perm
  ordered l := (order.ordered l).imp fun hnot hlt => hnot (h _ _ hlt)

theorem mem_sort (order : Sorting lt) : a ∈ order.sort l ↔ a ∈ l := (order.perm l).mem_iff

/-- Nothing that the search would take comes before what it takes. -/
theorem of_find?_eq_some (order : Sorting lt) (h : (order.sort l).find? p = some a) :
    a ∈ l ∧ p a = true ∧ ∀ b ∈ l, p b = true → b ≠ a → ¬ lt b a = true := by
  obtain ⟨hpa, before, after, hsort, hbefore⟩ := List.find?_eq_some_iff_append.mp h
  refine ⟨order.mem_sort.mp (List.mem_of_find?_eq_some h), hpa, fun b hb hpb hne => ?_⟩
  have hmem : b ∈ before ++ a :: after := hsort ▸ order.mem_sort.mpr hb
  rcases List.mem_append.mp hmem with hmem | hmem
  · have hnot := hbefore b hmem
    rw [hpb] at hnot
    exact absurd hnot (by decide)
  · have hordered := order.ordered l
    rw [hsort, List.pairwise_append, List.pairwise_cons] at hordered
    exact hordered.2.1.1 b (List.mem_of_ne_of_mem hne hmem)

end Sorting

/-- In a descending list the first element that `p` does not drop is the greatest of those, and
whatever is less comes after it. -/
theorem exists_dropWhile_eq_cons {α κ : Type*} [LinearOrder κ] {k : α → κ} {p : α → Bool} {l : List α}
    (hl : l.Pairwise fun a b => k b ≤ k a) (h : ∃ b ∈ l, p b = false) :
    ∃ a l', l.dropWhile p = a :: l' ∧ a ∈ l ∧ p a = false ∧ (∀ b ∈ l, p b = false → k b ≤ k a) ∧
      ∀ b ∈ l, k b < k a → b ∈ l' := by
  induction l with
  | nil =>
    obtain ⟨b, hb, -⟩ := h
    cases hb
  | cons c l ih =>
    obtain ⟨hc, hl⟩ := List.pairwise_cons.mp hl
    cases hpc : p c with
    | false =>
      refine ⟨c, l, List.dropWhile_cons_of_neg (by simp [hpc]), List.mem_cons_self, hpc, ?_, ?_⟩
      · intro b hb _
        rcases List.mem_cons.mp hb with rfl | hb
        · exact le_rfl
        · exact hc b hb
      · intro b hb hlt
        rcases List.mem_cons.mp hb with rfl | hb
        · exact absurd hlt (lt_irrefl _)
        · exact hb
    | true =>
      have hrest : ∃ b ∈ l, p b = false := by
        obtain ⟨b, hb, hpb⟩ := h
        rcases List.mem_cons.mp hb with rfl | hb
        · rw [hpc] at hpb
          cases hpb
        · exact ⟨b, hb, hpb⟩
      obtain ⟨a, l', hdrop, ha, hpa, hgreatest, hafter⟩ := ih hl hrest
      refine ⟨a, l', by rw [List.dropWhile_cons_of_pos hpc, hdrop], List.mem_cons_of_mem _ ha, hpa, ?_, ?_⟩
      · intro b hb hpb
        rcases List.mem_cons.mp hb with rfl | hb
        · rw [hpc] at hpb
          cases hpb
        · exact hgreatest b hb hpb
      · intro b hb hlt
        rcases List.mem_cons.mp hb with rfl | hb
        · exact absurd (hc a ha) hlt.not_ge
        · exact hafter b hb hlt

/-- What holds of an element only if it holds of all before it holds of the first elements. -/
theorem takeWhile_eq_filter {α : Type*} {p : α → Bool} {l : List α}
    (hl : l.Pairwise fun a b => p b = true → p a = true) : l.takeWhile p = l.filter p := by
  induction l with
  | nil => rfl
  | cons a l ih =>
    obtain ⟨ha, hl⟩ := List.pairwise_cons.mp hl
    cases hpa : p a with
    | true => rw [List.takeWhile_cons_of_pos hpa, List.filter_cons_of_pos hpa, ih hl]
    | false =>
      have hnone : l.filter p = [] := by
        refine List.filter_eq_nil_iff.mpr fun b hb hpb => ?_
        rw [ha b hb hpb] at hpa
        cases hpa
      rw [List.takeWhile_cons_of_neg (by simp [hpa]), List.filter_cons_of_neg (by simp [hpa]), hnone]
