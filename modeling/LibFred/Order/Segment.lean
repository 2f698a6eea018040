import LibFred.Order.Sorting

/-! Contiguous segments of a list, and sortings that break ties in their own way. -/

variable {α : Type*} {l m : List α} {p : α → Bool} {a b : α}

/-- What is kept is a prefix when nothing is dropped before something that is kept. -/
theorem List.Pairwise.filter_isPrefix (h : l.Pairwise fun a b => p b = true → p a = true) :
    l.filter p <+: l := by
  induction h with
  | nil => exact List.nil_prefix
  | @cons a l hfirst _ ih =>
    cases hp : p a with
    | true =>
      rw [List.filter_cons_of_pos hp]
      exact (List.prefix_cons_inj a).mpr ih
    | false =>
      have hnone : (a :: l).filter p = [] := by
        refine List.filter_eq_nil_iff.mpr fun b hb hpb => ?_
        rcases List.mem_cons.mp hb with rfl | hb
        · simp [hp] at hpb
        · simp [hfirst b hb hpb] at hp
      rw [hnone]
      exact List.nil_prefix

/-- What is kept is a segment when nothing is dropped between two that are kept. -/
theorem filter_isInfix (h : ∀ a b c, [a, b, c].Sublist l → p a = true → p c = true → p b = true) :
    l.filter p <:+: l := by
  induction l with
  | nil => exact List.infix_rfl
  | cons a l ih =>
    cases hp : p a with
    | true =>
      have hkept : l.Pairwise fun b c => p c = true → p b = true := by
        refine List.pairwise_iff_forall_sublist.mpr fun hbc hc => ?_
        exact h a _ _ (hbc.cons_cons a) hp hc
      rw [List.filter_cons_of_pos hp]
      exact ((List.prefix_cons_inj a).mpr hkept.filter_isPrefix).isInfix
    | false =>
      rw [List.filter_cons_of_neg (by simp [hp])]
      have ih := ih fun a' b c habc => h a' b c (habc.cons a)
      exact ih.trans (List.suffix_cons a l).isInfix

/-- Of two elements of a list without duplicates one comes first. -/
theorem not_sublist_swap (hl : l.Nodup) (hab : [a, b].Sublist l) : ¬ [b, a].Sublist l := by
  intro hba
  induction l with
  | nil => cases hab
  | cons c l ih =>
    obtain ⟨hc, hl⟩ := List.nodup_cons.mp hl
    rcases List.sublist_cons_iff.mp hab with hab' | ⟨_, heq, hb⟩
    · rcases List.sublist_cons_iff.mp hba with hba' | ⟨_, heq', -⟩
      · exact ih hl hab' hba'
      · obtain ⟨rfl, -⟩ := List.cons.inj heq'
        exact hc (hab'.subset (by simp))
    · obtain ⟨rfl, rfl⟩ := List.cons.inj heq
      rcases List.sublist_cons_iff.mp hba with hba' | ⟨_, heq', -⟩
      · exact hc (hba'.subset (by simp))
      · obtain ⟨rfl, -⟩ := List.cons.inj heq'
        exact hc (hb.subset (by simp))

/-- Any ordered rearrangement of a list is what some sorting makes of it. -/
theorem Sorting.exists_sort_eq {lt : α → α → Bool} (sort : Sorting lt) (hperm : m.Perm l)
    (hm : m.Pairwise fun a b => ¬ lt b a) : ∃ sort' : Sorting lt, sort'.sort l = m := by
  classical
  refine ⟨⟨fun l' => if l' = l then m else sort.sort l', fun l' => ?_, fun l' => ?_⟩, if_pos rfl⟩
  · split
    · rename_i h
      exact h ▸ hperm
    · exact sort.perm l'
  · split
    · exact hm
    · exact sort.ordered l'

/-- When the keys are distinct every sorting gives the same list. -/
theorem Sorting.sort_eq {κ : Type*} [LinearOrder κ] {k : α → κ}
    (sort : Sorting fun a b => decide (k a < k b)) (hperm : m.Perm l)
    (hm : m.Pairwise fun a b => k a ≤ k b) (hdistinct : ∀ a ∈ l, ∀ b ∈ l, k a = k b → a = b) :
    sort.sort l = m := by
  have hs : (sort.sort l).Pairwise fun a b => k a ≤ k b :=
    (sort.ordered l).imp fun h => by simpa using h
  refine List.Perm.eq_of_pairwise ?_ hs hm ((sort.perm l).trans hperm.symm)
  intro a b ha hb hab hba
  exact hdistinct a ((sort.perm l).mem_iff.mp ha) b (hperm.mem_iff.mp hb) (le_antisymm hab hba)

/-- Of two elements with equal keys some sorting puts the second first. -/
theorem Sorting.exists_swapped {κ : Type*} [LinearOrder κ] {k : α → κ} (hab : [a, b].Sublist m)
    (hperm : m.Perm l) (hk : k a = k b) :
    ∃ sort : Sorting fun a b => decide (k a < k b), [b, a].Sublist (sort.sort l) := by
  -- a stable sorting keeps the order that the two have in the reversed list
  let swapped := m.reverse.insertionSort fun a b => k a ≤ k b
  have hswapped : swapped.Perm l :=
    ((List.perm_insertionSort _ _).trans (List.reverse_perm m)).trans hperm
  have hsorted : swapped.Pairwise fun a b => ¬ decide (k b < k a) := by
    have hle := List.pairwise_insertionSort (fun a b => k a ≤ k b) m.reverse
    exact hle.imp fun h => by simpa using h
  have hba : [b, a].Sublist swapped := by
    refine List.pair_sublist_insertionSort hk.symm.le ?_
    simpa using hab.reverse
  obtain ⟨sort, hsort⟩ := Sorting.exists_sort_eq (.byKey k) hswapped hsorted
  exact ⟨sort, hsort ▸ hba⟩
