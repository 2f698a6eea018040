import Mathlib.Data.List.Basic
import Mathlib.Order.CompletePartialOrder
import Mathlib.Order.Lattice

/-! Maps whose keys a linear order compares, as the lists of their elements in the order of keys. -/
namespace OrderedMap

variable {κ β : Type*} [LinearOrder κ] {k k' : κ} {b : β} {m : List (κ × β)}

def find (k : κ) : List (κ × β) → Option β
  | [] => none
  | (k', b) :: m => if k' = k then some b else find k m

/-- Inserts the element, or replaces the one of the same key. -/
def set (k : κ) (b : β) : List (κ × β) → List (κ × β)
  | [] => [(k, b)]
  | (k', b') :: m =>
    if k < k' then (k, b) :: (k', b') :: m
    else if k' = k then (k, b) :: m
    else (k', b') :: set k b m

def erase (k : κ) : List (κ × β) → List (κ × β)
  | [] => []
  | (k', b) :: m => if k' = k then erase k m else (k', b) :: erase k m

/-- The keys ascend. -/
def Ascending (m : List (κ × β)) : Prop := m.Pairwise fun x y => x.1 < y.1

theorem find_set : find k' (set k b m) = if k = k' then some b else find k' m := by
  induction m with
  | nil => rfl
  | cons x m ih =>
    obtain ⟨k'', b''⟩ := x
    rw [set]
    split
    · rfl
    · split
      · rename_i h
        simp only [find, h]
        split <;> rfl
      · rename_i h
        simp only [find, ih]
        by_cases hk : k'' = k'
        · rw [if_pos hk, if_pos hk, if_neg (hk ▸ Ne.symm h)]
        · rw [if_neg hk, if_neg hk]

theorem find_erase : find k' (erase k m) = if k = k' then none else find k' m := by
  induction m with
  | nil =>
    rw [erase, find]
    split <;> rfl
  | cons x m ih =>
    obtain ⟨k'', b''⟩ := x
    rw [erase]
    split
    · rename_i h
      rw [ih, find, h]
      split
      · rfl
      · rfl
    · rename_i h
      simp only [find, ih]
      by_cases hk : k'' = k'
      · rw [if_pos hk, if_pos hk, if_neg (hk ▸ Ne.symm h)]
      · rw [if_neg hk, if_neg hk]

theorem mem_erase {x : κ × β} : x ∈ erase k m ↔ x ∈ m ∧ x.1 ≠ k := by
  induction m with
  | nil => simp [erase]
  | cons y m ih =>
    rw [erase]
    split
    · rename_i h
      rw [ih, List.mem_cons]
      constructor
      · exact fun hx => ⟨.inr hx.1, hx.2⟩
      · rintro ⟨rfl | hx, hne⟩
        · exact absurd h hne
        · exact ⟨hx, hne⟩
    · rename_i h
      rw [List.mem_cons, ih, List.mem_cons]
      constructor
      · rintro (rfl | hx)
        · exact ⟨.inl rfl, h⟩
        · exact ⟨.inr hx.1, hx.2⟩
      · rintro ⟨rfl | hx, hne⟩
        · exact .inl rfl
        · exact .inr ⟨hx, hne⟩

theorem mem_of_mem_set {x : κ × β} (h : x ∈ set k b m) : x = (k, b) ∨ x ∈ m := by
  induction m with
  | nil => exact .inl (List.mem_singleton.mp h)
  | cons y m ih =>
    rw [set] at h
    split at h
    · exact List.mem_cons.mp h
    · split at h
      · rcases List.mem_cons.mp h with h | h
        · exact .inl h
        · exact .inr (List.mem_cons_of_mem _ h)
      · rcases List.mem_cons.mp h with rfl | h
        · exact .inr List.mem_cons_self
        · exact (ih h).imp_right (List.mem_cons_of_mem _)

theorem ascending_erase (h : Ascending m) : Ascending (erase k m) := by
  induction m with
  | nil => exact h
  | cons y m ih =>
    obtain ⟨hy, hm⟩ := List.pairwise_cons.mp h
    rw [erase]
    split
    · exact ih hm
    · exact List.pairwise_cons.mpr ⟨fun x hx => hy x (mem_erase.mp hx).1, ih hm⟩

theorem ascending_set (h : Ascending m) : Ascending (set k b m) := by
  induction m with
  | nil => exact List.pairwise_singleton _ _
  | cons y m ih =>
    obtain ⟨hy, hm⟩ := List.pairwise_cons.mp h
    rw [set]
    split
    · rename_i hk
      refine List.pairwise_cons.mpr ⟨fun x hx => ?_, h⟩
      rcases List.mem_cons.mp hx with rfl | hx
      · exact hk
      · exact lt_trans hk (hy x hx)
    · rename_i hk
      split
      · rename_i heq
        exact List.pairwise_cons.mpr ⟨fun x hx => heq ▸ hy x hx, hm⟩
      · rename_i hne
        refine List.pairwise_cons.mpr ⟨fun x hx => ?_, ih hm⟩
        rcases mem_of_mem_set hx with rfl | hx
        · exact lt_of_le_of_ne (not_lt.mp hk) hne
        · exact hy x hx

theorem mem_iff_find (h : Ascending m) : (k, b) ∈ m ↔ find k m = some b := by
  induction m with
  | nil => simp [find]
  | cons y m ih =>
    obtain ⟨k', b'⟩ := y
    obtain ⟨hy, hm⟩ := List.pairwise_cons.mp h
    rw [find, List.mem_cons, ih hm]
    by_cases hk : k' = k
    · rw [if_pos hk]
      subst hk
      constructor
      · rintro (heq | hfind)
        · rw [(Prod.mk.inj heq).2]
        · exact absurd (hy _ ((ih hm).mpr hfind)) (lt_irrefl _)
      · intro heq
        exact .inl (by rw [Option.some.inj heq])
    · rw [if_neg hk]
      constructor
      · rintro (heq | hfind)
        · exact absurd (Prod.mk.inj heq).1.symm hk
        · exact hfind
      · exact .inr

end OrderedMap
