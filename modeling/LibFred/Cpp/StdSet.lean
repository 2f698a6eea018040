import Mathlib.Data.List.Sort
import Mathlib.Order.Defs.LinearOrder

/-! Ordered sets in the manner of std::set: an element is dropped when an equivalent one is
already there, and two sets are compared element by element. -/
namespace StdSet

variable {α κ : Type*} {lt eq : α → α → Bool} {k : α → κ} {a : α} {l l' : List α}

def insert (lt : α → α → Bool) (a : α) : List α → List α
  | [] => [a]
  | b :: l => if lt a b then a :: b :: l else if lt b a then b :: insert lt a l else b :: l

def ofList (lt : α → α → Bool) (l : List α) : List α := l.foldl (fun s a => insert lt a s) []

/-- The sizes agree and so do the elements in their order. -/
def beq (eq : α → α → Bool) : List α → List α → Bool
  | [], [] => true
  | a :: l, a' :: l' => eq a a' && beq eq l l'
  | _, _ => false

theorem beq_iff_map_eq (heq : ∀ a b, eq a b ↔ k a = k b) : beq eq l l' ↔ l.map k = l'.map k := by
  induction l generalizing l' with
  | nil => cases l' <;> simp [beq]
  | cons a l ih => cases l' <;> simp [beq, heq, ih]

variable [LinearOrder κ]

/-- The keys of the elements ascend. -/
def Ascending (k : α → κ) (l : List α) : Prop := (l.map k).Pairwise (· < ·)

theorem ascending_nil : Ascending k [] := List.Pairwise.nil

theorem mem_map_insert (hlt : ∀ a b, lt a b ↔ k a < k b) {x : κ} :
    x ∈ (insert lt a l).map k ↔ x = k a ∨ x ∈ l.map k := by
  induction l with
  | nil => simp [insert]
  | cons b l ih =>
    rw [insert]
    split
    · simp
    · rename_i hab
      split
      · rw [List.map_cons, List.mem_cons, ih, List.map_cons, List.mem_cons]
        exact or_left_comm
      · rename_i hba
        have hkey : k a = k b := le_antisymm (not_lt.mp fun h => hba ((hlt b a).mpr h))
          (not_lt.mp fun h => hab ((hlt a b).mpr h))
        simp [hkey]

theorem ascending_insert (hlt : ∀ a b, lt a b ↔ k a < k b) (h : Ascending k l) :
    Ascending k (insert lt a l) := by
  induction l with
  | nil => simp [insert, Ascending]
  | cons b l ih =>
    obtain ⟨hb, hl⟩ := List.pairwise_cons.mp h
    rw [insert]
    split
    · rename_i hab
      have hlt := (hlt a b).mp hab
      refine List.pairwise_cons.mpr ⟨?_, h⟩
      intro x hx
      rcases List.mem_cons.mp hx with rfl | hx
      · exact hlt
      · exact hlt.trans (hb x hx)
    · split
      · rename_i hba
        refine List.pairwise_cons.mpr ⟨?_, ih hl⟩
        intro x hx
        rcases (mem_map_insert hlt).mp hx with rfl | hx
        · exact (hlt b a).mp hba
        · exact hb x hx
      · exact h

theorem foldl_insert (hlt : ∀ a b, lt a b ↔ k a < k b) {s : List α} (hs : Ascending k s) :
    Ascending k (l.foldl (fun s a => insert lt a s) s) ∧
      ∀ x, x ∈ (l.foldl (fun s a => insert lt a s) s).map k ↔ x ∈ l.map k ∨ x ∈ s.map k := by
  induction l generalizing s with
  | nil => simpa using hs
  | cons a l ih =>
    obtain ⟨hasc, hmem⟩ := ih (ascending_insert hlt hs (a := a))
    refine ⟨hasc, fun x => ?_⟩
    rw [List.foldl_cons, hmem, mem_map_insert hlt, List.map_cons, List.mem_cons, or_left_comm,
      or_assoc]

theorem ascending_ofList (hlt : ∀ a b, lt a b ↔ k a < k b) : Ascending k (ofList lt l) :=
  (foldl_insert hlt ascending_nil).1

theorem mem_map_ofList (hlt : ∀ a b, lt a b ↔ k a < k b) {x : κ} :
    x ∈ (ofList lt l).map k ↔ x ∈ l.map k := by
  rw [ofList, (foldl_insert hlt ascending_nil).2]
  simp

/-- When both `lt` and `eq` compare by the key, sets are equal that have the same keys. -/
theorem beq_ofList_iff (hlt : ∀ a b, lt a b ↔ k a < k b) (heq : ∀ a b, eq a b ↔ k a = k b) :
    beq eq (ofList lt l) (ofList lt l') ↔ ∀ x, x ∈ l.map k ↔ x ∈ l'.map k := by
  rw [beq_iff_map_eq heq]
  constructor
  · intro h x
    rw [← mem_map_ofList hlt, h, mem_map_ofList hlt]
  · intro h
    refine List.Pairwise.eq_of_mem_iff (ascending_ofList hlt) (ascending_ofList hlt) fun x => ?_
    rw [mem_map_ofList hlt, mem_map_ofList hlt, h]

end StdSet
