import Mathlib.Order.ConditionallyCompleteLattice.Basic
import Mathlib.Data.Int.ConditionallyCompleteOrder
import Mathlib.Data.Set.Lattice
import Mathlib.Order.CompletePartialOrder
import Mathlib.Order.Defs.LinearOrder

/-! Intervals whose upper end may be missing, as sets of instants. -/
namespace Span

variable {α : Type*} {a c x : α} {b d : Option α}

/-- Instants from `a` on and before `b`; a missing `b` is no limit. -/
def ico [Preorder α] (a : α) (b : Option α) : Set α := {x | a ≤ x ∧ ∀ u ∈ b, x < u}

/-- Instants from `a` on and up to `b`; a missing `b` is no limit. -/
def icc [Preorder α] (a : α) (b : Option α) : Set α := {x | a ≤ x ∧ ∀ u ∈ b, x ≤ u}

@[simp] theorem mem_ico [Preorder α] : x ∈ ico a b ↔ a ≤ x ∧ ∀ u ∈ b, x < u := Iff.rfl

@[simp] theorem mem_icc [Preorder α] : x ∈ icc a b ↔ a ≤ x ∧ ∀ u ∈ b, x ≤ u := Iff.rfl

/-- Two half-open intervals meet exactly when the later of their starts is in both. -/
theorem not_disjoint_ico_iff [LinearOrder α] :
    ¬ Disjoint (ico a b) (ico c d) ↔
      (∀ u ∈ b, a < u) ∧ (∀ v ∈ d, a < v) ∧ (∀ u ∈ b, c < u) ∧ ∀ v ∈ d, c < v := by
  rw [Set.not_disjoint_iff]
  constructor
  · rintro ⟨x, ⟨ha, hb⟩, hc, hd⟩
    exact ⟨fun u hu => ha.trans_lt (hb u hu), fun v hv => ha.trans_lt (hd v hv),
      fun u hu => hc.trans_lt (hb u hu), fun v hv => hc.trans_lt (hd v hv)⟩
  · rintro ⟨hab, had, hcb, hcd⟩
    rcases le_total a c with h | h
    · exact ⟨c, ⟨h, hcb⟩, le_rfl, hcd⟩
    · exact ⟨a, ⟨le_rfl, hab⟩, h, had⟩

/-- Two closed intervals meet exactly when the later of their starts is in both. -/
theorem not_disjoint_icc_iff [LinearOrder α] :
    ¬ Disjoint (icc a b) (icc c d) ↔
      (∀ u ∈ b, a ≤ u) ∧ (∀ v ∈ d, a ≤ v) ∧ (∀ u ∈ b, c ≤ u) ∧ ∀ v ∈ d, c ≤ v := by
  rw [Set.not_disjoint_iff]
  constructor
  · rintro ⟨x, ⟨ha, hb⟩, hc, hd⟩
    exact ⟨fun u hu => ha.trans (hb u hu), fun v hv => ha.trans (hd v hv),
      fun u hu => hc.trans (hb u hu), fun v hv => hc.trans (hd v hv)⟩
  · rintro ⟨hab, had, hcb, hcd⟩
    rcases le_total a c with h | h
    · exact ⟨c, ⟨h, hcb⟩, le_rfl, hcd⟩
    · exact ⟨a, ⟨le_rfl, hab⟩, h, had⟩

/-- One interval that is over before the other starts shares no instant with it. -/
theorem disjoint_icc_of_before [LinearOrder α] (h : (∃ u ∈ b, u < c) ∨ ∃ v ∈ d, v < a) :
    Disjoint (icc a b) (icc c d) := by
  by_contra hne
  obtain ⟨-, hright, hleft, -⟩ := not_disjoint_icc_iff.mp hne
  rcases h with ⟨u, hu, hlt⟩ | ⟨v, hv, hlt⟩
  · exact absurd (hleft u hu) (not_le.mpr hlt)
  · exact absurd (hright v hv) (not_le.mpr hlt)

theorem disjoint_icc_iff [LinearOrder α] (hab : ∀ u ∈ b, a ≤ u) (hcd : ∀ v ∈ d, c ≤ v) :
    Disjoint (icc a b) (icc c d) ↔ (∃ u ∈ b, u < c) ∨ ∃ v ∈ d, v < a := by
  refine ⟨fun h => ?_, disjoint_icc_of_before⟩
  by_contra hno
  simp only [not_or, not_exists, not_and, not_lt] at hno
  exact not_disjoint_icc_iff.mpr ⟨hab, hno.2, hno.1, hcd⟩ h

theorem disjoint_ico_of_before [LinearOrder α] {u : α} (hu : u ∈ b) (h : u ≤ c) :
    Disjoint (ico a b) (ico c d) :=
  Set.disjoint_left.mpr fun _ hx hx' => absurd (hx.2 u hu) (not_lt.mpr (h.trans hx'.1))

/-- Moving the end back only removes instants. -/
theorem ico_subset_of_upper [Preorder α] (h : ∀ v ∈ d, ∃ u ∈ b, u ≤ v) : ico a b ⊆ ico a d := by
  rintro x ⟨ha, hb⟩
  refine ⟨ha, fun v hv => ?_⟩
  obtain ⟨u, hu, huv⟩ := h v hv
  exact (hb u hu).trans_le huv

end Span
