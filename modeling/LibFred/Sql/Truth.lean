import Mathlib.Order.Lattice
import Mathlib.Order.Defs.LinearOrder

/-! Three-valued SQL conditions and the nullable operators that queries are written with. -/
namespace Sql

/-- Value of an SQL condition; `none` is UNKNOWN. -/
abbrev Truth := Option Bool

namespace Truth

def and : Truth → Truth → Truth
  | some false, _ => some false
  | _, some false => some false
  | some true, some true => some true
  | _, _ => none

def or : Truth → Truth → Truth
  | some true, _ => some true
  | _, some true => some true
  | some false, some false => some false
  | _, _ => none

def not : Truth → Truth
  | some b => some !b
  | none => none

/-- A WHERE clause keeps a row whose condition is true, not one where it is unknown. -/
def holds (t : Truth) : Prop := t = some true

instance (t : Truth) : Decidable t.holds := inferInstanceAs (Decidable (t = some true))

@[simp] theorem holds_some {b : Bool} : holds (some b) ↔ b = true := by simp [holds]

@[simp] theorem not_holds_none : ¬ holds none := by simp [holds]

/-- The cast of a condition to bool; NULL becomes false. -/
theorem getD_false_eq_true {t : Truth} : t.getD false = true ↔ t.holds := by
  cases t with
  | none => simp
  | some b => simp

@[simp] theorem holds_and {s t : Truth} : (s.and t).holds ↔ s.holds ∧ t.holds := by
  rcases s with _ | _ | _ <;> rcases t with _ | _ | _ <;> simp [and, holds]

/-- Conditions joined by OR. -/
def any (ts : List Truth) : Truth := ts.foldr or (some false)

@[simp] theorem holds_or {s t : Truth} : (s.or t).holds ↔ s.holds ∨ t.holds := by
  rcases s with _ | _ | _ <;> rcases t with _ | _ | _ <;> simp [or, holds]

@[simp] theorem holds_any {ts : List Truth} : (any ts).holds ↔ ∃ t ∈ ts, t.holds := by
  induction ts with
  | nil => simp [any]
  | cons t ts ih =>
    simp only [any, List.foldr_cons, holds_or, List.mem_cons, exists_eq_or_imp]
    exact or_congr_right ih

end Truth

variable {α : Type*}

def isNull (a : Option α) : Truth := some a.isNone

/-- Comparison by `r`, unknown as soon as one side is NULL. -/
def compare (r : α → α → Prop) [DecidableRel r] : Option α → Option α → Truth
  | some a, some b => some (decide (r a b))
  | _, _ => none

def lt [LT α] [DecidableLT α] (a b : Option α) : Truth := compare (· < ·) a b

def le [LE α] [DecidableLE α] (a b : Option α) : Truth := compare (· ≤ ·) a b

def eq [DecidableEq α] (a b : Option α) : Truth := compare (· = ·) a b

def ne [DecidableEq α] (a b : Option α) : Truth := compare (· ≠ ·) a b

/-- LEAST, which ignores NULL arguments. -/
def least [LinearOrder α] : Option α → Option α → Option α
  | some a, some b => some (min a b)
  | some a, none => some a
  | none, b => b

@[simp] theorem holds_isNull {a : Option α} : (isNull a).holds ↔ a = none := by
  cases a <;> simp [isNull]

@[simp] theorem holds_compare {r : α → α → Prop} [DecidableRel r] {a b : Option α} :
    (compare r a b).holds ↔ ∃ x y, a = some x ∧ b = some y ∧ r x y := by
  cases a <;> cases b <;> simp [compare]

@[simp] theorem holds_lt [LT α] [DecidableLT α] {a b : Option α} :
    (lt a b).holds ↔ ∃ x y, a = some x ∧ b = some y ∧ x < y := holds_compare

@[simp] theorem holds_le [LE α] [DecidableLE α] {a b : Option α} :
    (le a b).holds ↔ ∃ x y, a = some x ∧ b = some y ∧ x ≤ y := holds_compare

@[simp] theorem holds_eq [DecidableEq α] {a b : Option α} :
    (eq a b).holds ↔ ∃ x, a = some x ∧ b = some x := by
  cases a <;> cases b <;> simp [eq, compare]
  exact eq_comm

@[simp] theorem holds_ne [DecidableEq α] {a b : Option α} :
    (ne a b).holds ↔ ∃ x y, a = some x ∧ b = some y ∧ x ≠ y := holds_compare

theorem holds_ne_iff [DecidableEq α] {a b : Option α} :
    (ne a b).holds ↔ ∃ x ∈ a, ∃ y ∈ b, x ≠ y := by
  cases a <;> cases b <;> simp

theorem holds_ne_some [DecidableEq α] {a b : α} : (ne (some a) (some b)).holds ↔ a ≠ b := by
  simp

@[simp] theorem least_none_left [LinearOrder α] {b : Option α} : least none b = b := by
  cases b <;> rfl

@[simp] theorem least_none_right [LinearOrder α] {a : Option α} : least a none = a := by
  cases a <;> rfl

@[simp] theorem least_some_some [LinearOrder α] {a b : α} :
    least (some a) (some b) = some (min a b) := rfl

theorem mem_or_mem_of_mem_least [LinearOrder α] {a b : Option α} {u : α} (h : u ∈ least a b) :
    u ∈ a ∨ u ∈ b := by
  cases a with
  | none =>
    rw [least_none_left] at h
    exact .inr h
  | some x =>
    cases b with
    | none => exact .inl h
    | some y =>
      obtain rfl : min x y = u := Option.some.inj h
      rcases le_total x y with hxy | hyx
      · rw [min_eq_left hxy]
        exact .inl rfl
      · rw [min_eq_right hyx]
        exact .inr rfl

end Sql
