import LibFred.Sql.Text
import Mathlib.Data.Finset.Insert

/-! Members of the differences of two states of a registrable object. -/
namespace LibFred.RegistrableObject

open Sql

/-- The old and the new value of a changed field. -/
abbrev DiffMember (α : Type) := Option (α × α)

variable {α : Type} {eq : α → α → Bool} {first second : α}

/-- The member is set unless the values compare as equal. -/
def diffMember (eq : α → α → Bool) (first second : α) : DiffMember α :=
  if eq first second then none else some (first, second)

@[simp] theorem isSome_diffMember : (diffMember eq first second).isSome = !eq first second := by
  unfold diffMember
  split <;> simp_all

/-- Util::is_equal. -/
def isEqual (eq : α → α → Bool) : Option α → Option α → Bool
  | none, none => true
  | some lhs, some rhs => eq lhs rhs
  | _, _ => false

@[simp] theorem isEqual_iff [DecidableEq α] {lhs rhs : Option α} :
    isEqual (· == ·) lhs rhs ↔ lhs = rhs := by
  cases lhs <;> cases rhs <;> simp [isEqual]

def equalUpper (lhs rhs : String) : Bool := upper lhs == upper rhs

def equalLower (lhs rhs : String) : Bool := lower lhs == lower rhs

@[simp] theorem equalUpper_iff {lhs rhs : String} : equalUpper lhs rhs ↔ upper lhs = upper rhs := by
  simp [equalUpper]

@[simp] theorem equalLower_iff {lhs rhs : String} : equalLower lhs rhs ↔ lower lhs = lower rhs := by
  simp [equalLower]

/-- Util::is_equal_upper. -/
def isEqualUpper (lhs rhs : Option String) : Bool := isEqual equalUpper lhs rhs

@[simp] theorem isEqualUpper_iff {lhs rhs : Option String} :
    isEqualUpper lhs rhs ↔ lhs.map upper = rhs.map upper := by
  cases lhs <;> cases rhs <;> simp [isEqualUpper, isEqual]

def insertIfPresents (data : DiffMember α) (name : String) (collector : Finset String) :
    Finset String :=
  if data.isSome then insert name collector else collector

@[simp] theorem insertIfPresents_eq_empty {data : DiffMember α} {name : String}
    {collector : Finset String} :
    insertIfPresents data name collector = ∅ ↔ data.isSome = false ∧ collector = ∅ := by
  cases data <;> simp [insertIfPresents]

/-- Whether any of the members is set, given which of them are. -/
def isSetAnyOf : List Bool → Bool
  | [] => false
  | first :: others => first || isSetAnyOf others

end LibFred.RegistrableObject
