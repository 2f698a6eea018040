import Mathlib.Data.List.Induction

/-! Values that are given once and then written over, or left as they are, again and again. -/
namespace Overwrite

variable {α β σ υ : Type*}

/-- The last value that was given, after the one at the beginning. -/
def lastGiven (initial : α) (given : List (Option α)) : α := (given.filterMap id).getLastD initial

@[simp] theorem lastGiven_nil (initial : α) : lastGiven initial [] = initial := rfl

theorem lastGiven_concat (initial : α) (given : List (Option α)) (g : Option α) :
    lastGiven initial (given ++ [g]) = g.getD (lastGiven initial given) := by
  cases g with
  | none => simp [lastGiven, List.filterMap_append]
  | some a => simp [lastGiven, List.filterMap_append]

end Overwrite
