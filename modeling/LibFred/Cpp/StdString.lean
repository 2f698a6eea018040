import Mathlib.Algebra.Group.Int.Defs
import Mathlib.Algebra.Group.Nat.Defs
import Mathlib.Data.List.TakeWhile

/-! Texts in the manner of std::string. -/
namespace Cpp

/-- The bytes of a std::string, each as the character that it encodes. -/
abbrev StdString := List Char

variable {s pat : StdString} {start : Nat}

/-- The characters of a text are gone through, not all that there are. -/
instance (priority := 2000) decidableForallMem (s : List Char) (P : Char → Prop) [DecidablePred P] :
    Decidable (∀ c ∈ s, P c) := List.decidableBAll P s

instance (priority := 2000) decidableExistsMem (s : List Char) (P : Char → Prop) [DecidablePred P] :
    Decidable (∃ c ∈ s, P c) := List.decidableBEx P s

def nul : Char := '\x00'

/-- What a C string keeps of the text. -/
def cStr (s : StdString) : StdString := s.takeWhile (· ≠ nul)

/-- Letters of the C locale in lower case. -/
def toLowerCopy (s : StdString) : StdString := s.map Char.toLower

/-- The first place, from `start` on, at which the text has `pat`. -/
def find (s pat : StdString) (start : Nat) : Option Nat :=
  ((List.range (s.length + 1)).filter (start ≤ ·)).find? fun i => pat.isPrefixOf (s.drop i)

theorem find_isSome :
    (find s pat start).isSome ↔ ∃ i, start ≤ i ∧ i ≤ s.length ∧ pat <+: s.drop i := by
  unfold find
  rw [List.find?_isSome]
  refine exists_congr fun i => ?_
  rw [List.mem_filter, List.mem_range, decide_eq_true_iff, List.isPrefixOf_iff_prefix, Nat.lt_succ_iff,
    and_assoc, and_left_comm]

theorem cStr_eq_self (h : nul ∉ s) : cStr s = s := by
  refine List.takeWhile_eq_self_iff.mpr fun c hc => decide_eq_true ?_
  rintro rfl
  exact h hc

@[simp] theorem length_toLowerCopy : (toLowerCopy s).length = s.length := List.length_map _

/-- What an int keeps of a number. -/
def toInt (n : Int) : Int := n.bmod (2 ^ 32)

theorem toInt_of_lt {n : Int} (hmin : -2 ^ 31 ≤ n) (hmax : n < 2 ^ 31) : toInt n = n := by
  unfold toInt
  rw [Int.bmod_eq_of_le] <;> omega

end Cpp
