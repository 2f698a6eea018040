import Mathlib.Data.List.Forall2

/-! Regular expressions of the database as far as they stand for one text. -/
namespace Sql

/-- A part of a regular expression that matches one character. -/
inductive RegexpAtom
  | plain (c : Char)
  | escaped (c : Char)

/-- Characters with a meaning of their own. -/
def regexpSpecials : List Char :=
  ['\\', '.', '^', '$', '*', '+', '?', '(', ')', '[', ']', '{', '}', '|']

namespace RegexpAtom

def text : RegexpAtom → List Char
  | plain c => [c]
  | escaped c => ['\\', c]

def char : RegexpAtom → Char
  | plain c => c
  | escaped c => c

/-- A character of ASCII. A plain one has no meaning of its own; a backslash takes the meaning from
one that is neither a letter nor a digit. -/
def Proper : RegexpAtom → Prop
  | plain c => c.toNat < 128 ∧ c ∉ regexpSpecials
  | escaped c => c.toNat < 128 ∧ c.isAlphanum = false

end RegexpAtom

/-- The expression for one whole text. -/
def anchored (atoms : List RegexpAtom) : List Char :=
  '^' :: (atoms.flatMap RegexpAtom.text ++ ['$'])

/-- The operator that matches a text with an expression and does not look at letter case. -/
structure RegexpOperator where
  hits : (text regexp : List Char) → Bool
  hits_anchored : ∀ (text : List Char) (atoms : List RegexpAtom), (∀ a ∈ atoms, a.Proper) →
    (hits text (anchored atoms) = true ↔
      List.Forall₂ (fun (c : Char) a => c.toLower = a.char.toLower) text atoms)

/-- The atoms of an expression in which nothing but the backslash has a meaning. -/
def literalAtoms : List Char → List RegexpAtom
  | '\\' :: c :: regexp => .escaped c :: literalAtoms regexp
  | c :: regexp => .plain c :: literalAtoms regexp
  | [] => []

theorem literalAtoms_flatMap {atoms : List RegexpAtom} (h : ∀ a ∈ atoms, a.Proper) :
    literalAtoms (atoms.flatMap RegexpAtom.text) = atoms := by
  induction atoms with
  | nil => rfl
  | cons a atoms ih =>
    obtain ⟨ha, hatoms⟩ := List.forall_mem_cons.mp h
    rw [List.flatMap_cons]
    cases a with
    | plain c =>
      have hc : c ≠ '\\' := by
        rintro rfl
        exact ha.2 (by decide)
      rw [RegexpAtom.text, List.singleton_append, literalAtoms, ih hatoms]
      exact fun _ _ hescape => absurd hescape hc
    | escaped c =>
      rw [RegexpAtom.text, List.cons_append, List.singleton_append, literalAtoms, ih hatoms]

/-- An operator that takes every expression for one of a whole text. -/
def literalOperator : RegexpOperator where
  hits text regexp := List.Forall₂ (fun (c : Char) a => c.toLower = a.char.toLower) text
    (literalAtoms regexp.tail.dropLast)
  hits_anchored text atoms h := by
    rw [anchored, List.tail_cons, List.dropLast_concat, literalAtoms_flatMap h, decide_eq_true_iff]

end Sql
