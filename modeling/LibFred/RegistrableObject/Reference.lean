import LibFred.Cpp.StdSet
import LibFred.Sql.Text
import LibFred.Values
import Mathlib.Data.Prod.Lex
import Mathlib.Data.String.Basic
import Mathlib.Order.Fin.Basic

/-! References to registrable objects and the comparison of lists of them. -/
namespace LibFred.RegistrableObject

open Sql

structure RegistrableObjectReference where
  id : Nat
  handle : String
  uuid : Uuid
  deriving DecidableEq

namespace RegistrableObjectReference

/-- operator==, for which the case of the handle makes no difference. -/
def equal (lhs rhs : RegistrableObjectReference) : Bool :=
  lhs.id == rhs.id && upper lhs.handle == upper rhs.handle && lhs.uuid == rhs.uuid

/-- operator<, attribute by attribute. -/
def less (lhs rhs : RegistrableObjectReference) : Bool :=
  if lhs.id < rhs.id then true
  else if rhs.id < lhs.id then false
  else if upper lhs.handle < upper rhs.handle then true
  else if upper rhs.handle < upper lhs.handle then false
  else lhs.uuid < rhs.uuid

/-- What the operators compare. -/
def identity (r : RegistrableObjectReference) : Nat ×ₗ String ×ₗ Uuid :=
  toLex (r.id, toLex (upper r.handle, r.uuid))

theorem equal_iff (lhs rhs : RegistrableObjectReference) :
    equal lhs rhs ↔ lhs.identity = rhs.identity := by
  simp [equal, identity, and_assoc]

theorem less_iff (lhs rhs : RegistrableObjectReference) :
    less lhs rhs ↔ lhs.identity < rhs.identity := by
  simp only [identity, Prod.Lex.toLex_lt_toLex, less]
  grind

end RegistrableObjectReference

abbrev ContactReference := RegistrableObjectReference
abbrev NssetReference := RegistrableObjectReference
abbrev KeysetReference := RegistrableObjectReference

/-- Comparison of the std::sets of the elements of two lists. -/
def equalAsSets (lhs rhs : List RegistrableObjectReference) : Bool :=
  StdSet.beq RegistrableObjectReference.equal
    (StdSet.ofList RegistrableObjectReference.less lhs)
    (StdSet.ofList RegistrableObjectReference.less rhs)

/-- The lists refer to the same objects. -/
def SameReferences (lhs rhs : List RegistrableObjectReference) : Prop :=
  ∀ x, x ∈ lhs.map (·.identity) ↔ x ∈ rhs.map (·.identity)

@[simp] theorem equalAsSets_iff {lhs rhs : List RegistrableObjectReference} :
    equalAsSets lhs rhs ↔ SameReferences lhs rhs :=
  StdSet.beq_ofList_iff RegistrableObjectReference.less_iff RegistrableObjectReference.equal_iff

theorem SameReferences.of_perm {lhs rhs : List RegistrableObjectReference} (h : lhs.Perm rhs) :
    SameReferences lhs rhs := fun _ => (h.map _).mem_iff

end LibFred.RegistrableObject
