import Mathlib.Data.BitVec
import Mathlib.Order.Lattice

/-! Values that the records of the registry are made of. -/
namespace LibFred

/-- A gregorian date of boost, whose special values are not days. -/
inductive Date
  | day (n : Int)
  | notADateTime
  | posInfin
  | negInfin
  deriving DecidableEq

/-- The day a query parameter carries; a special value becomes NULL. -/
def Date.day? : Date → Option Int
  | .day n => some n
  | _ => none

/-- A posix time of boost, in microseconds. -/
inductive Ptime
  | time (n : Int)
  | notADateTime
  | posInfin
  | negInfin
  deriving DecidableEq

/-- The bytes of a uuid, read as one number. -/
abbrev Uuid := Fin (2 ^ 128)

instance Uuid.neZero : NeZero (2 ^ 128) := ⟨by decide⟩

/-- An IP address; version 6 addresses have a scope. -/
inductive IpAddress
  | v4 (bytes : Fin (2 ^ 32))
  | v6 (bytes : Fin (2 ^ 128)) (scopeId : Nat)
  deriving DecidableEq

end LibFred
