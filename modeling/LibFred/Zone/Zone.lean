import LibFred.Cpp.StdString
import LibFred.Order.Sorting

/-! Zones and the zone of a domain name. -/
namespace LibFred.Zone

open Cpp (StdString)

/-- A row of the table of zones. -/
structure Data where
  id : Nat
  isEnum : Bool
  name : StdString
  dotsMax : Nat
  exPeriodMin : Nat
  exPeriodMax : Nat
  enumValidationPeriod : Nat
  deriving DecidableEq

inductive Exception
  | unknownZoneInFqdn (fqdn : StdString)
  | internalError (what : String)
  | runtimeError (what : String)
  deriving DecidableEq

def remTrailingDot (fqdn : StdString) : StdString :=
  if fqdn.getLast? = some '.' then fqdn.dropLast else fqdn

/-- length() of a text in UTF-8 counts the bytes that begin a character. -/
def sqlLength (text : StdString) : Nat := text.countP fun c => ¬ (0x80 ≤ c.toNat ∧ c.toNat < 0xC0)

/-- ORDER BY length(fqdn) DESC. -/
abbrev LongestFirst := Sorting fun a b : StdString => decide (sqlLength b < sqlLength a)

/-- Names of one length stay in the order of the table. -/
def stableOrder : LongestFirst :=
  (Sorting.byKey fun a : StdString => -(sqlLength a : Int)).coarsen fun a b h => by
    rw [decide_eq_true_iff] at h ⊢
    omega

def getZone (zones : List Data) (zoneName : StdString) : Except Exception Data :=
  match zones.filter fun z => z.name = Cpp.toLowerCopy zoneName with
  | [zone] => return zone
  | _ => throw (.runtimeError "not found")

/-- The place in the name from which on the zone is looked for, an int that a difference of sizes
is assigned to. -/
def searchFrom (domain zone : StdString) : Int :=
  Cpp.toInt ((domain.length : Int) - ('.' :: zone).length)

/-- The zone is found in the name. -/
def FoundIn (domain zone : StdString) : Prop :=
  1 ≤ searchFrom domain zone ∧ (Cpp.find domain ('.' :: zone) (searchFrom domain zone).toNat).isSome

instance (domain zone : StdString) : Decidable (FoundIn domain zone) := by
  unfold FoundIn
  infer_instance

variable (order : LongestFirst) (zones : List Data)

def findZoneInFqdn (noRootDotFqdn : StdString) : Except Exception Data :=
  let domain := Cpp.toLowerCopy noRootDotFqdn
  let availableZones := order.sort (zones.map (·.name))
  if availableZones = [] then throw (.internalError "missing zone configuration")
  else
    match availableZones.find? fun zone => FoundIn domain zone with
    | some zone =>
      match getZone zones zone with
      | .ok data => return data
      | .error _ => throw (.unknownZoneInFqdn noRootDotFqdn)
    | none => throw (.unknownZoneInFqdn noRootDotFqdn)

end LibFred.Zone
