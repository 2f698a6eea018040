import LibFred.Db.Schema
import LibFred.RegistrableObject.Domain.DomainName
import LibFred.Sql.Like
import LibFred.Sql.Regexp

/-! Checks of a domain name before it is registered. -/
namespace LibFred.RegistrableObject.Domain

open Cpp (StdString)

/-- A row of enum_domain_name_validation_checker. -/
structure NameChecker where
  id : Nat
  name : String
  deriving DecidableEq

/-- A row of zone_domain_name_validation_checker_map. -/
structure ZoneChecker where
  zoneId : Nat
  checkerId : Nat
  deriving DecidableEq

/-- A row of object_registry. -/
structure RegistryRow where
  id : Nat
  type : Db.ObjectType
  name : StdString
  erdate : Option Int
  deriving DecidableEq

/-- A row of the table domain. -/
structure DomainRow where
  id : Nat
  zone : Nat
  deriving DecidableEq

/-- A row of domain_blacklist; the times are instants. -/
structure BlacklistRow where
  regexp : StdString
  reason : String
  validFrom : Int
  validTo : Option Int
  deriving DecidableEq

structure Tables where
  zones : List Zone.Data
  nameCheckers : List NameChecker := []
  zoneCheckers : List ZoneChecker := []
  objectRegistry : List RegistryRow := []
  domains : List DomainRow := []
  domainBlacklist : List BlacklistRow := []
  deriving DecidableEq

/-- The order of rows that a query without ORDER BY leaves to the database. -/
abbrev RowOrder (α : Type) := Sorting fun _ _ : α => false

/-- The rows as they are stored. -/
def storedOrder (α : Type) : RowOrder α where
  sort l := l
  perm l := .refl l
  ordered _ := List.pairwise_of_forall fun _ _ => Bool.false_ne_true

def getDomainNameValidationConfigForZone (rowOrder : RowOrder String) (db : Tables)
    (zoneName : StdString) : List String :=
  rowOrder.sort <| db.nameCheckers.flatMap fun ch =>
    (db.zoneCheckers.filter fun cfg => cfg.checkerId = ch.id).flatMap fun cfg =>
      (db.zones.filter fun z => z.id = cfg.zoneId ∧ z.name = Cpp.toLowerCopy zoneName).map fun _ =>
        ch.name

inductive CheckException
  | zone (e : Zone.Exception)
  | name (e : NameException)
  | resultFailed (what : String)
  deriving DecidableEq

structure CheckDomain where
  fqdn : StdString
  isSystemRegistrar : Bool := false

namespace CheckDomain

variable (check : CheckDomain) (order : Zone.LongestFirst) (rowOrder : RowOrder String) (db : Tables)

/-- The syntax of the name as the checkers of its zone see it. -/
def validate (zone : Zone.Data) : Except NameException Bool := do
  let validator : DomainNameValidator := { isSystemRegistrar := check.isSystemRegistrar }
  let validator ←
    validator.setCheckerNames (getDomainNameValidationConfigForZone rowOrder db zone.name)
  let zoneName ← DomainName.new zone.name
  let fqdn ← DomainName.new check.fqdn
  { validator with zoneName := some zoneName, ctx := true }.exec fqdn
    (Cpp.toInt (zone.name.count '.' + 1))

def isInvalidSyntax : Except CheckException Bool :=
  if isRfc1123CompliantHostName check.fqdn = false then return true
  else
    let noRootDotFqdn := Zone.remTrailingDot check.fqdn
    match Zone.findZoneInFqdn order db.zones noRootDotFqdn with
    | .error (.unknownZoneInFqdn fqdn) =>
      if fqdn = noRootDotFqdn then return true
      else throw (.zone (.unknownZoneInFqdn fqdn))
    | .error e => throw (.zone e)
    | .ok zone =>
      match check.validate rowOrder db zone with
      | .ok valid => return !valid
      | .error e => throw (.name e)

end CheckDomain

/-- The names of the domains in a zone that are not deleted. -/
def liveDomains (db : Tables) (zoneId : Nat) : List StdString :=
  (db.objectRegistry.filter fun obr => obr.type = .domain ∧ obr.erdate = none).flatMap fun obr =>
    (db.domains.filter fun d => d.id = obr.id ∧ d.zone = zoneId).map fun _ => obr.name

/-- The condition on the name of a domain in an ENUM zone. -/
def enumConflict (fqdn name : StdString) : Option Bool := do
  let ancestor ← Sql.like fqdn ('%' :: '.' :: name)
  let descendant ← Sql.like name ('%' :: '.' :: fqdn)
  return ancestor || descendant || name = Cpp.toLowerCopy fqdn

namespace CheckDomain

variable (check : CheckDomain) (order : Zone.LongestFirst) (rowOrder : RowOrder StdString) (db : Tables)

/-- CheckDomain::is_registered, with the name that it finds. -/
def isRegistered : Except CheckException (Option StdString) :=
  let noRootDotFqdn := Zone.remTrailingDot check.fqdn
  match Zone.findZoneInFqdn order db.zones noRootDotFqdn with
  | .error (.unknownZoneInFqdn fqdn) =>
    if fqdn = noRootDotFqdn then return none
    else throw (.zone (.unknownZoneInFqdn fqdn))
  | .error e => throw (.zone e)
  | .ok zone =>
    if zone.isEnum then
      let names := liveDomains db zone.id
      if ∃ name ∈ names, enumConflict noRootDotFqdn name = none then
        throw (.resultFailed "LIKE pattern must not end with escape character")
      else return (rowOrder.sort (names.filter fun name => enumConflict noRootDotFqdn name = some true)).head?
    else
      let names := (db.objectRegistry.filter fun o =>
        o.type = .domain ∧ o.erdate = none ∧ o.name = Cpp.toLowerCopy noRootDotFqdn).map (·.name)
      return (rowOrder.sort names).head?

def isBlacklisted (regexpOperator : Sql.RegexpOperator) (db : Tables) (now : Int) : Bool :=
  let noRootDotFqdn := Zone.remTrailingDot check.fqdn
  db.domainBlacklist.any fun b =>
    regexpOperator.hits noRootDotFqdn b.regexp && decide (b.validFrom ≤ now) &&
      decide (∀ validTo ∈ b.validTo, now < validTo)

end CheckDomain

end LibFred.RegistrableObject.Domain
