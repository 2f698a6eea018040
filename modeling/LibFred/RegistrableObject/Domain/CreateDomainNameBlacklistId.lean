import LibFred.RegistrableObject.Domain.CheckDomain

/-! Domain names on the blacklist. -/
namespace LibFred.RegistrableObject.Domain

open Cpp (StdString)

inductive BlacklistException
  | outOfTurn (validFrom : Option Int) (validTo : Int)
  | objectIdNotFound (objectId : Nat)
  | alreadyBlacklistedDomain (objectId : Nat)
  deriving DecidableEq

def regexpOf : Char → StdString
  | '.' => ['\\', '.']
  | c => [c]

def fqdnToRegexp (fqdn : StdString) : StdString := '^' :: (fqdn.flatMap regexpOf ++ ['$'])

structure CreateDomainNameBlacklistId where
  objectId : Nat
  reason : String
  validFrom : Option Int := none
  validTo : Option Int := none

namespace CreateDomainNameBlacklistId

variable (create : CreateDomainNameBlacklistId) (db : Tables) (now : Int)

/-- The beginning that is written, and that stands for the given one in all comparisons. -/
def start : Int := create.validFrom.getD now

/-- The time check of exec. -/
def checkTime : Except BlacklistException Unit :=
  match create.validTo with
  | none => return ()
  | some validTo =>
    if validTo < create.start now then throw (.outOfTurn create.validFrom validTo) else return ()

/-- The local function is_blacklisted. -/
def isBlacklisted (domain : StdString) : Prop :=
  ∃ b ∈ db.domainBlacklist, Cpp.toLowerCopy b.regexp = Cpp.toLowerCopy domain ∧
    (∀ validTo ∈ b.validTo, create.start now < validTo) ∧
    ∀ validTo ∈ create.validTo, b.validFrom ≤ validTo

instance (domain : StdString) : Decidable (create.isBlacklisted db now domain) := by
  unfold isBlacklisted
  infer_instance

def exec : Except BlacklistException Tables := do
  create.checkTime now
  match db.objectRegistry.find? fun obr => obr.id = create.objectId ∧ obr.erdate = none with
  | none => throw (.objectIdNotFound create.objectId)
  | some row =>
    let domainRegexp := fqdnToRegexp row.name
    if create.isBlacklisted db now domainRegexp then
      throw (.alreadyBlacklistedDomain create.objectId)
    else
      return { db with
        domainBlacklist := db.domainBlacklist ++
          [⟨domainRegexp, create.reason, create.start now, create.validTo⟩] }

end CreateDomainNameBlacklistId

end LibFred.RegistrableObject.Domain
