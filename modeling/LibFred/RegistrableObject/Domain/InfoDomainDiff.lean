import LibFred.RegistrableObject.DiffMember
import LibFred.RegistrableObject.Reference
import Mathlib.Tactic.MkIffOfInductiveProp

/-! Differences of two states of a domain. -/
namespace LibFred.RegistrableObject.Domain

open Sql

structure ENUMValidationExtension where
  validationExpiration : Date
  publish : Bool
  deriving DecidableEq

structure ObjectIdHandlePair where
  id : Nat
  handle : String
  deriving DecidableEq

/-- operator==, for which the case of the handle makes no difference. -/
def ObjectIdHandlePair.equal (lhs rhs : ObjectIdHandlePair) : Bool :=
  lhs.id == rhs.id && upper lhs.handle == upper rhs.handle

structure InfoDomainData where
  roid : String
  fqdn : String
  registrant : ContactReference
  nsset : Option NssetReference
  keyset : Option KeysetReference
  sponsoringRegistrarHandle : String
  createRegistrarHandle : String
  updateRegistrarHandle : Option String
  creationTime : Ptime
  updateTime : Option Ptime
  transferTime : Option Ptime
  expirationDate : Date
  adminContacts : List ContactReference
  enumDomainValidation : Option ENUMValidationExtension
  deleteTime : Option Ptime
  historyid : Nat
  crhistoryid : Nat
  id : Nat
  uuid : Uuid
  historyUuid : Uuid
  zone : ObjectIdHandlePair

structure InfoDomainDiff where
  crhistoryid : DiffMember Nat
  historyid : DiffMember Nat
  deleteTime : DiffMember (Option Ptime)
  fqdn : DiffMember String
  roid : DiffMember String
  sponsoringRegistrarHandle : DiffMember String
  createRegistrarHandle : DiffMember String
  updateRegistrarHandle : DiffMember (Option String)
  creationTime : DiffMember Ptime
  updateTime : DiffMember (Option Ptime)
  transferTime : DiffMember (Option Ptime)
  registrant : DiffMember ContactReference
  nsset : DiffMember (Option NssetReference)
  keyset : DiffMember (Option KeysetReference)
  expirationDate : DiffMember Date
  adminContacts : DiffMember (List ContactReference)
  enumDomainValidation : DiffMember (Option ENUMValidationExtension)
  zone : DiffMember ObjectIdHandlePair
  id : DiffMember Nat
  uuid : DiffMember Uuid
  historyUuid : DiffMember Uuid

def InfoDomainDiff.changedFields (diff : InfoDomainDiff) : Finset String :=
  insertIfPresents diff.crhistoryid "crhistoryid" <|
  insertIfPresents diff.historyid "historyid" <|
  insertIfPresents diff.deleteTime "delete_time" <|
  insertIfPresents diff.fqdn "fqdn" <|
  insertIfPresents diff.roid "roid" <|
  insertIfPresents diff.sponsoringRegistrarHandle "sponsoring_registrar_handle" <|
  insertIfPresents diff.createRegistrarHandle "create_registrar_handle" <|
  insertIfPresents diff.updateRegistrarHandle "update_registrar_handle" <|
  insertIfPresents diff.creationTime "creation_time" <|
  insertIfPresents diff.updateTime "update_time" <|
  insertIfPresents diff.transferTime "transfer_time" <|
  insertIfPresents diff.registrant "registrant" <|
  insertIfPresents diff.nsset "nsset" <|
  insertIfPresents diff.keyset "keyset" <|
  insertIfPresents diff.expirationDate "expiration_date" <|
  insertIfPresents diff.adminContacts "admin_contacts" <|
  insertIfPresents diff.enumDomainValidation "enum_domain_validation" <|
  insertIfPresents diff.zone "zone" <|
  insertIfPresents diff.id "id" <|
  insertIfPresents diff.uuid "uuid" <|
  insertIfPresents diff.historyUuid "history_uuid" ∅

def InfoDomainDiff.isEmpty (diff : InfoDomainDiff) : Bool :=
  !isSetAnyOf
    [diff.crhistoryid.isSome, diff.historyid.isSome, diff.deleteTime.isSome, diff.fqdn.isSome,
      diff.roid.isSome, diff.sponsoringRegistrarHandle.isSome, diff.createRegistrarHandle.isSome,
      diff.updateRegistrarHandle.isSome, diff.creationTime.isSome, diff.updateTime.isSome,
      diff.transferTime.isSome, diff.registrant.isSome, diff.nsset.isSome, diff.keyset.isSome,
      diff.expirationDate.isSome, diff.adminContacts.isSome, diff.enumDomainValidation.isSome,
      diff.zone.isSome, diff.id.isSome, diff.uuid.isSome, diff.historyUuid.isSome]

def diffDomainData (first second : InfoDomainData) : InfoDomainDiff where
  crhistoryid := diffMember (· == ·) first.crhistoryid second.crhistoryid
  historyid := diffMember (· == ·) first.historyid second.historyid
  deleteTime := diffMember (isEqual (· == ·)) first.deleteTime second.deleteTime
  fqdn := diffMember equalLower first.fqdn second.fqdn
  roid := diffMember (· == ·) first.roid second.roid
  sponsoringRegistrarHandle :=
    diffMember equalUpper first.sponsoringRegistrarHandle second.sponsoringRegistrarHandle
  createRegistrarHandle :=
    diffMember equalUpper first.createRegistrarHandle second.createRegistrarHandle
  updateRegistrarHandle :=
    diffMember isEqualUpper first.updateRegistrarHandle second.updateRegistrarHandle
  creationTime := diffMember (· == ·) first.creationTime second.creationTime
  updateTime := diffMember (isEqual (· == ·)) first.updateTime second.updateTime
  transferTime := diffMember (isEqual (· == ·)) first.transferTime second.transferTime
  registrant := diffMember RegistrableObjectReference.equal first.registrant second.registrant
  nsset := diffMember (isEqual RegistrableObjectReference.equal) first.nsset second.nsset
  keyset := diffMember (isEqual RegistrableObjectReference.equal) first.keyset second.keyset
  expirationDate := diffMember (· == ·) first.expirationDate second.expirationDate
  adminContacts := diffMember equalAsSets first.adminContacts second.adminContacts
  enumDomainValidation :=
    diffMember (isEqual (· == ·)) first.enumDomainValidation second.enumDomainValidation
  zone := diffMember ObjectIdHandlePair.equal first.zone second.zone
  id := diffMember (· == ·) first.id second.id
  uuid := diffMember (· == ·) first.uuid second.uuid
  historyUuid := diffMember (· == ·) first.historyUuid second.historyUuid

/-- The two states agree in all compared fields. -/
@[mk_iff] structure InfoDomainData.Agrees (first second : InfoDomainData) : Prop where
  crhistoryid : first.crhistoryid = second.crhistoryid
  historyid : first.historyid = second.historyid
  deleteTime : first.deleteTime = second.deleteTime
  fqdn : lower first.fqdn = lower second.fqdn
  roid : first.roid = second.roid
  sponsoringRegistrarHandle :
    upper first.sponsoringRegistrarHandle = upper second.sponsoringRegistrarHandle
  createRegistrarHandle : upper first.createRegistrarHandle = upper second.createRegistrarHandle
  updateRegistrarHandle :
    first.updateRegistrarHandle.map upper = second.updateRegistrarHandle.map upper
  creationTime : first.creationTime = second.creationTime
  updateTime : first.updateTime = second.updateTime
  transferTime : first.transferTime = second.transferTime
  registrant : first.registrant.identity = second.registrant.identity
  nsset : first.nsset.map (·.identity) = second.nsset.map (·.identity)
  keyset : first.keyset.map (·.identity) = second.keyset.map (·.identity)
  expirationDate : first.expirationDate = second.expirationDate
  adminContacts : SameReferences first.adminContacts second.adminContacts
  enumDomainValidation : first.enumDomainValidation = second.enumDomainValidation
  zone : (first.zone.id, upper first.zone.handle) = (second.zone.id, upper second.zone.handle)
  id : first.id = second.id
  uuid : first.uuid = second.uuid
  historyUuid : first.historyUuid = second.historyUuid

variable {first second : InfoDomainData} {diff : InfoDomainDiff}

@[simp] theorem isEqual_reference_iff {lhs rhs : Option RegistrableObjectReference} :
    isEqual RegistrableObjectReference.equal lhs rhs ↔
      lhs.map (·.identity) = rhs.map (·.identity) := by
  cases lhs <;> cases rhs <;> simp [isEqual, RegistrableObjectReference.equal_iff]

@[simp] theorem ObjectIdHandlePair.equal_iff {lhs rhs : ObjectIdHandlePair} :
    lhs.equal rhs ↔ (lhs.id, upper lhs.handle) = (rhs.id, upper rhs.handle) := by
  simp [ObjectIdHandlePair.equal]

theorem changedFields_eq_empty : diff.changedFields = ∅ ↔ diff.isEmpty := by
  simp [InfoDomainDiff.changedFields, InfoDomainDiff.isEmpty, isSetAnyOf]

theorem isEmpty_diffDomainData : (diffDomainData first second).isEmpty ↔ first.Agrees second := by
  simp [InfoDomainDiff.isEmpty, isSetAnyOf, diffDomainData, InfoDomainData.agrees_iff,
    RegistrableObjectReference.equal_iff]

end LibFred.RegistrableObject.Domain
