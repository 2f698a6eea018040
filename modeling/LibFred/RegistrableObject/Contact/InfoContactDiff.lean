import LibFred.RegistrableObject.Contact.InfoContactData
import LibFred.RegistrableObject.DiffMember
import Mathlib.Tactic.MkIffOfInductiveProp

/-! Differences of two states of a contact. -/
namespace LibFred.RegistrableObject.Contact

open Sql

structure InfoContactDiff where
  crhistoryid : DiffMember Nat
  historyid : DiffMember Nat
  deleteTime : DiffMember (Option Ptime)
  handle : DiffMember String
  roid : DiffMember String
  sponsoringRegistrarHandle : DiffMember String
  createRegistrarHandle : DiffMember String
  updateRegistrarHandle : DiffMember (Option String)
  creationTime : DiffMember Ptime
  updateTime : DiffMember (Option Ptime)
  transferTime : DiffMember (Option Ptime)
  name : DiffMember (Option String)
  organization : DiffMember (Option String)
  place : DiffMember (Option PlaceAddress)
  telephone : DiffMember (Option String)
  fax : DiffMember (Option String)
  email : DiffMember (Option String)
  notifyemail : DiffMember (Option String)
  vat : DiffMember (Option String)
  personalId : DiffMember (Option PersonalIdUnion)
  disclosename : DiffMember Bool
  discloseorganization : DiffMember Bool
  discloseaddress : DiffMember Bool
  disclosetelephone : DiffMember Bool
  disclosefax : DiffMember Bool
  discloseemail : DiffMember Bool
  disclosevat : DiffMember Bool
  discloseident : DiffMember Bool
  disclosenotifyemail : DiffMember Bool
  id : DiffMember Nat
  uuid : DiffMember Uuid
  historyUuid : DiffMember Uuid
  addresses : DiffMember ContactAddressList
  warningLetter : DiffMember (Option Bool)

def InfoContactDiff.changedFields (diff : InfoContactDiff) : Finset String :=
  insertIfPresents diff.crhistoryid "crhistoryid" <|
  insertIfPresents diff.historyid "historyid" <|
  insertIfPresents diff.deleteTime "delete_time" <|
  insertIfPresents diff.handle "handle" <|
  insertIfPresents diff.roid "roid" <|
  insertIfPresents diff.sponsoringRegistrarHandle "sponsoring_registrar_handle" <|
  insertIfPresents diff.createRegistrarHandle "create_registrar_handle" <|
  insertIfPresents diff.updateRegistrarHandle "update_registrar_handle" <|
  insertIfPresents diff.creationTime "creation_time" <|
  insertIfPresents diff.updateTime "update_time" <|
  insertIfPresents diff.transferTime "transfer_time" <|
  insertIfPresents diff.name "name" <|
  insertIfPresents diff.organization "organization" <|
  insertIfPresents diff.place "place" <|
  insertIfPresents diff.telephone "telephone" <|
  insertIfPresents diff.fax "fax" <|
  insertIfPresents diff.email "email" <|
  insertIfPresents diff.notifyemail "notifyemail" <|
  insertIfPresents diff.vat "vat" <|
  insertIfPresents diff.personalId "personal_id" <|
  insertIfPresents diff.disclosename "disclosename" <|
  insertIfPresents diff.discloseorganization "discloseorganization" <|
  insertIfPresents diff.discloseaddress "discloseaddress" <|
  insertIfPresents diff.disclosetelephone "disclosetelephone" <|
  insertIfPresents diff.disclosefax "disclosefax" <|
  insertIfPresents diff.discloseemail "discloseemail" <|
  insertIfPresents diff.disclosevat "disclosevat" <|
  insertIfPresents diff.discloseident "discloseident" <|
  insertIfPresents diff.disclosenotifyemail "disclosenotifyemail" <|
  insertIfPresents diff.id "id" <|
  insertIfPresents diff.uuid "uuid" <|
  insertIfPresents diff.historyUuid "history_uuid" <|
  insertIfPresents diff.addresses "addresses" <|
  insertIfPresents diff.warningLetter "warning_letter" ∅

def InfoContactDiff.isEmpty (diff : InfoContactDiff) : Bool :=
  !isSetAnyOf
    [diff.crhistoryid.isSome, diff.historyid.isSome, diff.deleteTime.isSome, diff.handle.isSome,
      diff.roid.isSome, diff.sponsoringRegistrarHandle.isSome, diff.createRegistrarHandle.isSome,
      diff.updateRegistrarHandle.isSome, diff.creationTime.isSome, diff.updateTime.isSome,
      diff.transferTime.isSome, diff.name.isSome, diff.organization.isSome, diff.place.isSome,
      diff.telephone.isSome, diff.fax.isSome, diff.email.isSome, diff.notifyemail.isSome,
      diff.vat.isSome, diff.personalId.isSome, diff.disclosename.isSome,
      diff.discloseorganization.isSome, diff.discloseaddress.isSome, diff.disclosetelephone.isSome,
      diff.disclosefax.isSome, diff.discloseemail.isSome, diff.disclosevat.isSome,
      diff.discloseident.isSome, diff.disclosenotifyemail.isSome, diff.id.isSome, diff.uuid.isSome,
      diff.historyUuid.isSome, diff.addresses.isSome, diff.warningLetter.isSome]

/-- The personal id of a contact that has both its type and its number. -/
def InfoContactData.personalId (data : InfoContactData) : Option PersonalIdUnion :=
  match data.ssntype, data.ssn with
  | some type, some id => some ⟨type, id⟩
  | _, _ => none

/-- operator== of address lists: the same types with the same addresses. -/
def equalAddresses (lhs rhs : ContactAddressList) : Bool :=
  decide (∀ type, lhs type = rhs type)

def diffContactData (first second : InfoContactData) : InfoContactDiff where
  crhistoryid := diffMember (· == ·) first.crhistoryid second.crhistoryid
  historyid := diffMember (· == ·) first.historyid second.historyid
  deleteTime := diffMember (isEqual (· == ·)) first.deleteTime second.deleteTime
  handle := diffMember equalUpper first.handle second.handle
  roid := diffMember (· == ·) first.roid second.roid
  sponsoringRegistrarHandle :=
    diffMember equalUpper first.sponsoringRegistrarHandle second.sponsoringRegistrarHandle
  createRegistrarHandle :=
    diffMember equalUpper first.createRegistrarHandle second.createRegistrarHandle
  updateRegistrarHandle :=
    diffMember isEqualUpper first.updateRegistrarHandle second.updateRegistrarHandle
  creationTime := diffMember (· == ·) first.creationTime second.creationTime
  updateTime := diffMember (isEqual (· == ·)) first.updateTime second.updateTime
  transferTime := diffMember (isEqual (· == ·)) first.transferTime second.transferTime
  name := diffMember (isEqual (· == ·)) first.name second.name
  organization := diffMember (isEqual (· == ·)) first.organization second.organization
  place := diffMember (isEqual (· == ·)) first.place second.place
  telephone := diffMember (isEqual (· == ·)) first.telephone second.telephone
  fax := diffMember (isEqual (· == ·)) first.fax second.fax
  email := diffMember (isEqual (· == ·)) first.email second.email
  notifyemail := diffMember (isEqual (· == ·)) first.notifyemail second.notifyemail
  vat := diffMember (isEqual (· == ·)) first.vat second.vat
  personalId :=
    if !isEqual (· == ·) first.ssntype second.ssntype || !isEqual (· == ·) first.ssn second.ssn
    then some (first.personalId, second.personalId)
    else none
  disclosename := diffMember (· == ·) first.disclosename second.disclosename
  discloseorganization :=
    diffMember (· == ·) first.discloseorganization second.discloseorganization
  discloseaddress := diffMember (· == ·) first.discloseaddress second.discloseaddress
  disclosetelephone := diffMember (· == ·) first.disclosetelephone second.disclosetelephone
  disclosefax := diffMember (· == ·) first.disclosefax second.disclosefax
  discloseemail := diffMember (· == ·) first.discloseemail second.discloseemail
  disclosevat := diffMember (· == ·) first.disclosevat second.disclosevat
  discloseident := diffMember (· == ·) first.discloseident second.discloseident
  disclosenotifyemail := diffMember (· == ·) first.disclosenotifyemail second.disclosenotifyemail
  id := diffMember (· == ·) first.id second.id
  uuid := diffMember (· == ·) first.uuid second.uuid
  historyUuid := diffMember (· == ·) first.historyUuid second.historyUuid
  addresses := diffMember equalAddresses first.addresses second.addresses
  warningLetter := diffMember (isEqual (· == ·)) first.warningLetter second.warningLetter

/-- The two states agree in all compared fields. -/
@[mk_iff] structure InfoContactData.Agrees (first second : InfoContactData) : Prop where
  crhistoryid : first.crhistoryid = second.crhistoryid
  historyid : first.historyid = second.historyid
  deleteTime : first.deleteTime = second.deleteTime
  handle : upper first.handle = upper second.handle
  roid : first.roid = second.roid
  sponsoringRegistrarHandle :
    upper first.sponsoringRegistrarHandle = upper second.sponsoringRegistrarHandle
  createRegistrarHandle : upper first.createRegistrarHandle = upper second.createRegistrarHandle
  updateRegistrarHandle :
    first.updateRegistrarHandle.map upper = second.updateRegistrarHandle.map upper
  creationTime : first.creationTime = second.creationTime
  updateTime : first.updateTime = second.updateTime
  transferTime : first.transferTime = second.transferTime
  name : first.name = second.name
  organization : first.organization = second.organization
  place : first.place = second.place
  telephone : first.telephone = second.telephone
  fax : first.fax = second.fax
  email : first.email = second.email
  notifyemail : first.notifyemail = second.notifyemail
  vat : first.vat = second.vat
  ssntype : first.ssntype = second.ssntype
  ssn : first.ssn = second.ssn
  disclosename : first.disclosename = second.disclosename
  discloseorganization : first.discloseorganization = second.discloseorganization
  discloseaddress : first.discloseaddress = second.discloseaddress
  disclosetelephone : first.disclosetelephone = second.disclosetelephone
  disclosefax : first.disclosefax = second.disclosefax
  discloseemail : first.discloseemail = second.discloseemail
  disclosevat : first.disclosevat = second.disclosevat
  discloseident : first.discloseident = second.discloseident
  disclosenotifyemail : first.disclosenotifyemail = second.disclosenotifyemail
  id : first.id = second.id
  uuid : first.uuid = second.uuid
  historyUuid : first.historyUuid = second.historyUuid
  addresses : first.addresses = second.addresses
  warningLetter : first.warningLetter = second.warningLetter

variable {first second : InfoContactData} {diff : InfoContactDiff} {lhs rhs : ContactAddressList}

@[simp] theorem equalAddresses_iff : equalAddresses lhs rhs ↔ lhs = rhs := by
  simp [equalAddresses, funext_iff]

theorem changedFields_eq_empty : diff.changedFields = ∅ ↔ diff.isEmpty := by
  simp [InfoContactDiff.changedFields, InfoContactDiff.isEmpty, isSetAnyOf]

theorem isEmpty_diffContactData :
    (diffContactData first second).isEmpty ↔ first.Agrees second := by
  simp [InfoContactDiff.isEmpty, isSetAnyOf, diffContactData, InfoContactData.agrees_iff,
    and_assoc]

end LibFred.RegistrableObject.Contact
