import LibFred.RegistrableObject.Contact.CancelStates
import LibFred.RegistrableObject.Contact.CreateContact
import LibFred.RegistrableObject.Contact.InfoContact

/-! Updating a contact. -/
namespace LibFred.RegistrableObject.Contact

open Sql
open LibFred.Db (Database ContactException Exec)
open LibFred.Object (AuthinfoSettings UpdateObject)

/-- No type is both updated and removed. -/
structure ContactAddressToUpdate where
  toUpdate : ContactAddressList
  toRemove : ContactAddressType → Bool
  disjoint : ∀ type, toRemove type = true → toUpdate type = none

namespace ContactAddressToUpdate

def empty : ContactAddressToUpdate := ⟨fun _ => none, fun _ => false, fun _ _ => rfl⟩

def update (a : ContactAddressToUpdate) (type : ContactAddressType) (address : ContactAddress) :
    ContactAddressToUpdate where
  toUpdate := Function.update a.toUpdate type (some address)
  toRemove := Function.update a.toRemove type false
  disjoint type' h := by
    by_cases he : type' = type
    · subst he
      simp at h
    · rw [Function.update_of_ne he] at h ⊢
      exact a.disjoint type' h

def remove (a : ContactAddressToUpdate) (type : ContactAddressType) : ContactAddressToUpdate where
  toUpdate := Function.update a.toUpdate type none
  toRemove := Function.update a.toRemove type true
  disjoint type' h := by
    by_cases he : type' = type
    · subst he
      simp
    · rw [Function.update_of_ne he] at h ⊢
      exact a.disjoint type' h

end ContactAddressToUpdate

structure UpdateContact where
  registrar : String
  authinfo : Option String
  name : Option (Option String)
  organization : Option (Option String)
  place : Option (Option PlaceAddress)
  telephone : Option (Option String)
  fax : Option (Option String)
  email : Option (Option String)
  notifyemail : Option (Option String)
  vat : Option (Option String)
  personalId : Option (Option PersonalIdUnion)
  addresses : ContactAddressToUpdate
  disclosename : Option Bool
  discloseorganization : Option Bool
  discloseaddress : Option Bool
  disclosetelephone : Option Bool
  disclosefax : Option Bool
  discloseemail : Option Bool
  disclosevat : Option Bool
  discloseident : Option Bool
  disclosenotifyemail : Option Bool
  domainExpirationWarningLetterEnabled : Option (Option Bool)
  logdRequestId : Option Nat

/-- A column after a SET that need not name it. -/
def updateValue {α : Type} (given : Option (Option α)) (old : Option α) : Option α := given.getD old

namespace UpdateContact

variable (settings : AuthinfoSettings) (op : UpdateContact)

/-- The changes that concern the manual verification of the contact. -/
def changesVerified : Bool :=
  op.name.isSome || op.organization.isSome || op.place.isSome || op.telephone.isSome ||
    op.fax.isSome || op.email.isSome || op.notifyemail.isSome || op.vat.isSome || op.personalId.isSome

def changesContact : Bool :=
  op.changesVerified || op.disclosename.isSome || op.discloseorganization.isSome ||
    op.discloseaddress.isSome || op.disclosetelephone.isSome || op.disclosefax.isSome ||
    op.discloseemail.isSome || op.disclosevat.isSome || op.discloseident.isSome ||
    op.disclosenotifyemail.isSome || op.domainExpirationWarningLetterEnabled.isSome

/-- The row after UPDATE contact SET; a place or personal id that is NULL clears its columns. -/
def set (country : Option String) (ssntype : Option Nat) (ct : Db.Contact) : Db.Contact where
  id := ct.id
  name := updateValue op.name ct.name
  organization := updateValue op.organization ct.organization
  street1 := updateValue (op.place.map (·.map (·.street1))) ct.street1
  street2 := updateValue (op.place.map (·.bind (·.street2))) ct.street2
  street3 := updateValue (op.place.map (·.bind (·.street3))) ct.street3
  city := updateValue (op.place.map (·.map (·.city))) ct.city
  stateorprovince := updateValue (op.place.map (·.bind (·.stateorprovince))) ct.stateorprovince
  postalcode := updateValue (op.place.map (·.map (·.postalcode))) ct.postalcode
  country := updateValue (op.place.map (·.bind fun _ => country)) ct.country
  telephone := updateValue op.telephone ct.telephone
  fax := updateValue op.fax ct.fax
  email := updateValue op.email ct.email
  notifyemail := updateValue op.notifyemail ct.notifyemail
  vat := updateValue op.vat ct.vat
  ssntype := updateValue (op.personalId.map (·.bind fun _ => ssntype)) ct.ssntype
  ssn := updateValue (op.personalId.map (·.map (·.id))) ct.ssn
  disclosename := updateValue (op.disclosename.map some) ct.disclosename
  discloseorganization := updateValue (op.discloseorganization.map some) ct.discloseorganization
  discloseaddress := updateValue (op.discloseaddress.map some) ct.discloseaddress
  disclosetelephone := updateValue (op.disclosetelephone.map some) ct.disclosetelephone
  disclosefax := updateValue (op.disclosefax.map some) ct.disclosefax
  discloseemail := updateValue (op.discloseemail.map some) ct.discloseemail
  disclosevat := updateValue (op.disclosevat.map some) ct.disclosevat
  discloseident := updateValue (op.discloseident.map some) ct.discloseident
  disclosenotifyemail := updateValue (op.disclosenotifyemail.map some) ct.disclosenotifyemail
  warningLetter := updateValue op.domainExpirationWarningLetterEnabled ct.warningLetter

/-- An unknown handle does not keep the other arguments from being checked. -/
def updateObject (handle : String) : Exec (Nat × Option String) :=
  tryCatch (do
    let historyId ← UpdateObject.exec settings
      ⟨handle, .contact, op.registrar, op.authinfo, op.logdRequestId⟩
    return (historyId, none)) fun
  | .unknownRegistrarHandle handle => throw (.contact { unknownRegistrarHandle := some handle })
  | .unknownObjectHandle _ => return (0, some handle)
  | e => throw e

def setColumns (contactId : Nat) (country : Option String) (ssntype : Option Nat) : Exec Unit :=
  fun db =>
    if (db.contact.lookup contactId).isSome then
      .ok () { db with
        contact := db.contact.update (·.id = contactId) (op.set country ssntype) }
    else .error (.internalError "failed to update contact") db

/-- UPDATE contact, should any column be given. -/
def updateColumns (contactId : Nat) (country : Option String) (ssntype : Option Nat) : Exec Unit :=
  if op.changesContact then do
    op.setColumns contactId country ssntype
    conditionallyCancelFinalStates contactId op.changesVerified
  else return

/-- The addresses that exist are updated, but not to a forbidden company name. -/
def updateExistingAddresses (contactId : Nat) : Exec Unit := fun db =>
  .ok () { db with
    contactAddress := db.contactAddress.update
      (fun ca => ca.contactid = contactId ∧ ¬ ForbidsCompanyName op.addresses.toUpdate ca.type)
      (fun ca => ((op.addresses.toUpdate ca.type).map (addressRowOf ca.contactid ca.type)).getD ca)
      fun ca => by cases op.addresses.toUpdate ca.type <;> rfl }

/-- UPDATE or INSERT of the addresses; which of them exist was selected before. -/
def updateAddresses (contactId : Nat) : Exec Unit := do
  let db ← get
  op.updateExistingAddresses contactId
  let e : ContactException :=
    { forbiddenCompanyNameSetting := forbiddenCompanyName op.addresses.toUpdate }
  raiseIf (e ≠ {}) (.contact e)
  insertAddresses contactId fun type =>
    if db.contactAddress.lookup (contactId, type) = none then op.addresses.toUpdate type else none

def removeAddresses (contactId : Nat) : Exec Unit := fun db =>
  .ok () { db with
    contactAddress := db.contactAddress.delete
      fun ca => ca.contactid = contactId ∧ op.addresses.toRemove ca.type = true }

/-- UpdateContact::exec, for a contact that was selected. -/
def exec (handle : String) (contactId : Nat) : Exec Nat := do
  let updated ← op.updateObject settings handle
  let country ← resolve getCountryCode (op.place.join.map (·.country))
  let ssntype ← resolve getSsntypeId (op.personalId.join.map (·.type))
  let e : ContactException :=
    { unknownContactHandle := updated.2, unknownCountry := country.2, unknownSsntype := ssntype.2 }
  raiseIf (e ≠ {}) (.contact e)
  op.updateColumns contactId country.1 ssntype.1
  op.updateAddresses contactId
  op.removeAddresses contactId
  copyContactDataToContactHistory contactId
  return updated.1

/-- What UpdateContact reports is reported with `unknown` in place of the contact it names. -/
def collect (found unknown e : ContactException) : Exec (Nat × ContactException) :=
  if e.unknownRegistrarHandle.isSome then
    throw (.contact { unknownRegistrarHandle := e.unknownRegistrarHandle })
  else if e.unknownContactHandle = none ∧ e.unknownSsntype = none ∧ e.unknownCountry = none ∧
      e.forbiddenCompanyNameSetting = none then throw (.contact e)
  else
    let reported := if e.unknownContactHandle.isSome then unknown else found
    return (0, { reported with
      unknownSsntype := e.unknownSsntype
      unknownCountry := e.unknownCountry
      forbiddenCompanyNameSetting := e.forbiddenCompanyNameSetting })

/-- The update of the contact that was selected. One that was not found has no handle and the
id 0; it is reported as `unknown` together with what else is wrong. -/
def execSelected (unknown : ContactException) (contact : Option InfoContactData) : Exec Nat := do
  let found := if contact = none then unknown else {}
  let updated ← tryCatch (do
    let historyId ← op.exec settings ((contact.map (·.handle)).getD "") ((contact.map (·.id)).getD 0)
    return (historyId, found)) fun
  | .contact e => collect found unknown e
  | e => throw e
  raiseIf (updated.2 ≠ {}) (.contact updated.2)
  return updated.1

end UpdateContact

/-- UpdateContactByHandle::exec. -/
def updateContactByHandle (settings : AuthinfoSettings) (handle : String) (op : UpdateContact) :
    Exec Nat := do
  let contact ← tryCatch (do
    let contact ← infoContactByHandle utc handle
    return some contact) fun
  | .unknownContactHandle _ => return none
  | e => throw e
  op.execSelected settings { unknownContactHandle := some handle } contact

/-- UpdateContactById::exec. -/
def updateContactById (settings : AuthinfoSettings) (id : Nat) (op : UpdateContact) : Exec Nat := do
  let contact ← tryCatch (do
    let contact ← infoContactById utc id
    return some contact) fun
  | .unknownContactId _ => return none
  | e => throw e
  op.execSelected settings { unknownContactId := some id } contact

end LibFred.RegistrableObject.Contact
