import LibFred.Object.Object
import LibFred.RegistrableObject.Contact.ContactEnum

/-! Creating a contact. -/
namespace LibFred.RegistrableObject.Contact

open Sql
open LibFred.Db (Database ContactException Timestamp Exec)
open LibFred.Object (CreateObjectProcedure CreateObject)

/-- A company name belongs to the addresses for shipping. -/
def allowsCompanyName : ContactAddressType → Bool
  | .shipping | .shipping2 | .shipping3 => true
  | .mailing | .billing => false

def ForbidsCompanyName (addresses : ContactAddressList) (type : ContactAddressType) : Prop :=
  ∃ address ∈ addresses type, address.companyName.isSome ∧ ¬ allowsCompanyName type

instance (addresses : ContactAddressList) : DecidablePred (ForbidsCompanyName addresses) :=
  fun type => by unfold ForbidsCompanyName; infer_instance

/-- Of several addresses with a forbidden company name the last one is reported. -/
def forbiddenCompanyName (addresses : ContactAddressList) : Option String :=
  (contactAddressTypes.filter (ForbidsCompanyName addresses)).getLast?.map (·.text)

def addressRowOf (contactId : Nat) (type : ContactAddressType) (address : ContactAddress) :
    Db.ContactAddress where
  contactid := contactId
  type := type
  companyName := address.companyName
  street1 := some address.street1
  street2 := address.street2
  street3 := address.street3
  city := some address.city
  stateorprovince := address.stateorprovince
  postalcode := some address.postalcode
  country := some address.country

def addressRows (contactId : Nat) (addresses : ContactAddressList) : List Db.ContactAddress :=
  contactAddressTypes.filterMap fun type => (addresses type).map (addressRowOf contactId type)

def insertAddresses (contactId : Nat) (addresses : ContactAddressList) : Exec Unit := fun db =>
  match db.contactAddress.insertAll? (addressRows contactId addresses) with
  | some t => .ok () { db with contactAddress := t }
  | none => .error .sqlError db

def insertContact (row : Db.Contact) : Exec Unit := fun db =>
  match db.contact.insert? row with
  | some t => .ok () { db with contact := t }
  | none => .error .sqlError db

/-- copy_contact_data_to_contact_history_impl, which requires the contact. -/
def copyContactDataToContactHistory (contactId : Nat) : Exec Unit := do
  let db ← get
  raiseIf (db.contact.lookup contactId = none) (.runtimeError "INSERT INTO contact_history failed")

structure CreateContact where
  handle : String
  registrar : String
  name : Option String
  organization : Option String
  place : Option PlaceAddress
  telephone : Option String
  fax : Option String
  email : Option String
  notifyemail : Option String
  vat : Option String
  ssntype : Option String
  ssn : Option String
  addresses : Option ContactAddressList
  disclosename : Option Bool
  discloseorganization : Option Bool
  discloseaddress : Option Bool
  disclosetelephone : Option Bool
  disclosefax : Option Bool
  discloseemail : Option Bool
  disclosevat : Option Bool
  discloseident : Option Bool
  disclosenotifyemail : Option Bool
  domainExpirationWarningLetterEnabled : Option (Option Bool)
  logdRequestId : Option Nat

structure CreateContactResult where
  objectId : Nat
  historyId : Nat
  creationTime : Ptime

namespace CreateContact

variable (procedure : CreateObjectProcedure) (localTime : Timestamp → Ptime) (op : CreateContact)

/-- The row of the INSERT. Columns that it does not name take their defaults: NULL, or for the
disclose flags what the constructor of InfoContactData has. -/
def row (id : Nat) (country : Option String) (ssntype : Option Nat) : Db.Contact where
  id := id
  name := op.name
  organization := op.organization
  street1 := op.place.map (·.street1)
  street2 := op.place.bind (·.street2)
  street3 := op.place.bind (·.street3)
  city := op.place.map (·.city)
  stateorprovince := op.place.bind (·.stateorprovince)
  postalcode := op.place.map (·.postalcode)
  country := country
  telephone := op.telephone
  fax := op.fax
  email := op.email
  notifyemail := op.notifyemail
  vat := op.vat
  ssntype := ssntype
  ssn := op.ssn
  disclosename := some (op.disclosename.getD false)
  discloseorganization := some (op.discloseorganization.getD false)
  discloseaddress := some (op.discloseaddress.getD true)
  disclosetelephone := some (op.disclosetelephone.getD false)
  disclosefax := some (op.disclosefax.getD false)
  discloseemail := some (op.discloseemail.getD false)
  disclosevat := some (op.disclosevat.getD false)
  discloseident := some (op.discloseident.getD false)
  disclosenotifyemail := some (op.disclosenotifyemail.getD false)
  warningLetter := op.domainExpirationWarningLetterEnabled.join

/-- An invalid handle does not keep the other arguments from being checked. -/
def createObject : Exec ((Nat × Nat) × Option String) :=
  tryCatch (do
    let created ← CreateObject.exec procedure ⟨.contact, op.handle, op.registrar, op.logdRequestId⟩
    return (created, none)) fun
  | .unknownRegistrarHandle handle => throw (.contact { unknownRegistrarHandle := some handle })
  | .invalidObjectHandle handle => return ((0, 0), some handle)
  | e => throw e

def creationTime (objectId : Nat) : Exec Ptime := do
  let db ← get
  match db.objectRegistry.lookup objectId with
  | some o => return localTime o.crdate
  | none => throw (.internalError "timestamp of the contact creation was not found")

def writeAddresses (objectId : Nat) : Exec Unit :=
  match op.addresses with
  | none => return
  | some addresses => do
    let e : ContactException := { forbiddenCompanyNameSetting := forbiddenCompanyName addresses }
    raiseIf (e ≠ {}) (.contact e)
    insertAddresses objectId addresses

def exec : Exec CreateContactResult := do
  let created ← op.createObject procedure
  let country ← resolve getCountryCode (op.place.map (·.country))
  let ssntype ← resolve getSsntypeId op.ssntype
  let e : ContactException :=
    { invalidContactHandle := created.2, unknownCountry := country.2, unknownSsntype := ssntype.2 }
  raiseIf (e ≠ {}) (.contact e)
  insertContact (op.row created.1.1 country.1 ssntype.1)
  op.writeAddresses created.1.1
  let creationTime ← creationTime localTime created.1.1
  copyContactDataToContactHistory created.1.1
  return ⟨created.1.1, created.1.2, creationTime⟩

end CreateContact

end LibFred.RegistrableObject.Contact
