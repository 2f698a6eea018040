import LibFred.Db.Schema

/-! Reading a live contact. -/
namespace LibFred.RegistrableObject.Contact

open Sql
open LibFred.Db (Database History Object ObjectRegistry Registrar Timestamp Exec)

def placeOf (ct : Db.Contact) : PlaceAddress where
  street1 := ct.street1.getD ""
  street2 := ct.street2
  street3 := ct.street3
  city := ct.city.getD ""
  stateorprovince := ct.stateorprovince
  postalcode := ct.postalcode.getD ""
  country := ct.country.getD ""

def addressOf (ca : Db.ContactAddress) : ContactAddress where
  companyName := ca.companyName
  street1 := ca.street1.getD ""
  street2 := ca.street2
  street3 := ca.street3
  city := ca.city.getD ""
  stateorprovince := ca.stateorprovince
  postalcode := ca.postalcode.getD ""
  country := ca.country.getD ""

def addressesOf (db : Database) (contactId : Nat) : ContactAddressList :=
  fun type => (db.contactAddress.lookup (contactId, type)).map addressOf

variable (localTime : Timestamp → Ptime)

/-- The joined rows as InfoContact::exec returns them; the casts of NULL to string, bool and number
are the empty text, false and 0. `localTime` is the time in the requested zone. -/
def infoContactOf (db : Database) (cobr : ObjectRegistry) (obj : Object) (ct : Db.Contact)
    (h : History) (clr crr : Registrar) : InfoContactData where
  crhistoryid := cobr.crhistoryid.getD 0
  historyid := h.id
  deleteTime := cobr.erdate.map localTime
  handle := cobr.name
  roid := cobr.roid
  sponsoringRegistrarHandle := clr.handle
  createRegistrarHandle := crr.handle
  updateRegistrarHandle := (obj.upid.bind db.registrar.lookup).map (·.handle)
  creationTime := localTime cobr.crdate
  updateTime := obj.update.map localTime
  transferTime := obj.trdate.map localTime
  name := ct.name
  organization := ct.organization
  place := some (placeOf ct)
  telephone := ct.telephone
  fax := ct.fax
  email := ct.email
  notifyemail := ct.notifyemail
  vat := ct.vat
  ssntype := (ct.ssntype.bind db.enumSsntype.lookup).map (·.type)
  ssn := ct.ssn
  disclosename := ct.disclosename.getD false
  discloseorganization := ct.discloseorganization.getD false
  discloseaddress := ct.discloseaddress.getD false
  disclosetelephone := ct.disclosetelephone.getD false
  disclosefax := ct.disclosefax.getD false
  discloseemail := ct.discloseemail.getD false
  disclosevat := ct.disclosevat.getD false
  discloseident := ct.discloseident.getD false
  disclosenotifyemail := ct.disclosenotifyemail.getD false
  id := cobr.id
  uuid := cobr.uuid
  historyUuid := h.uuid
  addresses := addressesOf db cobr.id
  warningLetter := ct.warningLetter

/-- A row of the query of InfoContact. -/
def infoContactRow (db : Database) (cobr : ObjectRegistry) : Option InfoContactData := do
  let obj ← db.object.lookup cobr.id
  let ct ← db.contact.lookup cobr.id
  let h ← cobr.historyid.bind db.history.lookup
  let clr ← db.registrar.lookup obj.clid
  let crr ← db.registrar.lookup cobr.crid
  guard (cobr.type = .contact ∧ cobr.erdate = none)
  return infoContactOf localTime db cobr obj ct h clr crr

/-- InfoContactByHandle::exec. -/
def infoContactByHandle (handle : String) : Exec InfoContactData := do
  let db ← get
  match (db.objectRegistry.select (·.name = upper handle)).filterMap (infoContactRow localTime db) with
  | [] => throw (.unknownContactHandle handle)
  | [contact] => return contact
  | _ => throw (.internalError "query result size > 1")

/-- InfoContactById::exec. -/
def infoContactById (id : Nat) : Exec InfoContactData := do
  let db ← get
  match (db.objectRegistry.select (·.id = id)).filterMap (infoContactRow localTime db) with
  | [] => throw (.unknownContactId id)
  | [contact] => return contact
  | _ => throw (.internalError "query result size > 1")

/-- The default time zone. -/
def utc : Timestamp → Ptime := .time

end LibFred.RegistrableObject.Contact
