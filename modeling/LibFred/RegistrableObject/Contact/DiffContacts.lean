import LibFred.Db.Schema
import LibFred.Order.Sorting

/-! The two searches for contacts with the same data: before a merge and for duplicates. -/
namespace LibFred.RegistrableObject.Contact

open Sql
open LibFred.Db (Database Registrar ObjectRegistry Object getObjectStates knownObjectStates)

/-- A whitespace character of regular expressions. -/
def isSpace (c : Char) : Bool := c = ' ' || (9 ≤ c.toNat && c.toNat ≤ 13)

/-- A run of whitespace becomes its first character. -/
def collapse : Bool → List Char → List Char
  | _, [] => []
  | afterSpace, c :: cs =>
    if isSpace c then (if afterSpace then collapse true cs else c :: collapse true cs)
    else c :: collapse false cs

def trim (cs : List Char) : List Char :=
  ((cs.dropWhile isSpace).reverse.dropWhile isSpace).reverse

/-- COALESCE(LOWER(REGEXP_REPLACE(.., '^\s+|\s+$|(\s)\s+', '\1', 'g')), ''). -/
def squeezed (value : Option String) : String :=
  match value with
  | some s => lower (String.ofList (collapse false (trim s.toList)))
  | none => ""

/-- The columns that are compared as squeezed texts before a merge. -/
def textColumns : List (Db.Contact → Option String) :=
  [(·.name), (·.organization), (·.street1), (·.street2), (·.street3), (·.city), (·.postalcode),
    (·.stateorprovince), (·.country), (·.telephone), (·.fax), (·.email), (·.notifyemail), (·.vat),
    (·.ssn)]

def discloseColumns : List (Db.Contact → Option Bool) :=
  [(·.disclosename), (·.discloseorganization), (·.discloseaddress), (·.disclosetelephone),
    (·.disclosefax), (·.discloseemail), (·.disclosevat), (·.discloseident),
    (·.disclosenotifyemail)]

/-- CAST of a boolean AS TEXT. -/
def boolText (b : Bool) : String := if b then "true" else "false"

/-- The row that a contact's address of a type is compared as; NULL when there is no address. -/
def addressRow (db : Database) (contactId : Nat) (type : ContactAddressType) :
    Option (List String) :=
  (db.contactAddress.lookup (contactId, type)).map fun ca =>
    [ca.companyName, ca.street1, ca.street2, ca.street3, ca.city, ca.stateorprovince,
      ca.postalcode, ca.country].map squeezed

/-- A registered object that is a contact. -/
structure ContactRow where
  oreg : ObjectRegistry
  object : Object
  contact : Db.Contact
  deriving DecidableEq

def contactRow (db : Database) (oreg : ObjectRegistry) : Option ContactRow :=
  match db.object.lookup oreg.id, db.contact.lookup oreg.id with
  | some o, some c => some ⟨oreg, o, c⟩
  | _, _ => none

def liveContacts (db : Database) (handle : String) : List ContactRow :=
  (db.objectRegistry.select fun oreg => oreg.name = upper handle ∧ oreg.erdate = none).filterMap
    (contactRow db)

/-- The column differ of the query of DefaultDiffContacts. -/
def differ (db : Database) (r₁ r₂ : ContactRow) : Truth :=
  let c₁ := r₁.contact
  let c₂ := r₂.contact
  .any (textColumns.map (fun col => ne (some (squeezed (col c₁))) (some (squeezed (col c₂)))) ++
    [ne (some (c₁.ssntype.getD 0)) (some (c₂.ssntype.getD 0))] ++
    discloseColumns.map (fun col => ne (col c₁) (col c₂)) ++
    [ne (some ((c₁.warningLetter.map boolText).getD ""))
      (some ((c₂.warningLetter.map boolText).getD ""))] ++
    contactAddressTypes.map (fun type => ne (addressRow db c₁.id type) (addressRow db c₂.id type)) ++
    [ne (some r₁.object.clid) (some r₂.object.clid)])

inductive MergeException
  | identicalContactsHandle (handle : String)
  | unableToGetDifferenceOfContacts (srcHandle dstHandle : String)
  | dstContactInvalid (handle : String)
  | srcContactInvalid (handle : String)
  | invalidArgument
  deriving DecidableEq

/-- ObjectStatesInfo of the states of an object, which must all be known. -/
def objectStatesInfo (db : Database) (objectId : Nat) : Except MergeException (List String) :=
  if ∀ state ∈ getObjectStates db objectId, state ∈ knownObjectStates then
    .ok (getObjectStates db objectId)
  else .error .invalidArgument

def isAttachedToIdentity (db : Database) (contactId : Nat) : Bool :=
  db.contactIdentity.select (fun ci => ci.contactId = contactId ∧ ci.validTo = none) ≠ []

def dstBlockingStates : List String :=
  ["serverBlocked", "contactInManualVerification", "contactFailedManualVerification"]

def srcBlockingStates : List String :=
  ["mojeidContact", "serverBlocked", "serverDeleteProhibited", "contactInManualVerification",
    "contactFailedManualVerification"]

/-- DefaultDiffContacts; the cast of a NULL to bool is false. -/
def defaultDiffContacts (db : Database) (srcContactHandle dstContactHandle : String) :
    Except MergeException Bool := do
  if upper srcContactHandle = upper dstContactHandle then
    throw (.identicalContactsHandle dstContactHandle)
  match (liveContacts db srcContactHandle).product (liveContacts db dstContactHandle) with
  | [(src, dst)] =>
    let dstStates ← objectStatesInfo db dst.contact.id
    if dstBlockingStates.any (· ∈ dstStates) then throw (.dstContactInvalid dstContactHandle)
    let srcStates ← objectStatesInfo db src.contact.id
    if srcBlockingStates.any (· ∈ srcStates) || isAttachedToIdentity db src.contact.id then
      throw (.srcContactInvalid srcContactHandle)
    return (differ db src dst).getD false
  | _ => throw (.unableToGetDifferenceOfContacts srcContactHandle dstContactHandle)

/-- The columns that duplicates agree on as squeezed texts. -/
def groupTextColumns : List (Db.Contact → Option String) :=
  [(·.name), (·.organization), (·.ssn), (·.vat), (·.telephone), (·.fax), (·.email), (·.notifyemail),
    (·.street1), (·.street2), (·.street3), (·.city), (·.stateorprovince), (·.postalcode),
    (·.country)]

/-- What GROUP BY compares. -/
structure GroupKey where
  texts : List String
  ssntype : String
  clid : Nat
  disclose : List (Option Bool)
  warningLetter : String
  addresses : List (Option (List String))
  deriving DecidableEq

def groupKey (db : Database) (r : ContactRow) : GroupKey where
  texts := groupTextColumns.map fun col => squeezed (col r.contact)
  ssntype := (r.contact.ssntype.map Nat.repr).getD ""
  clid := r.object.clid
  disclose := discloseColumns.map fun col => col r.contact
  warningLetter := (r.contact.warningLetter.map boolText).getD ""
  addresses := contactAddressTypes.map (addressRow db r.contact.id)

structure FindContactDuplicates where
  registrarHandle : Option String
  excludeContacts : List String

def FindContactDuplicates.rows (op : FindContactDuplicates) (db : Database) : List ContactRow :=
  (db.objectRegistry.rows.filterMap (contactRow db)).filter fun r =>
    match db.registrar.lookup r.object.clid with
    | some registrar => ∀ handle ∈ op.registrarHandle, registrar.handle = handle
    | none => false

/-- The groups that one is taken of. -/
def FindContactDuplicates.groups (op : FindContactDuplicates) (db : Database) :
    List (List ContactRow) :=
  (groupBy (groupKey db) (op.rows db)).filter fun group =>
    1 < group.length ∧ ∀ r ∈ group, r.oreg.name ∉ op.excludeContacts

/-- FindContactDuplicates::exec; `anyOrder` is the order that LIMIT 1 meets the groups in. -/
def FindContactDuplicates.exec (anyOrder : Sorting fun _ _ : List ContactRow => false)
    (op : FindContactDuplicates) (db : Database) : Finset String :=
  (((anyOrder.sort (op.groups db)).headD []).map (·.oreg.name)).toFinset

end LibFred.RegistrableObject.Contact
