import LibFred.Order.Sorting
import LibFred.RegistrableObject.Contact.DeleteContact
import LibFred.RegistrableObject.Contact.DiffContacts
import LibFred.RegistrableObject.Contact.MergeContactOutput
import LibFred.RegistrableObject.Contact.UpdateContact
import LibFred.RegistrableObject.Domain.UpdateDomain
import LibFred.RegistrableObject.Keyset.UpdateKeyset
import LibFred.RegistrableObject.Nsset.UpdateNsset

/-! Merging a contact into another one. -/
namespace LibFred.RegistrableObject.Contact

open Sql
open LibFred.Db
open LibFred.ObjectState (CreateObjectStateRequestId)
open LibFred.RegistrableObject.Domain (UpdateDomain)
open LibFred.RegistrableObject.Keyset (UpdateKeyset)
open LibFred.RegistrableObject.Nsset (UpdateNsset)

/-- The roles in which contacts are linked to objects. -/
inductive Link
  | registrant
  | admin
  | nssetTech
  | keysetTech
  deriving DecidableEq

/-- The ids of the objects that a contact is linked to. -/
def Link.objectIds (db : ObjectDatabase) (contactId : Nat) : Link → List Nat
  | .registrant => (db.domain.select (·.registrant = contactId)).map (·.id)
  | .admin =>
    ((db.domainContactMap.select fun m => m.role = 1 ∧ m.contactid = contactId).map
      (·.domainid)).filter fun id => (db.domain.lookup id).isSome
  | .nssetTech =>
    ((db.nssetContactMap.select (·.contactid = contactId)).map (·.nssetid)).filter fun id =>
      (db.nsset.lookup id).isSome
  | .keysetTech =>
    ((db.keysetContactMap.select (·.contactid = contactId)).map (·.keysetid)).filter fun id =>
      (db.keyset.lookup id).isSome

/-- The ids of the contacts among the live objects of a name. -/
def liveContactIds (db : ObjectDatabase) (handle : String) : List Nat :=
  (db.contact.rows.map (·.id)).filter fun id =>
    ∃ oreg ∈ db.objectRegistry.lookup id, oreg.name = upper handle ∧ oreg.erdate = none

/-- A live object that a contact is linked to. -/
structure LinkedObject where
  name : String
  sponsoringRegistrar : String
  id : Nat
  deriving DecidableEq

def linkedObject (db : ObjectDatabase) (id : Nat) : Option LinkedObject :=
  match db.objectRegistry.lookup id, db.object.lookup id with
  | some oreg, some o =>
    if oreg.erdate = none then
      (db.registrar.lookup o.clid).map fun r => ⟨oreg.name, r.handle, id⟩
    else none
  | _, _ => none

/-- The live objects that a query for one role selects, without an order. -/
def linkedObjects (db : ObjectDatabase) (handle : String) (link : Link) : List LinkedObject :=
  (liveContactIds db handle).flatMap fun contactId =>
    (link.objectIds db contactId).filterMap (linkedObject db)

/-- The orders in which the database returns the rows of the queries, which have none. -/
abbrev RowOrder := Link → Sorting fun _ _ : LinkedObject => false

/-- What the checks of a merge raise; `diffContacts` holds what the comparison of the contacts does. -/
inductive MergeContactException
  | unknownSourceContactHandle (handle : String)
  | unknownDestinationContactHandle (handle : String)
  | identicalContactsRoid (roid : String)
  | contactsDiffer (srcHandle dstHandle : String)
  | objectBlocked (name : String)
  | diffContacts (e : MergeException)
  | internalError (what : String)
  deriving DecidableEq

/-- A merge is ended by its own checks or by one of the operations that it runs. -/
inductive MergeError
  | check (e : MergeContactException)
  | operation (e : ObjectException)
  deriving DecidableEq

abbrev MergeExec := EStateM MergeError ObjectDatabase

/-- An operation that the merge runs. -/
def operation {α : Type} (x : ObjectExec α) : MergeExec α := fun db =>
  match x.run db with
  | .ok a db' => .ok a db'
  | .error e db' => .error (.operation e) db'

/-- The merge of two contacts; their handles differ also when letter case does not count. -/
structure MergeContact where
  srcContactHandle : String
  dstContactHandle : String
  registrar : String
  logdRequestId : Option Nat
  diffContactsImpl : Option (Database → String → String → Except MergeException Bool)
  distinct : upper srcContactHandle ≠ upper dstContactHandle

/-- The constructor. -/
def MergeContact.new (srcContactHandle dstContactHandle registrar : String)
    (diffContactsImpl : Option (Database → String → String → Except MergeException Bool) :=
      some defaultDiffContacts) : Except MergeContactException MergeContact :=
  if h : upper srcContactHandle = upper dstContactHandle then
    throw (.diffContacts (.identicalContactsHandle dstContactHandle))
  else return ⟨srcContactHandle, dstContactHandle, registrar, none, diffContactsImpl, h⟩

/-- The parameters outside of the code that a merge depends on. -/
structure MergeSettings extends UpdateSettings where
  newAuthinfo : String

/-- A contact whose row of object_registry is locked. -/
structure LockedContact where
  id : Nat
  historyid : Nat
  roid : String
  sponsoringRegistrar : String

def lockedContact (db : Database) (oreg : Db.ObjectRegistry) : Option LockedContact :=
  (db.object.lookup oreg.id).bind fun o =>
    (db.registrar.lookup o.clid).map fun r =>
      ⟨oreg.id, oreg.historyid.getD 0, oreg.roid, r.handle⟩

def lockContact (handle : String) (unknown : MergeContactException) (failed : String) :
    MergeExec LockedContact := do
  let db ← get
  match (db.objectRegistry.select fun oreg =>
      oreg.name = upper handle ∧ oreg.type = .contact ∧ oreg.erdate = none).filterMap
        (lockedContact db.toDatabase) with
  | [] => throw (.check unknown)
  | [locked] => return locked
  | _ => throw (.check (.internalError failed))

/-- The states of an object, all of which must be known. -/
def getStates (objectId : Nat) : MergeExec (List String) := do
  let db ← get
  match objectStatesInfo db.toDatabase objectId with
  | .ok states => return states
  | .error e => throw (.check (.diffContacts e))

def checkBlocked (blocking : List String) (o : LinkedObject) : MergeExec Unit := do
  let states ← getStates o.id
  raiseIf (∃ state ∈ blocking, state ∈ states) (.check (.objectBlocked o.name))

/-- What only a real merge does. -/
def unlessDry {α : Type} (dryRun : Bool) (x : ObjectExec α) : MergeExec (Option α) :=
  if dryRun then return none
  else do
    let a ← operation x
    return some a

/-- One object of a role: the check whether it is blocked, and its update. -/
def mergeObject {ρ : Type} (dryRun : Bool) (blocking : List String)
    (update : LinkedObject → ObjectExec Nat) (record : LinkedObject → Option Nat → ρ)
    (o : LinkedObject) : MergeExec ρ := do
  checkBlocked blocking o
  let historyId ← unlessDry dryRun (update o)
  return record o historyId

/-- The update `x` under a savepoint; when it raises an exception that is to be ignored, it is
undone and `y` is run in its place. -/
def orElseRollback {α : Type} (ignored : ObjectException → Bool) (x y : ObjectExec α) :
    ObjectExec α := do
  let saved ← get
  tryCatch x fun e =>
    if ignored e then do
      modify saved.rollbackTo
      y
    else throw e

def domainBlockingStates : List String := ["serverBlocked", "serverUpdateProhibited"]

def techBlockingStates : List String := ["serverUpdateProhibited"]

theorem sorted_singleton (state : String) : [state].Pairwise (· < ·) := List.pairwise_singleton _ _

def createObjectStateRequest (objectId : Nat) (state : String) : Exec Unit := fun db =>
  match (CreateObjectStateRequestId.exec (stateRegistry db) db.now
    ⟨objectId, ⟨[state], sorted_singleton state⟩, none, none⟩).run db.requests with
  | .ok _ requests => .ok () { db with requests := requests }
  | .error e requests => .error (.objectState e) { db with requests := requests }

/-- PerformObjectStateRequest::exec. -/
def performObjectStateRequest (procedures : StateProcedures) (objectId : Nat) : ObjectExec Unit :=
  fun db => .ok () { db with objectState := procedures.updateObjectStates db objectId }

/-- An update that sets a new authinfo and nothing else. -/
def setAuthinfo (registrar authinfo : String) (logdRequestId : Option Nat) : UpdateContact where
  registrar := registrar
  authinfo := some authinfo
  name := none
  organization := none
  place := none
  telephone := none
  fax := none
  email := none
  notifyemail := none
  vat := none
  personalId := none
  addresses := .empty
  disclosename := none
  discloseorganization := none
  discloseaddress := none
  disclosetelephone := none
  disclosefax := none
  discloseemail := none
  disclosevat := none
  discloseident := none
  disclosenotifyemail := none
  domainExpirationWarningLetterEnabled := none
  logdRequestId := logdRequestId

namespace MergeContact

variable (settings : MergeSettings) (order : RowOrder) (op : MergeContact) (dryRun : Bool)

def lockObjectRegistryRowForUpdate : MergeExec MergeContactLockedContactId := do
  let src ← lockContact op.srcContactHandle (.unknownSourceContactHandle op.srcContactHandle)
    "failed to get source contact"
  let dst ← lockContact op.dstContactHandle (.unknownDestinationContactHandle op.dstContactHandle)
    "failed to get destination contact"
  raiseIf (src.roid = dst.roid) (.check (.identicalContactsRoid dst.roid))
  return ⟨src.id, src.historyid, src.roid, src.sponsoringRegistrar, dst.id, dst.historyid, dst.roid,
    dst.sponsoringRegistrar⟩

def diffContacts : MergeExec Unit := do
  let db ← get
  match op.diffContactsImpl with
  | some impl =>
    match impl db.toDatabase op.srcContactHandle op.dstContactHandle with
    | .ok contactDiffers =>
      raiseIf (contactDiffers = true)
        (.check (.contactsDiffer op.srcContactHandle op.dstContactHandle))
    | .error e => throw (.check (.diffContacts e))
  | none =>
    throw (.check (.diffContacts
      (.unableToGetDifferenceOfContacts op.srcContactHandle op.dstContactHandle)))

/-- The checks of the two contacts. -/
def checkContacts : MergeExec MergeContactLockedContactId := do
  let locked ← op.lockObjectRegistryRowForUpdate
  op.diffContacts
  return locked

def selectLinked (link : Link) : MergeExec (List LinkedObject) := do
  let db ← get
  return (order link).sort (linkedObjects db op.srcContactHandle link)

/-- The objects of one role, one after the other. -/
def mergeLinked {ρ : Type} (link : Link) (blocking : List String)
    (update : LinkedObject → ObjectExec Nat) (record : LinkedObject → Option Nat → ρ) :
    MergeExec (List ρ) := do
  let objects ← op.selectLinked order link
  objects.mapM (mergeObject dryRun blocking update record)

def updateRegistrant (o : LinkedObject) : ObjectExec Nat :=
  UpdateDomain.exec settings.toUpdateSettings
    { fqdn := o.name
      registrar := op.registrar
      registrant := some op.dstContactHandle
      logdRequestId := op.logdRequestId }

def mergeDomainRegistrants : MergeExec (List MergeContactUpdateDomainRegistrant) :=
  op.mergeLinked order dryRun .registrant domainBlockingStates (op.updateRegistrant settings)
    fun o historyId => ⟨o.name, o.id, o.sponsoringRegistrar, op.dstContactHandle, historyId⟩

/-- The destination contact is an administrator already. -/
def adminAlreadySet : ObjectException → Bool
  | .domain e => e.alreadySetAdminContactHandle.head? = some op.dstContactHandle
  | _ => false

def updateAdmin (o : LinkedObject) : ObjectExec Nat :=
  let replace : UpdateDomain :=
    { fqdn := o.name
      registrar := op.registrar
      addAdminContact := [op.dstContactHandle]
      remAdminContact := [op.srcContactHandle]
      logdRequestId := op.logdRequestId }
  orElseRollback op.adminAlreadySet (replace.exec settings.toUpdateSettings)
    (UpdateDomain.exec settings.toUpdateSettings { replace with addAdminContact := [] })

def mergeDomainAdmins : MergeExec (List MergeContactUpdateDomainAdminContact) :=
  op.mergeLinked order dryRun .admin domainBlockingStates (op.updateAdmin settings)
    fun o historyId => ⟨o.name, o.id, o.sponsoringRegistrar, op.srcContactHandle,
      op.dstContactHandle, historyId⟩

/-- The destination contact is a technical contact already. -/
def techAlreadySet : ObjectException → Bool
  | .nsset e => e.alreadySetTechnicalContactHandle.head? = some op.dstContactHandle
  | .keyset e => e.alreadySetTechnicalContactHandle.head? = some op.dstContactHandle
  | _ => false

def updateNssetTech (o : LinkedObject) : ObjectExec Nat :=
  let replace : UpdateNsset :=
    { handle := o.name
      registrar := op.registrar
      addTechContact := [op.dstContactHandle]
      remTechContact := [op.srcContactHandle]
      logdRequestId := op.logdRequestId }
  orElseRollback op.techAlreadySet (replace.exec settings.toUpdateSettings)
    (UpdateNsset.exec settings.toUpdateSettings { replace with addTechContact := [] })

def mergeNssetTechs : MergeExec (List MergeContactUpdateNssetTechContact) :=
  op.mergeLinked order dryRun .nssetTech techBlockingStates (op.updateNssetTech settings)
    fun o historyId => ⟨o.name, o.id, o.sponsoringRegistrar, op.srcContactHandle,
      op.dstContactHandle, historyId⟩

def updateKeysetTech (o : LinkedObject) : ObjectExec Nat :=
  let replace : UpdateKeyset :=
    { handle := o.name
      registrar := op.registrar
      addTechContact := [op.dstContactHandle]
      remTechContact := [op.srcContactHandle]
      logdRequestId := op.logdRequestId }
  orElseRollback op.techAlreadySet (replace.exec settings.toUpdateSettings)
    (UpdateKeyset.exec settings.toUpdateSettings { replace with addTechContact := [] })

def mergeKeysetTechs : MergeExec (List MergeContactUpdateKeysetTechContact) :=
  op.mergeLinked order dryRun .keysetTech techBlockingStates (op.updateKeysetTech settings)
    fun o historyId => ⟨o.name, o.id, o.sponsoringRegistrar, op.srcContactHandle,
      op.dstContactHandle, historyId⟩

/-- The requests for a state that the destination contact takes over. -/
def requestState (dstContactId : Nat) : ObjectExec Unit := do
  lift (createObjectStateRequest dstContactId "contactPassedManualVerification")
  performObjectStateRequest settings.procedures dstContactId

def transferStates (locked : MergeContactLockedContactId) : MergeExec Unit := do
  let src ← getStates locked.srcContactId
  let dst ← getStates locked.dstContactId
  if "contactPassedManualVerification" ∈ src ∧ "contactPassedManualVerification" ∉ dst then
    let _ ← unlessDry dryRun (requestState settings locked.dstContactId)

/-- The source contact is deleted, the destination contact gets a new authinfo. -/
def deleteSource : ObjectExec Unit := do
  deleteContactByHandle op.srcContactHandle
  let _ ← lift (updateContactByHandle settings.authinfo op.dstContactHandle
    (setAuthinfo op.registrar settings.newAuthinfo op.logdRequestId))

def mergeContactImpl : MergeExec MergeContactOutput := do
  let locked ← op.checkContacts
  let registrants ← op.mergeDomainRegistrants settings order dryRun
  let admins ← op.mergeDomainAdmins settings order dryRun
  let nssets ← op.mergeNssetTechs settings order dryRun
  let keysets ← op.mergeKeysetTechs settings order dryRun
  transferStates settings dryRun locked
  let _ ← unlessDry dryRun (op.deleteSource settings)
  return ⟨locked, registrants, admins, nssets, keysets⟩

def exec : MergeExec MergeContactOutput := op.mergeContactImpl settings order false

def execDryRun : MergeExec MergeContactOutput := op.mergeContactImpl settings order true

end MergeContact

end LibFred.RegistrableObject.Contact
