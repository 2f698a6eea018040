import LibFred.RegistrableObject.UpdateSteps

/-! Deleting a contact. -/
namespace LibFred.RegistrableObject.Contact

open Sql
open LibFred.Db

/-- ObjectHasState::exec. -/
def objectHasState (db : Database) (objectId : Nat) (state : String) : Bool :=
  (db.objectState.select fun os => os.objectId = objectId ∧ os.validTo = none ∧
    (db.enumObjectStates.lookup os.stateId).map (·.name) = some state) ≠ []

/-- The contact's identities end, and the contact and its addresses are deleted. -/
def deleteContactImpl (id : Nat) : Exec Unit := fun db =>
  let db' := { db with
    contactIdentity := db.contactIdentity.update
      (fun ci => ci.contactId = id ∧ ci.validTo = none) fun ci => { ci with validTo := some db.now }
    contactAddress := db.contactAddress.delete (·.contactid = id)
    contact := db.contact.delete (·.id = id) }
  if (db.contact.lookup id).isSome then .ok () db'
  else .error (.internalError "delete contact failed") db'

/-- UPDATE object_registry SET erdate. -/
def setErdate (id : Nat) : Exec Unit := fun db =>
  if (db.objectRegistry.lookup id).isSome then
    .ok () { db with
      objectRegistry := db.objectRegistry.update (·.id = id) fun o => { o with erdate := some db.now } }
  else .error (.internalError "erdate update failed") db

def deleteObjectRow (id : Nat) : Exec Unit := fun db =>
  if (db.object.lookup id).isSome then .ok () { db with object := db.object.delete (·.id = id) }
  else .error (.internalError "delete object failed") db

/-- delete_object_impl. -/
def deleteObjectImpl (id : Nat) : Exec Unit := do
  setErdate id
  deleteObjectRow id

/-- DeleteContactByHandle::exec. -/
def deleteContactByHandle (handle : String) : ObjectExec Unit := do
  let id ← getObjectId (fun handle => .database (.unknownContactHandle handle)) handle .contact
  let db ← get
  raiseIf (objectHasState db.toDatabase id "linked") (.objectLinkedToContactHandle handle)
  lift (deleteContactImpl id)
  let objectId ← getObjectId (fun handle => .database (.unknownObjectHandle handle)) handle .contact
  lift (deleteObjectImpl objectId)

end LibFred.RegistrableObject.Contact
