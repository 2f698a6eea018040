import LibFred.Object.Object
import LibFred.RegistrableObject.Contact.InfoContact

/-! The transfer of an object to another registrar. -/
namespace LibFred.Object

open Sql
open LibFred.Db (Database Object Timestamp Exec)
open LibFred.RegistrableObject.Contact (infoContactByHandle)

/-- The id that InfoRegistrarByHandle finds. -/
def newRegistrarId (handle : String) : Exec Nat := do
  let db ← get
  match db.registrar.select (·.handle = upper handle) with
  | [] => throw .unknownRegistrar
  | [registrar] => return registrar.id
  | _ => throw (.internalError "query result size > 1")

def getLockedSponsoringRegistrar (objectId : Nat) : Exec Nat := do
  let db ← get
  match db.object.lookup objectId with
  | some o => return o.clid
  | none => throw .unknownObjectId

def setNewSponsoringRegistrar (objectId newSponsoringRegistrarId : Nat) : Exec Unit := fun db =>
  if (db.object.lookup objectId).isSome then
    .ok () { db with
      object := db.object.update (·.id = objectId)
        fun o => { o with trdate := some db.now, clid := newSponsoringRegistrarId } }
  else .error (.internalError "UPDATE object failed") db

/-- An unknown contact authorises nothing. -/
def authorizes (storage : PasswordStorage) (localTime : Timestamp → Ptime) (authinfopw : String)
    (contactHandle : String) : Exec Bool :=
  tryCatch (do
    let contact ← infoContactByHandle localTime contactHandle
    let matchCounter ← checkAuthinfo storage contact.id authinfopw incrementUsage
    return 0 < matchCounter) fun
  | .unknownContactHandle _ => return false
  | .unknownObjectId => return false
  | e => throw e

/-- The contacts of the set that the password belongs to. -/
def getAuthorizedContacts (storage : PasswordStorage) (localTime : Timestamp → Ptime)
    (authinfopw : String) : List String → Exec (List String)
  | [] => return []
  | handle :: contacts => do
    let authorized ← authorizes storage localTime authinfopw handle
    let rest ← getAuthorizedContacts storage localTime authinfopw contacts
    return if authorized then handle :: rest else rest

/-- Authinfos that were not used are cleaned, those that were used have been canceled. -/
def cleanUnlessUsed (objectId matchCounter : Nat) : Exec Unit :=
  if matchCounter = 0 then do
    let _ ← cleanAuthinfo objectId
  else return

/-- The new sponsoring registrar is set and recorded in the history of the object. -/
def recordTransfer (objectId newRegistrarId : Nat) (logdRequestId : Option Nat) : Exec Nat := do
  setNewSponsoringRegistrar objectId newRegistrarId
  let historyId ← insertHistory logdRequestId objectId
  setHistoryId "UPDATE object_registry failed" objectId historyId
  return historyId

structure TransferObject where
  objectId : Nat
  newRegistrarHandle : String
  authinfopw : String
  enabledContacts : List String
  logdRequestId : Option Nat

/-- transfer_object. -/
def TransferObject.exec (storage : PasswordStorage) (localTime : Timestamp → Ptime)
    (op : TransferObject) : Exec Nat := do
  let newRegistrarId ← newRegistrarId op.newRegistrarHandle
  let clid ← getLockedSponsoringRegistrar op.objectId
  raiseIf (clid = newRegistrarId) .newRegistrarIsAlreadySponsoring
  let own ← checkAuthinfo storage op.objectId op.authinfopw incrementUsageAndCancel
  let authorized ← getAuthorizedContacts storage localTime op.authinfopw op.enabledContacts
  raiseIf (own = 0 ∧ authorized = []) .incorrectAuthInfoPw
  cleanUnlessUsed op.objectId own
  recordTransfer op.objectId newRegistrarId op.logdRequestId

end LibFred.Object
