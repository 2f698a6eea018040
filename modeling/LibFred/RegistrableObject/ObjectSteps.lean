import LibFred.Object.TransferObject
import LibFred.RegistrableObject.Contact.DeleteContact
import LibFred.RegistrableObject.Domain.CheckDomain

/-! Steps that creations, deletions and transfers of objects share. -/
namespace LibFred.RegistrableObject

open Sql
open LibFred.Db
open LibFred.Object (CreateObject CreateObjectProcedure PasswordStorage TransferObject
  getObjectIdByHandleAndType getRegistrarIdByHandle)
open LibFred.RegistrableObject.Contact (deleteObjectImpl)
open LibFred.RegistrableObject.Keyset (DnsKey)

/-- What CreateDomain reports. -/
structure CreateDomainException where
  unknownZoneFqdn : Option String := none
  unknownRegistrantHandle : Option String := none
  unknownNssetHandle : Option String := none
  unknownKeysetHandle : Option String := none
  unknownAdminContactHandle : List String := []
  alreadySetAdminContactHandle : List String := []
  unknownRegistrarHandle : Option String := none
  invalidFqdnSyntax : Option String := none
  invalidExpirationDate : Option Date := none
  invalidEnumValidationExpirationDate : Option Date := none
  deriving DecidableEq

/-- What CreateNsset reports. -/
structure CreateNssetException where
  invalidNssetHandle : Option String := none
  unknownTechnicalContactHandle : List String := []
  alreadySetTechnicalContactHandle : List String := []
  alreadySetDnsHost : List String := []
  invalidDnsHostIpaddr : List IpAddress := []
  unknownRegistrarHandle : Option String := none
  deriving DecidableEq

/-- What CreateKeyset reports. -/
structure CreateKeysetException where
  unknownTechnicalContactHandle : List String := []
  alreadySetTechnicalContactHandle : List String := []
  alreadySetDnsKey : List DnsKey := []
  unknownRegistrarHandle : Option String := none
  deriving DecidableEq

/-- The exceptions of the operations below and of those that they are made of. -/
inductive RegistryException
  | object (e : ObjectException)
  | createDomain (e : CreateDomainException)
  | createNsset (e : CreateNssetException)
  | createKeyset (e : CreateKeysetException)
  | checkDomain (e : Domain.CheckException)
  | unknownContactId (id : Nat)
  | unknownDomainId (id : Nat)
  | unknownNssetId (id : Nat)
  | unknownKeysetId (id : Nat)
  | unknownObjectId (id : Nat)
  | unknownObject (type : Db.ObjectType)
  | objectLinkedToContactId (id : Nat)
  | objectLinkedToNssetHandle (handle : String)
  | objectLinkedToNssetId (id : Nat)
  | objectLinkedToKeysetHandle (handle : String)
  | objectLinkedToKeysetId (id : Nat)
  deriving DecidableEq

abbrev RegistryExec := EStateM RegistryException ObjectDatabase

def RegistryException.internalError (what : String) : RegistryException :=
  .object (.database (.internalError what))

/-- Statements of the operations that others are made of. -/
def onObjects {α : Type} (x : ObjectExec α) : RegistryExec α := fun db =>
  match x.run db with
  | .ok a db' => .ok a db'
  | .error e db' => .error (.object e) db'

/-- Statements that concern the tables of `Database` only. -/
def onDatabase {α : Type} (x : Exec α) : RegistryExec α := onObjects (lift x)

/-- The registrar of a creation must exist. -/
def requireRegistrar (unknown : String → RegistryException) (registrar : String) : RegistryExec Nat :=
  tryCatch (onDatabase (getRegistrarIdByHandle registrar)) fun
  | .object (.database (.unknownRegistrarHandle handle)) => throw (unknown handle)
  | e => throw e

/-- get_object_id_by_handle_and_type_with_lock, which throws. -/
def requireObject (unknown : String → RegistryException) (handle : String) (type : Db.ObjectType) :
    RegistryExec Nat := do
  match ← onDatabase (getObjectIdByHandleAndType handle type) with
  | some id => return id
  | none => throw (unknown handle)

/-- get_object_id_by_object_id_with_lock, for which the type of the object does not matter. -/
def requireObjectId (unknown : Nat → RegistryException) (objectId : Nat) : RegistryExec Nat := do
  let db ← get
  match db.objectRegistry.lookup objectId with
  | some oreg =>
    if oreg.erdate = none then return oreg.id
    else throw (unknown objectId)
  | none => throw (unknown objectId)

/-- DeleteObjectByHandle::exec. -/
def deleteObjectByHandle (handle : String) (type : Db.ObjectType) : RegistryExec Unit := do
  let objectId ← requireObject (fun handle => .object (.database (.unknownObjectHandle handle))) handle
    type
  onDatabase (deleteObjectImpl objectId)

/-- DeleteObjectById::exec. -/
def deleteObjectById (objectId : Nat) : RegistryExec Unit := do
  let _ ← requireObjectId .unknownObjectId objectId
  onDatabase (deleteObjectImpl objectId)

/-- transfer_object as the transfers of objects of a type run it. -/
def transferObject (type : Db.ObjectType) (storage : PasswordStorage) (localTime : Timestamp → Ptime)
    (op : TransferObject) : RegistryExec Nat :=
  tryCatch (onDatabase (op.exec storage localTime)) fun
  | .object (.database .unknownObjectId) => throw (.unknownObject type)
  | e => throw e

/-- The parameters outside of the code that a creation depends on. -/
structure CreateSettings where
  procedure : CreateObjectProcedure
  procedures : StateProcedures
  localTime : Timestamp → Ptime

structure CreateResult where
  objectId : Nat
  historyId : Nat
  creationTime : Ptime

/-- The time of the creation as the registry has it. -/
def creationTime (settings : CreateSettings) (what : String) (objectId : Nat) : RegistryExec Ptime := do
  let db ← get
  match db.objectRegistry.lookup objectId with
  | some o => return settings.localTime o.crdate
  | none => throw (.internalError what)

namespace ContactMap

variable {ρ : Type} [Keyed ρ (Nat × Nat)] (procedures : StateProcedures) (map : ContactMap ρ)

/-- The contacts of an object that is created. -/
def addContacts (objectId : Nat) (handles : List String) : RegistryExec ContactErrors :=
  onObjects (handles.foldlM (map.addContact procedures objectId) {})

/-- DELETE of the links of an object. -/
def deleteContacts (objectId : Nat) : RegistryExec Unit :=
  modify fun db => procedures.fire
    (map.setTable db ((map.table db).delete fun r => (Keyed.key r).1 = objectId))

end ContactMap

end LibFred.RegistrableObject
