import LibFred.Db.ObjectDatabase
import LibFred.Object.Object

/-! Steps that the updates of domains, nssets and keysets share. -/
namespace LibFred.RegistrableObject

open Sql
open LibFred.Db
open LibFred.Object (AuthinfoSettings UpdateObject getObjectIdByHandleAndType getRegistrarIdByHandle)

/-- The parameters outside of the code that an update depends on. -/
structure UpdateSettings where
  authinfo : AuthinfoSettings
  procedures : StateProcedures

/-- The registrar of an update must exist. -/
def checkRegistrar (unknown : String → ObjectException) (registrar : String) : ObjectExec Unit :=
  tryCatch (do
    let _ ← lift (getRegistrarIdByHandle registrar)
    return) fun
  | .database (.unknownRegistrarHandle handle) => throw (unknown handle)
  | e => throw e

/-- An object that must exist. -/
def getObjectId (unknown : String → ObjectException) (handle : String) (type : Db.ObjectType) :
    ObjectExec Nat := do
  match ← lift (getObjectIdByHandleAndType handle type) with
  | some id => return id
  | none => throw (unknown handle)

/-- What UpdateObject leaves to its caller. -/
structure UpdatedObject where
  historyId : Nat
  unknownObjectHandle : Option String := none
  unknownRegistrarHandle : Option String := none

/-- Handles that UpdateObject does not know do not keep the other arguments from being checked. -/
def updateObject (settings : AuthinfoSettings) (op : UpdateObject) : ObjectExec UpdatedObject :=
  tryCatch (do
    let historyId ← lift (op.exec settings)
    return { historyId := historyId }) fun
  | .database (.unknownObjectHandle handle) =>
    return { historyId := 0, unknownObjectHandle := some handle }
  | .database (.unknownRegistrarHandle handle) =>
    return { historyId := 0, unknownRegistrarHandle := some handle }
  | e => throw e

/-- A table that links objects to contacts. -/
structure ContactMap (ρ : Type) [Keyed ρ (Nat × Nat)] where
  table : ObjectDatabase → Table ρ
  setTable : ObjectDatabase → Table ρ → ObjectDatabase
  row : Nat → Nat → ρ
  key_row : ∀ objectId contactId, Keyed.key (row objectId contactId) = (objectId, contactId)
  /-- The text for a contact that is linked more than once. -/
  failed : String

/-- What is wrong with the contacts that an update adds or removes. -/
structure ContactErrors where
  unknown : List String := []
  alreadySet : List String := []
  unassigned : List String := []
  deriving DecidableEq

namespace ContactMap

variable {ρ : Type} [Keyed ρ (Nat × Nat)] (procedures : StateProcedures) (map : ContactMap ρ)

/-- INSERT of a link, undone to its savepoint when the contact is linked already. -/
def insertContact (objectId contactId : Nat) : ObjectExec Bool := fun db =>
  match (map.table db).insert? (map.row objectId contactId) with
  | some t => .ok true (procedures.fire (map.setTable db t))
  | none => .ok false db

def addContact (objectId : Nat) (e : ContactErrors) (handle : String) : ObjectExec ContactErrors := do
  match ← lift (getObjectIdByHandleAndType handle .contact) with
  | none => return { e with unknown := e.unknown ++ [handle] }
  | some contactId =>
    if ← map.insertContact procedures objectId contactId then return e
    else return { e with alreadySet := e.alreadySet ++ [handle] }

/-- DELETE of a link; the number of the deleted rows. -/
def deleteContact (objectId contactId : Nat) : ObjectExec Nat := fun db =>
  .ok ((map.table db).select (Keyed.key · = (objectId, contactId))).length
    (procedures.fire
      (map.setTable db ((map.table db).delete (Keyed.key · = (objectId, contactId)))))

def remContact (objectId : Nat) (e : ContactErrors) (handle : String) : ObjectExec ContactErrors := do
  match ← lift (getObjectIdByHandleAndType handle .contact) with
  | none => return { e with unknown := e.unknown ++ [handle] }
  | some contactId =>
    let deleted ← map.deleteContact procedures objectId contactId
    raiseIf (1 < deleted) (.database (.internalError map.failed))
    if deleted = 0 then return { e with unassigned := e.unassigned ++ [handle] }
    else return e

/-- Contacts are added before others are removed. -/
def updateContacts (objectId : Nat) (add rem : List String) : ObjectExec ContactErrors := do
  let e ← add.foldlM (map.addContact procedures objectId) {}
  rem.foldlM (map.remContact procedures objectId) e

end ContactMap

end LibFred.RegistrableObject
