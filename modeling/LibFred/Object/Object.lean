import LibFred.Object.Authinfo

/-! Objects of the registry and their versions. -/
namespace LibFred.Object

open Sql
open LibFred.Db (Database Exec Historical ObjectRegistry ObjectType Timestamp)

/-- INSERT INTO object_history of the row of an object. -/
def copyToObjectHistory (db : Database) (historyId objectId : Nat) : List (Historical Db.Object) :=
  db.objectHistory ++ (db.object.select (·.id = objectId)).map (⟨historyId, ·⟩)

/-- InsertHistory::exec. -/
def insertHistory (logdRequestId : Option Nat) (objectId : Nat) : Exec Nat := fun db =>
  match db.history.insert? ⟨db.historySeq, db.historyUuid db.historySeq, logdRequestId⟩ with
  | some t => .ok db.historySeq { db with
      objectHistory := copyToObjectHistory db db.historySeq objectId
      history := t
      historySeq := db.historySeq + 1 }
  | none => .error .sqlError db

theorem key_historyid (historyId : Nat) (o : ObjectRegistry) :
    Keyed.key { o with historyid := some historyId } = Keyed.key o := rfl

/-- UPDATE object_registry SET historyid of one object; `what` tells that it does not exist. -/
def setHistoryId (what : String) (objectId historyId : Nat) : Exec Unit := fun db =>
  if (db.objectRegistry.lookup objectId).isSome then
    .ok () { db with
      objectRegistry := db.objectRegistry.update (·.id = objectId)
        (fun o => { o with historyid := some historyId }) (key_historyid historyId) }
  else .error (.internalError what) db

def getRegistrarIdByHandle (registrarHandle : String) : Exec Nat := do
  let db ← get
  match db.registrar.select (·.handle = upper registrarHandle) with
  | [] => throw (.unknownRegistrarHandle registrarHandle)
  | [registrar] => return registrar.id
  | _ => throw (.internalError "failed to get registrar")

/-- The name that a handle of an object means; the names of domains are in lower case. -/
def nameOf (type : ObjectType) (handle : String) : String :=
  if type = .domain then lower handle else upper handle

/-- The live objects of a type under a handle. -/
def liveObjects (db : Database) (type : ObjectType) (handle : String) : List ObjectRegistry :=
  db.objectRegistry.select fun o => o.type = type ∧ o.name = nameOf type handle ∧ o.erdate = none

/-- get_object_id_by_handle_and_type_with_lock; an unknown handle is left to the caller. -/
def getObjectIdByHandleAndType (handle : String) (type : ObjectType) : Exec (Option Nat) := do
  let db ← get
  match liveObjects db type handle with
  | [] => return none
  | [o] => return some o.id
  | _ => throw (.internalError "failed to get object handle")

/-- The procedure create_object of the database: the row that it adds to object_registry, none
when a live object has the name. -/
structure CreateObjectProcedure where
  row (db : Database) (registrarId : Nat) (handle : String) (type : ObjectType) :
    Option ObjectRegistry
  created : ∀ {db registrarId handle type o}, row db registrarId handle type = some o →
    o.name = nameOf type handle ∧ o.type = type ∧ o.crid = registrarId ∧ o.erdate = none
  free : ∀ {db registrarId handle type o}, row db registrarId handle type = some o →
    liveObjects db type handle = []
  newId : ∀ {db registrarId handle type o}, row db registrarId handle type = some o →
    o.id ≠ 0 ∧ (∀ o' ∈ db.objectRegistry, o'.id ≠ o.id) ∧ ∀ ca ∈ db.contactAddress, ca.contactid ≠ o.id

structure CreateObject where
  objectType : ObjectType
  handle : String
  registrar : String
  logdRequestId : Option Nat

namespace CreateObject

variable (procedure : CreateObjectProcedure) (op : CreateObject)

/-- SELECT create_object(..). -/
def callProcedure (registrarId : Nat) : Exec Nat := fun db =>
  match procedure.row db registrarId op.handle op.objectType with
  | none => .error (.invalidObjectHandle op.handle) db
  | some o =>
    match db.objectRegistry.insert? o with
    | some t => .ok o.id { db with objectRegistry := t }
    | none => .error .sqlError db

def insertObject (objectId clid : Nat) : Exec Unit := fun db =>
  match db.object.insert? ⟨objectId, clid, none, none, none⟩ with
  | some t => .ok () { db with object := t }
  | none => .error .sqlError db

def setFirstHistoryId (objectId historyId : Nat) : Exec Unit := fun db =>
  if (db.objectRegistry.lookup objectId).isSome then
    .ok () { db with
      objectRegistry := db.objectRegistry.update (·.id = objectId)
        fun o => { o with historyid := some historyId, crhistoryid := some historyId } }
  else .error (.internalError "historyid update failed") db

/-- The ids of the object and of its first version. -/
def exec : Exec (Nat × Nat) := do
  let registrarId ← getRegistrarIdByHandle op.registrar
  let objectId ← op.callProcedure procedure registrarId
  insertObject objectId registrarId
  let historyId ← insertHistory op.logdRequestId objectId
  setFirstHistoryId objectId historyId
  return (objectId, historyId)

end CreateObject

/-- How the passwords that an update sets are kept. -/
structure AuthinfoSettings where
  storage : PasswordStorage
  salt : String
  ttl : Timestamp

structure UpdateObject where
  handle : String
  objType : ObjectType
  registrar : String
  authinfo : Option String
  logdRequestId : Option Nat

namespace UpdateObject

variable (settings : AuthinfoSettings) (op : UpdateObject)

def storeAuthinfo (objectId registrarId : Nat) : Exec Unit :=
  match op.authinfo with
  | none => return
  | some plaintext =>
    (⟨objectId, registrarId, settings.ttl⟩ : StoreAuthinfo).exec settings.storage settings.salt plaintext

/-- UPDATE object SET update, upid. -/
def touch (objectId registrarId : Nat) : Exec Unit := fun db =>
  .ok () { db with
    object := db.object.update (·.id = objectId)
      fun o => { o with update := some db.now, upid := some registrarId } }

/-- The new version of the object that an update makes. -/
def recordVersion (objectId : Nat) (logdRequestId : Option Nat) : Exec Nat := do
  let historyId ← insertHistory logdRequestId objectId
  setHistoryId "historyid update failed" objectId historyId
  return historyId

/-- The authinfo is stored before an unknown handle is reported; its object id is 0 then. -/
def exec : Exec Nat := do
  let registrarId ← getRegistrarIdByHandle op.registrar
  let objectId ← getObjectIdByHandleAndType op.handle op.objType
  op.storeAuthinfo settings (objectId.getD 0) registrarId
  raiseIf (objectId = none) (.unknownObjectHandle op.handle)
  touch (objectId.getD 0) registrarId
  recordVersion (objectId.getD 0) op.logdRequestId

end UpdateObject

end LibFred.Object
