import LibFred.RegistrableObject.UpdateSteps
import LibFred.Sql.Text

/-! Updating a domain. -/
namespace LibFred.RegistrableObject.Domain

open Sql
open LibFred.Db
open LibFred.Object (getObjectIdByHandleAndType)

def domainContactMap : ContactMap DomainContactMap where
  table db := db.domainContactMap
  setTable db t := { db with domainContactMap := t }
  row objectId contactId := ⟨objectId, contactId, 1⟩
  key_row _ _ := rfl
  failed := "failed to unassign admin contact"

/-- copy_domain_data_to_domain_history_impl. -/
def copyDomainDataToDomainHistory (domainId historyId : Nat) : ObjectExec Unit := do
  let copied ← copyToHistory (·.domainHistory) (fun db t => { db with domainHistory := t })
    (fun db => db.domain.select (·.id = domainId)) historyId
  raiseIf (copied ≠ 1) (.database (.runtimeError "INSERT INTO domain_history failed"))
  let _ ← copyToHistory (·.domainContactMapHistory)
    (fun db t => { db with domainContactMapHistory := t })
    (fun db => db.domainContactMap.select (·.domainid = domainId)) historyId
  let _ ← copyToHistory (·.enumvalHistory) (fun db t => { db with enumvalHistory := t })
    (fun db => db.enumval.select (·.domainid = domainId)) historyId

structure UpdateDomain where
  fqdn : String
  registrar : String
  registrant : Option String := none
  authinfo : Option String := none
  nsset : Option (Option String) := none
  keyset : Option (Option String) := none
  addAdminContact : List String := []
  remAdminContact : List String := []
  expirationDate : Option Date := none
  enumValidationExpiration : Option Date := none
  enumPublishFlag : Option Bool := none
  logdRequestId : Option Nat := none

def remTrailingDot (fqdn : String) : String :=
  if fqdn.toList.getLast? = some '.' then String.ofList fqdn.toList.dropLast else fqdn

/-- The value of a column that is set to an object, and the handle when it is not known. -/
def resolveHandle (type : Db.ObjectType) (handle : String) : ObjectExec (Nat × Option String) := do
  match ← lift (getObjectIdByHandleAndType handle type) with
  | some id => return (id, none)
  | none => return (0, some handle)

/-- The value of a column that may also be set to NULL or not be set. -/
def resolveOptional (type : Db.ObjectType) :
    Option (Option String) → ObjectExec (Option (Option Nat) × Option String)
  | none => return (none, none)
  | some none => return (some none, none)
  | some (some handle) => do
    let resolved ← resolveHandle type handle
    return (some (some resolved.1), resolved.2)

/-- The values that UPDATE domain SET gives to columns. -/
structure DomainColumns where
  nsset : Option (Option Nat)
  keyset : Option (Option Nat)
  registrant : Option Nat
  exdate : Option Int

def DomainColumns.set (columns : DomainColumns) (d : Db.Domain) : Db.Domain where
  id := d.id
  zone := d.zone
  registrant := columns.registrant.getD d.registrant
  nsset := columns.nsset.getD d.nsset
  exdate := columns.exdate.getD d.exdate
  keyset := columns.keyset.getD d.keyset

theorem DomainColumns.key_set (columns : DomainColumns) (d : Db.Domain) :
    Keyed.key (columns.set d) = Keyed.key d := rfl

/-- UPDATE domain SET. -/
def DomainColumns.write (procedures : StateProcedures) (columns : DomainColumns) (domainId : Nat) :
    ObjectExec Unit := fun db =>
  if (db.domain.lookup domainId).isSome then
    .ok () (procedures.fire { db with
      domain := db.domain.update (·.id = domainId) columns.set columns.key_set })
  else .error (.database (.internalError "failed to update domain")) db

namespace UpdateDomain

variable (settings : UpdateSettings) (op : UpdateDomain)

/-- The ids of the live domains of this name and whether their zones are ENUM zones. -/
def selectDomain (db : ObjectDatabase) : List (Nat × Bool) :=
  db.domain.rows.filterMap fun d =>
    match db.zone.lookup d.zone, db.objectRegistry.lookup d.id with
    | some z, some oreg =>
      if oreg.type = .domain ∧ oreg.name = lower (remTrailingDot op.fqdn) ∧ oreg.erdate = none then
        some (oreg.id, z.isEnum)
      else none
    | _, _ => none

def getDomain : ObjectExec (Nat × Bool) := do
  let db ← get
  match op.selectDomain db with
  | [] => throw (.domain { unknownDomainFqdn := some op.fqdn })
  | [found] => return found
  | _ => throw (.database (.internalError "failed to get domain"))

def changesDomain : Bool :=
  op.nsset.isSome || op.keyset.isSome || op.registrant.isSome || op.expirationDate.isSome

/-- The registrant that is to be set, and its handle when it is not known. -/
def resolveRegistrant : ObjectExec (Option Nat × Option String) :=
  match op.registrant with
  | none => return (none, none)
  | some handle => do
    let resolved ← resolveHandle .contact handle
    return (some resolved.1, resolved.2)

/-- UPDATE domain, once all of its arguments are known. -/
def resolveColumns (domainId : Nat) (e : DomainException) : ObjectExec Unit := do
  let nsset ← resolveOptional .nsset op.nsset
  let keyset ← resolveOptional .keyset op.keyset
  let registrant ← op.resolveRegistrant
  let e := { e with
    unknownNssetHandle := nsset.2
    unknownKeysetHandle := keyset.2
    unknownRegistrantHandle := registrant.2
    invalidExpirationDate := op.expirationDate.filter (·.day? = none) }
  raiseIf (e ≠ {}) (.domain e)
  DomainColumns.write settings.procedures
    ⟨nsset.1, keyset.1, registrant.1, op.expirationDate.bind (·.day?)⟩ domainId

def updateColumns (domainId : Nat) (e : DomainException) : ObjectExec Unit :=
  if op.changesDomain then op.resolveColumns settings domainId e else return

def setEnumval (domainId : Nat) : ObjectExec Unit := fun db =>
  if (db.enumval.lookup domainId).isSome then
    .ok () (settings.procedures.fire { db with
      enumval := db.enumval.update (·.domainid = domainId) fun ev =>
        { ev with
          exdate := (op.enumValidationExpiration.bind (·.day?)).getD ev.exdate
          publish := op.enumPublishFlag.getD ev.publish } })
  else .error (.database (.internalError "failed to update enumval")) db

def updateEnumval (domainId : Nat) : ObjectExec Unit :=
  if op.enumValidationExpiration.isSome || op.enumPublishFlag.isSome then
    op.setEnumval settings domainId
  else return

/-- What is wrong with a domain that UpdateObject was told to update. -/
def exceptionOf (updated : UpdatedObject) : DomainException where
  unknownDomainFqdn := updated.unknownObjectHandle
  unknownRegistrarHandle := updated.unknownRegistrarHandle

/-- UpdateDomain::exec. -/
def exec : ObjectExec Nat := do
  checkRegistrar (fun handle => .domain { unknownRegistrarHandle := some handle }) op.registrar
  let found ← op.getDomain
  raiseIf (found.2 = false ∧ op.enumValidationExpiration.isSome)
    (.database (.internalError "enum_validation_expiration set for non-ENUM domain"))
  raiseIf (found.2 = false ∧ op.enumPublishFlag.isSome)
    (.database (.internalError "enum_publish_flag set for non-ENUM domain"))
  let updated ← updateObject settings.authinfo
    ⟨remTrailingDot op.fqdn, .domain, op.registrar, op.authinfo, op.logdRequestId⟩
  op.updateColumns settings found.1 (exceptionOf updated)
  let contacts ← domainContactMap.updateContacts settings.procedures found.1 op.addAdminContact
    op.remAdminContact
  let e := { exceptionOf updated with
    unknownAdminContactHandle := contacts.unknown
    alreadySetAdminContactHandle := contacts.alreadySet
    unassignedAdminContactHandle := contacts.unassigned
    invalidEnumValidationExpirationDate := op.enumValidationExpiration.filter (·.day? = none) }
  raiseIf (e ≠ {}) (.domain e)
  op.updateEnumval settings found.1
  copyDomainDataToDomainHistory found.1 updated.historyId
  return updated.historyId

end UpdateDomain

end LibFred.RegistrableObject.Domain
