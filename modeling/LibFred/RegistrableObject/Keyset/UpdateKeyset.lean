import LibFred.RegistrableObject.UpdateSteps

/-! Updating a keyset. -/
namespace LibFred.RegistrableObject.Keyset

open Sql
open LibFred.Db

def keysetContactMap : ContactMap KeysetContactMap where
  table db := db.keysetContactMap
  setTable db t := { db with keysetContactMap := t }
  row objectId contactId := ⟨objectId, contactId⟩
  key_row _ _ := rfl
  failed := "failed to delete technical contact"

/-- copy_keyset_data_to_keyset_history_impl. -/
def copyKeysetDataToKeysetHistory (keysetId historyId : Nat) : ObjectExec Unit := do
  let copied ← copyToHistory (·.keysetHistory) (fun db t => { db with keysetHistory := t })
    (fun db => db.keyset.select (·.id = keysetId)) historyId
  raiseIf (copied ≠ 1) (.database (.runtimeError "INSERT INTO keyset_history failed"))
  let _ ← copyToHistory (·.dsrecordHistory) (fun db t => { db with dsrecordHistory := t })
    (fun db => db.dsrecord.select (·.keysetid = keysetId)) historyId
  let _ ← copyToHistory (·.dnskeyHistory) (fun db t => { db with dnskeyHistory := t })
    (fun db => db.dnskey.select (·.keysetid = keysetId)) historyId
  let _ ← copyToHistory (·.keysetContactMapHistory)
    (fun db t => { db with keysetContactMapHistory := t })
    (fun db => db.keysetContactMap.select (·.keysetid = keysetId)) historyId

structure UpdateKeyset where
  handle : String
  registrar : String
  authinfo : Option String := none
  addTechContact : List String := []
  remTechContact : List String := []
  addDnsKey : List DnsKey := []
  remDnsKey : List DnsKey := []
  logdRequestId : Option Nat := none

/-- DELETE of a key; the number of the deleted rows. -/
def deleteDnsKey (keysetId : Nat) (key : DnsKey) : ObjectExec Nat := fun db =>
  .ok (db.dnskey.select fun k => k.keysetid = keysetId ∧ k.dnsKey = key).length
    { db with dnskey := db.dnskey.delete fun k => k.keysetid = keysetId ∧ k.dnsKey = key }

/-- The keys that are not assigned, with those found before. -/
def remDnsKey (keysetId : Nat) (unassigned : List DnsKey) (key : DnsKey) :
    ObjectExec (List DnsKey) := do
  let deleted ← deleteDnsKey keysetId key
  raiseIf (1 < deleted) (.database (.internalError "failed to delete DNS key"))
  return if deleted = 0 then unassigned ++ [key] else unassigned

/-- INSERT of a key, undone to its savepoint when the keyset has it. -/
def insertDnsKey (keysetId : Nat) (key : DnsKey) : ObjectExec Bool := fun db =>
  let db' := { db with dnskeySeq := db.dnskeySeq + 1 }
  if db.dnskey.select (fun k => k.keysetid = keysetId ∧ k.dnsKey = key) ≠ [] then .ok false db'
  else
    match db.dnskey.insert? ⟨db.dnskeySeq, keysetId, key⟩ with
    | some t => .ok true { db' with dnskey := t }
    | none => .error (.database .sqlError) db'

/-- The keys that are set already, with those found before. -/
def addDnsKey (keysetId : Nat) (alreadySet : List DnsKey) (key : DnsKey) :
    ObjectExec (List DnsKey) := do
  if ← insertDnsKey keysetId key then return alreadySet
  else return alreadySet ++ [key]

namespace UpdateKeyset

variable (settings : UpdateSettings) (op : UpdateKeyset)

/-- UpdateKeyset::exec. -/
def exec : ObjectExec Nat := do
  checkRegistrar (fun handle => .keyset { unknownRegistrarHandle := some handle }) op.registrar
  let keysetId ← getObjectId (fun handle => .keyset { unknownKeysetHandle := some handle })
    op.handle .keyset
  let updated ← updateObject settings.authinfo
    ⟨op.handle, .keyset, op.registrar, op.authinfo, op.logdRequestId⟩
  let contacts ← keysetContactMap.updateContacts settings.procedures keysetId op.addTechContact
    op.remTechContact
  let unassigned ← op.remDnsKey.foldlM (Keyset.remDnsKey keysetId) []
  let alreadySet ← op.addDnsKey.foldlM (Keyset.addDnsKey keysetId) []
  let e : KeysetException := {
    unknownKeysetHandle := updated.unknownObjectHandle
    unknownRegistrarHandle := updated.unknownRegistrarHandle
    unknownTechnicalContactHandle := contacts.unknown
    alreadySetTechnicalContactHandle := contacts.alreadySet
    unassignedTechnicalContactHandle := contacts.unassigned
    alreadySetDnsKey := alreadySet
    unassignedDnsKey := unassigned }
  raiseIf (e ≠ {}) (.keyset e)
  copyKeysetDataToKeysetHistory keysetId updated.historyId
  return updated.historyId

end UpdateKeyset

end LibFred.RegistrableObject.Keyset
