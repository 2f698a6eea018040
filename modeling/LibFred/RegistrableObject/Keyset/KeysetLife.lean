import LibFred.RegistrableObject.RegistrySteps

/-! Creating, transferring and deleting a keyset, all of which is recorded. -/
namespace LibFred.RegistrableObject.Keyset

open Sql
open LibFred.Db
open LibFred.Object (CreateObject PasswordStorage TransferObject)
open LibFred.RegistrableObject.Contact (objectHasState)

structure CreateKeyset where
  handle : String
  registrar : String
  dnsKeys : List DnsKey := []
  techContacts : List String := []
  logdRequestId : Option Nat := none

namespace CreateKeyset

variable (settings : CreateSettings) (op : CreateKeyset)

/-- INSERT INTO keyset. -/
def insertKeyset (keysetId : Nat) : RegistryExec Unit := fun db =>
  match db.keyset.insert? ⟨keysetId⟩ with
  | some t => .ok () { db with keyset := t }
  | none => .error (.object (.database .sqlError)) db

/-- CreateKeyset::exec. -/
def exec : RegistryExec CreateResult := do
  let _ ← requireRegistrar
    (fun handle => .createKeyset { unknownRegistrarHandle := some handle }) op.registrar
  let created ← onDatabase
    (CreateObject.exec settings.procedure ⟨.keyset, op.handle, op.registrar, op.logdRequestId⟩)
  insertKeyset created.1
  let alreadySet ← onObjects (op.dnsKeys.foldlM (addDnsKey created.1) [])
  let contacts ← keysetContactMap.addContacts settings.procedures created.1 op.techContacts
  let creationTime ← creationTime settings "timestamp of the keyset creation was not found" created.1
  let e : CreateKeysetException := {
    unknownTechnicalContactHandle := contacts.unknown
    alreadySetTechnicalContactHandle := contacts.alreadySet
    alreadySetDnsKey := alreadySet }
  raiseIf (e ≠ {}) (.createKeyset e)
  onObjects (copyKeysetDataToKeysetHistory created.1 created.2)
  return ⟨created.1, created.2, creationTime⟩

end CreateKeyset

structure TransferKeyset where
  keysetId : Nat
  newRegistrarHandle : String
  authinfopw : String
  logdRequestId : Option Nat

namespace TransferKeyset

variable (order : InfoOrder) (storage : PasswordStorage) (localTime : Timestamp → Ptime)
  (op : TransferKeyset)

/-- The contacts whose passwords authorise the transfer. -/
def getJoinedContacts : RegistryExec (List String) := do
  let db ← get
  match infoKeysetById order db op.keysetId with
  | some data => return StdSet.ofList (· < ·) (data.techContacts.map (·.handle))
  | none => throw (.unknownObject .keyset)

/-- TransferKeyset::exec. -/
def exec : RegistryExec Nat := do
  let contacts ← op.getJoinedContacts order
  let historyId ← transferObject .keyset storage localTime
    ⟨op.keysetId, op.newRegistrarHandle, op.authinfopw, contacts, op.logdRequestId⟩
  onObjects (copyKeysetDataToKeysetHistory op.keysetId historyId)
  return historyId

end TransferKeyset

/-- DELETE FROM keyset. -/
def deleteKeysetRow (id : Nat) : RegistryExec Unit := fun db =>
  if (db.keyset.lookup id).isSome then .ok () { db with keyset := db.keyset.delete (·.id = id) }
  else .error (.internalError "delete keyset failed") db

/-- delete_keyset_impl. -/
def deleteKeysetImpl (procedures : StateProcedures) (id : Nat) : RegistryExec Unit := do
  keysetContactMap.deleteContacts procedures id
  modify fun db => { db with dnskey := db.dnskey.delete (·.keysetid = id) }
  modify fun db => { db with dsrecord := db.dsrecord.delete (·.keysetid = id) }
  deleteKeysetRow id

/-- DeleteKeysetByHandle::exec. -/
def deleteKeysetByHandle (procedures : StateProcedures) (handle : String) : RegistryExec Unit := do
  let keysetId ← requireObject
    (fun handle => .object (.keyset { unknownKeysetHandle := some handle })) handle .keyset
  let db ← get
  raiseIf (objectHasState db.toDatabase keysetId "linked") (.objectLinkedToKeysetHandle handle)
  deleteKeysetImpl procedures keysetId
  deleteObjectByHandle handle .keyset

/-- DeleteKeysetById::exec. -/
def deleteKeysetById (procedures : StateProcedures) (id : Nat) : RegistryExec Unit := do
  let _ ← requireObjectId .unknownKeysetId id
  let db ← get
  raiseIf (objectHasState db.toDatabase id "linked") (.objectLinkedToKeysetId id)
  deleteKeysetImpl procedures id
  deleteObjectById id

variable {procedures : StateProcedures} {historyId id : Nat} {s s' db db' : ObjectDatabase} {u : Unit}

section Create

variable {settings : CreateSettings} {op : CreateKeyset}

theorem commits_insertKeyset :
    Commits (Writes procedures .keyset id) (CreateKeyset.insertKeyset id) := by
  intro s u s' h
  simp only [CreateKeyset.insertKeyset, EStateM.run] at h
  split at h <;> cases h
  rename_i t ht
  exact (Write.insertKeyset _ rfl ht).writes

theorem commits_addTechs {handles : List String} : Commits (Writes procedures .keyset id)
    (keysetContactMap.addContacts procedures id handles) :=
  commits_onObjects (commits_foldlM fun _ _ => ContactMap.commits_addContact
    fun _ _ _ hcontact ht => (Write.linkKeysetTech hcontact ht).writes)

theorem createKeyset_change {result : CreateResult} (h : (op.exec settings).run db = .ok result db') :
    Change settings.procedures db db' := by
  obtain ⟨_, _, hregistrar, h₁⟩ := run_bind_eq_ok.mp h
  obtain rfl := requireRegistrar_ok hregistrar
  obtain ⟨created, s₁, hcreated, h₂⟩ := run_bind_eq_ok.mp h₁
  obtain ⟨d, hopening, rfl⟩ := createObject_opening hcreated (foundName_nameOf nofun)
  obtain ⟨_, s₂, hkeyset, h₃⟩ := run_bind_eq_ok.mp h₂
  obtain ⟨alreadySet, s₃, hkeys, h₄⟩ := run_bind_eq_ok.mp h₃
  obtain ⟨contacts, s₄, hcontacts, h₅⟩ := run_bind_eq_ok.mp h₄
  obtain ⟨creationTime, _, htime, h₆⟩ := run_bind_eq_ok.mp h₅
  obtain rfl := readOnly_creationTime.ok htime
  obtain ⟨_, _, hraise, h₇⟩ := run_bind_eq_ok.mp h₆
  obtain ⟨-, rfl⟩ := run_raiseIf_eq_ok.mp hraise
  obtain ⟨_, s₅, hcopy, hend⟩ := run_bind_eq_ok.mp h₇
  obtain ⟨rfl, rfl⟩ := run_pure_eq_ok.mp hend
  refine .object hopening ?_ nofun (copyKeysetDataToKeysetHistory_copies (run_onObjects_eq_ok.mp hcopy))
  exact trans_of _ (commits_insertKeyset _ _ _ hkeyset)
    (trans_of _ (commits_onObjects (commits_foldlM fun _ _ => commits_addDnsKey) _ _ _ hkeys)
      (commits_addTechs _ _ _ hcontacts))

end Create

section Transfer

variable {order : InfoOrder} {storage : PasswordStorage} {localTime : Timestamp → Ptime}
  {op : TransferKeyset}

theorem getJoinedContacts_ok {contacts : List String}
    (h : (op.getJoinedContacts order).run s = .ok contacts s') :
    Live s.toDatabase .keyset op.keysetId ∧ s' = s := by
  obtain ⟨_, _, hget, h⟩ := run_bind_eq_ok.mp h
  obtain ⟨rfl, rfl⟩ := run_get_eq_ok.mp hget
  split at h
  · rename_i data hdata
    obtain ⟨-, rfl⟩ := run_pure_eq_ok.mp h
    obtain ⟨o, ho, -⟩ := Option.bind_eq_some_iff.mp hdata
    exact ⟨live_of_registered ho, rfl⟩
  · cases h

theorem transferKeyset_change (h : (op.exec order storage localTime).run db = .ok historyId db') :
    Change procedures db db' := by
  obtain ⟨contacts, _, hcontacts, h₁⟩ := run_bind_eq_ok.mp h
  obtain ⟨hlive, rfl⟩ := getJoinedContacts_ok hcontacts
  obtain ⟨v, s₁, htransfer, h₂⟩ := run_bind_eq_ok.mp h₁
  obtain ⟨d, hopening, rfl⟩ := transferObject_opening hlive htransfer
  obtain ⟨_, s₂, hcopy, hend⟩ := run_bind_eq_ok.mp h₂
  obtain ⟨rfl, rfl⟩ := run_pure_eq_ok.mp hend
  exact .object hopening (refl_of _ _) nofun (copyKeysetDataToKeysetHistory_copies (run_onObjects_eq_ok.mp hcopy))

end Transfer

section Delete

theorem deleteKeysetImpl_ok (h : (deleteKeysetImpl procedures id).run s = .ok u s') :
    HasRow s .keyset id ∧ s' = erased procedures s id .keyset := by
  obtain ⟨_, _, hcontacts, h₁⟩ := run_bind_eq_ok.mp h
  obtain ⟨-, rfl⟩ := EStateM.Result.ok.inj hcontacts
  obtain ⟨_, _, hkeys, h₂⟩ := run_bind_eq_ok.mp h₁
  obtain ⟨-, rfl⟩ := EStateM.Result.ok.inj hkeys
  obtain ⟨_, _, hdsrecords, h₃⟩ := run_bind_eq_ok.mp h₂
  obtain ⟨-, rfl⟩ := EStateM.Result.ok.inj hdsrecords
  simp only [deleteKeysetRow, EStateM.run] at h₃
  split at h₃ <;> cases h₃
  rename_i hrow
  exact ⟨hrow, rfl⟩

theorem deleteKeysetByHandle_change {handle : String}
    (h : (deleteKeysetByHandle procedures handle).run db = .ok u db') : Change procedures db db' := by
  obtain ⟨id, _, hobject, h₁⟩ := run_bind_eq_ok.mp h
  obtain ⟨hid, rfl⟩ := requireObject_ok hobject
  obtain ⟨_, _, hget, h₂⟩ := run_bind_eq_ok.mp h₁
  obtain ⟨rfl, rfl⟩ := run_get_eq_ok.mp hget
  obtain ⟨_, _, hraise, h₃⟩ := run_bind_eq_ok.mp h₂
  obtain ⟨hlinked, rfl⟩ := run_raiseIf_eq_ok.mp hraise
  obtain ⟨_, s₁, hkeyset, h₄⟩ := run_bind_eq_ok.mp h₃
  obtain ⟨hrow, rfl⟩ := deleteKeysetImpl_ok hkeyset
  obtain rfl := deleteObjectByHandle_ok (objectIdOf_erased.trans hid) h₄
  exact .delete .keyset (isRegistered_of_objectIdOf hid) hrow fun _ => Bool.eq_false_iff.mpr hlinked

theorem deleteKeysetById_change (h : (deleteKeysetById procedures id).run db = .ok u db') :
    Change procedures db db' := by
  obtain ⟨_, _, hobject, h₁⟩ := run_bind_eq_ok.mp h
  obtain ⟨hlive, rfl⟩ := requireObjectId_ok hobject
  obtain ⟨_, _, hget, h₂⟩ := run_bind_eq_ok.mp h₁
  obtain ⟨rfl, rfl⟩ := run_get_eq_ok.mp hget
  obtain ⟨_, _, hraise, h₃⟩ := run_bind_eq_ok.mp h₂
  obtain ⟨hlinked, rfl⟩ := run_raiseIf_eq_ok.mp hraise
  obtain ⟨_, s₁, hkeyset, h₄⟩ := run_bind_eq_ok.mp h₃
  obtain ⟨hrow, rfl⟩ := deleteKeysetImpl_ok hkeyset
  obtain rfl := deleteObjectById_ok h₄
  exact .delete .keyset hlive hrow fun _ => Bool.eq_false_iff.mpr hlinked

end Delete

end LibFred.RegistrableObject.Keyset
