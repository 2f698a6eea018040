import LibFred.RegistrableObject.RegistrySteps

/-! Creating, transferring and deleting an nsset, all of which is recorded. -/
namespace LibFred.RegistrableObject.Nsset

open Sql
open LibFred.Db
open LibFred.Object (CreateObject CreateObjectProcedure PasswordStorage TransferObject)
open LibFred.RegistrableObject.Contact (objectHasState)

structure CreateNsset where
  handle : String
  registrar : String
  techCheckLevel : Option Int := none
  dnsHosts : List DnsHost := []
  techContacts : List String := []
  logdRequestId : Option Nat := none

/-- The addresses of a host that the nsset has already are inserted without a host. -/
def createDnsHost (nssetId : Nat) (e : HostErrors) (host : DnsHost) : ObjectExec HostErrors := do
  match ← insertHost nssetId host.fqdn with
  | none =>
    host.inetAddr.foldlM (addIpaddr 0 nssetId) { e with alreadySet := e.alreadySet ++ [host.fqdn] }
  | some hostId => host.inetAddr.foldlM (addIpaddr hostId nssetId) e

/-- The parameters outside of the code that the creation of an nsset depends on. -/
structure CreateNssetSettings extends CreateSettings where
  defaultChecklevel : Int

namespace CreateNsset

variable (settings : CreateNssetSettings) (op : CreateNsset)

/-- An invalid handle does not keep the other arguments from being checked. -/
def createObject : RegistryExec ((Nat × Nat) × Option String) :=
  tryCatch (do
    let created ← onDatabase
      (CreateObject.exec settings.procedure ⟨.nsset, op.handle, op.registrar, op.logdRequestId⟩)
    return (created, none)) fun
  | .object (.database (.unknownRegistrarHandle handle)) =>
    throw (.createNsset { unknownRegistrarHandle := some handle })
  | .object (.database (.invalidObjectHandle handle)) => return ((0, 0), some handle)
  | e => throw e

/-- INSERT INTO nsset. -/
def insertNsset (nssetId : Nat) : RegistryExec Unit := fun db =>
  match db.nsset.insert? ⟨nssetId, op.techCheckLevel.getD settings.defaultChecklevel⟩ with
  | some t => .ok () { db with nsset := t }
  | none => .error (.object (.database .sqlError)) db

/-- CreateNsset::exec. -/
def exec : RegistryExec CreateResult := do
  let created ← op.createObject settings
  op.insertNsset settings created.1.1
  let hosts ← onObjects (op.dnsHosts.foldlM (createDnsHost created.1.1) {})
  let contacts ← nssetContactMap.addContacts settings.procedures created.1.1 op.techContacts
  let e : CreateNssetException := {
    invalidNssetHandle := created.2
    unknownTechnicalContactHandle := contacts.unknown
    alreadySetTechnicalContactHandle := contacts.alreadySet
    alreadySetDnsHost := hosts.alreadySet
    invalidDnsHostIpaddr := hosts.invalidIpaddr }
  raiseIf (e ≠ {}) (.createNsset e)
  let creationTime ← creationTime settings.toCreateSettings
    "timestamp of the nsset creation was not found" created.1.1
  onObjects (copyNssetDataToNssetHistory created.1.1 created.1.2)
  return ⟨created.1.1, created.1.2, creationTime⟩

end CreateNsset

structure TransferNsset where
  nssetId : Nat
  newRegistrarHandle : String
  authinfopw : String
  logdRequestId : Option Nat

namespace TransferNsset

variable (order : InfoOrder) (storage : PasswordStorage) (localTime : Timestamp → Ptime)
  (op : TransferNsset)

/-- The contacts whose passwords authorise the transfer. -/
def getJoinedContacts : RegistryExec (List String) := do
  let db ← get
  match infoNssetById order db op.nssetId with
  | some data => return StdSet.ofList (· < ·) (data.techContacts.map (·.handle))
  | none => throw (.unknownObject .nsset)

/-- TransferNsset::exec. -/
def exec : RegistryExec Nat := do
  let contacts ← op.getJoinedContacts order
  let historyId ← transferObject .nsset storage localTime
    ⟨op.nssetId, op.newRegistrarHandle, op.authinfopw, contacts, op.logdRequestId⟩
  onObjects (copyNssetDataToNssetHistory op.nssetId historyId)
  return historyId

end TransferNsset

/-- DELETE FROM nsset. -/
def deleteNssetRow (id : Nat) : RegistryExec Unit := fun db =>
  if (db.nsset.lookup id).isSome then .ok () { db with nsset := db.nsset.delete (·.id = id) }
  else .error (.internalError "delete nsset failed") db

/-- delete_nsset_impl. -/
def deleteNssetImpl (procedures : StateProcedures) (id : Nat) : RegistryExec Unit := do
  nssetContactMap.deleteContacts procedures id
  modify fun db => { db with hostIpaddrMap := db.hostIpaddrMap.delete (·.nssetid = id) }
  modify fun db => { db with host := db.host.delete (·.nssetid = id) }
  deleteNssetRow id

/-- DeleteNssetByHandle::exec. -/
def deleteNssetByHandle (procedures : StateProcedures) (handle : String) : RegistryExec Unit := do
  let nssetId ← requireObject
    (fun handle => .object (.nsset { unknownNssetHandle := some handle })) handle .nsset
  let db ← get
  raiseIf (objectHasState db.toDatabase nssetId "linked") (.objectLinkedToNssetHandle handle)
  deleteNssetImpl procedures nssetId
  deleteObjectByHandle handle .nsset

/-- DeleteNssetById::exec. -/
def deleteNssetById (procedures : StateProcedures) (id : Nat) : RegistryExec Unit := do
  let _ ← requireObjectId .unknownNssetId id
  let db ← get
  raiseIf (objectHasState db.toDatabase id "linked") (.objectLinkedToNssetId id)
  deleteNssetImpl procedures id
  deleteObjectById id

variable {procedures : StateProcedures} {historyId id : Nat} {s s' db db' : ObjectDatabase} {u : Unit}

section Create

variable {settings : CreateNssetSettings} {op : CreateNsset} {e e' : HostErrors} {host : DnsHost}

theorem addIpaddr_alreadySet {hostId : Nat} {ipaddr : IpAddress}
    (h : (addIpaddr hostId id e ipaddr).run s = .ok e' s') : e'.alreadySet = e.alreadySet := by
  obtain ⟨inserted, t, -, h⟩ := run_bind_eq_ok.mp h
  cases inserted <;>
  · obtain ⟨rfl, -⟩ := run_pure_eq_ok.mp h
    rfl

theorem addIpaddrs_alreadySet {hostId : Nat} {ipaddrs : List IpAddress}
    (h : (ipaddrs.foldlM (addIpaddr hostId id) e).run s = .ok e' s') : e'.alreadySet = e.alreadySet := by
  induction ipaddrs generalizing e s with
  | nil =>
    obtain ⟨rfl, -⟩ := run_pure_eq_ok.mp h
    rfl
  | cons ipaddr ipaddrs ih =>
    rw [List.foldlM_cons] at h
    obtain ⟨e₁, t, hone, hrest⟩ := run_bind_eq_ok.mp h
    exact (ih hrest).trans (addIpaddr_alreadySet hone)

/-- A host that is not refused gets its addresses; those of one that is refused would have none. -/
theorem createDnsHost_ok (h : (createDnsHost id e host).run s = .ok e' s') (hset : e'.alreadySet = []) :
    e.alreadySet = [] ∧ Writes procedures .nsset id s s' := by
  obtain ⟨found, t, hinsert, h⟩ := run_bind_eq_ok.mp h
  cases found with
  | none =>
    have hrefused := addIpaddrs_alreadySet h
    rw [hset] at hrefused
    exact absurd hrefused.symm (List.append_ne_nil_of_right_ne_nil _ (List.cons_ne_nil _ _))
  | some hostId =>
    refine ⟨(addIpaddrs_alreadySet h).symm.trans hset, ?_⟩
    simp only [insertHost, EStateM.run] at hinsert
    split at hinsert
    · cases hinsert
    · split at hinsert <;> cases hinsert
      rename_i table htable
      refine .head (Write.insertHost _ htable) ?_
      exact commits_addIpaddrs (h := ⟨s.hostSeq, id, lower host.fqdn⟩)
        ((Table.mem_of_insert? htable).mpr (.inr rfl)) rfl _ _ h

theorem createDnsHosts_ok {hosts : List DnsHost}
    (h : (hosts.foldlM (createDnsHost id) e).run s = .ok e' s') (hset : e'.alreadySet = []) :
    e.alreadySet = [] ∧ Writes procedures .nsset id s s' := by
  induction hosts generalizing e s with
  | nil =>
    obtain ⟨rfl, rfl⟩ := run_pure_eq_ok.mp h
    exact ⟨hset, refl_of _ s⟩
  | cons host hosts ih =>
    rw [List.foldlM_cons] at h
    obtain ⟨e₁, t, hone, hrest⟩ := run_bind_eq_ok.mp h
    obtain ⟨hset₁, hwrites⟩ := ih hrest
    obtain ⟨hset₀, hwrite⟩ := createDnsHost_ok hone hset₁
    exact ⟨hset₀, trans_of _ hwrite hwrites⟩

theorem createObject_ok {created : (Nat × Nat) × Option String}
    (h : (op.createObject settings).run s = .ok created s') (hvalid : created.2 = none) :
    ∃ d, Opening .nsset created.1.1 created.1.2 s.toDatabase d ∧ s' = { s with toDatabase := d } := by
  rcases run_tryCatch_eq_ok.mp h with h | ⟨e, t, -, h⟩
  · obtain ⟨ids, t, hcreated, h⟩ := run_bind_eq_ok.mp h
    obtain ⟨rfl, rfl⟩ := run_pure_eq_ok.mp h
    exact createObject_opening hcreated (foundName_nameOf nofun)
  · split at h
    · cases h
    · obtain ⟨rfl, -⟩ := run_pure_eq_ok.mp h
      cases hvalid
    · cases h

theorem commits_insertNsset : Commits (Writes procedures .nsset id) (op.insertNsset settings id) := by
  intro s u s' h
  simp only [CreateNsset.insertNsset, EStateM.run] at h
  split at h <;> cases h
  rename_i t ht
  exact (Write.insertNsset _ rfl ht).writes

theorem commits_addTechs {handles : List String} : Commits (Writes procedures .nsset id)
    (nssetContactMap.addContacts procedures id handles) :=
  commits_onObjects (commits_foldlM fun _ _ => ContactMap.commits_addContact
    fun _ _ _ hcontact ht => (Write.linkNssetTech hcontact ht).writes)

theorem createNsset_change {result : CreateResult} (h : (op.exec settings).run db = .ok result db') :
    Change settings.procedures db db' := by
  obtain ⟨created, s₁, hcreated, h₁⟩ := run_bind_eq_ok.mp h
  obtain ⟨_, s₂, hnsset, h₂⟩ := run_bind_eq_ok.mp h₁
  obtain ⟨hosts, s₃, hhosts, h₃⟩ := run_bind_eq_ok.mp h₂
  obtain ⟨contacts, s₄, hcontacts, h₄⟩ := run_bind_eq_ok.mp h₃
  obtain ⟨_, _, hraise, h₅⟩ := run_bind_eq_ok.mp h₄
  obtain ⟨he, rfl⟩ := run_raiseIf_eq_ok.mp hraise
  obtain ⟨creationTime, _, htime, h₆⟩ := run_bind_eq_ok.mp h₅
  obtain rfl := readOnly_creationTime.ok htime
  obtain ⟨_, s₅, hcopy, hend⟩ := run_bind_eq_ok.mp h₆
  obtain ⟨rfl, rfl⟩ := run_pure_eq_ok.mp hend
  have hnone := not_not.mp he
  obtain ⟨d, hopening, rfl⟩ := createObject_ok hcreated (congrArg CreateNssetException.invalidNssetHandle hnone)
  have hwrites : Writes settings.procedures .nsset created.1.1 s₂ s₃ :=
    (createDnsHosts_ok (run_onObjects_eq_ok.mp hhosts)
      (congrArg CreateNssetException.alreadySetDnsHost hnone)).2
  refine .object hopening ?_ nofun (copyNssetDataToNssetHistory_copies (run_onObjects_eq_ok.mp hcopy))
  exact trans_of _ (commits_insertNsset _ _ _ hnsset) (trans_of _ hwrites (commits_addTechs _ _ _ hcontacts))

end Create

section Transfer

variable {order : InfoOrder} {storage : PasswordStorage} {localTime : Timestamp → Ptime}
  {op : TransferNsset}

theorem getJoinedContacts_ok {contacts : List String}
    (h : (op.getJoinedContacts order).run s = .ok contacts s') :
    Live s.toDatabase .nsset op.nssetId ∧ s' = s := by
  obtain ⟨_, _, hget, h⟩ := run_bind_eq_ok.mp h
  obtain ⟨rfl, rfl⟩ := run_get_eq_ok.mp hget
  split at h
  · rename_i data hdata
    obtain ⟨-, rfl⟩ := run_pure_eq_ok.mp h
    obtain ⟨o, ho, -⟩ := Option.bind_eq_some_iff.mp hdata
    exact ⟨live_of_registered ho, rfl⟩
  · cases h

theorem transferNsset_change (h : (op.exec order storage localTime).run db = .ok historyId db') :
    Change procedures db db' := by
  obtain ⟨contacts, _, hcontacts, h₁⟩ := run_bind_eq_ok.mp h
  obtain ⟨hlive, rfl⟩ := getJoinedContacts_ok hcontacts
  obtain ⟨v, s₁, htransfer, h₂⟩ := run_bind_eq_ok.mp h₁
  obtain ⟨d, hopening, rfl⟩ := transferObject_opening hlive htransfer
  obtain ⟨_, s₂, hcopy, hend⟩ := run_bind_eq_ok.mp h₂
  obtain ⟨rfl, rfl⟩ := run_pure_eq_ok.mp hend
  exact .object hopening (refl_of _ _) nofun (copyNssetDataToNssetHistory_copies (run_onObjects_eq_ok.mp hcopy))

end Transfer

section Delete

theorem deleteNssetImpl_ok (h : (deleteNssetImpl procedures id).run s = .ok u s') :
    HasRow s .nsset id ∧ s' = erased procedures s id .nsset := by
  obtain ⟨_, _, hcontacts, h₁⟩ := run_bind_eq_ok.mp h
  obtain ⟨-, rfl⟩ := EStateM.Result.ok.inj hcontacts
  obtain ⟨_, _, hipaddrs, h₂⟩ := run_bind_eq_ok.mp h₁
  obtain ⟨-, rfl⟩ := EStateM.Result.ok.inj hipaddrs
  obtain ⟨_, _, hhosts, h₃⟩ := run_bind_eq_ok.mp h₂
  obtain ⟨-, rfl⟩ := EStateM.Result.ok.inj hhosts
  simp only [deleteNssetRow, EStateM.run] at h₃
  split at h₃ <;> cases h₃
  rename_i hrow
  exact ⟨hrow, rfl⟩

theorem deleteNssetByHandle_change {handle : String}
    (h : (deleteNssetByHandle procedures handle).run db = .ok u db') : Change procedures db db' := by
  obtain ⟨id, _, hobject, h₁⟩ := run_bind_eq_ok.mp h
  obtain ⟨hid, rfl⟩ := requireObject_ok hobject
  obtain ⟨_, _, hget, h₂⟩ := run_bind_eq_ok.mp h₁
  obtain ⟨rfl, rfl⟩ := run_get_eq_ok.mp hget
  obtain ⟨_, _, hraise, h₃⟩ := run_bind_eq_ok.mp h₂
  obtain ⟨hlinked, rfl⟩ := run_raiseIf_eq_ok.mp hraise
  obtain ⟨_, s₁, hnsset, h₄⟩ := run_bind_eq_ok.mp h₃
  obtain ⟨hrow, rfl⟩ := deleteNssetImpl_ok hnsset
  obtain rfl := deleteObjectByHandle_ok (objectIdOf_erased.trans hid) h₄
  exact .delete .nsset (isRegistered_of_objectIdOf hid) hrow fun _ => Bool.eq_false_iff.mpr hlinked

theorem deleteNssetById_change (h : (deleteNssetById procedures id).run db = .ok u db') :
    Change procedures db db' := by
  obtain ⟨_, _, hobject, h₁⟩ := run_bind_eq_ok.mp h
  obtain ⟨hlive, rfl⟩ := requireObjectId_ok hobject
  obtain ⟨_, _, hget, h₂⟩ := run_bind_eq_ok.mp h₁
  obtain ⟨rfl, rfl⟩ := run_get_eq_ok.mp hget
  obtain ⟨_, _, hraise, h₃⟩ := run_bind_eq_ok.mp h₂
  obtain ⟨hlinked, rfl⟩ := run_raiseIf_eq_ok.mp hraise
  obtain ⟨_, s₁, hnsset, h₄⟩ := run_bind_eq_ok.mp h₃
  obtain ⟨hrow, rfl⟩ := deleteNssetImpl_ok hnsset
  obtain rfl := deleteObjectById_ok h₄
  exact .delete .nsset hlive hrow fun _ => Bool.eq_false_iff.mpr hlinked

end Delete

end LibFred.RegistrableObject.Nsset
