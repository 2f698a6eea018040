import LibFred.RegistrableObject.Nsset.InfoNssetDiff
import LibFred.RegistrableObject.UpdateSteps

/-! Updating an nsset. -/
namespace LibFred.RegistrableObject.Nsset

open Sql
open LibFred.Db

def nssetContactMap : ContactMap NssetContactMap where
  table db := db.nssetContactMap
  setTable db t := { db with nssetContactMap := t }
  row objectId contactId := ⟨objectId, contactId⟩
  key_row _ _ := rfl
  failed := "failed to delete technical contact"

/-- copy_nsset_data_to_nsset_history_impl. -/
def copyNssetDataToNssetHistory (nssetId historyId : Nat) : ObjectExec Unit := do
  let copied ← copyToHistory (·.nssetHistory) (fun db t => { db with nssetHistory := t })
    (fun db => db.nsset.select (·.id = nssetId)) historyId
  raiseIf (copied ≠ 1) (.database (.runtimeError "INSERT INTO nsset_history failed"))
  let _ ← copyToHistory (·.hostHistory) (fun db t => { db with hostHistory := t })
    (fun db => db.host.select (·.nssetid = nssetId)) historyId
  let _ ← copyToHistory (·.hostIpaddrMapHistory)
    (fun db t => { db with hostIpaddrMapHistory := t })
    (fun db => db.hostIpaddrMap.select (·.nssetid = nssetId)) historyId
  let _ ← copyToHistory (·.nssetContactMapHistory)
    (fun db t => { db with nssetContactMapHistory := t })
    (fun db => db.nssetContactMap.select (·.nssetid = nssetId)) historyId

structure UpdateNsset where
  handle : String
  registrar : String
  authinfo : Option String := none
  addDns : List DnsHost := []
  remDns : List String := []
  addTechContact : List String := []
  remTechContact : List String := []
  techCheckLevel : Option Int := none
  logdRequestId : Option Nat := none

/-- UPDATE nsset SET checklevel. -/
def setChecklevel (nssetId : Nat) (checklevel : Int) : ObjectExec Unit := fun db =>
  if (db.nsset.lookup nssetId).isSome then
    .ok () { db with nsset := db.nsset.update (·.id = nssetId) fun n => { n with checklevel } }
  else .error (.database (.internalError "failed to update checklevel")) db

/-- The level is updated when it is given and not negative. -/
def updateChecklevel (nssetId : Nat) (techCheckLevel : Option Int) : ObjectExec Unit :=
  match techCheckLevel.filter (0 ≤ ·) with
  | some checklevel => setChecklevel nssetId checklevel
  | none => return

/-- A host of the nsset under this name, in any letter case. -/
def NamesHost (nssetId : Nat) (fqdn : String) (h : Host) : Prop :=
  lower h.fqdn = lower fqdn ∧ h.nssetid = nssetId

instance (nssetId : Nat) (fqdn : String) : DecidablePred (NamesHost nssetId fqdn) :=
  fun h => by unfold NamesHost; infer_instance

/-- DELETE of hosts under a name; their ids. -/
def deleteHosts (nssetId : Nat) (fqdn : String) : ObjectExec (List Nat) := fun db =>
  .ok ((db.host.select (NamesHost nssetId fqdn)).map (·.id))
    { db with host := db.host.delete (NamesHost nssetId fqdn) }

def deleteIpaddrs (hostId : Nat) : ObjectExec Unit := fun db =>
  .ok () { db with hostIpaddrMap := db.hostIpaddrMap.delete (·.hostid = hostId) }

/-- The names of the hosts that are not assigned, with those found before. -/
def remDnsHost (nssetId : Nat) (unassigned : List String) (fqdn : String) :
    ObjectExec (List String) := do
  match ← deleteHosts nssetId fqdn with
  | [] => return unassigned ++ [fqdn]
  | [hostId] => do
    deleteIpaddrs hostId
    return unassigned
  | _ => throw (.database (.internalError "failed to delete DNS host"))

/-- INSERT of a host, undone to its savepoint when the nsset has a host of this name. -/
def insertHost (nssetId : Nat) (fqdn : String) : ObjectExec (Option Nat) := fun db =>
  let db' := { db with hostSeq := db.hostSeq + 1 }
  if db.host.select (fun h => h.nssetid = nssetId ∧ h.fqdn = lower fqdn) ≠ [] then .ok none db'
  else
    match db.host.insert? ⟨db.hostSeq, nssetId, lower fqdn⟩ with
    | some t => .ok (some db.hostSeq) { db' with host := t }
    | none => .error (.database .sqlError) db'

/-- An address whose text is one of the type inet; a scope has no place there. -/
def isInet : IpAddress → Bool
  | .v4 _ => true
  | .v6 _ scopeId => scopeId = 0

/-- INSERT of an address, undone to its savepoint when it is none of the type inet. -/
def insertIpaddr (hostId nssetId : Nat) (ipaddr : IpAddress) : ObjectExec Bool := fun db =>
  if isInet ipaddr then
    let db' := { db with hostIpaddrMapSeq := db.hostIpaddrMapSeq + 1 }
    match db.hostIpaddrMap.insert? ⟨db.hostIpaddrMapSeq, hostId, nssetId, ipaddr⟩ with
    | some t => .ok true { db' with hostIpaddrMap := t }
    | none => .error (.database .sqlError) db'
  else .ok false db

/-- What is wrong with the hosts that an update adds. -/
structure HostErrors where
  alreadySet : List String := []
  invalidIpaddr : List IpAddress := []

def addIpaddr (hostId nssetId : Nat) (e : HostErrors) (ipaddr : IpAddress) :
    ObjectExec HostErrors := do
  if ← insertIpaddr hostId nssetId ipaddr then return e
  else return { e with invalidIpaddr := e.invalidIpaddr ++ [ipaddr] }

def addDnsHost (nssetId : Nat) (e : HostErrors) (host : DnsHost) : ObjectExec HostErrors := do
  match ← insertHost nssetId host.fqdn with
  | none => return { e with alreadySet := e.alreadySet ++ [host.fqdn] }
  | some hostId => host.inetAddr.foldlM (addIpaddr hostId nssetId) e

namespace UpdateNsset

variable (settings : UpdateSettings) (op : UpdateNsset)

/-- UpdateNsset::exec. -/
def exec : ObjectExec Nat := do
  checkRegistrar (fun handle => .nsset { unknownRegistrarHandle := some handle }) op.registrar
  let nssetId ← getObjectId (fun handle => .nsset { unknownNssetHandle := some handle })
    op.handle .nsset
  let updated ← updateObject settings.authinfo
    ⟨op.handle, .nsset, op.registrar, op.authinfo, op.logdRequestId⟩
  updateChecklevel nssetId op.techCheckLevel
  let contacts ← nssetContactMap.updateContacts settings.procedures nssetId op.addTechContact
    op.remTechContact
  let unassigned ← op.remDns.foldlM (remDnsHost nssetId) []
  let hosts ← op.addDns.foldlM (addDnsHost nssetId) {}
  let e : NssetException := {
    unknownNssetHandle := updated.unknownObjectHandle
    unknownRegistrarHandle := updated.unknownRegistrarHandle
    unknownTechnicalContactHandle := contacts.unknown
    alreadySetTechnicalContactHandle := contacts.alreadySet
    unassignedTechnicalContactHandle := contacts.unassigned
    alreadySetDnsHost := hosts.alreadySet
    unassignedDnsHost := unassigned
    invalidDnsHostIpaddr := hosts.invalidIpaddr }
  raiseIf (e ≠ {}) (.nsset e)
  copyNssetDataToNssetHistory nssetId updated.historyId
  return updated.historyId

end UpdateNsset

end LibFred.RegistrableObject.Nsset
