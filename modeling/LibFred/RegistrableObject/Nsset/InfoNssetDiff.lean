import LibFred.RegistrableObject.DiffMember
import LibFred.RegistrableObject.Reference
import Mathlib.Data.Finset.Dedup
import Mathlib.Tactic.MkIffOfInductiveProp

/-! Differences of two states of an nsset. -/
namespace LibFred.RegistrableObject.Nsset

open Sql

structure DnsHost where
  fqdn : String
  inetAddr : List IpAddress
  deriving DecidableEq

structure InfoNssetData where
  crhistoryid : Nat
  historyid : Nat
  historyUuid : Uuid
  id : Nat
  uuid : Uuid
  deleteTime : Option Ptime
  handle : String
  roid : String
  sponsoringRegistrarHandle : String
  createRegistrarHandle : String
  updateRegistrarHandle : Option String
  creationTime : Ptime
  updateTime : Option Ptime
  transferTime : Option Ptime
  techCheckLevel : Option Int16
  dnsHosts : List DnsHost
  techContacts : List ContactReference

structure InfoNssetDiff where
  crhistoryid : DiffMember Nat
  historyid : DiffMember Nat
  deleteTime : DiffMember (Option Ptime)
  handle : DiffMember String
  roid : DiffMember String
  sponsoringRegistrarHandle : DiffMember String
  createRegistrarHandle : DiffMember String
  updateRegistrarHandle : DiffMember (Option String)
  creationTime : DiffMember Ptime
  updateTime : DiffMember (Option Ptime)
  transferTime : DiffMember (Option Ptime)
  techCheckLevel : DiffMember (Option Int16)
  dnsHosts : DiffMember (List DnsHost)
  techContacts : DiffMember (List ContactReference)
  id : DiffMember Nat
  uuid : DiffMember Uuid
  historyUuid : DiffMember Uuid

def InfoNssetDiff.changedFields (diff : InfoNssetDiff) : Finset String :=
  insertIfPresents diff.crhistoryid "crhistoryid" <|
  insertIfPresents diff.historyid "historyid" <|
  insertIfPresents diff.deleteTime "delete_time" <|
  insertIfPresents diff.handle "handle" <|
  insertIfPresents diff.roid "roid" <|
  insertIfPresents diff.sponsoringRegistrarHandle "sponsoring_registrar_handle" <|
  insertIfPresents diff.createRegistrarHandle "create_registrar_handle" <|
  insertIfPresents diff.updateRegistrarHandle "update_registrar_handle" <|
  insertIfPresents diff.creationTime "creation_time" <|
  insertIfPresents diff.updateTime "update_time" <|
  insertIfPresents diff.transferTime "transfer_time" <|
  insertIfPresents diff.techCheckLevel "tech_check_level" <|
  insertIfPresents diff.dnsHosts "dns_hosts" <|
  insertIfPresents diff.techContacts "tech_contacts" <|
  insertIfPresents diff.id "id" <|
  insertIfPresents diff.uuid "uuid" <|
  insertIfPresents diff.historyUuid "history_uuid" ∅

def InfoNssetDiff.isEmpty (diff : InfoNssetDiff) : Bool :=
  !isSetAnyOf
    [diff.crhistoryid.isSome, diff.historyid.isSome, diff.deleteTime.isSome, diff.handle.isSome,
      diff.roid.isSome, diff.sponsoringRegistrarHandle.isSome, diff.createRegistrarHandle.isSome,
      diff.updateRegistrarHandle.isSome, diff.creationTime.isSome, diff.updateTime.isSome,
      diff.transferTime.isSome, diff.techCheckLevel.isSome, diff.dnsHosts.isSome,
      diff.techContacts.isSome, diff.id.isSome, diff.uuid.isSome, diff.historyUuid.isSome]

/-- Comparison of the std::sets of the lower case names of the hosts. -/
def equalHostNames (lhs rhs : List DnsHost) : Bool :=
  StdSet.beq (· == ·) (StdSet.ofList (· < ·) (lhs.map fun host => lower host.fqdn))
    (StdSet.ofList (· < ·) (rhs.map fun host => lower host.fqdn))

def diffNssetData (first second : InfoNssetData) : InfoNssetDiff where
  crhistoryid := diffMember (· == ·) first.crhistoryid second.crhistoryid
  historyid := diffMember (· == ·) first.historyid second.historyid
  deleteTime := diffMember (isEqual (· == ·)) first.deleteTime second.deleteTime
  handle := diffMember equalUpper first.handle second.handle
  roid := diffMember (· == ·) first.roid second.roid
  sponsoringRegistrarHandle :=
    diffMember equalUpper first.sponsoringRegistrarHandle second.sponsoringRegistrarHandle
  createRegistrarHandle :=
    diffMember equalUpper first.createRegistrarHandle second.createRegistrarHandle
  updateRegistrarHandle :=
    diffMember isEqualUpper first.updateRegistrarHandle second.updateRegistrarHandle
  creationTime := diffMember (· == ·) first.creationTime second.creationTime
  updateTime := diffMember (isEqual (· == ·)) first.updateTime second.updateTime
  transferTime := diffMember (isEqual (· == ·)) first.transferTime second.transferTime
  techCheckLevel := diffMember (isEqual (· == ·)) first.techCheckLevel second.techCheckLevel
  dnsHosts := diffMember equalHostNames first.dnsHosts second.dnsHosts
  techContacts := diffMember equalAsSets first.techContacts second.techContacts
  id := diffMember (· == ·) first.id second.id
  uuid := diffMember (· == ·) first.uuid second.uuid
  historyUuid := diffMember (· == ·) first.historyUuid second.historyUuid

/-- Hosts of the same names, in whatever case, are listed. -/
def SameHostNames (lhs rhs : List DnsHost) : Prop :=
  ∀ x, x ∈ lhs.map (fun host => lower host.fqdn) ↔ x ∈ rhs.map (fun host => lower host.fqdn)

/-- What a host is: its name in whatever case and the set of its addresses. -/
def DnsHost.data (host : DnsHost) : String × Finset IpAddress :=
  (lower host.fqdn, host.inetAddr.toFinset)

/-- The same hosts with the same addresses are listed. -/
def SameHosts (lhs rhs : List DnsHost) : Prop := ∀ x, x ∈ lhs.map DnsHost.data ↔ x ∈ rhs.map DnsHost.data

/-- The two states agree in all compared fields, the hosts left aside. -/
@[mk_iff] structure InfoNssetData.AgreesBesideHosts (first second : InfoNssetData) : Prop where
  crhistoryid : first.crhistoryid = second.crhistoryid
  historyid : first.historyid = second.historyid
  deleteTime : first.deleteTime = second.deleteTime
  handle : upper first.handle = upper second.handle
  roid : first.roid = second.roid
  sponsoringRegistrarHandle :
    upper first.sponsoringRegistrarHandle = upper second.sponsoringRegistrarHandle
  createRegistrarHandle : upper first.createRegistrarHandle = upper second.createRegistrarHandle
  updateRegistrarHandle :
    first.updateRegistrarHandle.map upper = second.updateRegistrarHandle.map upper
  creationTime : first.creationTime = second.creationTime
  updateTime : first.updateTime = second.updateTime
  transferTime : first.transferTime = second.transferTime
  techCheckLevel : first.techCheckLevel = second.techCheckLevel
  techContacts : SameReferences first.techContacts second.techContacts
  id : first.id = second.id
  uuid : first.uuid = second.uuid
  historyUuid : first.historyUuid = second.historyUuid

def InfoNssetData.Agrees (first second : InfoNssetData) : Prop :=
  first.AgreesBesideHosts second ∧ SameHosts first.dnsHosts second.dnsHosts

variable {first second : InfoNssetData} {diff : InfoNssetDiff} {lhs rhs : List DnsHost}

@[simp] theorem equalHostNames_iff : equalHostNames lhs rhs ↔ SameHostNames lhs rhs := by
  rw [equalHostNames, StdSet.beq_ofList_iff (k := id) (by simp) (by simp)]
  simp [SameHostNames]

theorem SameHosts.sameHostNames (h : SameHosts lhs rhs) : SameHostNames lhs rhs := by
  have hnames : ∀ l : List DnsHost,
      l.map (fun host => lower host.fqdn) = (l.map DnsHost.data).map Prod.fst := by
    intro l
    rw [List.map_map]
    rfl
  intro x
  rw [hnames, hnames, List.mem_map, List.mem_map]
  simp only [h _]

theorem changedFields_eq_empty : diff.changedFields = ∅ ↔ diff.isEmpty := by
  simp [InfoNssetDiff.changedFields, InfoNssetDiff.isEmpty, isSetAnyOf]

/-- Hosts are compared by their names alone. -/
theorem isEmpty_diffNssetData : (diffNssetData first second).isEmpty ↔
    first.AgreesBesideHosts second ∧ SameHostNames first.dnsHosts second.dnsHosts := by
  simp [InfoNssetDiff.isEmpty, isSetAnyOf, diffNssetData, InfoNssetData.agreesBesideHosts_iff]
  tauto

/-- The diff is exact unless the addresses of the hosts are all that changed. -/
theorem isEmpty_diffNssetData_iff_agrees :
    ((diffNssetData first second).isEmpty ↔ first.Agrees second) ↔
      (SameHosts first.dnsHosts second.dnsHosts ∨
        ¬ SameHostNames first.dnsHosts second.dnsHosts ∨ ¬ first.AgreesBesideHosts second) := by
  rw [isEmpty_diffNssetData, InfoNssetData.Agrees]
  have hnames : SameHosts first.dnsHosts second.dnsHosts →
      SameHostNames first.dnsHosts second.dnsHosts := SameHosts.sameHostNames
  tauto

end LibFred.RegistrableObject.Nsset
