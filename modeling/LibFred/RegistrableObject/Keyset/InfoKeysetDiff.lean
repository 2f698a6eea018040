import LibFred.RegistrableObject.DiffMember
import LibFred.RegistrableObject.Keyset.DnsKey
import LibFred.RegistrableObject.Reference
import Mathlib.Tactic.MkIffOfInductiveProp

/-! Differences of two states of a keyset. -/
namespace LibFred.RegistrableObject.Keyset

open Sql

structure InfoKeysetData where
  crhistoryid : Nat
  historyid : Nat
  historyUuid : Uuid
  id : Nat
  uuid : Uuid
  deleteTime : Option Ptime
  handle : String
  roid : String
  sponsoringRegistrarHandle : String
  createRegistrarHandle : String
  updateRegistrarHandle : Option String
  creationTime : Ptime
  updateTime : Option Ptime
  transferTime : Option Ptime
  dnsKeys : List DnsKey
  techContacts : List ContactReference

structure InfoKeysetDiff where
  crhistoryid : DiffMember Nat
  historyid : DiffMember Nat
  deleteTime : DiffMember (Option Ptime)
  handle : DiffMember String
  roid : DiffMember String
  sponsoringRegistrarHandle : DiffMember String
  createRegistrarHandle : DiffMember String
  updateRegistrarHandle : DiffMember (Option String)
  creationTime : DiffMember Ptime
  updateTime : DiffMember (Option Ptime)
  transferTime : DiffMember (Option Ptime)
  dnsKeys : DiffMember (List DnsKey)
  techContacts : DiffMember (List ContactReference)
  id : DiffMember Nat
  uuid : DiffMember Uuid
  historyUuid : DiffMember Uuid

def InfoKeysetDiff.changedFields (diff : InfoKeysetDiff) : Finset String :=
  insertIfPresents diff.crhistoryid "crhistoryid" <|
  insertIfPresents diff.historyid "historyid" <|
  insertIfPresents diff.deleteTime "delete_time" <|
  insertIfPresents diff.handle "handle" <|
  insertIfPresents diff.roid "roid" <|
  insertIfPresents diff.sponsoringRegistrarHandle "sponsoring_registrar_handle" <|
  insertIfPresents diff.createRegistrarHandle "create_registrar_handle" <|
  insertIfPresents diff.updateRegistrarHandle "update_registrar_handle" <|
  insertIfPresents diff.creationTime "creation_time" <|
  insertIfPresents diff.updateTime "update_time" <|
  insertIfPresents diff.transferTime "transfer_time" <|
  insertIfPresents diff.dnsKeys "dns_keys" <|
  insertIfPresents diff.techContacts "tech_contacts" <|
  insertIfPresents diff.id "id" <|
  insertIfPresents diff.uuid "uuid" <|
  insertIfPresents diff.historyUuid "history_uuid" ∅

def InfoKeysetDiff.isEmpty (diff : InfoKeysetDiff) : Bool :=
  !isSetAnyOf
    [diff.crhistoryid.isSome, diff.historyid.isSome, diff.deleteTime.isSome, diff.handle.isSome,
      diff.roid.isSome, diff.sponsoringRegistrarHandle.isSome, diff.createRegistrarHandle.isSome,
      diff.updateRegistrarHandle.isSome, diff.creationTime.isSome, diff.updateTime.isSome,
      diff.transferTime.isSome, diff.dnsKeys.isSome, diff.techContacts.isSome, diff.id.isSome,
      diff.uuid.isSome, diff.historyUuid.isSome]

def diffKeysetData (first second : InfoKeysetData) : InfoKeysetDiff where
  crhistoryid := diffMember (· == ·) first.crhistoryid second.crhistoryid
  historyid := diffMember (· == ·) first.historyid second.historyid
  deleteTime := diffMember (isEqual (· == ·)) first.deleteTime second.deleteTime
  handle := diffMember equalUpper first.handle second.handle
  roid := diffMember (· == ·) first.roid second.roid
  sponsoringRegistrarHandle :=
    diffMember equalUpper first.sponsoringRegistrarHandle second.sponsoringRegistrarHandle
  createRegistrarHandle :=
    diffMember equalUpper first.createRegistrarHandle second.createRegistrarHandle
  updateRegistrarHandle :=
    diffMember isEqualUpper first.updateRegistrarHandle second.updateRegistrarHandle
  creationTime := diffMember (· == ·) first.creationTime second.creationTime
  updateTime := diffMember (isEqual (· == ·)) first.updateTime second.updateTime
  transferTime := diffMember (isEqual (· == ·)) first.transferTime second.transferTime
  dnsKeys := diffMember equalAsSets first.dnsKeys second.dnsKeys
  techContacts := diffMember RegistrableObject.equalAsSets first.techContacts second.techContacts
  id := diffMember (· == ·) first.id second.id
  uuid := diffMember (· == ·) first.uuid second.uuid
  historyUuid := diffMember (· == ·) first.historyUuid second.historyUuid

/-- The two states agree in all compared fields. -/
@[mk_iff] structure InfoKeysetData.Agrees (first second : InfoKeysetData) : Prop where
  crhistoryid : first.crhistoryid = second.crhistoryid
  historyid : first.historyid = second.historyid
  deleteTime : first.deleteTime = second.deleteTime
  handle : upper first.handle = upper second.handle
  roid : first.roid = second.roid
  sponsoringRegistrarHandle :
    upper first.sponsoringRegistrarHandle = upper second.sponsoringRegistrarHandle
  createRegistrarHandle : upper first.createRegistrarHandle = upper second.createRegistrarHandle
  updateRegistrarHandle :
    first.updateRegistrarHandle.map upper = second.updateRegistrarHandle.map upper
  creationTime : first.creationTime = second.creationTime
  updateTime : first.updateTime = second.updateTime
  transferTime : first.transferTime = second.transferTime
  dnsKeys : ∀ key, key ∈ first.dnsKeys ↔ key ∈ second.dnsKeys
  techContacts : SameReferences first.techContacts second.techContacts
  id : first.id = second.id
  uuid : first.uuid = second.uuid
  historyUuid : first.historyUuid = second.historyUuid

variable {first second : InfoKeysetData} {diff : InfoKeysetDiff}

theorem changedFields_eq_empty : diff.changedFields = ∅ ↔ diff.isEmpty := by
  simp [InfoKeysetDiff.changedFields, InfoKeysetDiff.isEmpty, isSetAnyOf]

theorem isEmpty_diffKeysetData : (diffKeysetData first second).isEmpty ↔ first.Agrees second := by
  simp [InfoKeysetDiff.isEmpty, isSetAnyOf, diffKeysetData, InfoKeysetData.agrees_iff]

end LibFred.RegistrableObject.Keyset
