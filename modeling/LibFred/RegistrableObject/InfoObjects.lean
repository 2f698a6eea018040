import LibFred.Db.ObjectDatabase
import LibFred.Order.Sorting
import LibFred.RegistrableObject.Domain.InfoDomainDiff
import LibFred.RegistrableObject.Nsset.InfoNssetDiff

/-! Reading domains, nssets and keysets, as they are and as a version has kept them. -/
namespace LibFred.RegistrableObject

open Sql
open LibFred.Db
open LibFred.RegistrableObject.Domain (ENUMValidationExtension ObjectIdHandlePair)
open LibFred.RegistrableObject.Keyset (DnsKey)
open LibFred.RegistrableObject.Nsset (DnsHost)

/-- The orders that the queries ask for; rows that agree in them may come in any order. -/
structure InfoOrder where
  byName : Sorting fun a b : ContactReference => decide (a.handle < b.handle)
  byFqdn : Sorting fun a b : Host => decide (a.fqdn < b.fqdn)
  ipaddrLess : IpAddress → IpAddress → Bool
  byIpaddr : Sorting ipaddrLess
  byId : Sorting fun a b : Dnskey => decide (a.id < b.id)

/-- The object of a type that a row refers to; what is in force refers to live objects only. -/
def reference (live : Bool) (type : Db.ObjectType) (db : Database) (id : Nat) :
    Option RegistrableObjectReference :=
  match db.objectRegistry.lookup id with
  | some o => if o.type = type ∧ (live → o.erdate = none) then some ⟨o.id, o.name, o.uuid⟩ else none
  | none => none

/-- The rows that make up a domain. -/
structure DomainRows where
  domain : Db.Domain
  contacts : List DomainContactMap
  enumval : Option Enumval
  deriving DecidableEq

/-- The rows that make up an nsset, among addresses of hosts of all nssets. -/
structure NssetRows where
  nsset : Db.Nsset
  contacts : List NssetContactMap
  hosts : List Host
  ipaddrs : List HostIpaddrMap
  deriving DecidableEq

/-- The rows that make up a keyset. -/
structure KeysetRows where
  keyset : Db.Keyset
  contacts : List KeysetContactMap
  keys : List Dnskey
  deriving DecidableEq

/-- What the queries of objects of all types return of an object and its version; registrars are told
by their ids. -/
structure ObjectContents where
  id : Nat
  uuid : Uuid
  roid : String
  name : String
  historyid : Nat
  historyUuid : Uuid
  sponsoringRegistrarId : Nat
  creatingRegistrarId : Nat
  lastUpdatedByRegistrarId : Option Nat
  creationTime : Timestamp
  transferTime : Option Timestamp
  updateTime : Option Timestamp
  firstHistoryid : Option Nat
  logdRequestId : Option Nat
  deriving DecidableEq

/-- The columns of object_registry, of object or object_history, and of history. -/
def objectContents (obr : Db.ObjectRegistry) (obj : Db.Object) (h : Db.History) : ObjectContents where
  id := obr.id
  uuid := obr.uuid
  roid := obr.roid
  name := obr.name
  historyid := h.id
  historyUuid := h.uuid
  sponsoringRegistrarId := obj.clid
  creatingRegistrarId := obr.crid
  lastUpdatedByRegistrarId := obj.upid
  creationTime := obr.crdate
  transferTime := obj.trdate
  updateTime := obj.update
  firstHistoryid := obr.crhistoryid
  logdRequestId := h.requestId

/-- What InfoDomain returns. -/
structure DomainContents where
  object : ObjectContents
  registrant : ContactReference
  nsset : Option NssetReference
  keyset : Option KeysetReference
  expirationDate : Date
  adminContacts : List ContactReference
  enumDomainValidation : Option ENUMValidationExtension
  zone : ObjectIdHandlePair
  deriving DecidableEq

structure NssetContents where
  object : ObjectContents
  techCheckLevel : Int
  dnsHosts : List DnsHost
  techContacts : List ContactReference
  deriving DecidableEq

structure KeysetContents where
  object : ObjectContents
  dnsKeys : List DnsKey
  techContacts : List ContactReference
  deriving DecidableEq

variable (order : InfoOrder) (live : Bool) (db : ObjectDatabase)

/-- ORDER BY name of the contacts that rows link. -/
def contactsOf (ids : List Nat) : List ContactReference :=
  order.byName.sort (ids.filterMap (reference live .contact db.toDatabase))

/-- What is read of the validation of a domain; that of an ENUM domain must be there. -/
def readValidation (enumZone : Bool) (enumval : Option Enumval) :
    Option (Option ENUMValidationExtension) :=
  if enumZone then enumval.map fun ev => some ⟨.day ev.exdate, ev.publish⟩ else some none

/-- InfoDomain::exec; the registrant may be an object that was deleted. -/
def DomainRows.read (rows : DomainRows) (object : ObjectContents) : Option DomainContents := do
  let cor ← db.objectRegistry.lookup rows.domain.registrant
  let z ← db.zone.lookup rows.domain.zone
  let enumDomainValidation ← readValidation z.isEnum rows.enumval
  return {
    object := object
    registrant := ⟨cor.id, cor.name, cor.uuid⟩
    nsset := rows.domain.nsset.bind (reference live .nsset db.toDatabase)
    keyset := rows.domain.keyset.bind (reference live .keyset db.toDatabase)
    expirationDate := .day rows.domain.exdate
    adminContacts := contactsOf order live db
      ((rows.contacts.filter (·.role = 1)).map (·.contactid))
    enumDomainValidation := enumDomainValidation
    zone := ⟨z.id, String.ofList z.name⟩ }

/-- InfoNsset::exec. -/
def NssetRows.read (rows : NssetRows) (object : ObjectContents) : NssetContents where
  object := object
  techCheckLevel := rows.nsset.checklevel
  dnsHosts := (order.byFqdn.sort rows.hosts).map fun h =>
    ⟨h.fqdn, order.byIpaddr.sort ((rows.ipaddrs.filter (·.hostid = h.id)).map (·.ipaddr))⟩
  techContacts := contactsOf order live db (rows.contacts.map (·.contactid))

/-- InfoKeyset::exec. -/
def KeysetRows.read (rows : KeysetRows) (object : ObjectContents) : KeysetContents where
  object := object
  dnsKeys := (order.byId.sort rows.keys).map (·.dnsKey)
  techContacts := contactsOf order live db (rows.contacts.map (·.contactid))

section Current

variable (id : Nat)

/-- The joins of object_registry, object, history and registrar that the queries have in common. -/
def registered (type : Db.ObjectType) : Option ObjectContents := do
  let obr ← db.objectRegistry.lookup id
  let obj ← db.object.lookup id
  let h ← obr.historyid.bind db.history.lookup
  let _ ← db.registrar.lookup obj.clid
  let _ ← db.registrar.lookup obr.crid
  guard (obr.type = type ∧ obr.erdate = none)
  return objectContents obr obj h

def currentDomain : Option DomainRows := do
  let domain ← db.domain.lookup id
  return ⟨domain, db.domainContactMap.select (·.domainid = id), db.enumval.lookup id⟩

def currentNsset : Option NssetRows := do
  let nsset ← db.nsset.lookup id
  return ⟨nsset, db.nssetContactMap.select (·.nssetid = id), db.host.select (·.nssetid = id),
    db.hostIpaddrMap.rows⟩

def currentKeyset : Option KeysetRows := do
  let keyset ← db.keyset.lookup id
  return ⟨keyset, db.keysetContactMap.select (·.keysetid = id), db.dnskey.select (·.keysetid = id)⟩

/-- InfoDomainById::exec. -/
def infoDomainById : Option DomainContents := do
  let object ← registered db id .domain
  let rows ← currentDomain db id
  rows.read order true db object

/-- InfoNssetById::exec. -/
def infoNssetById : Option NssetContents := do
  let object ← registered db id .nsset
  let rows ← currentNsset db id
  return rows.read order true db object

/-- InfoKeysetById::exec. -/
def infoKeysetById : Option KeysetContents := do
  let object ← registered db id .keyset
  let rows ← currentKeyset db id
  return rows.read order true db object

end Current

section History

variable (historyId : Nat)

/-- The joins of object_registry, object_history, history and registrar that the queries have in
common; object_history has one row of a version at most. An object that was deleted has a history,
too. -/
def registeredVersion (type : Db.ObjectType) : Option ObjectContents :=
  match db.objectHistory.filter (·.historyid = historyId) with
  | [obj] => do
    let obr ← db.objectRegistry.lookup obj.row.id
    let h ← db.history.lookup historyId
    let _ ← db.registrar.lookup obj.row.clid
    let _ ← db.registrar.lookup obr.crid
    guard (obr.type = type)
    return objectContents obr obj.row h
  | _ => none

/-- The row of domain_history that has the version of the row of object_history, with what the version
has kept of the domain `id`. -/
def keptDomain (id : Nat) : Option DomainRows :=
  match db.domainHistory.select (·.historyid = historyId) with
  | [dt] =>
    let contacts := db.domainContactMapHistory.select fun dcm =>
      dcm.row.domainid = id ∧ dcm.historyid = historyId
    let ev := db.enumvalHistory.lookup (historyId, dt.row.id)
    some ⟨dt.row, contacts.map (·.row), ev.map (·.row)⟩
  | _ => none

def keptNsset (id : Nat) : Option NssetRows :=
  match db.nssetHistory.select (·.historyid = historyId) with
  | [nt] =>
    let contacts := db.nssetContactMapHistory.select fun ncm =>
      ncm.row.nssetid = id ∧ ncm.historyid = historyId
    let hosts := db.hostHistory.select fun h => h.row.nssetid = id ∧ h.historyid = historyId
    let ipaddrs := db.hostIpaddrMapHistory.select (·.historyid = historyId)
    some ⟨nt.row, contacts.map (·.row), hosts.map (·.row), ipaddrs.map (·.row)⟩
  | _ => none

def keptKeyset (id : Nat) : Option KeysetRows :=
  match db.keysetHistory.select (·.historyid = historyId) with
  | [kt] =>
    let contacts := db.keysetContactMapHistory.select fun kcm =>
      kcm.row.keysetid = id ∧ kcm.historyid = historyId
    let keys := db.dnskeyHistory.select fun k => k.row.keysetid = id ∧ k.historyid = historyId
    some ⟨kt.row, contacts.map (·.row), keys.map (·.row)⟩
  | _ => none

/-- InfoDomainHistoryByHistoryid::exec. -/
def infoDomainHistoryByHistoryid : Option DomainContents := do
  let object ← registeredVersion db historyId .domain
  let rows ← keptDomain db historyId object.id
  rows.read order false db object

/-- InfoNssetHistoryByHistoryid::exec. -/
def infoNssetHistoryByHistoryid : Option NssetContents := do
  let object ← registeredVersion db historyId .nsset
  let rows ← keptNsset db historyId object.id
  return rows.read order false db object

/-- InfoKeysetHistoryByHistoryid::exec. -/
def infoKeysetHistoryByHistoryid : Option KeysetContents := do
  let object ← registeredVersion db historyId .keyset
  let rows ← keptKeyset db historyId object.id
  return rows.read order false db object

end History

end LibFred.RegistrableObject
