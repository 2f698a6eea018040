import LibFred.Db.Schema
import LibFred.RegistrableObject.Keyset.DnsKey
import LibFred.Sql.Moves
import LibFred.Zone.Zone

/-! Tables of the objects that contacts are linked to: domains, nssets and keysets. -/
namespace LibFred.Db

open Sql
open LibFred.RegistrableObject.Keyset (DnsKey)

/-- Dates are days. -/
structure Domain where
  id : Nat
  zone : Nat
  registrant : Nat
  nsset : Option Nat
  exdate : Int
  keyset : Option Nat
  deriving DecidableEq

/-- Administrators have the role 1, which is the default. -/
structure DomainContactMap where
  domainid : Nat
  contactid : Nat
  role : Nat
  deriving DecidableEq

structure Enumval where
  domainid : Nat
  exdate : Int
  publish : Bool
  deriving DecidableEq

structure Nsset where
  id : Nat
  checklevel : Int
  deriving DecidableEq

structure NssetContactMap where
  nssetid : Nat
  contactid : Nat
  deriving DecidableEq

structure Host where
  id : Nat
  nssetid : Nat
  fqdn : String
  deriving DecidableEq

structure HostIpaddrMap where
  id : Nat
  hostid : Nat
  nssetid : Nat
  ipaddr : IpAddress
  deriving DecidableEq

structure Keyset where
  id : Nat
  deriving DecidableEq

structure KeysetContactMap where
  keysetid : Nat
  contactid : Nat
  deriving DecidableEq

structure Dnskey where
  id : Nat
  keysetid : Nat
  dnsKey : DnsKey
  deriving DecidableEq

structure Dsrecord where
  id : Nat
  keysetid : Nat
  keytag : Int
  alg : Int
  digesttype : Int
  digest : String
  maxsiglife : Option Int
  deriving DecidableEq

instance keyedZone : Keyed Zone.Data Nat := ⟨Zone.Data.id⟩
instance : Keyed Domain Nat := ⟨Domain.id⟩
instance : Keyed DomainContactMap (Nat × Nat) := ⟨fun m => (m.domainid, m.contactid)⟩
instance : Keyed Enumval Nat := ⟨Enumval.domainid⟩
instance : Keyed Nsset Nat := ⟨Nsset.id⟩
instance : Keyed NssetContactMap (Nat × Nat) := ⟨fun m => (m.nssetid, m.contactid)⟩
instance : Keyed Host Nat := ⟨Host.id⟩
instance : Keyed HostIpaddrMap Nat := ⟨HostIpaddrMap.id⟩
instance : Keyed Keyset Nat := ⟨Keyset.id⟩
instance : Keyed KeysetContactMap (Nat × Nat) := ⟨fun m => (m.keysetid, m.contactid)⟩
instance : Keyed Dnskey Nat := ⟨Dnskey.id⟩
instance : Keyed Dsrecord Nat := ⟨Dsrecord.id⟩

structure ObjectDatabase extends Database where
  zone : Table Zone.Data
  domain : Table Domain
  domainContactMap : Table DomainContactMap
  enumval : Table Enumval
  nsset : Table Nsset
  nssetContactMap : Table NssetContactMap
  host : Table Host
  hostSeq : Nat
  hostIpaddrMap : Table HostIpaddrMap
  hostIpaddrMapSeq : Nat
  keyset : Table Keyset
  keysetContactMap : Table KeysetContactMap
  dnskey : Table Dnskey
  dnskeySeq : Nat
  dsrecord : Table Dsrecord
  domainHistory : Table (Historical Domain)
  domainContactMapHistory : Table (Historical DomainContactMap)
  enumvalHistory : Table (Historical Enumval)
  nssetHistory : Table (Historical Nsset)
  hostHistory : Table (Historical Host)
  hostIpaddrMapHistory : Table (Historical HostIpaddrMap)
  nssetContactMapHistory : Table (Historical NssetContactMap)
  keysetHistory : Table (Historical Keyset)
  dsrecordHistory : Table (Historical Dsrecord)
  dnskeyHistory : Table (Historical Dnskey)
  keysetContactMapHistory : Table (Historical KeysetContactMap)

/-- No domains, nssets or keysets yet. -/
def ObjectDatabase.ofDatabase (db : Database) : ObjectDatabase where
  toDatabase := db
  zone := ∅
  domain := ∅
  domainContactMap := ∅
  enumval := ∅
  nsset := ∅
  nssetContactMap := ∅
  host := ∅
  hostSeq := 1
  hostIpaddrMap := ∅
  hostIpaddrMapSeq := 1
  keyset := ∅
  keysetContactMap := ∅
  dnskey := ∅
  dnskeySeq := 1
  dsrecord := ∅
  domainHistory := ∅
  domainContactMapHistory := ∅
  enumvalHistory := ∅
  nssetHistory := ∅
  hostHistory := ∅
  hostIpaddrMapHistory := ∅
  nssetContactMapHistory := ∅
  keysetHistory := ∅
  dsrecordHistory := ∅
  dnskeyHistory := ∅
  keysetContactMapHistory := ∅

/-- What UpdateDomain reports. -/
structure DomainException where
  unknownDomainFqdn : Option String := none
  unknownRegistrarHandle : Option String := none
  unknownNssetHandle : Option String := none
  unknownKeysetHandle : Option String := none
  unknownRegistrantHandle : Option String := none
  unknownAdminContactHandle : List String := []
  alreadySetAdminContactHandle : List String := []
  unassignedAdminContactHandle : List String := []
  invalidExpirationDate : Option Date := none
  invalidEnumValidationExpirationDate : Option Date := none
  deriving DecidableEq

/-- What UpdateNsset reports. -/
structure NssetException where
  unknownNssetHandle : Option String := none
  unknownRegistrarHandle : Option String := none
  unknownTechnicalContactHandle : List String := []
  alreadySetTechnicalContactHandle : List String := []
  unassignedTechnicalContactHandle : List String := []
  alreadySetDnsHost : List String := []
  unassignedDnsHost : List String := []
  invalidDnsHostIpaddr : List IpAddress := []
  deriving DecidableEq

/-- What UpdateKeyset reports. -/
structure KeysetException where
  unknownKeysetHandle : Option String := none
  unknownRegistrarHandle : Option String := none
  unknownTechnicalContactHandle : List String := []
  alreadySetTechnicalContactHandle : List String := []
  unassignedTechnicalContactHandle : List String := []
  alreadySetDnsKey : List DnsKey := []
  unassignedDnsKey : List DnsKey := []
  deriving DecidableEq

inductive ObjectException
  | database (e : Exception)
  | domain (e : DomainException)
  | nsset (e : NssetException)
  | keyset (e : KeysetException)
  | objectLinkedToContactHandle (handle : String)
  deriving DecidableEq

/-- Statements on all tables. -/
abbrev ObjectExec := EStateM ObjectException ObjectDatabase

/-- Statements that concern the tables of `Database` only. -/
def lift {α : Type} (x : Exec α) : ObjectExec α := fun db =>
  match x.run db.toDatabase with
  | .ok a db' => .ok a { db with toDatabase := db' }
  | .error e db' => .error (.database e) { db with toDatabase := db' }

variable {α : Type} {x : Exec α} {a : α} {db db' : ObjectDatabase}

theorem run_lift_eq_ok :
    (lift x).run db = .ok a db' ↔
      ∃ d, x.run db.toDatabase = .ok a d ∧ db' = { db with toDatabase := d } := by
  simp only [lift, EStateM.run]
  cases x db.toDatabase with
  | ok b d =>
    constructor
    · intro h
      obtain ⟨rfl, rfl⟩ := EStateM.Result.ok.inj h
      exact ⟨d, rfl, rfl⟩
    · rintro ⟨d', hd, rfl⟩
      obtain ⟨rfl, rfl⟩ := EStateM.Result.ok.inj hd
      rfl
  | error e d =>
    constructor
    · intro h
      cases h
    · rintro ⟨d', hd, -⟩
      cases hd

theorem run_lift_eq_error {e : ObjectException} :
    (lift x).run db = .error e db' ↔
      ∃ e' d, x.run db.toDatabase = .error e' d ∧ e = .database e' ∧
        db' = { db with toDatabase := d } := by
  simp only [lift, EStateM.run]
  cases x db.toDatabase with
  | ok b d =>
    constructor
    · intro h
      cases h
    · rintro ⟨e', d', hd, -⟩
      cases hd
  | error e₁ d =>
    constructor
    · intro h
      obtain ⟨rfl, rfl⟩ := EStateM.Result.error.inj h
      exact ⟨e₁, d, rfl, rfl, rfl⟩
    · rintro ⟨e', d', hd, rfl, rfl⟩
      obtain ⟨rfl, rfl⟩ := EStateM.Result.error.inj hd
      rfl

theorem moves_lift {R : ObjectDatabase → ObjectDatabase → Prop} {S : Database → Database → Prop}
    (hx : Moves S x) (hR : ∀ db d, S db.toDatabase d → R db { db with toDatabase := d }) :
    Moves R (lift x) := by
  intro db
  constructor
  · intro a db' h
    obtain ⟨d, hd, rfl⟩ := run_lift_eq_ok.mp h
    exact hR db d (hx.ok hd)
  · intro e db' h
    obtain ⟨e', d, hd, -, rfl⟩ := run_lift_eq_error.mp h
    exact hR db d (hx.error hd)

theorem readOnly_lift (hx : ReadOnly x) : ReadOnly (lift x) := by
  intro db
  rcases hx db.toDatabase with ⟨a, ha⟩ | ⟨e, he⟩
  · exact .inl ⟨a, run_lift_eq_ok.mpr ⟨_, ha, rfl⟩⟩
  · exact .inr ⟨.database e, run_lift_eq_error.mpr ⟨e, _, he, rfl, rfl⟩⟩

/-- ROLLBACK TO a savepoint at which the database was `saved`; what sequences gave out is not
given out again. -/
def ObjectDatabase.rollbackTo (saved db : ObjectDatabase) : ObjectDatabase :=
  { saved with
    historySeq := db.historySeq
    objectAuthinfoSeq := db.objectAuthinfoSeq
    requests := { saved.requests with idSeq := db.requests.idSeq }
    hostSeq := db.hostSeq
    hostIpaddrMapSeq := db.hostIpaddrMapSeq
    dnskeySeq := db.dnskeySeq }

/-- INSERT ... SELECT of rows into the history of their table; the number of the rows. -/
def copyToHistory {ρ κ : Type} [Keyed ρ κ] [DecidableEq κ]
    (history : ObjectDatabase → Table (Historical ρ))
    (setHistory : ObjectDatabase → Table (Historical ρ) → ObjectDatabase)
    (rows : ObjectDatabase → List ρ) (historyId : Nat) : ObjectExec Nat := fun db =>
  match (history db).insertAll? ((rows db).map (⟨historyId, ·⟩)) with
  | some t => .ok (rows db).length (setHistory db t)
  | none => .error (.database .sqlError) db

/-- The names of the states that the database derives from the data of objects; the others are
set by requests. -/
def derivedStates : List String :=
  ["expired", "unguarded", "expirationWarning", "outzoneUnguardedWarning", "validationWarning1",
    "validationWarning2", "notValidated", "nssetMissing", "outzone", "linked", "deleteCandidate",
    "outzoneUnguarded", "deleteWarning"]

/-- The procedures of the database that keep the states of objects: those that triggers call
after changes of objects and links, and update_object_states. -/
structure StateProcedures where
  triggered : ObjectDatabase → Table ObjectState
  updateObjectStates : ObjectDatabase → Nat → Table ObjectState
  triggered_derived : ∀ (db : ObjectDatabase) objectId, ∀ state ∉ derivedStates,
    state ∈ getObjectStates { db.toDatabase with objectState := triggered db } objectId ↔
      state ∈ getObjectStates db.toDatabase objectId

/-- Ends a statement that changes objects or links. -/
def StateProcedures.fire (procedures : StateProcedures) (db : ObjectDatabase) : ObjectDatabase :=
  { db with objectState := procedures.triggered db }

end LibFred.Db
