import LibFred.RegistrableObject.Contact.MergeChanges
import LibFred.RegistrableObject.Domain.DomainLife
import LibFred.RegistrableObject.Keyset.KeysetLife
import LibFred.RegistrableObject.Nsset.NssetLife
import LibFred.RegistrableObject.RegistryRecords

/-! Runs of all operations on the registry, and what holds in every state that they reach. -/
namespace LibFred.RegistrableObject

open Sql
open LibFred.Db
open Relation (ReflTransGen)
open LibFred.Object (Prepares StoreAuthinfo checkAuthinfo cleanAuthinfo cleanExpiredAuthinfos
  copyAuthinfos incrementUsage incrementUsageAndCancel)
open LibFred.RegistrableObject.Contact (CopyContact CreateContact MergeContact MergeSettings
  TransferContact UpdateContact deleteContactByHandle deleteContactById updateContactByHandle
  updateContactById)
open LibFred.RegistrableObject.Domain (CreateDomain CreateDomainSettings NameChecker RenewDomain
  TransferDomain UpdateDomain ZoneChecker deleteDomainByFqdn deleteDomainById)
open LibFred.RegistrableObject.Keyset (CreateKeyset TransferKeyset UpdateKeyset
  deleteKeysetByHandle deleteKeysetById)
open LibFred.RegistrableObject.Nsset (CreateNsset CreateNssetSettings TransferNsset UpdateNsset
  deleteNssetByHandle deleteNssetById)

/-- All that the operations depend on outside of the code. -/
structure RegistrySettings extends MergeSettings, CreateDomainSettings, CreateNssetSettings where
  mergeOrder : Contact.RowOrder
  infoOrder : InfoOrder

/-- The operations, with their arguments; the creation of a domain reads the checkers of its zone. -/
inductive Command
  | createContact (op : CreateContact)
  | createDomain (nameCheckers : List NameChecker) (zoneCheckers : List ZoneChecker) (op : CreateDomain)
  | createNsset (op : CreateNsset)
  | createKeyset (op : CreateKeyset)
  | copyContact (op : CopyContact)
  | mergeContact (op : MergeContact)
  | updateContactByHandle (handle : String) (op : UpdateContact)
  | updateContactById (id : Nat) (op : UpdateContact)
  | updateDomain (op : UpdateDomain)
  | updateNsset (op : UpdateNsset)
  | updateKeyset (op : UpdateKeyset)
  | renewDomain (op : RenewDomain)
  | transferContact (op : TransferContact)
  | transferDomain (op : TransferDomain)
  | transferNsset (op : TransferNsset)
  | transferKeyset (op : TransferKeyset)
  | deleteContactByHandle (handle : String)
  | deleteContactById (id : Nat)
  | deleteDomainByFqdn (fqdn : String)
  | deleteDomainById (id : Nat)
  | deleteNssetByHandle (handle : String)
  | deleteNssetById (id : Nat)
  | deleteKeysetByHandle (handle : String)
  | deleteKeysetById (id : Nat)
  | storeAuthinfo (op : StoreAuthinfo) (salt plaintext : String)
  | checkAuthinfo (objectId : Nat) (plaintext : String) (cancel : Bool)
  | cleanAuthinfo (objectId : Nat)
  | cleanExpiredAuthinfos
  | copyAuthinfos (srcId dstId : Nat)

/-- The state in which statements succeed. -/
def committed {ε σ α : Type} (x : EStateM ε σ α) (s : σ) : Option σ :=
  match x.run s with
  | .ok _ s' => some s'
  | .error _ _ => none

theorem committed_eq_some {ε σ α : Type} {x : EStateM ε σ α} {s s' : σ} :
    committed x s = some s' ↔ ∃ a, x.run s = .ok a s' := by
  unfold committed
  cases x.run s with
  | ok a t => simp
  | error e t => simp

variable (settings : RegistrySettings)

/-- The state in which an operation succeeds. -/
def Command.run (db : ObjectDatabase) : Command → Option ObjectDatabase
  | createContact op => committed (lift (op.exec settings.procedure settings.localTime)) db
  | createDomain nameCheckers zoneCheckers op =>
    committed (op.exec { settings.toCreateDomainSettings with nameCheckers, zoneCheckers }) db
  | createNsset op => committed (op.exec settings.toCreateNssetSettings) db
  | createKeyset op => committed (op.exec settings.toCreateSettings) db
  | copyContact op => committed (lift (op.exec settings.procedure)) db
  | mergeContact op => committed (op.exec settings.toMergeSettings settings.mergeOrder) db
  | updateContactByHandle handle op =>
    committed (lift (Contact.updateContactByHandle settings.authinfo handle op)) db
  | updateContactById id op => committed (lift (Contact.updateContactById settings.authinfo id op)) db
  | updateDomain op => committed (op.exec settings.toUpdateSettings) db
  | updateNsset op => committed (op.exec settings.toUpdateSettings) db
  | updateKeyset op => committed (op.exec settings.toUpdateSettings) db
  | renewDomain op => committed (op.exec settings.toUpdateSettings) db
  | transferContact op => committed (op.exec settings.authinfo.storage settings.localTime) db
  | transferDomain op =>
    committed (op.exec settings.infoOrder settings.authinfo.storage settings.localTime) db
  | transferNsset op =>
    committed (op.exec settings.infoOrder settings.authinfo.storage settings.localTime) db
  | transferKeyset op =>
    committed (op.exec settings.infoOrder settings.authinfo.storage settings.localTime) db
  | deleteContactByHandle handle => committed (Contact.deleteContactByHandle handle) db
  | deleteContactById id => committed (Contact.deleteContactById id) db
  | deleteDomainByFqdn fqdn => committed (Domain.deleteDomainByFqdn settings.procedures fqdn) db
  | deleteDomainById id => committed (Domain.deleteDomainById settings.procedures id) db
  | deleteNssetByHandle handle => committed (Nsset.deleteNssetByHandle settings.procedures handle) db
  | deleteNssetById id => committed (Nsset.deleteNssetById settings.procedures id) db
  | deleteKeysetByHandle handle => committed (Keyset.deleteKeysetByHandle settings.procedures handle) db
  | deleteKeysetById id => committed (Keyset.deleteKeysetById settings.procedures id) db
  | storeAuthinfo op salt plaintext =>
    committed (lift (op.exec settings.authinfo.storage salt plaintext)) db
  | checkAuthinfo objectId plaintext cancel =>
    committed (lift (Object.checkAuthinfo settings.authinfo.storage objectId plaintext
      (if cancel then incrementUsageAndCancel else incrementUsage))) db
  | cleanAuthinfo objectId => committed (lift (Object.cleanAuthinfo objectId)) db
  | cleanExpiredAuthinfos => committed (lift Object.cleanExpiredAuthinfos) db
  | copyAuthinfos srcId dstId => committed (lift (Object.copyAuthinfos srcId dstId)) db

/-- What happens to the registry: operations, of which a failed one leaves numbers unused, requests
for states of objects, and what is done to registrars and zones, none of which is deleted. -/
inductive Step (db : ObjectDatabase) : ObjectDatabase → Prop
  | operation (c : Command) {db' : ObjectDatabase} (h : c.run settings db = some db') : Step db db'
  | fails {s : ObjectDatabase} (hseq : db.historySeq ≤ s.historySeq) : Step db (db.rollbackTo s)
  | states (requests : ObjectState.Requests Timestamp) {os : Table Db.ObjectState}
      (hos : os = db.objectState ∨ ∃ objectId, os = settings.procedures.updateObjectStates
        { db with toDatabase := { db.toDatabase with requests := requests } } objectId) :
      Step db { db with toDatabase := { db.toDatabase with requests := requests, objectState := os } }
  | elsewhere (now : Timestamp) {registrar : Table Registrar} {zone : Table Zone.Data}
      (hregistrar : ∀ id, (db.registrar.lookup id).isSome → (registrar.lookup id).isSome)
      (hzone : KeepsZones db.zone zone) :
      Step db { db with
        toDatabase := { db.toDatabase with now := now, registrar := registrar }, zone := zone }

def Runs : ObjectDatabase → ObjectDatabase → Prop := ReflTransGen (Step settings)

/-- A registry that nothing has been registered in. -/
structure Unused (db : ObjectDatabase) : Prop where
  registry : db.objectRegistry.rows = []
  objects : db.object.rows = []
  objectHistory : db.objectHistory = []
  contacts : db.contact.rows = []
  tables : ∀ part : Part, part.table db = []
  history : ∀ part : Part, part.history db = []
  linkedState : HasLinkedState db

/-- The states that the registry may be in. -/
def Reachable (db : ObjectDatabase) : Prop := ∃ db₀, Unused db₀ ∧ Runs settings db₀ db

variable {settings : RegistrySettings} {db db' db₀ : ObjectDatabase} {type : Db.ObjectType} {id : Nat}

section Start

theorem Unused.not_mem (h : Unused db) (part : Part) {r : part.Row} : r ∉ part.table db := by
  rw [h.tables]
  exact List.not_mem_nil

theorem Unused.not_registered (h : Unused db) {o : Db.ObjectRegistry} : o ∉ db.objectRegistry := by
  rw [← Table.mem_rows, h.registry]
  exact List.not_mem_nil

theorem Unused.not_live (h : Unused db) : ¬ Live db.toDatabase type id := by
  rintro ⟨o, ho, -⟩
  exact h.not_registered (Table.lookup_eq_some.mp ho).1

theorem Unused.not_linked (h : Unused db) : ¬ Linked db type id := by
  intro hlinked
  cases type with
  | contact =>
    rcases hlinked with ⟨d, hd, -⟩ | ⟨m, hm, -⟩ | ⟨m, hm, -⟩ | ⟨m, hm, -⟩
    · exact h.not_mem .domain hd
    · exact h.not_mem .domainContactMap hm
    · exact h.not_mem .nssetContactMap hm
    · exact h.not_mem .keysetContactMap hm
  | domain => exact hlinked
  | nsset =>
    obtain ⟨d, hd, -⟩ := hlinked
    exact h.not_mem .domain hd
  | keyset =>
    obtain ⟨d, hd, -⟩ := hlinked
    exact h.not_mem .domain hd

theorem Unused.no_rows (h : Unused db) : ¬ HasRow db type id := by
  have hnone {ρ : Type} [Keyed ρ Nat] {t : Table ρ} (ht : t.rows = []) : ¬ (t.lookup id).isSome := by
    rw [Contact.isSome_lookup_eq, ht]
    simp
  cases type with
  | contact => exact hnone h.contacts
  | domain => exact hnone (h.tables .domain)
  | nsset => exact hnone (h.tables .nsset)
  | keyset => exact hnone (h.tables .keyset)

theorem Unused.grounded (h : Unused db) : Grounded db where
  rows _ _ hrow := absurd hrow h.no_rows
  hosts _ hip := absurd hip (h.not_mem .hostIpaddrMap)

theorem Unused.consistent (h : Unused db) : Consistent db where
  toGrounded := h.grounded
  owners part _ hmem := absurd hmem (h.not_mem part)
  linked _ _ hlinked := absurd hlinked h.not_linked
  linkedState := h.linkedState
  marked _ _ hlinked := absurd hlinked h.not_linked
  present _ _ hlive := absurd hlive h.not_live
  registration :=
    { uniqueNames := fun _ ho => absurd ho h.not_registered
      found := fun _ ho => absurd ho h.not_registered
      versions := fun _ ho => absurd ho h.not_registered
      creators := fun _ ho => absurd ho h.not_registered
      objects := fun _ _ hlive => absurd hlive h.not_live
      sponsors := fun o ho => by
        rw [← Table.mem_rows, h.objects] at ho
        cases ho }
  zones _ := zoneReadable_of_no_row h.no_rows

theorem Unused.versions (h : Unused db) : versions.Complete db ∧ versions.Blank db := by
  refine ⟨fun id d hd => ?_, fun v _ => congrArg₂ ObjectRows.mk ?_ (funext fun part => ?_)⟩
  · obtain ⟨o, ho, -⟩ := Option.map_eq_some_iff.mp hd
    obtain ⟨hmem, -⟩ := Table.lookup_eq_some.mp (Option.filter_eq_some_iff.mp ho).1
    exact absurd hmem h.not_registered
  · simp [keptObject, h.objectHistory]
  · simp [Part.kept, h.history]

end Start

section Runs

theorem changes_of_committed {ε α : Type} {x : EStateM ε ObjectDatabase α}
    {procedures : StateProcedures} (h : committed x db = some db')
    (hx : ∀ {a}, x.run db = .ok a db' → Change procedures db db') : Changes procedures db db' := by
  obtain ⟨a, hrun⟩ := committed_eq_some.mp h
  exact (hx hrun).changes

theorem changes_of_lift {α : Type} {x : Exec α} {procedures : StateProcedures}
    (h : committed (lift x) db = some db')
    (hx : ∀ {a d}, x.run db.toDatabase = .ok a d → Change procedures db { db with toDatabase := d }) :
    Changes procedures db db' := by
  refine changes_of_committed h fun hrun => ?_
  obtain ⟨d, hd, rfl⟩ := run_lift_eq_ok.mp hrun
  exact hx hd

/-- Operations on passwords. -/
theorem changes_of_moves {α : Type} {x : Exec α} {procedures : StateProcedures} (hx : Moves (Prepares ∅) x)
    (h : committed (lift x) db = some db') : Changes procedures db db' :=
  changes_of_lift h fun hrun => .passwords (hx.ok hrun)

theorem Command.changes {c : Command} (hg : Grounded db) (h : c.run settings db = some db') :
    Changes settings.procedures db db' := by
  cases c with
  | createContact op => exact changes_of_lift h fun hrun => Contact.createContact_change hrun
  | createDomain nameCheckers zoneCheckers op =>
    exact changes_of_committed h fun hrun => Domain.createDomain_change hrun
  | createNsset op => exact changes_of_committed h fun hrun => Nsset.createNsset_change hrun
  | createKeyset op => exact changes_of_committed h fun hrun => Keyset.createKeyset_change hrun
  | copyContact op =>
    obtain ⟨_, hlift⟩ := committed_eq_some.mp h
    obtain ⟨d, hd, rfl⟩ := run_lift_eq_ok.mp hlift
    obtain ⟨d', hcreated, hpasswords⟩ := Contact.copyContact_changes hd
    exact trans_of _ hcreated.changes hpasswords.changes
  | mergeContact op =>
    obtain ⟨_, hrun⟩ := committed_eq_some.mp h
    exact Contact.mergeContact_changes hrun
  | updateContactByHandle handle op => exact changes_of_lift h fun hrun => Contact.updateContactByHandle_change hrun
  | updateContactById id op => exact changes_of_lift h fun hrun => Contact.updateContactById_change hrun
  | updateDomain op => exact changes_of_committed h fun hrun => updateDomain_change hrun
  | updateNsset op => exact changes_of_committed h fun hrun => updateNsset_change hrun
  | updateKeyset op => exact changes_of_committed h fun hrun => updateKeyset_change hrun
  | renewDomain op => exact changes_of_committed h fun hrun => Domain.renewDomain_change hrun
  | transferContact op => exact changes_of_committed h fun hrun => Contact.transferContact_change hg hrun
  | transferDomain op => exact changes_of_committed h fun hrun => Domain.transferDomain_change hrun
  | transferNsset op => exact changes_of_committed h fun hrun => Nsset.transferNsset_change hrun
  | transferKeyset op => exact changes_of_committed h fun hrun => Keyset.transferKeyset_change hrun
  | deleteContactByHandle handle => exact changes_of_committed h fun hrun => Contact.deleteContactByHandle_change hrun
  | deleteContactById id => exact changes_of_committed h fun hrun => Contact.deleteContactById_change hrun
  | deleteDomainByFqdn fqdn => exact changes_of_committed h fun hrun => Domain.deleteDomainByFqdn_change hrun
  | deleteDomainById id => exact changes_of_committed h fun hrun => Domain.deleteDomainById_change hrun
  | deleteNssetByHandle handle => exact changes_of_committed h fun hrun => Nsset.deleteNssetByHandle_change hrun
  | deleteNssetById id => exact changes_of_committed h fun hrun => Nsset.deleteNssetById_change hrun
  | deleteKeysetByHandle handle => exact changes_of_committed h fun hrun => Keyset.deleteKeysetByHandle_change hrun
  | deleteKeysetById id => exact changes_of_committed h fun hrun => Keyset.deleteKeysetById_change hrun
  | storeAuthinfo op salt plaintext => exact changes_of_moves Object.moves_prepares_storeAuthinfo h
  | checkAuthinfo objectId plaintext cancel =>
    refine changes_of_moves (Object.moves_checkAuthinfo fun id => ?_) h
    split
    · exact Object.moves_prepares_incrementUsageAndCancel id
    · exact Object.moves_prepares_incrementUsage id
  | cleanAuthinfo objectId =>
    have hclean : Moves (Prepares ∅) (Object.cleanAuthinfo objectId) :=
      moves_bind Object.moves_prepares_updateAuthinfo fun _ => readOnly_pure.moves
    exact changes_of_moves hclean h
  | cleanExpiredAuthinfos =>
    have hclean : Moves (Prepares ∅) Object.cleanExpiredAuthinfos :=
      moves_bind Object.moves_prepares_updateAuthinfo fun _ => readOnly_pure.moves
    exact changes_of_moves hclean h
  | copyAuthinfos srcId dstId => exact changes_of_moves Object.moves_prepares_insertAuthinfos h

theorem Step.changes (hg : Grounded db) (h : Step settings db db') : Changes settings.procedures db db' := by
  cases h with
  | operation c h => exact c.changes hg h
  | fails hseq => exact (Change.rollback hseq).changes
  | states requests hos => exact (Change.states requests hos).changes
  | elsewhere now hregistrar hzone => exact (Change.elsewhere now hregistrar hzone).changes

theorem Runs.changes (hg : Grounded db) (h : Runs settings db db') : Changes settings.procedures db db' := by
  induction h with
  | refl => exact refl_of _ db
  | tail _ hstep ih => exact trans_of _ ih (hstep.changes (ih.records hg).2)

end Runs

section Reached

/-- In every state that the registry reaches its tables agree: objects are found under names of their
own, have their rows and registrars, and all that these rows refer to is live and marked as linked. -/
theorem reachable_consistent (settings : RegistrySettings) (hmarks : MarksLinked settings.procedures)
    (db : ObjectDatabase) (h : Reachable settings db) : Consistent db := by
  obtain ⟨db₀, hunused, hruns⟩ := h
  exact (hruns.changes hunused.grounded).consistent hmarks hunused.consistent

theorem Reachable.versions (h : Reachable settings db) :
    Grounded db ∧ versions.Complete db ∧ versions.Blank db := by
  obtain ⟨db₀, hunused, hruns⟩ := h
  obtain ⟨hrecords, hg⟩ := (hruns.changes hunused.grounded).records hunused.grounded
  obtain ⟨hcomplete, hblank⟩ := hunused.versions
  exact ⟨hg, hcomplete.records (hrecords hblank), (hrecords hblank).keeps_blank hblank⟩

/-- Whatever a domain, an nsset or a keyset was, its version keeps it for good: its row in the table of
objects and all its rows in all tables about its type, and nothing else. -/
theorem versions_keep_objects (settings : RegistrySettings) (db db' : ObjectDatabase)
    (h : Reachable settings db) (hruns : Runs settings db db') (type : Db.ObjectType) (id : Nat)
    (htype : type ≠ .contact) (hlive : Live db.toDatabase type id) :
    ∃ historyId, (db.objectRegistry.lookup id).bind (·.historyid) = some historyId ∧
      keptObject db' historyId = (db.object.lookup id).toList ∧
      ∀ part : Part, part.kept db' historyId = part.rowsOf db type id := by
  obtain ⟨hg, hcomplete, hblank⟩ := h.versions
  obtain ⟨o, ho, rfl, herdate⟩ := hlive
  obtain ⟨v, hversion, hkept⟩ := hcomplete.past (((hruns.changes hg).records hg).1 hblank)
    (current_of_live ho ⟨htype, herdate⟩)
  exact ⟨v, hversion, congrArg ObjectRows.object hkept,
    fun part => congrFun (congrArg ObjectRows.parts hkept) part⟩

/-- In every state that the registry reaches each object that is live can be read, and no other. -/
theorem live_objects_readable (settings : RegistrySettings) (hmarks : MarksLinked settings.procedures)
    (order : InfoOrder) (localTime : Timestamp → Ptime) (db : ObjectDatabase) (h : Reachable settings db)
    (id : Nat) :
    ((∃ info, (Contact.infoContactById localTime id).run db.toDatabase = .ok info db.toDatabase) ↔
      Live db.toDatabase .contact id) ∧
    ((infoDomainById order db id).isSome ↔ Live db.toDatabase .domain id) ∧
    ((infoNssetById order db id).isSome ↔ Live db.toDatabase .nsset id) ∧
    ((infoKeysetById order db id).isSome ↔ Live db.toDatabase .keyset id) := by
  have hc := reachable_consistent settings hmarks db h
  exact ⟨infoContactById_iff hc, infoDomainById_isSome hc, infoNssetById_isSome hc, infoKeysetById_isSome hc⟩

/-- What is registered stays what it is, under an id that no other object is ever given, and what is
deleted stays as it was deleted. -/
theorem registered_for_good (settings : RegistrySettings) (db db' : ObjectDatabase)
    (h : Reachable settings db) (hruns : Runs settings db db') (id : Nat) (o : Db.ObjectRegistry)
    (ho : db.objectRegistry.lookup id = some o) :
    ∃ o', db'.objectRegistry.lookup id = some o' ∧
      o' = { o with erdate := o'.erdate, historyid := o'.historyid } ∧ (o.erdate ≠ none → o' = o) := by
  obtain ⟨hg, -⟩ := h.versions
  exact (hruns.changes hg).persists.registered id o ho

end Reached

section Example

/-- The state after operations that all succeed. -/
def runAll (settings : RegistrySettings) : ObjectDatabase → List Command → Option ObjectDatabase
  | db, [] => some db
  | db, c :: commands => (c.run settings db).bind fun db' => runAll settings db' commands

theorem runs_of_runAll {commands : List Command} (h : runAll settings db commands = some db') :
    Runs settings db db' := by
  induction commands generalizing db with
  | nil =>
    obtain rfl := Option.some.inj h
    exact .refl
  | cons c commands ih =>
    obtain ⟨s, hs, h⟩ := Option.bind_eq_some_iff.mp h
    exact .head (.operation c hs) (ih h)

def exampleInfoOrder : InfoOrder where
  byName := .byKey RegistrableObjectReference.handle
  byFqdn := .byKey Host.fqdn
  ipaddrLess _ _ := false
  byIpaddr := Domain.storedOrder IpAddress
  byId := .byKey Dnskey.id

/-- A registry that marks what is linked. -/
def exampleSettings : RegistrySettings where
  authinfo := ⟨Object.plaintextStorage, "", 14⟩
  procedures := markingProcedures
  newAuthinfo := "changed"
  procedure := .sequential
  localTime := Contact.utc
  nameCheckers := []
  zoneCheckers := []
  longestFirst := Zone.stableOrder
  rowOrder := Domain.storedOrder String
  isSystemRegistrar _ := false
  addMonths _ months := months
  defaultPublish := false
  defaultChecklevel := 3
  mergeOrder := Contact.tableOrder
  infoOrder := exampleInfoOrder

def unusedDb : ObjectDatabase :=
  { ObjectDatabase.ofDatabase { Database.empty with
      now := 50
      registrar := ⟨[⟨1, "REG"⟩], by decide⟩
      enumObjectStates := ⟨[⟨16, "linked", [], false⟩], by decide⟩ } with
    zone := ⟨[⟨5, false, ['c', 'z'], 1, 12, 120, 0⟩], by decide⟩ }

theorem unused_unusedDb : Unused unusedDb where
  registry := rfl
  objects := rfl
  objectHistory := rfl
  contacts := rfl
  tables part := by cases part <;> rfl
  history part := by cases part <;> rfl
  linkedState := ⟨⟨16, "linked", [], false⟩, List.mem_singleton_self _, rfl⟩

def contactOf (handle : String) : CreateContact :=
  ⟨handle, "REG", none, none, none, none, none, none, none, none, none, none, none, none, none, none,
    none, none, none, none, none, none, none, none⟩

/-- A domain with an nsset is registered for a contact. -/
def registrations : List Command :=
  [.createContact (contactOf "HOLDER"), .createNsset { handle := "NSSET", registrar := "REG" },
    .createDomain [] []
      { fqdn := "one.cz", registrar := "REG", registrant := "HOLDER", nsset := some (some "NSSET") }]

def registeredDb : ObjectDatabase := (runAll exampleSettings unusedDb registrations).getD unusedDb

def deletedDb : ObjectDatabase :=
  (runAll exampleSettings registeredDb [.deleteDomainByFqdn "one.cz"]).getD registeredDb

theorem runs_of_isSome {commands : List Command} (h : (runAll settings db commands).isSome = true) :
    Runs settings db ((runAll settings db commands).getD db) := by
  obtain ⟨db', h⟩ := Option.isSome_iff_exists.mp h
  rw [h]
  exact runs_of_runAll h

theorem reachable_registeredDb : Reachable exampleSettings registeredDb :=
  ⟨unusedDb, unused_unusedDb, runs_of_isSome (by decide +kernel)⟩

theorem runs_deletedDb : Runs exampleSettings registeredDb deletedDb :=
  runs_of_isSome (by decide +kernel)

theorem live_of_any (h : (db.objectRegistry.lookup id).any
    (fun o => decide (o.type = type ∧ o.erdate = none)) = true) : Live db.toDatabase type id := by
  obtain ⟨o, ho, hlive⟩ := (Option.any_eq_true _ _).mp h
  exact ⟨o, ho, of_decide_eq_true hlive⟩

theorem live_registeredDb : Live registeredDb.toDatabase .domain 3 := live_of_any (by decide +kernel)

theorem reachable_consistent_registeredDb : Consistent registeredDb :=
  reachable_consistent exampleSettings marksLinked_markingProcedures registeredDb reachable_registeredDb

theorem versions_keep_objects_deletedDb :
    Live registeredDb.toDatabase .domain 3 ∧
      ∃ historyId, (registeredDb.objectRegistry.lookup 3).bind (·.historyid) = some historyId ∧
        keptObject deletedDb historyId = (registeredDb.object.lookup 3).toList ∧
        ∀ part : Part, part.kept deletedDb historyId = part.rowsOf registeredDb .domain 3 :=
  ⟨live_registeredDb, versions_keep_objects exampleSettings registeredDb deletedDb reachable_registeredDb
    runs_deletedDb .domain 3 nofun live_registeredDb⟩

theorem live_objects_readable_registeredDb :
    (∃ info, (Contact.infoContactById Contact.utc 1).run registeredDb.toDatabase =
      .ok info registeredDb.toDatabase) ∧ (infoNssetById exampleInfoOrder registeredDb 2).isSome ∧
      (infoDomainById exampleInfoOrder registeredDb 3).isSome := by
  have hread (id : Nat) := live_objects_readable exampleSettings marksLinked_markingProcedures
    exampleInfoOrder Contact.utc registeredDb reachable_registeredDb id
  exact ⟨(hread 1).1.mpr (live_of_any (by decide +kernel)),
    (hread 2).2.2.1.mpr (live_of_any (by decide +kernel)), (hread 3).2.1.mpr live_registeredDb⟩

theorem registered_for_good_deletedDb :
    ∃ o o', registeredDb.objectRegistry.lookup 3 = some o ∧ o.erdate = none ∧
      deletedDb.objectRegistry.lookup 3 = some o' ∧ o' = { o with erdate := o'.erdate, historyid := o'.historyid } := by
  obtain ⟨o, ho, -, herdate⟩ := live_registeredDb
  obtain ⟨o', ho', hsame, -⟩ := registered_for_good exampleSettings registeredDb deletedDb
    reachable_registeredDb runs_deletedDb 3 o ho
  exact ⟨o, o', ho, herdate, ho', hsame⟩

end Example

end LibFred.RegistrableObject
