import LibFred.Object.Bookkeeping
import LibFred.RegistrableObject.Contact.MergeContact
import LibFred.Sql.DryRun

/-! What the updates that a merge makes leave to its later checks. -/
namespace LibFred.RegistrableObject.Contact

open Sql
open LibFred.Db
open LibFred.Object (Bookkeeping KeepsObjects KeepsStates unversioned getObjectIdByHandleAndType
  readOnly_getRegistrarIdByHandle readOnly_getObjectIdByHandleAndType
  moves_bookkeeping_updateObject moves_keepsStates_updateObject)
open LibFred.RegistrableObject.Domain
open LibFred.RegistrableObject.Nsset
open LibFred.RegistrableObject.Keyset

variable {db db' db'' : ObjectDatabase} {links : List Link} {objectId contactId : Nat}
  {handle : String} {procedures : StateProcedures} {settings : UpdateSettings}

/-- What a merge reads of the links in `links` and of the states that requests set. -/
structure SameChecks (links : List Link) (db db' : ObjectDatabase) : Prop where
  linked : ∀ link ∈ links, ∀ handle, linkedObjects db' handle link = linkedObjects db handle link
  states : ∀ objectId, ∀ state ∉ derivedStates,
    (state ∈ getObjectStates db'.toDatabase objectId ↔ state ∈ getObjectStates db.toDatabase objectId)

instance : Std.Refl (SameChecks links) := ⟨fun _ => ⟨fun _ _ _ => rfl, fun _ _ _ => Iff.rfl⟩⟩

instance : IsTrans ObjectDatabase (SameChecks links) where
  trans _ _ _ h h' :=
    ⟨fun link hl handle => (h'.linked link hl handle).trans (h.linked link hl handle),
      fun objectId state hs => (h'.states objectId state hs).trans (h.states objectId state hs)⟩

theorem SameChecks.mono {links' : List Link} (h : SameChecks links db db') (hl : links' ⊆ links) :
    SameChecks links' db db' :=
  ⟨fun link hlink => h.linked link (hl hlink), h.states⟩

theorem exists_registry_congr {p : Db.ObjectRegistry → Prop} {d d' : Database}
    (h : KeepsObjects d d') (hp : ∀ o, p (unversioned o) ↔ p o) :
    (∃ o ∈ d'.objectRegistry.lookup objectId, p o) ↔ ∃ o ∈ d.objectRegistry.lookup objectId, p o := by
  have hreg := h.registry objectId
  have hmap (l : Option Db.ObjectRegistry) : (∃ o ∈ l, p o) ↔ ∃ o ∈ l.map unversioned, p o := by
    cases l <;> simp [hp]
  rw [hmap, hreg, ← hmap]

theorem linkedObject_congr (h : KeepsObjects db.toDatabase db'.toDatabase) :
    linkedObject db' objectId = linkedObject db objectId := by
  have hreg := h.registry objectId
  have hsponsor := h.sponsors objectId
  unfold linkedObject
  rw [h.registrar]
  cases hr : db.objectRegistry.lookup objectId with
  | none =>
    rw [hr, Option.map_none, Option.map_eq_none_iff] at hreg
    rw [hreg]
  | some oreg =>
    rw [hr, Option.map_some, Option.map_eq_some_iff] at hreg
    obtain ⟨oreg', hr', hun⟩ := hreg
    have hname : oreg'.name = oreg.name := (congrArg Db.ObjectRegistry.name hun :)
    have herdate : oreg'.erdate = oreg.erdate := (congrArg Db.ObjectRegistry.erdate hun :)
    rw [hr']
    cases ho : db.object.lookup objectId with
    | none =>
      rw [ho, Option.map_none, Option.map_eq_none_iff] at hsponsor
      rw [hsponsor]
    | some o =>
      rw [ho, Option.map_some, Option.map_eq_some_iff] at hsponsor
      obtain ⟨o', ho', hclid⟩ := hsponsor
      rw [ho']
      simp only [hname, herdate, hclid]

theorem liveContactIds_congr (h : Bookkeeping db.toDatabase db'.toDatabase) :
    liveContactIds db' handle = liveContactIds db handle := by
  unfold liveContactIds
  rw [h.contact]
  refine List.filter_congr fun id _ => decide_eq_decide.mpr ?_
  exact exists_registry_congr h.toKeepsObjects fun o => Iff.rfl

theorem linkedObjects_congr {link : Link} (h : Bookkeeping db.toDatabase db'.toDatabase)
    (hids : ∀ contactId, link.objectIds db' contactId = link.objectIds db contactId) :
    linkedObjects db' handle link = linkedObjects db handle link := by
  unfold linkedObjects
  rw [liveContactIds_congr h]
  simp only [hids, linkedObject_congr h.toKeepsObjects]

/-- Who is linked to whom: the object, the contact and the role of an administrator. -/
def Link.rows (db : ObjectDatabase) : Link → List (Nat × Nat × Nat)
  | .registrant => db.domain.rows.map fun d => (d.id, d.registrant, 1)
  | .admin => db.domainContactMap.rows.map fun m => (m.domainid, m.contactid, m.role)
  | .nssetTech => db.nssetContactMap.rows.map fun m => (m.nssetid, m.contactid, 1)
  | .keysetTech => db.keysetContactMap.rows.map fun m => (m.keysetid, m.contactid, 1)

/-- The ids of the objects that contacts may be linked to. -/
def Link.owners (db : ObjectDatabase) : Link → List Nat
  | .registrant => db.domain.rows.map (·.id)
  | .admin => db.domain.rows.map (·.id)
  | .nssetTech => db.nsset.rows.map (·.id)
  | .keysetTech => db.keyset.rows.map (·.id)

theorem isSome_lookup_eq {ρ : Type} [Keyed ρ Nat] {t : Table ρ} {id : Nat} :
    (t.lookup id).isSome = decide (id ∈ t.rows.map Keyed.key) := by
  rw [Bool.eq_iff_iff, Option.isSome_iff_exists, decide_eq_true_iff, List.mem_map]
  exact exists_congr fun r => Table.lookup_eq_some

theorem map_filter_rows {ρ : Type} (l : List ρ) (row : ρ → Nat × Nat × Nat) :
    ((l.map row).filter fun r => r.2.2 = 1 ∧ r.2.1 = contactId).map (·.1) =
      (l.filter fun r => (row r).2.2 = 1 ∧ (row r).2.1 = contactId).map fun r => (row r).1 := by
  rw [List.filter_map, List.map_map]
  rfl

theorem Link.objectIds_eq (link : Link) : link.objectIds db contactId =
    (((link.rows db).filter fun r => r.2.2 = 1 ∧ r.2.1 = contactId).map (·.1)).filter
      (· ∈ link.owners db) := by
  cases link with
  | registrant =>
    rw [Link.rows, map_filter_rows, List.filter_eq_self.mpr]
    · simp [Link.objectIds, Table.select]
    · intro id hid
      obtain ⟨d, hd, rfl⟩ := List.mem_map.mp hid
      exact decide_eq_true (List.mem_map.mpr ⟨d, (List.mem_filter.mp hd).1, rfl⟩)
  | admin =>
    rw [Link.rows, map_filter_rows]
    exact List.filter_congr fun id _ => isSome_lookup_eq
  | nssetTech =>
    rw [Link.rows, map_filter_rows]
    simp only [Link.objectIds, Table.select, true_and]
    exact List.filter_congr fun id _ => isSome_lookup_eq
  | keysetTech =>
    rw [Link.rows, map_filter_rows]
    simp only [Link.objectIds, Table.select, true_and]
    exact List.filter_congr fun id _ => isSome_lookup_eq

/-- Statements that leave the objects and the links in `links`. -/
structure KeepsLinks (links : List Link) (db db' : ObjectDatabase) : Prop where
  books : Bookkeeping db.toDatabase db'.toDatabase
  zone : db'.zone = db.zone
  domainZones : (db'.domain.rows.map fun d => (d.id, d.zone)) = db.domain.rows.map fun d => (d.id, d.zone)
  nssets : db'.nsset.rows.map (·.id) = db.nsset.rows.map (·.id)
  keysets : db'.keyset.rows.map (·.id) = db.keyset.rows.map (·.id)
  rows : ∀ link ∈ links, link.rows db' = link.rows db
  states : ∀ objectId, ∀ state ∉ derivedStates,
    (state ∈ getObjectStates db'.toDatabase objectId ↔ state ∈ getObjectStates db.toDatabase objectId)

instance : Std.Refl (KeepsLinks links) :=
  ⟨fun _ => ⟨refl_of _ _, rfl, rfl, rfl, rfl, fun _ _ => rfl, fun _ _ _ => Iff.rfl⟩⟩

instance : IsTrans ObjectDatabase (KeepsLinks links) where
  trans _ _ _ h h' :=
    ⟨trans_of _ h.books h'.books, h'.zone.trans h.zone, h'.domainZones.trans h.domainZones,
      h'.nssets.trans h.nssets, h'.keysets.trans h.keysets,
      fun link hl => (h'.rows link hl).trans (h.rows link hl),
      fun objectId state hs => (h'.states objectId state hs).trans (h.states objectId state hs)⟩

theorem KeepsLinks.mono {links' : List Link} (h : KeepsLinks links db db') (hl : links' ⊆ links) :
    KeepsLinks links' db db' :=
  { h with rows := fun link hlink => h.rows link (hl hlink) }

theorem KeepsLinks.owners (h : KeepsLinks links db db') (link : Link) :
    link.owners db' = link.owners db := by
  have hdomains := congrArg (List.map Prod.fst) h.domainZones
  simp only [List.map_map] at hdomains
  cases link with
  | registrant => exact hdomains
  | admin => exact hdomains
  | nssetTech => exact h.nssets
  | keysetTech => exact h.keysets

theorem KeepsLinks.sameChecks (h : KeepsLinks links db db') : SameChecks links db db' := by
  refine ⟨fun link hlink handle => linkedObjects_congr h.books fun contactId => ?_, h.states⟩
  rw [Link.objectIds_eq, Link.objectIds_eq, h.rows link hlink, h.owners link]

/-- Statements on the books of objects. -/
theorem keepsLinks_of_bookkeeping {d : Database}
    (h : Bookkeeping db.toDatabase d ∧ KeepsStates db.toDatabase d) :
    KeepsLinks links db { db with toDatabase := d } := by
  refine ⟨h.1, rfl, rfl, rfl, rfl, fun link _ => by cases link <;> rfl, fun objectId state _ => ?_⟩
  unfold getObjectStates
  rw [h.2.now, h.2.objectState, h.2.enumObjectStates]

theorem keepsLinks_fire : KeepsLinks links db (procedures.fire db) :=
  ⟨⟨⟨fun _ => rfl, fun _ hv => hv, fun _ => rfl, rfl, rfl, rfl⟩, rfl, rfl⟩, rfl, rfl, rfl, rfl,
    fun link _ => by cases link <;> rfl,
    fun objectId state hs => procedures.triggered_derived db objectId state hs⟩

theorem keepsLinks_rollbackTo : KeepsLinks links db (db.rollbackTo db') :=
  ⟨⟨⟨fun _ => rfl, fun _ hv => hv, fun _ => rfl, rfl, rfl, rfl⟩, rfl, rfl⟩, rfl, rfl, rfl, rfl,
    fun link _ => by cases link <;> rfl, fun _ _ _ => Iff.rfl⟩

/-- Statements on the tables of objects and links. -/
theorem keepsLinks_of_tables (hdb : db'.toDatabase = db.toDatabase) (hzone : db'.zone = db.zone)
    (hdomains : (db'.domain.rows.map fun d => (d.id, d.zone)) = db.domain.rows.map fun d => (d.id, d.zone))
    (hnssets : db'.nsset.rows.map (·.id) = db.nsset.rows.map (·.id))
    (hkeysets : db'.keyset.rows.map (·.id) = db.keyset.rows.map (·.id))
    (hrows : ∀ link ∈ links, link.rows db' = link.rows db) : KeepsLinks links db db' :=
  ⟨hdb ▸ refl_of _ _, hzone, hdomains, hnssets, hkeysets, hrows, fun _ _ _ => by rw [hdb]⟩

/-- The tables of objects and links. -/
def objectTables (db : ObjectDatabase) : Database × Table Zone.Data × Table Db.Domain × Table Db.Nsset ×
    Table Db.Keyset × Table DomainContactMap × Table NssetContactMap × Table KeysetContactMap :=
  (db.toDatabase, db.zone, db.domain, db.nsset, db.keyset, db.domainContactMap, db.nssetContactMap,
    db.keysetContactMap)

/-- Statements on other tables. -/
theorem keepsLinks_of_objectTables (h : objectTables db' = objectTables db) : KeepsLinks links db db' := by
  simp only [objectTables, Prod.mk.injEq] at h
  obtain ⟨hdb, hzone, hdomain, hnsset, hkeyset, hadmin, hnssetTech, hkeysetTech⟩ := h
  refine keepsLinks_of_tables hdb hzone (by rw [hdomain]) (by rw [hnsset]) (by rw [hkeyset])
    fun link _ => ?_
  cases link with
  | registrant => exact congrArg (fun t : Table Db.Domain => t.rows.map fun d => (d.id, d.registrant, 1)) hdomain
  | admin => rw [Link.rows, hadmin, Link.rows]
  | nssetTech => rw [Link.rows, hnssetTech, Link.rows]
  | keysetTech => rw [Link.rows, hkeysetTech, Link.rows]

/-- Statements on other tables after which triggers fire. -/
theorem keepsLinks_fire_of_objectTables (h : objectTables db' = objectTables db) :
    KeepsLinks links db (procedures.fire db') :=
  trans_of _ (keepsLinks_of_objectTables h) keepsLinks_fire

theorem moves_checkRegistrar {unknown : String → ObjectException} :
    Moves (KeepsLinks links) (checkRegistrar unknown handle) := by
  refine moves_tryCatch (moves_bind (readOnly_lift readOnly_getRegistrarIdByHandle).moves fun _ =>
    readOnly_pure.moves) fun e => ?_
  split <;> exact readOnly_throw.moves

theorem readOnly_getObjectId {unknown : String → ObjectException} {type : Db.ObjectType} :
    ReadOnly (getObjectId unknown handle type) := by
  refine readOnly_bind (readOnly_lift readOnly_getObjectIdByHandleAndType) fun id => ?_
  cases id with
  | some id => exact readOnly_pure
  | none => exact readOnly_throw

theorem moves_updateObject {op : LibFred.Object.UpdateObject} :
    Moves (KeepsLinks links) (updateObject settings.authinfo op) := by
  have hbooks : Moves (fun d d' => Bookkeeping d d' ∧ KeepsStates d d') (op.exec settings.authinfo) :=
    moves_bookkeeping_updateObject.and moves_keepsStates_updateObject
  refine moves_tryCatch (moves_bind (moves_lift hbooks fun _ _ => keepsLinks_of_bookkeeping) fun _ =>
    readOnly_pure.moves) fun e => ?_
  split
  · exact readOnly_pure.moves
  · exact readOnly_pure.moves
  · exact readOnly_throw.moves

theorem moves_copyToHistory {ρ κ : Type} [Keyed ρ κ] [DecidableEq κ]
    {history : ObjectDatabase → Table (Historical ρ)}
    {setHistory : ObjectDatabase → Table (Historical ρ) → ObjectDatabase}
    {rows : ObjectDatabase → List ρ} {historyId : Nat}
    (hset : ∀ db t, KeepsLinks links db (setHistory db t)) :
    Moves (KeepsLinks links) (copyToHistory history setHistory rows historyId) := by
  refine moves_of_run (fun db n db' h => ?_) (fun db e db' h => ?_)
  all_goals
    simp only [copyToHistory] at h
    split at h <;> cases h
  · exact hset db _
  · exact refl_of _ db

section ContactMap

variable {ρ : Type} [Keyed ρ (Nat × Nat)] {map : ContactMap ρ} {e : ContactErrors}
  (hmap : ∀ db t, KeepsLinks links db (map.setTable db t))

include hmap

theorem moves_addContact :
    Moves (KeepsLinks links) (map.addContact procedures objectId e handle) := by
  refine moves_bind (readOnly_lift readOnly_getObjectIdByHandleAndType).moves fun id => ?_
  cases id with
  | none => exact readOnly_pure.moves
  | some contactId =>
    refine moves_bind (moves_of_run (fun db inserted db' h => ?_) fun db e db' h => ?_) fun inserted => ?_
    · simp only [ContactMap.insertContact] at h
      split at h <;> cases h
      · exact trans_of _ (hmap db _) keepsLinks_fire
      · exact refl_of _ db
    · simp only [ContactMap.insertContact] at h
      split at h <;> cases h
    · split <;> exact readOnly_pure.moves

theorem moves_remContact :
    Moves (KeepsLinks links) (map.remContact procedures objectId e handle) := by
  refine moves_bind (readOnly_lift readOnly_getObjectIdByHandleAndType).moves fun id => ?_
  cases id with
  | none => exact readOnly_pure.moves
  | some contactId =>
    refine moves_bind (moves_of_run (fun db n db' h => ?_) fun db e db' h => by cases h) fun n =>
      moves_bind readOnly_raiseIf.moves fun _ => ?_
    · obtain ⟨-, rfl⟩ := EStateM.Result.ok.inj h
      exact trans_of _ (hmap db _) keepsLinks_fire
    · split <;> exact readOnly_pure.moves

theorem moves_updateContacts {add rem : List String} :
    Moves (KeepsLinks links) (map.updateContacts procedures objectId add rem) :=
  moves_bind (moves_foldlM fun _ _ => moves_addContact hmap) fun _ =>
    moves_foldlM fun _ _ => moves_remContact hmap

end ContactMap

theorem readOnly_resolveHandle {type : Db.ObjectType} : ReadOnly (resolveHandle type handle) := by
  refine readOnly_bind (readOnly_lift readOnly_getObjectIdByHandleAndType) fun id => ?_
  cases id <;> exact readOnly_pure

theorem readOnly_resolveOptional {type : Db.ObjectType} {given : Option (Option String)} :
    ReadOnly (resolveOptional type given) := by
  rcases given with _ | _ | handle
  · exact readOnly_pure
  · exact readOnly_pure
  · exact readOnly_bind readOnly_resolveHandle fun _ => readOnly_pure

theorem readOnly_resolveRegistrant {op : UpdateDomain} : ReadOnly op.resolveRegistrant := by
  unfold UpdateDomain.resolveRegistrant
  split
  · exact readOnly_pure
  · exact readOnly_bind readOnly_resolveHandle fun _ => readOnly_pure

/-- Only the registrants of domains depend on more than the ids of domains. -/
theorem moves_write {columns : DomainColumns} (hl : Link.registrant ∉ links) :
    Moves (KeepsLinks links) (columns.write procedures objectId) := by
  refine moves_of_run (fun db u db' h => ?_) (fun db e db' h => ?_)
  all_goals
    simp only [DomainColumns.write] at h
    split at h <;> cases h
  · have hkeeps : KeepsLinks links db { db with
        domain := db.domain.update (·.id = objectId) columns.set columns.key_set } := by
      refine keepsLinks_of_tables rfl rfl (Table.map_update columns.key_set fun _ => rfl) rfl rfl fun link hlink => ?_
      cases link with
      | registrant => exact (hl hlink).elim
      | admin => rfl
      | nssetTech => rfl
      | keysetTech => rfl
    exact trans_of _ hkeeps keepsLinks_fire
  · exact refl_of _ db

theorem moves_updateColumns {op : UpdateDomain} {e : DomainException}
    (hl : Link.registrant ∉ links) :
    Moves (KeepsLinks links) (op.updateColumns settings objectId e) := by
  unfold UpdateDomain.updateColumns
  split
  · exact moves_bind readOnly_resolveOptional.moves fun _ =>
      moves_bind readOnly_resolveOptional.moves fun _ =>
      moves_bind readOnly_resolveRegistrant.moves fun _ =>
      moves_bind readOnly_raiseIf.moves fun _ => moves_write hl
  · exact readOnly_pure.moves

theorem moves_updateEnumval {op : UpdateDomain} :
    Moves (KeepsLinks links) (op.updateEnumval settings objectId) := by
  unfold UpdateDomain.updateEnumval
  split
  · refine moves_of_run (fun db u db' h => ?_) (fun db e db' h => ?_)
    all_goals
      simp only [UpdateDomain.setEnumval] at h
      split at h <;> cases h
    · exact keepsLinks_fire_of_objectTables rfl
    · exact refl_of _ db
  · exact readOnly_pure.moves

theorem moves_copyDomainDataToDomainHistory {historyId : Nat} :
    Moves (KeepsLinks links) (copyDomainDataToDomainHistory objectId historyId) := by
  refine moves_bind (moves_copyToHistory fun _ _ => ?_) fun _ =>
    moves_bind readOnly_raiseIf.moves fun _ => moves_bind (moves_copyToHistory fun _ _ => ?_) fun _ =>
    moves_bind (moves_copyToHistory fun _ _ => ?_) fun _ => readOnly_pure.moves
  all_goals exact keepsLinks_of_objectTables rfl

theorem readOnly_getDomain {op : UpdateDomain} : ReadOnly op.getDomain := by
  refine readOnly_bind readOnly_get fun db => ?_
  split
  · exact readOnly_throw
  · exact readOnly_pure
  · exact readOnly_throw

/-- An update of a domain leaves the technical contacts of other objects, and the administrators
of domains unless it is told to change them. -/
theorem moves_updateDomain_of_columns {op : UpdateDomain}
    (hcolumns : ∀ domainId e, Moves (KeepsLinks links) (op.updateColumns settings domainId e))
    (hadmin : Link.admin ∈ links → op.addAdminContact = [] ∧ op.remAdminContact = []) :
    Moves (KeepsLinks links) (op.exec settings) := by
  have hcontacts (domainId : Nat) : Moves (KeepsLinks links)
      (domainContactMap.updateContacts settings.procedures domainId op.addAdminContact
        op.remAdminContact) := by
    by_cases hmem : Link.admin ∈ links
    · rw [(hadmin hmem).1, (hadmin hmem).2]
      exact moves_bind readOnly_pure.moves fun _ => readOnly_pure.moves
    · refine moves_updateContacts fun db t => ?_
      refine keepsLinks_of_tables rfl rfl rfl rfl rfl fun link hlink => ?_
      cases link with
      | registrant => rfl
      | admin => exact (hmem hlink).elim
      | nssetTech => rfl
      | keysetTech => rfl
  exact moves_bind moves_checkRegistrar fun _ => moves_bind readOnly_getDomain.moves fun found =>
    moves_bind readOnly_raiseIf.moves fun _ => moves_bind readOnly_raiseIf.moves fun _ =>
    moves_bind moves_updateObject fun updated => moves_bind (hcolumns _ _) fun _ =>
    moves_bind (hcontacts found.1) fun _ => moves_bind readOnly_raiseIf.moves fun _ =>
    moves_bind moves_updateEnumval fun _ => moves_bind moves_copyDomainDataToDomainHistory fun _ =>
    readOnly_pure.moves

theorem moves_updateDomain {op : UpdateDomain} (hl : Link.registrant ∉ links)
    (hadmin : Link.admin ∈ links → op.addAdminContact = [] ∧ op.remAdminContact = []) :
    Moves (KeepsLinks links) (op.exec settings) :=
  moves_updateDomain_of_columns (fun _ _ => moves_updateColumns hl) hadmin

/-- An update that sets no columns leaves the registrants too. -/
theorem moves_updateDomain_of_not_changesDomain {op : UpdateDomain} (hnone : op.changesDomain = false)
    (hl : Link.admin ∉ links) : Moves (KeepsLinks links) (op.exec settings) := by
  refine moves_updateDomain_of_columns (fun domainId e => ?_) fun hmem => absurd hmem hl
  rw [UpdateDomain.updateColumns, hnone]
  exact readOnly_pure.moves

theorem moves_copyNssetDataToNssetHistory {historyId : Nat} :
    Moves (KeepsLinks links) (copyNssetDataToNssetHistory objectId historyId) := by
  refine moves_bind (moves_copyToHistory fun _ _ => ?_) fun _ =>
    moves_bind readOnly_raiseIf.moves fun _ => moves_bind (moves_copyToHistory fun _ _ => ?_) fun _ =>
    moves_bind (moves_copyToHistory fun _ _ => ?_) fun _ =>
    moves_bind (moves_copyToHistory fun _ _ => ?_) fun _ => readOnly_pure.moves
  all_goals exact keepsLinks_of_objectTables rfl

theorem moves_copyKeysetDataToKeysetHistory {historyId : Nat} :
    Moves (KeepsLinks links) (copyKeysetDataToKeysetHistory objectId historyId) := by
  refine moves_bind (moves_copyToHistory fun _ _ => ?_) fun _ =>
    moves_bind readOnly_raiseIf.moves fun _ => moves_bind (moves_copyToHistory fun _ _ => ?_) fun _ =>
    moves_bind (moves_copyToHistory fun _ _ => ?_) fun _ =>
    moves_bind (moves_copyToHistory fun _ _ => ?_) fun _ => readOnly_pure.moves
  all_goals exact keepsLinks_of_objectTables rfl

theorem moves_updateChecklevel {level : Option Int} :
    Moves (KeepsLinks links) (updateChecklevel objectId level) := by
  unfold updateChecklevel
  split
  · refine moves_of_run (fun db u db' h => ?_) (fun db e db' h => ?_)
    all_goals
      simp only [setChecklevel] at h
      split at h <;> cases h
    · rename_i checklevel _ _
      have hkey : ∀ n : Db.Nsset, Keyed.key { n with checklevel } = Keyed.key n := fun _ => rfl
      refine keepsLinks_of_tables rfl rfl rfl (Table.map_update hkey fun _ => rfl) rfl fun link _ => ?_
      cases link <;> rfl
    · exact refl_of _ db
  · exact readOnly_pure.moves

theorem moves_remDnsHost {unassigned : List String} :
    Moves (KeepsLinks links) (remDnsHost objectId unassigned handle) := by
  refine moves_bind (moves_of_run (fun db ids db' h => ?_) fun db e db' h => by cases h) fun ids => ?_
  · obtain ⟨-, rfl⟩ := EStateM.Result.ok.inj h
    exact keepsLinks_of_objectTables rfl
  · split
    · exact readOnly_pure.moves
    · refine moves_bind (moves_of_run (fun db u db' h => ?_) fun db e db' h => by cases h) fun _ =>
        readOnly_pure.moves
      obtain ⟨-, rfl⟩ := EStateM.Result.ok.inj h
      exact keepsLinks_of_objectTables rfl
    · exact readOnly_throw.moves

theorem moves_addIpaddr {hostId nssetId : Nat} {e : HostErrors} {ipaddr : IpAddress} :
    Moves (KeepsLinks links) (addIpaddr hostId nssetId e ipaddr) := by
  refine moves_bind (moves_of_run (fun db b db' h => ?_) fun db e db' h => ?_) fun b => ?_
  · simp only [insertIpaddr] at h
    split at h
    · split at h <;> cases h
      exact keepsLinks_of_objectTables rfl
    · cases h
      exact refl_of _ db
  · simp only [insertIpaddr] at h
    split at h
    · split at h <;> cases h
      exact keepsLinks_of_objectTables rfl
    · cases h
  · split <;> exact readOnly_pure.moves

theorem moves_addDnsHost {e : HostErrors} {host : DnsHost} :
    Moves (KeepsLinks links) (addDnsHost objectId e host) := by
  refine moves_bind (moves_of_run (fun db id db' h => ?_) fun db e db' h => ?_) fun id => ?_
  · simp only [insertHost] at h
    split at h
    · cases h
      exact keepsLinks_of_objectTables rfl
    · split at h <;> cases h
      exact keepsLinks_of_objectTables rfl
  · simp only [insertHost] at h
    split at h
    · cases h
    · split at h <;> cases h
      exact keepsLinks_of_objectTables rfl
  · cases id with
    | none => exact readOnly_pure.moves
    | some hostId => exact moves_foldlM fun _ _ => moves_addIpaddr

/-- An update of an nsset leaves the contacts of other objects. -/
theorem moves_updateNsset {op : UpdateNsset} (hl : Link.nssetTech ∉ links) :
    Moves (KeepsLinks links) (op.exec settings) := by
  have hmap (db : ObjectDatabase) (t : Table NssetContactMap) :
      KeepsLinks links db (nssetContactMap.setTable db t) := by
    refine keepsLinks_of_tables rfl rfl rfl rfl rfl fun link hlink => ?_
    cases link with
    | registrant => rfl
    | admin => rfl
    | nssetTech => exact (hl hlink).elim
    | keysetTech => rfl
  exact moves_bind moves_checkRegistrar fun _ => moves_bind readOnly_getObjectId.moves fun _ =>
    moves_bind moves_updateObject fun _ => moves_bind moves_updateChecklevel fun _ =>
    moves_bind (moves_updateContacts hmap) fun _ =>
    moves_bind (moves_foldlM fun _ _ => moves_remDnsHost) fun _ =>
    moves_bind (moves_foldlM fun _ _ => moves_addDnsHost) fun _ =>
    moves_bind readOnly_raiseIf.moves fun _ =>
    moves_bind moves_copyNssetDataToNssetHistory fun _ => readOnly_pure.moves

theorem moves_remDnsKey {unassigned : List DnsKey} {key : DnsKey} :
    Moves (KeepsLinks links) (remDnsKey objectId unassigned key) := by
  refine moves_bind (moves_of_run (fun db n db' h => ?_) fun db e db' h => by cases h) fun n =>
    moves_bind readOnly_raiseIf.moves fun _ => readOnly_pure.moves
  obtain ⟨-, rfl⟩ := EStateM.Result.ok.inj h
  exact keepsLinks_of_objectTables rfl

theorem moves_addDnsKey {alreadySet : List DnsKey} {key : DnsKey} :
    Moves (KeepsLinks links) (addDnsKey objectId alreadySet key) := by
  refine moves_bind (moves_of_run (fun db b db' h => ?_) fun db e db' h => ?_) fun b => ?_
  · simp only [insertDnsKey] at h
    split at h
    · cases h
      exact keepsLinks_of_objectTables rfl
    · split at h <;> cases h
      exact keepsLinks_of_objectTables rfl
  · simp only [insertDnsKey] at h
    split at h
    · cases h
    · split at h <;> cases h
      exact keepsLinks_of_objectTables rfl
  · split <;> exact readOnly_pure.moves

/-- An update of a keyset leaves the contacts of other objects. -/
theorem moves_updateKeyset {op : UpdateKeyset} (hl : Link.keysetTech ∉ links) :
    Moves (KeepsLinks links) (op.exec settings) := by
  have hmap (db : ObjectDatabase) (t : Table KeysetContactMap) :
      KeepsLinks links db (keysetContactMap.setTable db t) := by
    refine keepsLinks_of_tables rfl rfl rfl rfl rfl fun link hlink => ?_
    cases link with
    | registrant => rfl
    | admin => rfl
    | nssetTech => rfl
    | keysetTech => exact (hl hlink).elim
  exact moves_bind moves_checkRegistrar fun _ => moves_bind readOnly_getObjectId.moves fun _ =>
    moves_bind moves_updateObject fun _ => moves_bind (moves_updateContacts hmap) fun _ =>
    moves_bind (moves_foldlM fun _ _ => moves_remDnsKey) fun _ =>
    moves_bind (moves_foldlM fun _ _ => moves_addDnsKey) fun _ =>
    moves_bind readOnly_raiseIf.moves fun _ =>
    moves_bind moves_copyKeysetDataToKeysetHistory fun _ => readOnly_pure.moves

end LibFred.RegistrableObject.Contact
