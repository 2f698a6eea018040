import LibFred.Object.NewVersion
import LibFred.RegistrableObject.Contact.DeleteContact
import LibFred.RegistrableObject.Contact.LinkOwners
import LibFred.RegistrableObject.ObjectVersions
import LibFred.RegistrableObject.ObjectWrites

/-! What one operation on the registry changes, and that it is recorded. -/
namespace LibFred.RegistrableObject

open Sql
open LibFred.Db
open Relation (ReflTransGen)
open LibFred.Object (CreateObject NewObject NewVersion Prepares isRegistered nameOf)
open LibFred.RegistrableObject.Contact (foundName objectHasState)
open LibFred.RegistrableObject.Nsset (NamesHost)

/-- An object gets a version: its next one when it is live, its first one when it is new. -/
inductive Opening (type : Db.ObjectType) (id historyId : Nat) (db db' : Database) : Prop
  | renewed (hlive : Live db type id) (hversion : NewVersion id historyId db db')
  | created (op : CreateObject) (htype : op.objectType = type)
      (hfound : foundName op.objectType (nameOf op.objectType op.handle) = nameOf op.objectType op.handle)
      (hnew : NewObject op id historyId db db')

/-- Changes of contacts, of what belongs to them and of requests for their states. -/
structure KeepsContacts (db db' : Database) : Prop where
  rest : db' = { db with
    contact := db'.contact
    contactAddress := db'.contactAddress
    contactIdentity := db'.contactIdentity
    requests := db'.requests }
  contacts : ∀ id, (db'.contact.lookup id).isSome = (db.contact.lookup id).isSome

/-- The zone of the domain is there, and so is the validation of a domain in an ENUM zone. -/
def ZoneReadable (db : ObjectDatabase) (id : Nat) : Prop :=
  ∀ d ∈ db.domain.lookup id, ∃ z ∈ db.zone.lookup d.zone, z.isEnum = true → (db.enumval.lookup id).isSome

/-- No zone is gone or has another name, or is an ENUM zone that was none. -/
def KeepsZones (zone zone' : Table Zone.Data) : Prop :=
  ∀ id, ∀ z ∈ zone.lookup id, ∃ z' ∈ zone'.lookup id, z'.name = z.name ∧ z'.isEnum = z.isEnum

instance : Std.Refl KeepsZones := ⟨fun _ _ z hz => ⟨z, hz, rfl, rfl⟩⟩

instance : IsTrans (Table Zone.Data) KeepsZones where
  trans _ _ _ h h' id z hz := by
    obtain ⟨z', hz', hname, henum⟩ := h id z hz
    obtain ⟨z'', hz'', hname', henum'⟩ := h' id z' hz'
    exact ⟨z'', hz'', hname'.trans hname, henum'.trans henum⟩

/-- What the deletion of an object of a type leaves of the rows. -/
def erased (procedures : StateProcedures) (db : ObjectDatabase) (id : Nat) :
    Db.ObjectType → ObjectDatabase
  | .contact =>
    { db with toDatabase := { db.toDatabase with
      contactIdentity := db.contactIdentity.update
        (fun ci => ci.contactId = id ∧ ci.validTo = none) fun ci => { ci with validTo := some db.now }
      contactAddress := db.contactAddress.delete (·.contactid = id)
      contact := db.contact.delete (·.id = id) } }
  | .domain =>
    let unlinked := procedures.fire
      { db with domainContactMap := db.domainContactMap.delete (·.domainid = id) }
    let unvalidated := procedures.fire
      { unlinked with enumval := unlinked.enumval.delete (·.domainid = id) }
    procedures.fire { unvalidated with domain := unvalidated.domain.delete (·.id = id) }
  | .nsset =>
    { procedures.fire { db with nssetContactMap := db.nssetContactMap.delete (·.nssetid = id) } with
      hostIpaddrMap := db.hostIpaddrMap.delete (·.nssetid = id)
      host := db.host.delete (·.nssetid = id)
      nsset := db.nsset.delete (·.id = id) }
  | .keyset =>
    { procedures.fire { db with keysetContactMap := db.keysetContactMap.delete (·.keysetid = id) } with
      dnskey := db.dnskey.delete (·.keysetid = id)
      dsrecord := db.dsrecord.delete (·.keysetid = id)
      keyset := db.keyset.delete (·.id = id) }

theorem key_erdate (db : Database) (o : Db.ObjectRegistry) :
    Keyed.key { o with erdate := some db.now } = Keyed.key o := rfl

/-- The object is registered as deleted. -/
def unregistered (db : Database) (id : Nat) : Database :=
  { db with
    objectRegistry := db.objectRegistry.update (·.id = id) (fun o => { o with erdate := some db.now })
      (key_erdate db)
    object := db.object.delete (·.id = id) }

/-- What one step of an operation on the registry changes. -/
inductive Change (procedures : StateProcedures) (db : ObjectDatabase) : ObjectDatabase → Prop
  | object {type : Db.ObjectType} {id historyId : Nat} {d : Database} {s db' : ObjectDatabase}
      (hopening : Opening type id historyId db.toDatabase d)
      (hwrites : Writes procedures type id { db with toDatabase := d } s)
      (hzone : type = .domain → HasRow db .domain id ∨ ZoneReadable s id)
      (hcopies : Copies type id historyId s db') : Change procedures db db'
  | contact {id historyId : Nat} {d d' : Database} (hlive : Live db.toDatabase .contact id)
      (hversion : NewVersion id historyId db.toDatabase d) (hkeeps : KeepsContacts d d') :
      Change procedures db { db with toDatabase := d' }
  | newContact {op : CreateObject} {id historyId : Nat} {d d' : Database} {t : Table Db.Contact}
      (row : Db.Contact) (htype : op.objectType = .contact)
      (hnew : NewObject op id historyId db.toDatabase d) (hid : row.id = id)
      (ht : d.contact.insert? row = some t) (hkeeps : KeepsContacts { d with contact := t } d') :
      Change procedures db { db with toDatabase := d' }
  | delete (type : Db.ObjectType) {id : Nat} (hlive : isRegistered db.toDatabase id)
      (hrow : HasRow db type id)
      (hunlinked : type ≠ .domain → objectHasState db.toDatabase id "linked" = false) :
      Change procedures db { erased procedures db id type with
        toDatabase := unregistered (erased procedures db id type).toDatabase id }
  | states (requests : ObjectState.Requests Timestamp) {os : Table Db.ObjectState}
      (hos : os = db.objectState ∨ ∃ objectId, os = procedures.updateObjectStates
        { db with toDatabase := { db.toDatabase with requests := requests } } objectId) :
      Change procedures db { db with toDatabase :=
        { db.toDatabase with requests := requests, objectState := os } }
  | passwords {d : Database} (hprepares : Prepares ∅ db.toDatabase d) :
      Change procedures db { db with toDatabase := d }
  | rollback {s : ObjectDatabase} (hseq : db.historySeq ≤ s.historySeq) :
      Change procedures db (db.rollbackTo s)
  | elsewhere (now : Timestamp) {registrar : Table Registrar} {zone : Table Zone.Data}
      (hregistrar : ∀ id, (db.registrar.lookup id).isSome → (registrar.lookup id).isSome)
      (hzone : KeepsZones db.zone zone) : Change procedures db { db with
        toDatabase := { db.toDatabase with now := now, registrar := registrar }, zone := zone }

/-- The changes of several steps. -/
def Changes (procedures : StateProcedures) : ObjectDatabase → ObjectDatabase → Prop :=
  ReflTransGen (Change procedures)

instance {procedures : StateProcedures} : Std.Refl (Changes procedures) := ⟨fun _ => .refl⟩

instance {procedures : StateProcedures} : IsTrans ObjectDatabase (Changes procedures) :=
  ⟨fun _ _ _ => .trans⟩

variable {procedures : StateProcedures} {type : Db.ObjectType} {id historyId : Nat}
  {s s' db db' : ObjectDatabase} {d d' : Database}

theorem Change.changes (h : Change procedures db db') : Changes procedures db db' := .single h

/-- Names in upper case, which are those of all objects but domains, are found. -/
theorem foundName_nameOf {handle : String} (h : type ≠ .domain) :
    foundName type (nameOf type handle) = nameOf type handle := by
  simp [foundName, nameOf, h]

theorem opening_newContact {op : CreateObject} {d d' : Database} (htype : op.objectType = .contact)
    (hnew : NewObject op id historyId d d') : Opening .contact id historyId d d' :=
  .created op htype (foundName_nameOf (by rw [htype]; exact nofun)) hnew

section Opening

theorem live_unique {db : Database} {type' : Db.ObjectType} (h : Live db type id) (h' : Live db type' id) :
    type' = type := by
  obtain ⟨o, ho, rfl, -⟩ := h
  obtain ⟨o', ho', rfl, -⟩ := h'
  rw [Option.some.inj (ho'.symm.trans ho)]

variable {d d' : Database}

theorem Opening.rest (h : Opening type id historyId d d') :
    d' = { d with
      objectRegistry := d'.objectRegistry
      object := d'.object
      objectHistory := d'.objectHistory
      history := d'.history
      historySeq := d.historySeq + 1
      objectAuthinfo := d'.objectAuthinfo
      objectAuthinfoSeq := d'.objectAuthinfoSeq } := by
  cases h with
  | renewed _ hversion => exact hversion.rest
  | created op _ _ hnew => rw [hnew.rest]

theorem Opening.unused (h : Opening type id historyId d d') : historyId = d.historySeq := by
  cases h with
  | renewed _ hversion => exact hversion.unused
  | created op _ _ hnew => exact hnew.unused

theorem Opening.lookup_other (h : Opening type id historyId d d') {id' : Nat} (hne : id' ≠ id) :
    d'.objectRegistry.lookup id' = d.objectRegistry.lookup id' := by
  cases h with
  | renewed _ hversion => rw [hversion.lookup_registry, if_neg hne]
  | created op _ _ hnew => exact hnew.others id' hne

theorem Opening.otherObjects (h : Opening type id historyId d d') {id' : Nat} (hne : id' ≠ id) :
    d'.object.lookup id' = d.object.lookup id' := by
  cases h with
  | renewed _ hversion => exact hversion.otherObjects hne
  | created op _ _ hnew => exact hnew.otherObjects id' hne

theorem Opening.objectHistory (h : Opening type id historyId d d') : d'.objectHistory =
    d.objectHistory ++ (d'.object.lookup id).toList.map (⟨historyId, ·⟩) := by
  cases h with
  | renewed _ hversion => exact hversion.objectHistory
  | created op _ _ hnew => exact hnew.objectHistory

theorem Opening.object (h : Opening type id historyId d d') :
    ∃ o ∈ d'.objectRegistry.lookup id, o.type = type ∧ o.erdate = none ∧ o.historyid = some historyId := by
  cases h with
  | renewed hlive hversion =>
    obtain ⟨o, ho, htype, herdate⟩ := hlive
    refine ⟨{ o with historyid := some historyId }, ?_, htype, herdate, rfl⟩
    rw [hversion.lookup_registry, if_pos rfl, Option.mem_def.mp ho]
    rfl
  | created op htype _ hnew =>
    obtain ⟨o, ho, -, htype', herdate, -⟩ := hnew.row
    refine ⟨o, ho, htype'.trans htype, herdate, ?_⟩
    have hversion := hnew.version
    rw [ho] at hversion
    exact hversion

theorem Opening.live (h : Opening type id historyId d d') : Live d' type id := by
  obtain ⟨o, ho, htype, herdate, -⟩ := h.object
  exact ⟨o, ho, htype, herdate⟩

/-- The objects that are live are those from before and the one that is new. -/
theorem Opening.live_iff (h : Opening type id historyId d d') {type' : Db.ObjectType} {id' : Nat} :
    Live d' type' id' ↔ Live d type' id' ∨ type' = type ∧ id' = id := by
  by_cases hid : id' = id
  · subst hid
    refine ⟨fun hlive => .inr ⟨live_unique h.live hlive, rfl⟩, ?_⟩
    rintro (hold | ⟨rfl, -⟩)
    · cases h with
      | renewed hlive hversion => exact live_unique hlive hold ▸ (Opening.renewed hlive hversion).live
      | created op _ _ hnew =>
        obtain ⟨o, ho, -⟩ := hold
        obtain ⟨hmem, hkey⟩ := Table.lookup_eq_some.mp ho
        exact absurd hkey (hnew.new o hmem)
    · exact h.live
  · unfold Live
    rw [h.lookup_other hid]
    simp [hid]

theorem Opening.opens (h : Opening type id historyId db.toDatabase d) :
    Opens type id historyId db { db with toDatabase := d } where
  object := by
    obtain ⟨o, ho, htype, -, hversion⟩ := h.object
    exact ⟨o, ho, htype, hversion⟩
  registry _ hne := h.lookup_other hne
  otherObjects _ hne := h.otherObjects hne
  objectHistory := h.objectHistory
  unused := h.unused.ge
  used := by
    rw [h.unused, h.rest]
    exact Nat.lt_succ_self _
  history part := by cases part <;> rfl
  rows part _ _ := by cases part <;> rfl

end Opening

section Records

/-- Statements that write rows of the object to one table. -/
theorem worksOn_of_part (part : Part) (hrows : ∀ id' ≠ id, part.rows s' id' = part.rows s id')
    (hregistry : s'.objectRegistry = s.objectRegistry := by rfl)
    (hobject : s'.object = s.object := by rfl)
    (hobjectHistory : s'.objectHistory = s.objectHistory := by rfl)
    (hseq : s'.historySeq = s.historySeq := by rfl)
    (hhistory : ∀ p : Part, p.history s' = p.history s := by intro p; cases p <;> rfl)
    (hother : ∀ p ≠ part, p.table s' = p.table s := by
      intro p hp; cases p <;> first | exact absurd rfl hp | rfl) : WorksOn id s s' := by
  refine ⟨hregistry, hobject, hobjectHistory, hseq, hhistory, fun p id' hne => ?_⟩
  by_cases hp : p = part
  · subst hp
    exact hrows id' hne
  · unfold Part.rows
    rw [hother p hp]

section Tables

variable {ρ κ : Type} [Keyed ρ κ] {t : Table ρ}

/-- A row of the object concerns no other one. -/
theorem select_of_inserted [DecidableEq κ] {t' : Table ρ} {row : ρ} {owner : ρ → Nat}
    (ht : t.insert? row = some t') (hid : owner row = id) :
    ∀ id' ≠ id, t'.select (owner · = id') = t.select (owner · = id') :=
  fun _ hne => Table.select_of_insert? ht fun howner => hne (howner.symm.trans hid)

theorem select_of_deleted {owner : ρ → Nat} {p : ρ → Prop} [DecidablePred p]
    (hp : ∀ r ∈ t, p r → owner r = id) :
    ∀ id' ≠ id, (t.delete p).select (owner · = id') = t.select (owner · = id') :=
  fun _ hne => Table.select_delete fun r hr hpr howner => hne (howner.symm.trans (hp r hr hpr))

theorem select_of_updated (owner : ρ → Nat) (f : ρ → ρ) (hf : ∀ r, Keyed.key (f r) = Keyed.key r)
    (howner : ∀ r, owner (f r) = owner r) : ∀ id' ≠ id,
      (t.update (owner · = id) f hf).select (owner · = id') = t.select (owner · = id') := by
  intro id' hne
  refine Table.select_update hf (fun r hr hr' => hne (hr'.symm.trans hr)) fun r hr hr' => ?_
  exact hne (hr'.symm.trans ((howner r).trans hr))

end Tables

/-- Every address is one of a host that belongs to the same nsset. -/
def HasHosts (db : ObjectDatabase) : Prop :=
  ∀ ip ∈ db.hostIpaddrMap, ∃ h ∈ db.host, h.id = ip.hostid ∧ h.nssetid = ip.nssetid

theorem Write.hasHosts (h : Write procedures id s type s') (hs : HasHosts s) : HasHosts s' := by
  cases h with
  | insertHost _ ht =>
    intro ip hip
    obtain ⟨host, hhost, hid⟩ := hs ip hip
    exact ⟨host, (Table.mem_of_insert? ht).mpr (.inl hhost), hid⟩
  | deleteHost fqdn hh =>
    intro ip hip
    obtain ⟨hip, hother⟩ := Table.mem_delete.mp hip
    obtain ⟨host, hhost, hid, hnsset⟩ := hs ip hip
    refine ⟨host, Table.mem_delete.mpr ⟨hhost, fun hnames => hother ?_⟩, hid, hnsset⟩
    rw [(Table.select_eq_singleton.mp hh).2.2 host hhost hnames] at hid
    exact hid.symm
  | insertIpaddr hh hid _ ht =>
    intro ip hip
    rcases (Table.mem_of_insert? ht).mp hip with hip | rfl
    · exact hs ip hip
    · exact ⟨_, hh, rfl, hid⟩
  | _ => exact hs

theorem Write.worksOn (h : Write procedures id s type s') (hs : HasHosts s) : WorksOn id s s' := by
  cases h with
  | insertDomain _ hid _ ht => exact worksOn_of_part .domain (select_of_inserted ht hid)
  | setDomain columns _ =>
    exact worksOn_of_part .domain (select_of_updated Db.Domain.id _ columns.key_set fun _ => rfl)
  | linkAdmin _ ht => exact worksOn_of_part .domainContactMap (select_of_inserted ht rfl)
  | unlinkAdmin _ =>
    exact worksOn_of_part .domainContactMap (select_of_deleted fun _ _ hm => congrArg Prod.fst hm)
  | insertEnumval _ hid ht => exact worksOn_of_part .enumval (select_of_inserted ht hid)
  | setEnumval f hf => exact worksOn_of_part .enumval (select_of_updated Enumval.domainid f hf hf)
  | insertNsset _ hid ht => exact worksOn_of_part .nsset (select_of_inserted ht hid)
  | setChecklevel checklevel =>
    exact worksOn_of_part .nsset (select_of_updated Db.Nsset.id (fun n => { n with checklevel })
      (fun _ => rfl) fun _ => rfl)
  | linkNssetTech _ ht => exact worksOn_of_part .nssetContactMap (select_of_inserted ht rfl)
  | unlinkNssetTech _ =>
    exact worksOn_of_part .nssetContactMap (select_of_deleted fun _ _ hm => congrArg Prod.fst hm)
  | skipHost => exact worksOn_of_part .host fun _ _ => rfl
  | insertHost _ ht => exact worksOn_of_part .host (select_of_inserted ht rfl)
  | deleteHost fqdn hh =>
    obtain ⟨hhost, ⟨-, hnsset⟩, -⟩ := Table.select_eq_singleton.mp hh
    have hhosts : WorksOn id s { s with host := s.host.delete (NamesHost id fqdn) } :=
      worksOn_of_part .host (select_of_deleted fun _ _ hnames => hnames.2)
    refine trans_of _ hhosts (worksOn_of_part .hostIpaddrMap (select_of_deleted fun ip hip hid => ?_))
    obtain ⟨host, hhost', hid', hnsset'⟩ := hs ip hip
    obtain rfl : host = _ := Table.eq_of_key_eq hhost' hhost (hid'.trans hid)
    exact hnsset'.symm.trans hnsset
  | insertIpaddr _ _ _ ht => exact worksOn_of_part .hostIpaddrMap (select_of_inserted ht rfl)
  | insertKeyset _ hid ht => exact worksOn_of_part .keyset (select_of_inserted ht hid)
  | linkKeysetTech _ ht => exact worksOn_of_part .keysetContactMap (select_of_inserted ht rfl)
  | unlinkKeysetTech _ =>
    exact worksOn_of_part .keysetContactMap (select_of_deleted fun _ _ hm => congrArg Prod.fst hm)
  | skipKey => exact worksOn_of_part .dnskey fun _ _ => rfl
  | insertKey _ ht => exact worksOn_of_part .dnskey (select_of_inserted ht rfl)
  | deleteKey _ => exact worksOn_of_part .dnskey (select_of_deleted fun _ _ hk => hk.1)

theorem Writes.worksOn (h : Writes procedures type id s s') (hs : HasHosts s) :
    WorksOn id s s' ∧ HasHosts s' := by
  induction h with
  | refl => exact ⟨refl_of _ s, hs⟩
  | tail _ hwrite ih => exact ⟨trans_of _ ih.1 (hwrite.worksOn ih.2), hwrite.hasHosts ih.2⟩

theorem rows_erased (part : Part) {id' : Nat} (hne : id' ≠ id) :
    part.rows (erased procedures db id type) id' = part.rows db id' := by
  cases type with
  | contact => cases part <;> rfl
  | domain =>
    cases part <;> first | rfl | exact select_of_deleted (fun _ _ hr => hr) id' hne
  | nsset =>
    cases part <;> first | rfl | exact select_of_deleted (fun _ _ hr => hr) id' hne
  | keyset =>
    cases part <;> first | rfl | exact select_of_deleted (fun _ _ hr => hr) id' hne

theorem lookup_unregistered {d : Database} {id' : Nat} :
    (unregistered d id).objectRegistry.lookup id' = if id' = id then
      (d.objectRegistry.lookup id').map fun o => { o with erdate := some d.now }
    else d.objectRegistry.lookup id' := by
  have hkey (o : Db.ObjectRegistry) : Keyed.key { o with erdate := some d.now } = Keyed.key o := rfl
  exact Table.lookup_update_row hkey fun _ => Iff.rfl

theorem object_unregistered {d : Database} {id' : Nat} :
    (unregistered d id).object.lookup id' = if id' = id then none else d.object.lookup id' := by
  refine Table.lookup_delete.trans ?_
  cases ho : d.object.lookup id' with
  | none => simp
  | some o =>
    obtain rfl : o.id = id' := (Table.lookup_eq_some.mp ho).2
    by_cases hid : o.id = id <;> simp [hid]

/-- Contacts have versions, too, which keep nothing but their rows in the table of objects. -/
theorem recordsVersions_of_contact {d : Database} (h : Opening .contact id historyId db.toDatabase d)
    (hregistry : d'.objectRegistry = d.objectRegistry) (hobject : d'.object = d.object)
    (hobjectHistory : d'.objectHistory = d.objectHistory) (hseq : d'.historySeq = d.historySeq) :
    RecordsVersions db { db with toDatabase := d' } := by
  have hused : d'.historySeq = db.historySeq + 1 := by
    rw [hseq, h.rest]
  have hkept (v : Nat) (hv : v ≠ historyId) :
      versions.kept { db with toDatabase := d' } v = versions.kept db v := by
    refine congrArg₂ ObjectRows.mk ?_ (funext fun part => by cases part <;> rfl)
    rw [keptObject_append (hobjectHistory.trans h.objectHistory) v, if_neg hv, List.append_nil]
    rfl
  have hgrows : db.historySeq < d'.historySeq := hused ▸ Nat.lt_succ_self _
  refine fun _ => ⟨fun v hv => lt_trans hv hgrows, fun v hv => hkept v ?_, fun v hv => hkept v ?_,
    fun id' => ?_⟩
  · exact h.unused ▸ Nat.ne_of_lt hv
  · exact h.unused ▸ (hgrows.trans_le (Nat.le_of_not_lt hv)).ne'
  by_cases hid : id' = id
  · subst hid
    refine .inl (current_of_not_live fun o ho htype => absurd ?_ htype)
    obtain ⟨o', ho', hcontact, -⟩ := h.object
    rw [Option.some.inj ((Option.mem_def.mp ho).symm.trans ((congrArg (·.lookup id') hregistry).trans ho'))]
    exact hcontact
  · refine .inr (.inl (same_of ?_ ?_ fun part => by cases part <;> rfl))
    · exact (congrArg (·.lookup id') hregistry).trans (h.lookup_other hid)
    · exact (congrArg (·.lookup id') hobject).trans (h.otherObjects hid)

/-- No operation changes a domain, nsset or keyset without a version that keeps it. -/
theorem Change.records (h : Change procedures db db') (hs : HasHosts db) : RecordsVersions db db' := by
  cases h with
  | object hopening hwrites hzone hcopies =>
    exact (hopening.opens.worksOn (hwrites.worksOn hs).1).records hcopies
  | contact hlive hversion hkeeps =>
    exact recordsVersions_of_contact (.renewed hlive hversion) (by rw [hkeeps.rest]) (by rw [hkeeps.rest])
      (by rw [hkeeps.rest]) (by rw [hkeeps.rest])
  | newContact row htype hnew hid ht hkeeps =>
    exact recordsVersions_of_contact (opening_newContact htype hnew) (by rw [hkeeps.rest])
      (by rw [hkeeps.rest]) (by rw [hkeeps.rest]) (by rw [hkeeps.rest])
  | @delete type id hlive hrow hunlinked =>
    have hregistry : (erased procedures db id type).objectRegistry = db.objectRegistry := by
      cases type <;> rfl
    refine recordsVersions_of_same ?_ ?_ (fun part => ?_) fun id' => ?_
    · cases type <;> exact le_rfl
    · cases type <;> rfl
    · cases type <;> cases part <;> rfl
    by_cases hid : id' = id
    · subst hid
      refine .inl (current_of_not_live fun o ho _ => ?_)
      rw [Option.mem_def, lookup_unregistered, if_pos rfl] at ho
      obtain ⟨_, -, rfl⟩ := Option.map_eq_some_iff.mp ho
      exact Option.some_ne_none _
    · refine .inr (same_of ?_ ?_ fun part => ?_)
      · rw [lookup_unregistered, if_neg hid, hregistry]
      · have hobject : (erased procedures db id type).object = db.object := by cases type <;> rfl
        rw [object_unregistered, if_neg hid, hobject]
      · have hrows : part.rows (erased procedures db id type) id' = part.rows db id' := rows_erased part hid
        cases part <;> exact hrows
  | states requests hos =>
    exact recordsVersions_of_same le_rfl rfl (fun part => by cases part <;> rfl) fun id =>
      .inr (same_of rfl rfl fun part => by cases part <;> rfl)
  | passwords hprepares =>
    have hobject (id : Nat) : _ = db.object.lookup id := hprepares.others id (Set.notMem_empty id)
    rw [hprepares.rest]
    exact recordsVersions_of_same le_rfl rfl (fun part => by cases part <;> rfl) fun id =>
      .inr (same_of rfl (hobject id) fun part => by cases part <;> rfl)
  | rollback hseq =>
    exact recordsVersions_of_same hseq rfl (fun part => by cases part <;> rfl) fun id =>
      .inr (same_of rfl rfl fun part => by cases part <;> rfl)
  | elsewhere now hregistrar hzone =>
    exact recordsVersions_of_same le_rfl rfl (fun part => by cases part <;> rfl) fun id =>
      .inr (same_of rfl rfl fun part => by cases part <;> rfl)

end Records

section Grounded

/-- Every row of an object is one of a live object of its type, and every address is one of a host. -/
structure Grounded (db : ObjectDatabase) : Prop where
  rows : ∀ type id, HasRow db type id → Live db.toDatabase type id
  hosts : HasHosts db

variable {type' : Db.ObjectType} {id' : Nat}

/-- The rows of objects depend on four tables only. -/
theorem hasRow_of_same (hrow : HasRow s' type' id')
    (hcontact : (s'.contact.lookup id').isSome = (s.contact.lookup id').isSome)
    (hdomain : (s'.domain.lookup id').isSome = (s.domain.lookup id').isSome := by rfl)
    (hnsset : (s'.nsset.lookup id').isSome = (s.nsset.lookup id').isSome := by rfl)
    (hkeyset : (s'.keyset.lookup id').isSome = (s.keyset.lookup id').isSome := by rfl) :
    HasRow s type' id' := by
  cases type' with
  | contact => exact hcontact.symm.trans hrow
  | domain => exact hdomain.symm.trans hrow
  | nsset => exact hnsset.symm.trans hrow
  | keyset => exact hkeyset.symm.trans hrow

section Lookup

variable {ρ : Type} [Keyed ρ Nat] {t t' : Table ρ} {row : ρ}

theorem isSome_lookup_of_insert (ht : t.insert? row = some t') (hid : Keyed.key row = id) :
    (t'.lookup id').isSome ↔ (t.lookup id').isSome ∨ id' = id := by
  rw [Table.lookup_of_insert? ht, hid]
  by_cases h : id = id'
  · simp [h]
  · simp [h, Ne.symm h]

theorem isSome_lookup_update {p : ρ → Prop} [DecidablePred p] (f : ρ → ρ)
    (hf : ∀ r, Keyed.key (f r) = Keyed.key r) :
    ((t.update p f hf).lookup id').isSome = (t.lookup id').isSome := by
  rw [Table.lookup_update, Option.isSome_map]

theorem isSome_lookup_delete :
    ((t.delete (Keyed.key · = id)).lookup id').isSome ↔ (t.lookup id').isSome ∧ id' ≠ id := by
  rw [Table.lookup_delete]
  cases h : t.lookup id' with
  | none => simp
  | some r =>
    have hkey : Keyed.key r = id' := (Table.lookup_eq_some.mp h).2
    simp [hkey]

end Lookup

/-- A step writes the row of its own object at most. -/
theorem Write.hasRow (h : Write procedures id s type s') (hrow : HasRow s' type' id') :
    HasRow s type' id' ∨ type' = type ∧ id' = id := by
  cases h with
  | insertDomain row hid _ ht =>
    cases type' with
    | domain => exact ((isSome_lookup_of_insert ht hid).mp hrow).imp_right fun h => ⟨rfl, h⟩
    | _ => exact .inl hrow
  | setDomain columns _ =>
    exact .inl (hasRow_of_same hrow rfl (isSome_lookup_update _ columns.key_set))
  | insertNsset row hid ht =>
    cases type' with
    | nsset => exact ((isSome_lookup_of_insert ht hid).mp hrow).imp_right fun h => ⟨rfl, h⟩
    | _ => exact .inl hrow
  | setChecklevel checklevel =>
    refine .inl (hasRow_of_same hrow rfl rfl ?_)
    exact isSome_lookup_update (fun n : Db.Nsset => { n with checklevel := checklevel }) fun _ => rfl
  | insertKeyset row hid ht =>
    cases type' with
    | keyset => exact ((isSome_lookup_of_insert ht hid).mp hrow).imp_right fun h => ⟨rfl, h⟩
    | _ => exact .inl hrow
  | _ => exact .inl (hasRow_of_same hrow rfl)

theorem Writes.hasRow (h : Writes procedures type id s s') (hrow : HasRow s' type' id') :
    HasRow s type' id' ∨ type' = type ∧ id' = id := by
  induction h with
  | refl => exact .inl hrow
  | tail _ hwrite ih => exact (hwrite.hasRow hrow).elim ih .inr

theorem hasRow_erased : HasRow (erased procedures db id type) type' id' ↔
    HasRow db type' id' ∧ (type' = type → id' ≠ id) := by
  have hsame (t : Db.ObjectType) : (t = t → id' ≠ id) ↔ id' ≠ id := ⟨fun h => h rfl, fun h _ => h⟩
  cases type <;> cases type' <;>
    first
    | exact (and_iff_left nofun).symm
    | exact isSome_lookup_delete.trans (and_congr_right' (hsame _).symm)

theorem Opening.hasRow (h : Opening type id historyId db.toDatabase d)
    (hrow : HasRow { db with toDatabase := d } type' id') : HasRow db type' id' := by
  refine hasRow_of_same hrow ?_
  rw [h.rest]

theorem Opening.grounded (h : Opening type id historyId db.toDatabase d) (hg : Grounded db) :
    Grounded { db with toDatabase := d } where
  rows type' id' hrow := h.live_iff.mpr (.inl (hg.rows type' id' (h.hasRow hrow)))
  hosts := hg.hosts

theorem live_congr {d' : Database} (h : d'.objectRegistry = d.objectRegistry) :
    Live d' type' id' ↔ Live d type' id' := by
  unfold Live
  rw [h]

/-- Contacts of an object that is registered as a contact. -/
theorem grounded_of_contact {d : Database} (h : Opening .contact id historyId db.toDatabase d)
    (hg : Grounded db) (hregistry : d'.objectRegistry = d.objectRegistry)
    (hcontacts : ∀ id', (d'.contact.lookup id').isSome → (d.contact.lookup id').isSome ∨ id' = id) :
    Grounded { db with toDatabase := d' } where
  rows type' id' hrow := by
    refine (live_congr hregistry).mpr ?_
    have hold := (h.grounded hg).rows
    cases type' with
    | contact =>
      rcases hcontacts id' hrow with hrow | rfl
      · exact hold .contact id' hrow
      · exact h.live
    | domain => exact hold .domain id' hrow
    | nsset => exact hold .nsset id' hrow
    | keyset => exact hold .keyset id' hrow
  hosts := hg.hosts

theorem hasHosts_erased (hs : HasHosts db) : HasHosts (erased procedures db id type) := by
  cases type with
  | nsset =>
    intro ip hip
    obtain ⟨hip, hother⟩ := Table.mem_delete.mp hip
    obtain ⟨host, hhost, hid, hnsset⟩ := hs ip hip
    exact ⟨host, Table.mem_delete.mpr ⟨hhost, fun h => hother (hnsset.symm.trans h)⟩, hid, hnsset⟩
  | _ => exact hs

theorem Change.grounded (h : Change procedures db db') (hg : Grounded db) : Grounded db' := by
  cases h with
  | @object type id historyId d s db' hopening hwrites hzone hcopies =>
    have hg' := hopening.grounded hg
    obtain ⟨hworks, hhosts⟩ := hwrites.worksOn hg'.hosts
    have hregistry : db'.objectRegistry = d.objectRegistry := hcopies.registry.trans hworks.registry
    refine ⟨fun type' id' hrow => (live_congr hregistry).mpr ?_, ?_⟩
    · have hrow' : HasRow s type' id' := by
        rw [hcopies.rest] at hrow
        exact hasRow_of_same hrow rfl
      rcases hwrites.hasRow hrow' with hold | ⟨rfl, rfl⟩
      · exact hg'.rows type' id' hold
      · exact hopening.live
    · rw [hcopies.rest]
      exact hhosts
  | contact hlive hversion hkeeps =>
    refine grounded_of_contact (.renewed hlive hversion) hg (by rw [hkeeps.rest]) fun id' hrow => ?_
    exact .inl (hkeeps.contacts id' ▸ hrow)
  | newContact row htype hnew hid ht hkeeps =>
    refine grounded_of_contact (opening_newContact htype hnew) hg (by rw [hkeeps.rest]) fun id' hrow => ?_
    exact (isSome_lookup_of_insert ht hid).mp (hkeeps.contacts id' ▸ hrow)
  | @delete type id hlive hrow hunlinked =>
    have hregistry : (erased procedures db id type).objectRegistry = db.objectRegistry := by
      cases type <;> rfl
    refine ⟨fun type' id' hrow' => ?_, ?_⟩
    · have hrow' : HasRow (erased procedures db id type) type' id' := hasRow_of_same hrow' rfl
      obtain ⟨hold, hother⟩ := hasRow_erased.mp hrow'
      have hlive' := hg.rows type' id' hold
      have hne : id' ≠ id := by
        rintro rfl
        exact hother (live_unique (hg.rows type id' hrow) hlive') rfl
      unfold Live
      rw [lookup_unregistered, if_neg hne, hregistry]
      exact hlive'
    · exact hasHosts_erased hg.hosts
  | states requests hos => exact ⟨fun type' id' hrow => hg.rows type' id' (hasRow_of_same hrow rfl), hg.hosts⟩
  | passwords hprepares =>
    rw [hprepares.rest]
    exact ⟨fun type' id' hrow => hg.rows type' id' (hasRow_of_same hrow rfl), hg.hosts⟩
  | rollback hseq => exact ⟨fun type' id' hrow => hg.rows type' id' (hasRow_of_same hrow rfl), hg.hosts⟩
  | elsewhere now hregistrar hzone =>
    exact ⟨fun type' id' hrow => hg.rows type' id' (hasRow_of_same hrow rfl), hg.hosts⟩

/-- Whatever the operations do, the objects that they change are in new versions. -/
theorem Changes.records (h : Changes procedures db db') (hg : Grounded db) :
    RecordsVersions db db' ∧ Grounded db' := by
  induction h with
  | refl => exact ⟨refl_of _ db, hg⟩
  | tail _ hchange ih =>
    obtain ⟨hrecords, hg⟩ := ih
    exact ⟨trans_of _ hrecords (hchange.records hg.hosts), hchange.grounded hg⟩

end Grounded

end LibFred.RegistrableObject
