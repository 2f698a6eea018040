import LibFred.RegistrableObject.Domain.UpdateDomain
import LibFred.RegistrableObject.Keyset.UpdateKeyset
import LibFred.RegistrableObject.Nsset.UpdateNsset
import LibFred.Versioning

/-! The versions of domains, nssets and keysets: what their history tables keep of them. -/
namespace LibFred.RegistrableObject

open Sql
open LibFred.Db
open Versioning (Store)

/-- The tables that the data of domains, nssets and keysets is in. -/
inductive Part
  | domain
  | domainContactMap
  | enumval
  | nsset
  | host
  | hostIpaddrMap
  | nssetContactMap
  | keyset
  | dsrecord
  | dnskey
  | keysetContactMap

namespace Part

variable (part : Part) (db : ObjectDatabase)

@[reducible] def Row : Part → Type
  | domain => Db.Domain
  | domainContactMap => DomainContactMap
  | enumval => Enumval
  | nsset => Db.Nsset
  | host => Host
  | hostIpaddrMap => HostIpaddrMap
  | nssetContactMap => NssetContactMap
  | keyset => Db.Keyset
  | dsrecord => Dsrecord
  | dnskey => Dnskey
  | keysetContactMap => KeysetContactMap

/-- The type of the objects that the table is about. -/
def type : Part → Db.ObjectType
  | domain | domainContactMap | enumval => .domain
  | nsset | host | hostIpaddrMap | nssetContactMap => .nsset
  | keyset | dsrecord | dnskey | keysetContactMap => .keyset

/-- The object that a row belongs to. -/
def owner : (part : Part) → part.Row → Nat
  | domain => Db.Domain.id
  | domainContactMap => DomainContactMap.domainid
  | enumval => Enumval.domainid
  | nsset => Db.Nsset.id
  | host => Host.nssetid
  | hostIpaddrMap => HostIpaddrMap.nssetid
  | nssetContactMap => NssetContactMap.nssetid
  | keyset => Db.Keyset.id
  | dsrecord => Dsrecord.keysetid
  | dnskey => Dnskey.keysetid
  | keysetContactMap => KeysetContactMap.keysetid

def table : (part : Part) → List part.Row
  | domain => db.domain.rows
  | domainContactMap => db.domainContactMap.rows
  | enumval => db.enumval.rows
  | nsset => db.nsset.rows
  | host => db.host.rows
  | hostIpaddrMap => db.hostIpaddrMap.rows
  | nssetContactMap => db.nssetContactMap.rows
  | keyset => db.keyset.rows
  | dsrecord => db.dsrecord.rows
  | dnskey => db.dnskey.rows
  | keysetContactMap => db.keysetContactMap.rows

def history : (part : Part) → List (Historical part.Row)
  | domain => db.domainHistory.rows
  | domainContactMap => db.domainContactMapHistory.rows
  | enumval => db.enumvalHistory.rows
  | nsset => db.nssetHistory.rows
  | host => db.hostHistory.rows
  | hostIpaddrMap => db.hostIpaddrMapHistory.rows
  | nssetContactMap => db.nssetContactMapHistory.rows
  | keyset => db.keysetHistory.rows
  | dsrecord => db.dsrecordHistory.rows
  | dnskey => db.dnskeyHistory.rows
  | keysetContactMap => db.keysetContactMapHistory.rows

/-- The rows of an object. -/
def rows (id : Nat) : List part.Row := (part.table db).filter (part.owner · = id)

/-- The rows that a version has kept. -/
def kept (historyId : Nat) : List part.Row :=
  ((part.history db).filter (·.historyid = historyId)).map (·.row)

/-- The rows of an object of a type, none in tables about another type. -/
def rowsOf (type : Db.ObjectType) (id : Nat) : List part.Row :=
  if part.type = type then part.rows db id else []

end Part

/-- The rows of an object: that of the table of all objects and those of the tables about its type. -/
structure ObjectRows where
  object : List Db.Object
  parts : (part : Part) → List part.Row

/-- The rows that an object of a type has now. -/
def objectRows (db : ObjectDatabase) (type : Db.ObjectType) (id : Nat) : ObjectRows :=
  ⟨(db.object.lookup id).toList, fun part => part.rowsOf db type id⟩

/-- The rows of object_history that a version has kept. -/
def keptObject (db : ObjectDatabase) (historyId : Nat) : List Db.Object :=
  (db.objectHistory.filter (·.historyid = historyId)).map (·.row)

/-- The live domains, nssets and keysets with the rows that they have in every table, and their
versions. -/
def versions : Store ObjectDatabase Nat Nat ObjectRows where
  current db id := ((db.objectRegistry.lookup id).filter fun o => o.type ≠ .contact ∧ o.erdate = none).map
    fun o => objectRows db o.type id
  version db id := (db.objectRegistry.lookup id).bind (·.historyid)
  kept db historyId := ⟨keptObject db historyId, fun part => part.kept db historyId⟩
  used db := {historyId | historyId < db.historySeq}
  blank := ⟨[], fun _ => []⟩

/-- Nothing but new versions of the objects that have changed has been added to the history. -/
def RecordsVersions (db db' : ObjectDatabase) : Prop := versions.Blank db → versions.Records db db'

variable {db db' db'' : ObjectDatabase} {type : Db.ObjectType} {id historyId : Nat} {part : Part}

theorem current_of_live {o : Db.ObjectRegistry} (ho : db.objectRegistry.lookup id = some o)
    (hlive : o.type ≠ .contact ∧ o.erdate = none) :
    versions.current db id = some (objectRows db o.type id) := by
  simp [versions, ho, hlive]

theorem current_of_not_live
    (h : ∀ o ∈ db.objectRegistry.lookup id, o.type ≠ .contact → o.erdate ≠ none) :
    versions.current db id = none := by
  simpa [versions, Option.filter_eq_none_iff] using h

/-- The registry and the rows of the object have not changed. -/
theorem same_of (hregistry : db'.objectRegistry.lookup id = db.objectRegistry.lookup id)
    (hobject : db'.object.lookup id = db.object.lookup id)
    (hrows : ∀ part : Part, part.rows db' id = part.rows db id) : versions.Same db db' id := by
  refine ⟨?_, ?_⟩
  · simp only [versions, hregistry, objectRows, hobject, Part.rowsOf, hrows]
  · simp only [versions, hregistry]

theorem keptObject_append {o : Option Db.Object} {history : List (Historical Db.Object)}
    (h : db'.objectHistory = history ++ o.toList.map (⟨historyId, ·⟩)) (historyId' : Nat) :
    keptObject db' historyId' = (history.filter (·.historyid = historyId')).map (·.row) ++
      if historyId' = historyId then o.toList else [] := by
  unfold keptObject
  rw [h, List.filter_append, List.map_append]
  refine congrArg _ ?_
  cases o with
  | none => simp
  | some o =>
    by_cases hid : historyId' = historyId
    · simp [hid]
    · simp [hid, Ne.symm hid]

instance : Std.Refl RecordsVersions := ⟨fun db _ => .refl db⟩

instance : IsTrans ObjectDatabase RecordsVersions where
  trans _ _ _ h h' hblank := (h hblank).trans (h' ((h hblank).keeps_blank hblank))

/-- Statements that change neither versions nor any object but one. -/
structure WorksOn (id : Nat) (db db' : ObjectDatabase) : Prop where
  registry : db'.objectRegistry = db.objectRegistry
  object : db'.object = db.object
  objectHistory : db'.objectHistory = db.objectHistory
  historySeq : db'.historySeq = db.historySeq
  history : ∀ part : Part, part.history db' = part.history db
  rows : ∀ part : Part, ∀ id' ≠ id, part.rows db' id' = part.rows db id'

instance : Std.Refl (WorksOn id) := ⟨fun _ => ⟨rfl, rfl, rfl, rfl, fun _ => rfl, fun _ _ _ => rfl⟩⟩

instance : IsTrans ObjectDatabase (WorksOn id) where
  trans _ _ _ h h' := ⟨h'.registry.trans h.registry, h'.object.trans h.object,
    h'.objectHistory.trans h.objectHistory, h'.historySeq.trans h.historySeq,
    fun part => (h'.history part).trans (h.history part),
    fun part id' hne => (h'.rows part id' hne).trans (h.rows part id' hne)⟩

/-- An object has been given a version that keeps nothing but the row of the object yet. -/
structure Opens (type : Db.ObjectType) (id historyId : Nat) (db db' : ObjectDatabase) : Prop where
  object : ∃ o ∈ db'.objectRegistry.lookup id, o.type = type ∧ o.historyid = some historyId
  registry : ∀ id' ≠ id, db'.objectRegistry.lookup id' = db.objectRegistry.lookup id'
  otherObjects : ∀ id' ≠ id, db'.object.lookup id' = db.object.lookup id'
  objectHistory : db'.objectHistory =
    db.objectHistory ++ (db'.object.lookup id).toList.map (⟨historyId, ·⟩)
  unused : db.historySeq ≤ historyId
  used : historyId < db'.historySeq
  history : ∀ part : Part, part.history db' = part.history db
  rows : ∀ part : Part, ∀ id' ≠ id, part.rows db' id' = part.rows db id'

theorem Opens.worksOn (h : Opens type id historyId db db') (h' : WorksOn id db' db'') :
    Opens type id historyId db db'' where
  object := h'.registry ▸ h.object
  registry id' hne := h'.registry ▸ h.registry id' hne
  otherObjects id' hne := h'.object ▸ h.otherObjects id' hne
  objectHistory := by
    rw [h'.objectHistory, h'.object]
    exact h.objectHistory
  unused := h.unused
  used := h'.historySeq ▸ h.used
  history part := (h'.history part).trans (h.history part)
  rows part id' hne := (h'.rows part id' hne).trans (h.rows part id' hne)

/-- An object of a type has its row in the table of its type. -/
def HasRow (db : ObjectDatabase) : Db.ObjectType → Nat → Prop
  | .contact, id => (db.contact.lookup id).isSome
  | .domain, id => (db.domain.lookup id).isSome
  | .nsset, id => (db.nsset.lookup id).isSome
  | .keyset, id => (db.keyset.lookup id).isSome

/-- The rows of an object have been copied to the history. -/
structure Copies (type : Db.ObjectType) (id historyId : Nat) (db db' : ObjectDatabase) : Prop where
  row : HasRow db type id
  rest : db' = { db with
    domainHistory := db'.domainHistory
    domainContactMapHistory := db'.domainContactMapHistory
    enumvalHistory := db'.enumvalHistory
    nssetHistory := db'.nssetHistory
    hostHistory := db'.hostHistory
    hostIpaddrMapHistory := db'.hostIpaddrMapHistory
    nssetContactMapHistory := db'.nssetContactMapHistory
    keysetHistory := db'.keysetHistory
    dsrecordHistory := db'.dsrecordHistory
    dnskeyHistory := db'.dnskeyHistory
    keysetContactMapHistory := db'.keysetContactMapHistory }
  history : ∀ part : Part, part.history db' = part.history db ++
    if part.type = type then (part.rows db id).map (⟨historyId, ·⟩) else []

theorem Copies.toDatabase (h : Copies type id historyId db db') : db'.toDatabase = db.toDatabase := by
  rw [h.rest]

theorem Copies.registry (h : Copies type id historyId db db') :
    db'.objectRegistry = db.objectRegistry := by
  rw [h.rest]

theorem Copies.historySeq (h : Copies type id historyId db db') : db'.historySeq = db.historySeq := by
  rw [h.rest]

theorem Copies.table (h : Copies type id historyId db db') (part : Part) :
    part.table db' = part.table db := by
  rw [h.rest]
  cases part <;> rfl

theorem Copies.rows (h : Copies type id historyId db db') (id' : Nat) :
    part.rows db' id' = part.rows db id' := by
  unfold Part.rows
  rw [h.table]

theorem Copies.kept (h : Copies type id historyId db db') (historyId' : Nat) :
    part.kept db' historyId' = part.kept db historyId' ++
      if historyId' = historyId ∧ part.type = type then part.rows db id else [] := by
  unfold Part.kept
  rw [h.history, List.filter_append, List.map_append]
  refine congrArg _ ?_
  by_cases htype : part.type = type
  · by_cases hid : historyId' = historyId
    · simp [htype, hid, List.filter_map, Function.comp_def]
    · simp [htype, hid, Ne.symm hid, List.filter_map, Function.comp_def]
  · simp [htype]

section CopyToHistory

variable {ρ κ : Type} [Keyed ρ κ] [DecidableEq κ] {history : ObjectDatabase → Table (Historical ρ)}
  {setHistory : ObjectDatabase → Table (Historical ρ) → ObjectDatabase} {rows : ObjectDatabase → List ρ}
  {n : Nat}

theorem copyToHistory_inserts
    (h : (copyToHistory history setHistory rows historyId).run db = .ok n db') :
    n = (rows db).length ∧ ∃ t, t.rows = (history db).rows ++ (rows db).map (⟨historyId, ·⟩) ∧
      db' = setHistory db t := by
  simp only [copyToHistory, EStateM.run] at h
  split at h <;> cases h
  rename_i t ht
  exact ⟨rfl, t, Table.rows_of_insertAll? ht, rfl⟩

/-- The one row that is copied is there. -/
theorem isSome_of_copied {ρ : Type} [Keyed ρ Nat] {t : Table ρ}
    (h : (t.select (Keyed.key · = id)).length = 1) : (t.lookup id).isSome := by
  obtain ⟨r, hr⟩ := List.length_eq_one_iff.mp h
  obtain ⟨hmem, hkey, -⟩ := Table.select_eq_singleton.mp hr
  exact Option.isSome_of_eq_some (Table.lookup_eq_some.mpr ⟨hmem, hkey⟩)

theorem copyDomainDataToDomainHistory_copies {u : Unit}
    (h : (Domain.copyDomainDataToDomainHistory id historyId).run db = .ok u db') :
    Copies .domain id historyId db db' := by
  obtain ⟨n, s₁, hdomain, h₁⟩ := run_bind_eq_ok.mp h
  obtain ⟨rfl, t₁, ht₁, rfl⟩ := copyToHistory_inserts hdomain
  obtain ⟨_, _, hraise, h₂⟩ := run_bind_eq_ok.mp h₁
  obtain ⟨hone, rfl⟩ := run_raiseIf_eq_ok.mp hraise
  obtain ⟨_, s₂, hcontacts, h₃⟩ := run_bind_eq_ok.mp h₂
  obtain ⟨-, t₂, ht₂, rfl⟩ := copyToHistory_inserts hcontacts
  obtain ⟨_, s₃, henumval, h₄⟩ := run_bind_eq_ok.mp h₃
  obtain ⟨-, t₃, ht₃, rfl⟩ := copyToHistory_inserts henumval
  obtain ⟨-, rfl⟩ := run_pure_eq_ok.mp h₄
  refine ⟨isSome_of_copied (not_not.mp hone), rfl, fun part => ?_⟩
  cases part with
  | domain => exact ht₁
  | domainContactMap => exact ht₂
  | enumval => exact ht₃
  | _ => exact (List.append_nil _).symm

theorem copyNssetDataToNssetHistory_copies {u : Unit}
    (h : (Nsset.copyNssetDataToNssetHistory id historyId).run db = .ok u db') :
    Copies .nsset id historyId db db' := by
  obtain ⟨n, s₁, hnsset, h₁⟩ := run_bind_eq_ok.mp h
  obtain ⟨rfl, t₁, ht₁, rfl⟩ := copyToHistory_inserts hnsset
  obtain ⟨_, _, hraise, h₂⟩ := run_bind_eq_ok.mp h₁
  obtain ⟨hone, rfl⟩ := run_raiseIf_eq_ok.mp hraise
  obtain ⟨_, s₂, hhosts, h₃⟩ := run_bind_eq_ok.mp h₂
  obtain ⟨-, t₂, ht₂, rfl⟩ := copyToHistory_inserts hhosts
  obtain ⟨_, s₃, hipaddrs, h₄⟩ := run_bind_eq_ok.mp h₃
  obtain ⟨-, t₃, ht₃, rfl⟩ := copyToHistory_inserts hipaddrs
  obtain ⟨_, s₄, hcontacts, h₅⟩ := run_bind_eq_ok.mp h₄
  obtain ⟨-, t₄, ht₄, rfl⟩ := copyToHistory_inserts hcontacts
  obtain ⟨-, rfl⟩ := run_pure_eq_ok.mp h₅
  refine ⟨isSome_of_copied (not_not.mp hone), rfl, fun part => ?_⟩
  cases part with
  | nsset => exact ht₁
  | host => exact ht₂
  | hostIpaddrMap => exact ht₃
  | nssetContactMap => exact ht₄
  | _ => exact (List.append_nil _).symm

theorem copyKeysetDataToKeysetHistory_copies {u : Unit}
    (h : (Keyset.copyKeysetDataToKeysetHistory id historyId).run db = .ok u db') :
    Copies .keyset id historyId db db' := by
  obtain ⟨n, s₁, hkeyset, h₁⟩ := run_bind_eq_ok.mp h
  obtain ⟨rfl, t₁, ht₁, rfl⟩ := copyToHistory_inserts hkeyset
  obtain ⟨_, _, hraise, h₂⟩ := run_bind_eq_ok.mp h₁
  obtain ⟨hone, rfl⟩ := run_raiseIf_eq_ok.mp hraise
  obtain ⟨_, s₂, hdsrecords, h₃⟩ := run_bind_eq_ok.mp h₂
  obtain ⟨-, t₂, ht₂, rfl⟩ := copyToHistory_inserts hdsrecords
  obtain ⟨_, s₃, hkeys, h₄⟩ := run_bind_eq_ok.mp h₃
  obtain ⟨-, t₃, ht₃, rfl⟩ := copyToHistory_inserts hkeys
  obtain ⟨_, s₄, hcontacts, h₅⟩ := run_bind_eq_ok.mp h₄
  obtain ⟨-, t₄, ht₄, rfl⟩ := copyToHistory_inserts hcontacts
  obtain ⟨-, rfl⟩ := run_pure_eq_ok.mp h₅
  refine ⟨isSome_of_copied (not_not.mp hone), rfl, fun part => ?_⟩
  cases part with
  | keyset => exact ht₁
  | dsrecord => exact ht₂
  | dnskey => exact ht₃
  | keysetContactMap => exact ht₄
  | _ => exact (List.append_nil _).symm

end CopyToHistory

/-- An object that has been given a version which then keeps it has been recorded. -/
theorem Opens.records (h : Opens type id historyId db db') (hcopies : Copies type id historyId db' db'') :
    RecordsVersions db db'' := by
  intro hblank
  have hdatabase : db''.toDatabase = db'.toDatabase := hcopies.toDatabase
  have hobjects (v : Nat) : keptObject db'' v =
      keptObject db v ++ if v = historyId then (db''.object.lookup id).toList else [] := by
    refine keptObject_append ?_ v
    rw [hdatabase]
    exact h.objectHistory
  have hold (v : Nat) (hv : v ≠ historyId) : versions.kept db'' v = versions.kept db v := by
    refine congrArg₂ ObjectRows.mk ?_ (funext fun part => ?_)
    · rw [hobjects, if_neg hv, List.append_nil]
    · rw [hcopies.kept, if_neg fun hand => hv hand.1, List.append_nil]
      unfold Part.kept
      rw [h.history]
  have hnew (part : Part) :
      part.kept db'' historyId = if part.type = type then part.rows db'' id else [] := by
    have hunused : part.kept db' historyId = [] := by
      unfold Part.kept
      rw [h.history]
      exact congrFun (congrArg ObjectRows.parts (hblank historyId (Nat.not_lt.mpr h.unused))) part
    rw [hcopies.kept, hunused, List.nil_append, hcopies.rows]
    simp
  have hnewObject : keptObject db'' historyId = (db''.object.lookup id).toList := by
    rw [hobjects, if_pos rfl,
      show keptObject db historyId = [] from
        congrArg ObjectRows.object (hblank historyId (Nat.not_lt.mpr h.unused)), List.nil_append]
  have hused : db.historySeq ≤ db''.historySeq := by
    rw [hcopies.historySeq]
    exact h.unused.trans h.used.le
  refine ⟨fun v hv => hv.trans_le hused, fun v hv => hold v ?_, fun v hv => hold v ?_,
    fun id' => ?_⟩
  · rintro rfl
    exact absurd hv (Nat.not_lt.mpr h.unused)
  · rintro rfl
    exact hv (hcopies.historySeq.symm ▸ h.used :)
  · by_cases hid : id' = id
    · subst hid
      obtain ⟨o, ho, rfl, hversion⟩ := h.object
      rw [← hcopies.registry] at ho
      by_cases hlive : o.type ≠ .contact ∧ o.erdate = none
      · refine .inr (.inr ⟨historyId, (hcopies.historySeq.symm ▸ h.used :), Nat.not_lt.mpr h.unused,
          (congrArg (Option.bind · _) ho).trans hversion, ?_⟩)
        rw [current_of_live ho hlive]
        exact congrArg some (congrArg₂ ObjectRows.mk hnewObject.symm (funext fun part => (hnew part).symm))
      · refine .inl (current_of_not_live fun o' ho' htype herdate => hlive ?_)
        obtain rfl := Option.some.inj (ho.symm.trans ho')
        exact ⟨htype, herdate⟩
    · refine .inr (.inl (same_of ?_ ?_ fun part => ?_))
      · rw [hcopies.registry, h.registry id' hid]
      · rw [hdatabase, h.otherObjects id' hid]
      · rw [hcopies.rows, h.rows part id' hid]

/-- Statements that record nothing leave the objects and the versions alone. -/
theorem recordsVersions_of_same (hseq : db.historySeq ≤ db'.historySeq)
    (hobjectHistory : db'.objectHistory = db.objectHistory)
    (hhistory : ∀ part : Part, part.history db' = part.history db)
    (hobject : ∀ id, versions.current db' id = none ∨ versions.Same db db' id) :
    RecordsVersions db db' := by
  have hkept (v : Nat) : versions.kept db' v = versions.kept db v := by
    simp only [versions, keptObject, hobjectHistory, Part.kept, hhistory]
  exact fun _ => ⟨fun v hv => hv.trans_le hseq, fun v _ => hkept v, fun v _ => hkept v,
    fun id => (hobject id).imp_right .inl⟩

end LibFred.RegistrableObject
