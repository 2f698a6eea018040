import LibFred.Object.AuthinfoProgress

/-! Statements that keep the books of objects: versions, authinfos, times of updates. -/
namespace LibFred.Object

open Sql
open LibFred.Db (Database ObjectRegistry ObjectType ObjectAuthinfo Exec)

variable {db db' db'' : Database} {objectId : Nat}

/-- A registered object apart from its current version. -/
def unversioned (o : ObjectRegistry) : ObjectRegistry := { o with historyid := none }

/-- The current version of the object exists. -/
def Versioned (db : Database) (id : Nat) : Prop :=
  ∃ o, db.objectRegistry.lookup id = some o ∧ (o.historyid.bind db.history.lookup).isSome

/-- The same objects are registered, by the same registrars. -/
structure KeepsObjects (db db' : Database) : Prop where
  registry : ∀ id, (db'.objectRegistry.lookup id).map unversioned =
    (db.objectRegistry.lookup id).map unversioned
  versioned : ∀ id, Versioned db id → Versioned db' id
  sponsors : ∀ id, (db'.object.lookup id).map (·.clid) = (db.object.lookup id).map (·.clid)
  registrar : db'.registrar = db.registrar
  enumSsntype : db'.enumSsntype = db.enumSsntype
  enumCountry : db'.enumCountry = db.enumCountry

structure Bookkeeping (db db' : Database) : Prop extends KeepsObjects db db' where
  contact : db'.contact = db.contact
  contactAddress : db'.contactAddress = db.contactAddress

theorem keepsObjects_refl (db : Database) : KeepsObjects db db :=
  ⟨fun _ => rfl, fun _ h => h, fun _ => rfl, rfl, rfl, rfl⟩

theorem KeepsObjects.trans (h : KeepsObjects db db') (h' : KeepsObjects db' db'') :
    KeepsObjects db db'' where
  registry id := (h'.registry id).trans (h.registry id)
  versioned id hv := h'.versioned id (h.versioned id hv)
  sponsors id := (h'.sponsors id).trans (h.sponsors id)
  registrar := h'.registrar.trans h.registrar
  enumSsntype := h'.enumSsntype.trans h.enumSsntype
  enumCountry := h'.enumCountry.trans h.enumCountry

theorem Bookkeeping.trans (h : Bookkeeping db db') (h' : Bookkeeping db' db'') :
    Bookkeeping db db'' where
  toKeepsObjects := h.toKeepsObjects.trans h'.toKeepsObjects
  contact := h'.contact.trans h.contact
  contactAddress := h'.contactAddress.trans h.contactAddress

instance : Std.Refl Bookkeeping := ⟨fun db => ⟨keepsObjects_refl db, rfl, rfl⟩⟩

instance : IsTrans Database Bookkeeping := ⟨fun _ _ _ => Bookkeeping.trans⟩

theorem KeepsObjects.lookup_registry (h : KeepsObjects db db') {o : ObjectRegistry}
    (ho : db.objectRegistry.lookup objectId = some o) :
    ∃ o', db'.objectRegistry.lookup objectId = some o' ∧ unversioned o' = unversioned o := by
  have hmap := h.registry objectId
  rw [ho, Option.map_some, Option.map_eq_some_iff] at hmap
  exact hmap

theorem KeepsObjects.mem_registry (h : KeepsObjects db db') {o' : ObjectRegistry}
    (ho' : o' ∈ db'.objectRegistry) : ∃ o ∈ db.objectRegistry, unversioned o = unversioned o' := by
  have hlookup : db'.objectRegistry.lookup o'.id = some o' := Table.lookup_eq_some.mpr ⟨ho', rfl⟩
  have hmap := h.registry o'.id
  rw [hlookup, Option.map_some, eq_comm, Option.map_eq_some_iff] at hmap
  obtain ⟨o, ho, heq⟩ := hmap
  exact ⟨o, (Table.lookup_eq_some.mp ho).1, heq⟩

theorem moves_bookkeeping_updateAuthinfo {p : Database → ObjectAuthinfo → Prop}
    [∀ db, DecidablePred (p db)] {f : Database → ObjectAuthinfo → ObjectAuthinfo}
    {hf : ∀ db a, (f db a).id = a.id} : Moves Bookkeeping (updateAuthinfo p f hf) := by
  refine moves_of_run (fun db rows db' h => ?_) (fun db e db' h => by cases h)
  obtain ⟨-, rfl⟩ := EStateM.Result.ok.inj h
  exact ⟨⟨fun _ => rfl, fun _ h => h, fun _ => rfl, rfl, rfl, rfl⟩, rfl, rfl⟩

theorem moves_bookkeeping_insertAuthinfos {newRows : Database → List (Nat → ObjectAuthinfo)} :
    Moves Bookkeeping (insertAuthinfos newRows) := by
  refine moves_of_run (fun db u db' h => ?_) (fun db e db' h => ?_)
  all_goals
    simp only [insertAuthinfos] at h
    split at h <;> cases h
    exact ⟨⟨fun _ => rfl, fun _ h => h, fun _ => rfl, rfl, rfl, rfl⟩, rfl, rfl⟩

theorem moves_bookkeeping_storeAuthinfo {storage : PasswordStorage} {op : StoreAuthinfo}
    {salt plaintext : String} : Moves Bookkeeping (op.exec storage salt plaintext) :=
  moves_bind readOnly_raiseIf.moves fun _ => moves_bind readOnly_get.moves fun _ =>
    moves_bind readOnly_raiseIf.moves fun _ => moves_bind readOnly_raiseIf.moves fun _ =>
    moves_bind moves_bookkeeping_updateAuthinfo fun _ => moves_bookkeeping_insertAuthinfos

theorem readOnly_getRegistrarIdByHandle {handle : String} :
    ReadOnly (getRegistrarIdByHandle handle) := by
  refine readOnly_bind readOnly_get fun db => ?_
  split
  · exact readOnly_throw
  · exact readOnly_pure
  · exact readOnly_throw

theorem run_getRegistrarIdByHandle_eq_ok {handle : String} {registrarId : Nat} :
    (getRegistrarIdByHandle handle).run db = .ok registrarId db' ↔
      (∃ r, db.registrar.select (·.handle = upper handle) = [r] ∧ r.id = registrarId) ∧ db' = db := by
  constructor
  · intro h
    obtain ⟨_, _, hget, h⟩ := run_bind_eq_ok.mp h
    obtain ⟨rfl, rfl⟩ := run_get_eq_ok.mp hget
    split at h
    · cases h
    · rename_i r hselect
      obtain ⟨hid, rfl⟩ := run_pure_eq_ok.mp h
      exact ⟨⟨r, hselect, hid⟩, rfl⟩
    · cases h
  · rintro ⟨⟨r, hselect, rfl⟩, rfl⟩
    rw [getRegistrarIdByHandle, run_bind_of_ok (run_get_eq_ok.mpr ⟨rfl, rfl⟩), hselect]
    rfl

/-- A registrar is found by a handle that no other one has. -/
theorem run_getRegistrarIdByHandle_of_unique {handle : String} {r : Db.Registrar}
    (hunique : ∀ r ∈ db.registrar, ∀ r' ∈ db.registrar, r.handle = r'.handle → r = r')
    (hr : r ∈ db.registrar) (hhandle : r.handle = upper handle) :
    (getRegistrarIdByHandle handle).run db = .ok r.id db :=
  run_getRegistrarIdByHandle_eq_ok.mpr
    ⟨⟨r, Table.select_eq_of_unique hunique hr hhandle, rfl⟩, rfl⟩

theorem readOnly_getObjectIdByHandleAndType {handle : String} {type : ObjectType} :
    ReadOnly (getObjectIdByHandleAndType handle type) := by
  refine readOnly_bind readOnly_get fun db => ?_
  split
  · exact readOnly_pure
  · exact readOnly_pure
  · exact readOnly_throw

theorem insertHistory_ok {logdRequestId : Option Nat} {historyId : Nat}
    (h : (insertHistory logdRequestId objectId).run db = .ok historyId db') :
    ∃ t row, db' = { db with
        objectHistory := copyToObjectHistory db historyId objectId
        history := t
        historySeq := db.historySeq + 1 } ∧
      t.lookup historyId = some row ∧
      ∀ id old, db.history.lookup id = some old → t.lookup id = some old := by
  simp only [insertHistory, EStateM.run] at h
  split at h
  · rename_i t ht
    obtain ⟨rfl, rfl⟩ := EStateM.Result.ok.inj h
    refine ⟨t, _, rfl, (Table.lookup_of_insert? ht).trans (if_pos rfl), fun id old hold => ?_⟩
    have hne : db.historySeq ≠ id := by
      rintro rfl
      obtain ⟨hmem, hkey⟩ := Table.lookup_eq_some.mp hold
      exact (Table.insert?_eq_some.mp ht).1 old hmem hkey
    exact (Table.lookup_of_insert? ht).trans ((if_neg hne).trans hold)
  · cases h

theorem setHistoryId_ok {what : String} {historyId : Nat}
    (h : (setHistoryId what objectId historyId).run db = .ok () db') :
    db' = { db with
      objectRegistry := db.objectRegistry.update (·.id = objectId)
        fun o => { o with historyid := some historyId } } := by
  simp only [setHistoryId, EStateM.run] at h
  split at h
  · exact (EStateM.Result.ok.inj h).2.symm
  · cases h

/-- The version that an update records exists. -/
theorem recordVersion_ok {logdRequestId : Option Nat} {historyId : Nat}
    (h : (UpdateObject.recordVersion objectId logdRequestId).run db = .ok historyId db') :
    Bookkeeping db db' := by
  obtain ⟨historyId, db₁, hinsert, h⟩ := run_bind_eq_ok.mp h
  obtain ⟨_, db₂, hset, h⟩ := run_bind_eq_ok.mp h
  obtain ⟨-, rfl⟩ := run_pure_eq_ok.mp h
  obtain ⟨t, row, rfl, hrow, hold⟩ := insertHistory_ok hinsert
  obtain rfl := setHistoryId_ok hset
  refine ⟨⟨fun id => ?_, fun id ⟨o, ho, hv⟩ => ?_, fun _ => rfl, rfl, rfl, rfl⟩, rfl, rfl⟩
  · rw [Table.lookup_update, Option.map_map]
    refine congrArg (Option.map · _) (funext fun o => ?_)
    by_cases hid : o.id = objectId <;> simp [hid, unversioned]
  · refine ⟨if o.id = objectId then { o with historyid := some historyId } else o, ?_, ?_⟩
    · rw [Table.lookup_update, ho, Option.map_some]
    by_cases hid : o.id = objectId
    · rw [if_pos hid]
      exact Option.isSome_of_eq_some hrow
    · rw [if_neg hid]
      obtain ⟨old, hold'⟩ := Option.isSome_iff_exists.mp hv
      obtain ⟨v, hhv, hlookup⟩ := Option.bind_eq_some_iff.mp hold'
      rw [hhv]
      exact Option.isSome_of_eq_some (hold v old hlookup)

theorem touch_ok {registrarId : Nat}
    (h : (UpdateObject.touch objectId registrarId).run db = .ok () db') : Bookkeeping db db' := by
  obtain ⟨-, rfl⟩ := EStateM.Result.ok.inj h
  refine ⟨⟨fun _ => rfl, fun _ h => h, fun id => ?_, rfl, rfl, rfl⟩, rfl, rfl⟩
  rw [Table.lookup_update, Option.map_map]
  refine congrArg (Option.map · _) (funext fun o => ?_)
  by_cases hid : o.id = objectId <;> simp [hid]

theorem insertHistory_bookkeeping {logdRequestId : Option Nat} {historyId : Nat}
    (h : (insertHistory logdRequestId objectId).run db = .ok historyId db') : Bookkeeping db db' := by
  obtain ⟨t, row, rfl, -, hold⟩ := insertHistory_ok h
  refine ⟨⟨fun _ => rfl, fun id ⟨o, ho, hv⟩ => ⟨o, ho, ?_⟩, fun _ => rfl, rfl, rfl, rfl⟩, rfl, rfl⟩
  obtain ⟨old, hold'⟩ := Option.isSome_iff_exists.mp hv
  obtain ⟨v, hhv, hlookup⟩ := Option.bind_eq_some_iff.mp hold'
  rw [hhv]
  exact Option.isSome_of_eq_some (hold v old hlookup)

theorem moves_bookkeeping_recordVersion {logdRequestId : Option Nat} :
    Moves Bookkeeping (UpdateObject.recordVersion objectId logdRequestId) := by
  refine fun db => ⟨fun _ _ h => recordVersion_ok h, fun e db' h => ?_⟩
  rcases run_bind_eq_error.mp h with h | ⟨historyId, db₁, hinsert, h⟩
  · simp only [insertHistory, EStateM.run] at h
    split at h <;> cases h
    exact refl_of Bookkeeping db
  · rcases run_bind_eq_error.mp h with h | ⟨_, _, -, h⟩
    · simp only [setHistoryId, EStateM.run] at h
      split at h <;> cases h
      exact insertHistory_bookkeeping hinsert
    · cases h

/-- An update of an object leaves everything but its books alone. -/
theorem moves_bookkeeping_updateObject {settings : AuthinfoSettings} {op : UpdateObject} :
    Moves Bookkeeping (op.exec settings) := by
  refine moves_bind readOnly_getRegistrarIdByHandle.moves fun registrarId =>
    moves_bind readOnly_getObjectIdByHandleAndType.moves fun objectId => moves_bind ?_ fun _ =>
    moves_bind readOnly_raiseIf.moves fun _ =>
    moves_bind (moves_of_run (fun db _ db' h => touch_ok h) fun db e db' h => by cases h) fun _ =>
      moves_bookkeeping_recordVersion
  unfold UpdateObject.storeAuthinfo
  split
  · exact readOnly_pure.moves
  · exact moves_bookkeeping_storeAuthinfo

theorem updateObject_ok {settings : AuthinfoSettings} {op : UpdateObject} {historyId : Nat}
    (h : (op.exec settings).run db = .ok historyId db') : Bookkeeping db db' :=
  moves_bookkeeping_updateObject.ok h

/-- Statements that neither change states of objects nor let time pass. -/
structure KeepsStates (db db' : Database) : Prop where
  now : db'.now = db.now
  objectState : db'.objectState = db.objectState
  enumObjectStates : db'.enumObjectStates = db.enumObjectStates

instance : Std.Refl KeepsStates := ⟨fun _ => ⟨rfl, rfl, rfl⟩⟩

instance : IsTrans Database KeepsStates where
  trans _ _ _ h h' := ⟨h'.now.trans h.now, h'.objectState.trans h.objectState,
    h'.enumObjectStates.trans h.enumObjectStates⟩

theorem moves_keepsStates_insertHistory {logdRequestId : Option Nat} :
    Moves KeepsStates (insertHistory logdRequestId objectId) := by
  refine moves_of_run (fun db u db' h => ?_) (fun db e db' h => ?_)
  all_goals
    simp only [insertHistory] at h
    split at h <;> cases h
    exact ⟨rfl, rfl, rfl⟩

theorem moves_keepsStates_setHistoryId {what : String} {historyId : Nat} :
    Moves KeepsStates (setHistoryId what objectId historyId) := by
  refine moves_of_run (fun db u db' h => ?_) (fun db e db' h => ?_)
  all_goals
    simp only [setHistoryId] at h
    split at h <;> cases h
    exact ⟨rfl, rfl, rfl⟩

theorem moves_keepsStates_updateAuthinfo {p : Database → ObjectAuthinfo → Prop}
    [∀ db, DecidablePred (p db)] {f : Database → ObjectAuthinfo → ObjectAuthinfo}
    {hf : ∀ db a, (f db a).id = a.id} : Moves KeepsStates (updateAuthinfo p f hf) := by
  refine moves_of_run (fun db rows db' h => ?_) (fun db e db' h => by cases h)
  obtain ⟨-, rfl⟩ := EStateM.Result.ok.inj h
  exact ⟨rfl, rfl, rfl⟩

theorem moves_keepsStates_insertAuthinfos {newRows : Database → List (Nat → ObjectAuthinfo)} :
    Moves KeepsStates (insertAuthinfos newRows) := by
  refine moves_of_run (fun db u db' h => ?_) (fun db e db' h => ?_)
  all_goals
    simp only [insertAuthinfos] at h
    split at h <;> cases h
    exact ⟨rfl, rfl, rfl⟩

theorem moves_keepsStates_touch {registrarId : Nat} :
    Moves KeepsStates (UpdateObject.touch objectId registrarId) := by
  refine moves_of_run (fun db u db' h => ?_) (fun db e db' h => by cases h)
  obtain ⟨-, rfl⟩ := EStateM.Result.ok.inj h
  exact ⟨rfl, rfl, rfl⟩

theorem moves_keepsStates_updateObject {settings : AuthinfoSettings} {op : UpdateObject} :
    Moves KeepsStates (op.exec settings) := by
  refine moves_bind readOnly_getRegistrarIdByHandle.moves fun registrarId =>
    moves_bind readOnly_getObjectIdByHandleAndType.moves fun objectId => moves_bind ?_ fun _ =>
    moves_bind readOnly_raiseIf.moves fun _ => moves_bind moves_keepsStates_touch fun _ =>
    moves_bind moves_keepsStates_insertHistory fun _ =>
    moves_bind moves_keepsStates_setHistoryId fun _ => readOnly_pure.moves
  unfold UpdateObject.storeAuthinfo
  split
  · exact readOnly_pure.moves
  · exact moves_bind readOnly_raiseIf.moves fun _ => moves_bind readOnly_get.moves fun _ =>
      moves_bind readOnly_raiseIf.moves fun _ => moves_bind readOnly_raiseIf.moves fun _ =>
      moves_bind moves_keepsStates_updateAuthinfo fun _ => moves_keepsStates_insertAuthinfos

end LibFred.Object
