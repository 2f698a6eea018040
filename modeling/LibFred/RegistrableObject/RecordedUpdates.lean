import LibFred.RegistrableObject.Contact.UpdateRaises
import LibFred.RegistrableObject.ContactLists

/-! What updates of objects record of themselves. -/
namespace LibFred.RegistrableObject

open Sql
open LibFred.Db
open LibFred.RegistrableObject.Contact (FreshAuthinfoId RegistrarKnown run_updateObject_of_found)
open LibFred.Object (AuthinfoSettings StoreAuthinfo UpdateObject getRegistrarIdByHandle
  getObjectIdByHandleAndType insertHistory setHistoryId liveObjects run_insertHistory run_setHistoryId
  setHistoryId_ok unversioned)

/-- The record that an update makes of itself: the time and the registrar, a new version and, if it
is given one, an authinfo. But for that and the states of objects nothing has changed. -/
structure Recorded (op : UpdateObject) (objectId historyId : Nat) (db db' : Database) : Prop where
  object : ∃ r ∈ db.registrar, r.handle = upper op.registrar ∧
    db'.object = db.object.update (·.id = objectId) fun o =>
      { o with update := some db.now, upid := some r.id }
  registry : db'.objectRegistry = db.objectRegistry.update (·.id = objectId) fun o =>
    { o with historyid := some historyId }
  version : db.history.insert? ⟨historyId, db.historyUuid historyId, op.logdRequestId⟩ = some db'.history
  authinfo : op.authinfo = none → db'.objectAuthinfo = db.objectAuthinfo
  rest : db' = { db with
    objectRegistry := db'.objectRegistry
    object := db'.object
    objectHistory := db'.objectHistory
    history := db'.history
    historySeq := db'.historySeq
    objectAuthinfo := db'.objectAuthinfo
    objectAuthinfoSeq := db'.objectAuthinfoSeq
    objectState := db'.objectState }

variable {db db' : Database} {op : UpdateObject} {objectId historyId : Nat} {settings : AuthinfoSettings}

theorem Recorded.setStates (h : Recorded op objectId historyId db db') (os : Table Db.ObjectState) :
    Recorded op objectId historyId db { db' with objectState := os } :=
  ⟨h.object, h.registry, h.version, h.authinfo, by rw [h.rest]⟩

theorem liveObjects_update (type : Db.ObjectType) (handle : String) :
    liveObjects { db with objectRegistry := db.objectRegistry.update (·.id = objectId) fun o =>
        { o with historyid := some historyId } } type handle =
      (liveObjects db type handle).map fun o =>
        if o.id = objectId then { o with historyid := some historyId } else o := by
  unfold liveObjects Table.select Table.update
  rw [List.filter_map]
  refine congrArg _ (List.filter_congr fun o _ => ?_)
  by_cases hid : o.id = objectId <;> simp [hid]

theorem Recorded.liveObjects (h : Recorded op objectId historyId db db') (type : Db.ObjectType)
    (handle : String) : liveObjects db' type handle = (liveObjects db type handle).map fun o =>
      if o.id = objectId then { o with historyid := some historyId } else o := by
  rw [← liveObjects_update]
  unfold LibFred.Object.liveObjects
  rw [h.registry]

theorem Recorded.objectIdOf (h : Recorded op objectId historyId db db') (type : Db.ObjectType) :
    objectIdOf db' type = objectIdOf db type := by
  funext handle
  rw [RegistrableObject.objectIdOf, h.liveObjects, List.head?_map, Option.map_map]
  refine congrArg (Option.map · _) (funext fun o => ?_)
  by_cases hid : o.id = objectId <;> simp [hid]

theorem Recorded.uniqueNames (h : Recorded op objectId historyId db db') (hu : UniqueNames db) :
    UniqueNames db' := by
  intro a ha b hb htype hname hlive hlive'
  rw [h.registry, Table.mem_update] at ha hb
  obtain ⟨a₀, ha₀, rfl⟩ := ha
  obtain ⟨b₀, hb₀, rfl⟩ := hb
  have hkeep (o : Db.ObjectRegistry) :
      unversioned (if o.id = objectId then { o with historyid := some historyId } else o) =
        unversioned o := by
    split <;> rfl
  have htype₀ (o : Db.ObjectRegistry) := congrArg Db.ObjectRegistry.type (hkeep o)
  have hname₀ (o : Db.ObjectRegistry) := congrArg Db.ObjectRegistry.name (hkeep o)
  have hlive₀ (o : Db.ObjectRegistry) := congrArg Db.ObjectRegistry.erdate (hkeep o)
  obtain rfl : a₀ = b₀ := hu a₀ ha₀ b₀ hb₀ ((htype₀ a₀).symm.trans (htype.trans (htype₀ b₀)))
    ((hname₀ a₀).symm.trans (hname.trans (hname₀ b₀))) ((hlive₀ a₀).symm.trans hlive)
    ((hlive₀ b₀).symm.trans hlive')
  rfl

theorem storeAuthinfo_ok {objectId registrarId : Nat} {u : Unit}
    (h : (op.storeAuthinfo settings objectId registrarId).run db = .ok u db') :
    ∃ t n, db' = { db with objectAuthinfo := t, objectAuthinfoSeq := n } ∧
      (op.authinfo = none → t = db.objectAuthinfo) := by
  unfold UpdateObject.storeAuthinfo at h
  split at h
  · obtain ⟨-, rfl⟩ := run_pure_eq_ok.mp h
    exact ⟨_, _, rfl, fun _ => rfl⟩
  · rename_i plaintext hauthinfo
    obtain ⟨_, _, hr, h⟩ := run_bind_eq_ok.mp h
    obtain ⟨-, rfl⟩ := run_raiseIf_eq_ok.mp hr
    obtain ⟨_, _, hget, h⟩ := run_bind_eq_ok.mp h
    obtain ⟨rfl, rfl⟩ := run_get_eq_ok.mp hget
    obtain ⟨_, _, hr, h⟩ := run_bind_eq_ok.mp h
    obtain ⟨-, rfl⟩ := run_raiseIf_eq_ok.mp hr
    obtain ⟨_, _, hr, h⟩ := run_bind_eq_ok.mp h
    obtain ⟨-, rfl⟩ := run_raiseIf_eq_ok.mp hr
    obtain ⟨_, _, hdeactivate, h⟩ := run_bind_eq_ok.mp h
    obtain ⟨-, rfl⟩ := EStateM.Result.ok.inj hdeactivate
    simp only [StoreAuthinfo.storePassword, LibFred.Object.insertAuthinfos, EStateM.run] at h
    split at h <;> cases h
    exact ⟨_, _, rfl, fun hnone => by rw [hauthinfo] at hnone; cases hnone⟩

theorem getRegistrarIdByHandle_found {handle : String} {registrarId : Nat}
    (h : (getRegistrarIdByHandle handle).run db = .ok registrarId db') :
    db' = db ∧ ∃ r ∈ db.registrar, r.handle = upper handle ∧ r.id = registrarId := by
  obtain ⟨⟨r, hselect, hid⟩, hdb⟩ := LibFred.Object.run_getRegistrarIdByHandle_eq_ok.mp h
  obtain ⟨hr, hhandle, -⟩ := Table.select_eq_singleton.mp hselect
  exact ⟨hdb, r, hr, hhandle, hid⟩

/-- What an update of an object writes. -/
theorem updateObject_records (h : (op.exec settings).run db = .ok historyId db') :
    ∃ objectId, objectIdOf db op.objType op.handle = some objectId ∧
      (∀ o ∈ liveObjects db op.objType op.handle, o.id = objectId) ∧
      Recorded op objectId historyId db db' := by
  obtain ⟨registrarId, s, hregistrar, h₁⟩ := run_bind_eq_ok.mp h
  obtain ⟨rfl, r, hr, hhandle, rfl⟩ := getRegistrarIdByHandle_found hregistrar
  obtain ⟨objectId, s₁, hobject, h₂⟩ := run_bind_eq_ok.mp h₁
  obtain ⟨hid, rfl, honly⟩ := getObjectIdByHandleAndType_ok hobject
  obtain ⟨_, db₁, hauthinfo, h⟩ := run_bind_eq_ok.mp h₂
  obtain ⟨_, _, hraise, h⟩ := run_bind_eq_ok.mp h
  obtain ⟨hsome, rfl⟩ := run_raiseIf_eq_ok.mp hraise
  obtain ⟨id, rfl⟩ := Option.ne_none_iff_exists'.mp hsome
  obtain ⟨t, n, rfl, hnone⟩ := storeAuthinfo_ok hauthinfo
  obtain ⟨_, _, htouch, h⟩ := run_bind_eq_ok.mp h
  obtain ⟨-, rfl⟩ := EStateM.Result.ok.inj htouch
  obtain ⟨historyId, _, hinsert, h⟩ := run_bind_eq_ok.mp h
  obtain ⟨_, _, hset, h⟩ := run_bind_eq_ok.mp h
  obtain ⟨rfl, rfl⟩ := run_pure_eq_ok.mp h
  obtain rfl := setHistoryId_ok hset
  refine ⟨id, hid.symm, fun o ho => (Option.some.inj (honly o ho)).symm, ?_⟩
  simp only [insertHistory, EStateM.run] at hinsert
  split at hinsert
  · rename_i history hhistory
    obtain ⟨rfl, rfl⟩ := EStateM.Result.ok.inj hinsert
    exact ⟨⟨r, hr, hhandle, rfl⟩, rfl, hhistory, hnone, rfl⟩
  · cases hinsert

section Statements

variable {s s' : ObjectDatabase} {unknown : String → ObjectException} {handle : String}
  {type : Db.ObjectType} {updated : UpdatedObject}

theorem checkRegistrar_ok {u : Unit} (h : (checkRegistrar unknown handle).run s = .ok u s') : s' = s := by
  rcases run_tryCatch_eq_ok.mp h with h | ⟨e, t, -, h⟩
  · obtain ⟨_, t, hregistrar, h⟩ := run_bind_eq_ok.mp h
    obtain ⟨-, rfl⟩ := run_pure_eq_ok.mp h
    exact ((readOnly_lift LibFred.Object.readOnly_getRegistrarIdByHandle).ok hregistrar).symm
  · split at h <;> cases h

theorem getObjectId_ok {id : Nat} (h : (getObjectId unknown handle type).run s = .ok id s') :
    objectIdOf s.toDatabase type handle = some id ∧ s' = s := by
  obtain ⟨found, t, hlookup, h⟩ := run_bind_eq_ok.mp h
  obtain ⟨d, hd, rfl⟩ := run_lift_eq_ok.mp hlookup
  obtain ⟨hid, rfl, -⟩ := getObjectIdByHandleAndType_ok hd
  cases found with
  | none => cases h
  | some id' =>
    obtain ⟨rfl, rfl⟩ := run_pure_eq_ok.mp h
    exact ⟨hid.symm, rfl⟩

/-- What the update of an object writes that is not reported to be unknown. -/
theorem updateObject_known (h : (updateObject settings op).run s = .ok updated s')
    (hobject : updated.unknownObjectHandle = none) (hregistrar : updated.unknownRegistrarHandle = none) :
    ∃ objectId d, objectIdOf s.toDatabase op.objType op.handle = some objectId ∧
      (∀ o ∈ liveObjects s.toDatabase op.objType op.handle, o.id = objectId) ∧
      Recorded op objectId updated.historyId s.toDatabase d ∧ s' = { s with toDatabase := d } := by
  rcases run_tryCatch_eq_ok.mp h with h | ⟨e, t, -, h⟩
  · obtain ⟨historyId, t, hlift, h⟩ := run_bind_eq_ok.mp h
    obtain ⟨rfl, rfl⟩ := run_pure_eq_ok.mp h
    obtain ⟨d, hd, rfl⟩ := run_lift_eq_ok.mp hlift
    obtain ⟨objectId, hid, honly, hrecorded⟩ := updateObject_records hd
    exact ⟨objectId, d, hid, honly, hrecorded, rfl⟩
  · split at h
    · obtain ⟨rfl, -⟩ := run_pure_eq_ok.mp h
      cases hobject
    · obtain ⟨rfl, -⟩ := run_pure_eq_ok.mp h
      cases hregistrar
    · cases h

end Statements

section Copies

variable {ρ κ : Type} [Keyed ρ κ] [DecidableEq κ] {history : ObjectDatabase → Table (Historical ρ)}
  {setHistory : ObjectDatabase → Table (Historical ρ) → ObjectDatabase}
  {rows : ObjectDatabase → List ρ} {s s' : ObjectDatabase}

theorem copyToHistory_ok {n : Nat}
    (h : (copyToHistory history setHistory rows historyId).run s = .ok n s') :
    ∃ t, s' = setHistory s t := by
  simp only [copyToHistory, EStateM.run] at h
  split at h <;> cases h
  exact ⟨_, rfl⟩

/-- Statements that raise exceptions of the database at most. -/
def RaisesDatabase {α : Type} (x : ObjectExec α) : Prop :=
  ∀ s, Ends x s (fun _ _ => True) fun e => ∃ e', e = .database e'

theorem raisesDatabase_bind {α β : Type} {x : ObjectExec α} {f : α → ObjectExec β}
    (hx : RaisesDatabase x) (hf : ∀ a, RaisesDatabase (f a)) : RaisesDatabase (x >>= f) :=
  raisesOnly_bind hx hf

theorem raisesDatabase_pure {α : Type} {a : α} : RaisesDatabase (pure a) := raisesOnly_pure

theorem raisesDatabase_raiseIf {c : Prop} [Decidable c] {e : Db.Exception} :
    RaisesDatabase (raiseIf c (.database e)) := raisesOnly_raiseIf ⟨e, rfl⟩

theorem raisesDatabase_copyToHistory :
    RaisesDatabase (copyToHistory history setHistory rows historyId) := by
  intro s
  cases ht : (history s).insertAll? ((rows s).map (⟨historyId, ·⟩)) with
  | none =>
    have hrun : (copyToHistory history setHistory rows historyId).run s =
        .error (.database .sqlError) s := by
      simp only [copyToHistory, EStateM.run, ht]
    exact ends_of_error hrun ⟨_, rfl⟩
  | some t =>
    have hrun : (copyToHistory history setHistory rows historyId).run s =
        .ok (rows s).length (setHistory s t) := by
      simp only [copyToHistory, EStateM.run, ht]
    exact ends_of_run hrun trivial

theorem RaisesDatabase.not_raises {α : Type} {x : ObjectExec α} (hx : RaisesDatabase x)
    {e : ObjectException} (he : ∀ e', e ≠ .database e') : ¬ Raises x s e := by
  rintro ⟨s', h⟩
  obtain ⟨e', rfl⟩ := RaisesOnly.error hx h
  exact he e' rfl

end Copies

/-- What the unique indexes and the sequences guarantee to updates of objects. -/
structure ObjectsConsistent (db : Database) : Prop where
  registrarHandle : ∀ r ∈ db.registrar, ∀ r' ∈ db.registrar, r.handle = r'.handle → r = r'
  uniqueNames : UniqueNames db
  historyId : ∀ h ∈ db.history, h.id < db.historySeq
  authinfoId : FreshAuthinfoId db

/-- An update that names an object and a registrar that are known is recorded, but an authinfo
needs a time to live. -/
structure Recordable (settings : AuthinfoSettings) (op : UpdateObject) (db : Database) : Prop where
  registrar : RegistrarKnown db op.registrar
  object : objectIdOf db op.objType op.handle ≠ none
  ttl : op.authinfo ≠ none → 0 < settings.ttl

section Recordable

variable {s : ObjectDatabase} {unknown : String → ObjectException} {handle : String}
  {type : Db.ObjectType}

theorem ObjectsConsistent.run_getRegistrarIdByHandle (hc : ObjectsConsistent db) {r : Registrar}
    (hr : r ∈ db.registrar) (hhandle : r.handle = upper handle) :
    (getRegistrarIdByHandle handle).run db = .ok r.id db :=
  LibFred.Object.run_getRegistrarIdByHandle_of_unique hc.registrarHandle hr hhandle

theorem run_checkRegistrar (hc : ObjectsConsistent s.toDatabase)
    (hr : RegistrarKnown s.toDatabase handle) : (checkRegistrar unknown handle).run s = .ok () s := by
  obtain ⟨r, hr, hhandle⟩ := hr
  have hrun := run_lift_eq_ok.mpr ⟨_, hc.run_getRegistrarIdByHandle hr hhandle, rfl⟩
  exact run_tryCatch_eq_ok.mpr (.inl (run_bind_of_ok hrun))

theorem run_getObjectId (hc : ObjectsConsistent s.toDatabase) {id : Nat}
    (hid : objectIdOf s.toDatabase type handle = some id) :
    (getObjectId unknown handle type).run s = .ok id s := by
  rw [getObjectId, run_bind_of_ok (run_lift_getObjectId hc.uniqueNames), hid]
  rfl

theorem exists_liveObject {id : Nat} (hid : objectIdOf db type handle = some id) :
    ∃ o ∈ db.objectRegistry, o.id = id ∧ o.type = type ∧ o.erdate = none := by
  obtain ⟨o, ho, rfl⟩ := Option.map_eq_some_iff.mp hid
  obtain ⟨hmem, htype, -, hlive⟩ := Table.mem_select.mp (List.mem_of_head? ho)
  exact ⟨o, hmem, rfl, htype, hlive⟩

theorem run_updateObject (hc : ObjectsConsistent s.toDatabase) (h : Recordable settings op s.toDatabase) :
    ∃ historyId d, (updateObject settings op).run s =
      .ok { historyId := historyId } { s with toDatabase := d } := by
  obtain ⟨r, hr, hhandle⟩ := h.registrar
  obtain ⟨id, hid⟩ := Option.ne_none_iff_exists'.mp h.object
  obtain ⟨o, ho, rfl, -, hlive⟩ := exists_liveObject hid
  have hobject := run_getObjectIdByHandleAndType (hc.uniqueNames.liveObjects op.objType op.handle)
  rw [hid] at hobject
  obtain ⟨historyId, d, hrun⟩ := run_updateObject_of_found op hr
    (hc.run_getRegistrarIdByHandle hr hhandle) ho hlive hobject hc.historyId hc.authinfoId h.ttl
  refine ⟨historyId, d, run_tryCatch_eq_ok.mpr (.inl ?_)⟩
  exact run_bind_of_ok (run_lift_eq_ok.mpr ⟨d, hrun, rfl⟩)

end Recordable

end LibFred.RegistrableObject
