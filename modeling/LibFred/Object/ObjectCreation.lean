import LibFred.Object.Bookkeeping

/-! What the creation of an object does. -/
namespace LibFred.Object

open Sql
open LibFred.Db (Database ObjectRegistry ObjectType Exec)

variable {db db' : Database} {procedure : CreateObjectProcedure} {op : CreateObject}
  {objectId historyId registrarId : Nat} {handle : String} {type : ObjectType}

theorem mem_liveObjects {o : ObjectRegistry} : o ∈ liveObjects db type handle ↔
    o ∈ db.objectRegistry ∧ o.type = type ∧ o.name = nameOf type handle ∧ o.erdate = none :=
  Table.mem_select

/-- The ids that an object must not be given. -/
def takenIds (db : Database) : List Nat :=
  db.objectRegistry.rows.map (·.id) ++ db.contactAddress.rows.map (·.contactid)

def nextId (db : Database) : Nat := (takenIds db).max?.getD 0 + 1

theorem lt_nextId {id : Nat} (h : id ∈ takenIds db) : id < nextId db :=
  Nat.lt_succ_of_le (List.le_max?_getD_of_mem h)

/-- A create_object that numbers the objects one after another. -/
def CreateObjectProcedure.sequential : CreateObjectProcedure where
  row db registrarId handle type :=
    if liveObjects db type handle = [] then
      some ⟨nextId db, 0, toString (nextId db) ++ "-CZ", nameOf type handle, type, registrarId, db.now,
        none, none, none⟩
    else none
  created h := by
    split at h
    · cases h
      exact ⟨rfl, rfl, rfl, rfl⟩
    · cases h
  free h := by
    split at h
    · assumption
    · cases h
  newId {db _ _ _ _} h := by
    split at h
    · cases h
      refine ⟨Nat.succ_ne_zero _, fun o' ho' => ?_, fun ca hca => ?_⟩
      · have hid : o'.id ∈ takenIds db := List.mem_append_left _ (List.mem_map_of_mem (Table.mem_rows.mpr ho'))
        exact (lt_nextId hid).ne
      · have hid : ca.contactid ∈ takenIds db :=
          List.mem_append_right _ (List.mem_map_of_mem (Table.mem_rows.mpr hca))
        exact (lt_nextId hid).ne
    · cases h

/-- The object has a new id, one version, and the registrar that created it. -/
structure CreatedObject (op : CreateObject) (objectId : Nat) (db db' : Database) : Prop where
  new : ∀ o ∈ db.objectRegistry, o.id ≠ objectId
  noAddress : ∀ ca ∈ db.contactAddress, ca.contactid ≠ objectId
  free : liveObjects db op.objectType op.handle = []
  row : ∃ o, db'.objectRegistry.lookup objectId = some o ∧ o.name = nameOf op.objectType op.handle ∧
    o.type = op.objectType ∧ o.erdate = none ∧ (o.historyid.bind db'.history.lookup).isSome ∧
    (db.registrar.lookup o.crid).isSome
  others : ∀ id ≠ objectId, db'.objectRegistry.lookup id = db.objectRegistry.lookup id
  sponsored : ∃ obj, db'.object.lookup objectId = some obj ∧ (db.registrar.lookup obj.clid).isSome
  otherObjects : ∀ id ≠ objectId, db'.object.lookup id = db.object.lookup id
  history : ∀ id old, db.history.lookup id = some old → db'.history.lookup id = some old
  registrar : db'.registrar = db.registrar
  contact : db'.contact = db.contact
  contactAddress : db'.contactAddress = db.contactAddress
  enumSsntype : db'.enumSsntype = db.enumSsntype
  enumCountry : db'.enumCountry = db.enumCountry

theorem getRegistrarIdByHandle_ok (h : (getRegistrarIdByHandle handle).run db = .ok registrarId db') :
    db = db' ∧ (db.registrar.lookup registrarId).isSome := by
  obtain ⟨⟨r, hselect, rfl⟩, rfl⟩ := run_getRegistrarIdByHandle_eq_ok.mp h
  obtain ⟨hmem, -, -⟩ := Table.select_eq_singleton.mp hselect
  exact ⟨rfl, Option.isSome_of_eq_some (Table.lookup_eq_some.mpr ⟨hmem, rfl⟩)⟩

namespace CreateObject

theorem callProcedure_ok (h : (op.callProcedure procedure registrarId).run db = .ok objectId db') :
    ∃ o t, procedure.row db registrarId op.handle op.objectType = some o ∧ o.id = objectId ∧
      db' = { db with objectRegistry := t } ∧
      ∀ id, t.lookup id = if objectId = id then some o else db.objectRegistry.lookup id := by
  simp only [callProcedure, EStateM.run] at h
  split at h
  · cases h
  · rename_i o ho
    split at h
    · rename_i t ht
      obtain ⟨rfl, rfl⟩ := EStateM.Result.ok.inj h
      exact ⟨o, t, ho, rfl, rfl, fun id => Table.lookup_of_insert? ht⟩
    · cases h

theorem insertObject_ok {clid : Nat} (h : (insertObject objectId clid).run db = .ok () db') :
    ∃ t, db' = { db with object := t } ∧ ∀ id, t.lookup id =
      if objectId = id then some ⟨objectId, clid, none, none, none⟩ else db.object.lookup id := by
  simp only [insertObject, EStateM.run] at h
  split at h
  · rename_i t ht
    obtain ⟨-, rfl⟩ := EStateM.Result.ok.inj h
    exact ⟨t, rfl, fun id => Table.lookup_of_insert? ht⟩
  · cases h

theorem setFirstHistoryId_ok (h : (setFirstHistoryId objectId historyId).run db = .ok () db') :
    ∃ t, db' = { db with objectRegistry := t } ∧ ∀ id, t.lookup id =
      if id = objectId then (db.objectRegistry.lookup id).map fun o =>
        { o with historyid := some historyId, crhistoryid := some historyId }
      else db.objectRegistry.lookup id := by
  simp only [setFirstHistoryId, EStateM.run] at h
  split at h
  · obtain ⟨-, rfl⟩ := EStateM.Result.ok.inj h
    have hkey (o : ObjectRegistry) : Keyed.key
        { o with historyid := some historyId, crhistoryid := some historyId } = Keyed.key o := rfl
    exact ⟨_, rfl, fun id => Table.lookup_update_row hkey fun _ => Iff.rfl⟩
  · cases h

theorem exec_ok (h : (op.exec procedure).run db = .ok (objectId, historyId) db') :
    CreatedObject op objectId db db' := by
  obtain ⟨registrarId, _, hregistrar, h⟩ := run_bind_eq_ok.mp h
  obtain ⟨rfl, hexists⟩ := getRegistrarIdByHandle_ok hregistrar
  obtain ⟨objectId, _, hcall, h⟩ := run_bind_eq_ok.mp h
  obtain ⟨o, t, ho, rfl, rfl, hlookup⟩ := callProcedure_ok hcall
  obtain ⟨_, _, hinsert, h⟩ := run_bind_eq_ok.mp h
  obtain ⟨objects, rfl, hobjects⟩ := insertObject_ok hinsert
  obtain ⟨historyId, _, hhistory, h⟩ := run_bind_eq_ok.mp h
  obtain ⟨versions, version, rfl, hversion, hold⟩ := insertHistory_ok hhistory
  obtain ⟨_, _, hset, h⟩ := run_bind_eq_ok.mp h
  obtain ⟨t', rfl, hlookup'⟩ := setFirstHistoryId_ok hset
  obtain ⟨he, rfl⟩ := run_pure_eq_ok.mp h
  obtain ⟨rfl, rfl⟩ := Prod.mk.inj he
  obtain ⟨hname, htype, hcrid, herdate⟩ := procedure.created ho
  obtain ⟨-, hnew, haddress⟩ := procedure.newId ho
  have hrow : t'.lookup o.id = some { o with historyid := some historyId, crhistoryid := some historyId } := by
    rw [hlookup' o.id, if_pos rfl, hlookup o.id, if_pos rfl, Option.map_some]
  exact {
    new := hnew
    noAddress := haddress
    free := procedure.free ho
    row := ⟨_, hrow, hname, htype, herdate, Option.isSome_of_eq_some hversion, hcrid ▸ hexists⟩
    others := fun id hid => (hlookup' id).trans ((if_neg hid).trans
      ((hlookup id).trans (if_neg (Ne.symm hid))))
    sponsored := ⟨_, (hobjects o.id).trans (if_pos rfl), hexists⟩
    otherObjects := fun id hid => (hobjects id).trans (if_neg (Ne.symm hid))
    history := hold
    registrar := rfl
    contact := rfl
    contactAddress := rfl
    enumSsntype := rfl
    enumCountry := rfl }

end CreateObject

end LibFred.Object
