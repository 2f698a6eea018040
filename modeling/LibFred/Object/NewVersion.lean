import LibFred.Object.ObjectCreation
import LibFred.Object.TransferOutcome

/-! The versions that updates, transfers and creations of objects make. -/
namespace LibFred.Object

open Sql
open LibFred.Db (Database ObjectRegistry ObjectType ObjectAuthinfo Exec)

variable {db db' db'' : Database} {id objectId historyId : Nat}

/-- What goes before new versions of objects: passwords are used or set, and these objects, but no
others, are touched or get another registrar. -/
structure Prepares (objects : Set Nat) (db db' : Database) : Prop where
  rest : db' = { db with
    object := db'.object
    objectAuthinfo := db'.objectAuthinfo
    objectAuthinfoSeq := db'.objectAuthinfoSeq }
  kept : ∀ id, (db'.object.lookup id).isSome = (db.object.lookup id).isSome
  others : ∀ id ∉ objects, db'.object.lookup id = db.object.lookup id
  sponsors : ∀ o' ∈ db'.object, (∃ o ∈ db.object, o.clid = o'.clid) ∨
    (db.registrar.lookup o'.clid).isSome

variable {objects objects' : Set Nat}

instance : Std.Refl (Prepares objects) :=
  ⟨fun _ => ⟨rfl, fun _ => rfl, fun _ _ => rfl, fun o ho => .inl ⟨o, ho, rfl⟩⟩⟩

instance : IsTrans Database (Prepares objects) where
  trans db db' db'' h h' := by
    refine ⟨h'.rest.trans (by rw [h.rest]), fun id => (h'.kept id).trans (h.kept id),
      fun id hid => (h'.others id hid).trans (h.others id hid), ?_⟩
    intro o'' ho''
    rcases h'.sponsors o'' ho'' with ⟨o', ho', hclid⟩ | hr
    · exact hclid ▸ h.sponsors o' ho'
    · rw [h.rest] at hr
      exact .inr hr

theorem moves_prepares_updateAuthinfo {p : Database → ObjectAuthinfo → Prop}
    [∀ db, DecidablePred (p db)] {f : Database → ObjectAuthinfo → ObjectAuthinfo}
    {hf : ∀ db a, (f db a).id = a.id} : Moves (Prepares objects) (updateAuthinfo p f hf) := by
  refine moves_of_run (fun db rows db' h => ?_) (fun db e db' h => by cases h)
  obtain ⟨-, rfl⟩ := EStateM.Result.ok.inj h
  exact ⟨rfl, fun _ => rfl, fun _ _ => rfl, fun o ho => .inl ⟨o, ho, rfl⟩⟩

theorem moves_prepares_insertAuthinfos {newRows : Database → List (Nat → ObjectAuthinfo)} :
    Moves (Prepares objects) (insertAuthinfos newRows) := by
  refine moves_of_run (fun db u db' h => ?_) (fun db e db' h => ?_)
  all_goals
    simp only [insertAuthinfos] at h
    split at h <;> cases h
    exact ⟨rfl, fun _ => rfl, fun _ _ => rfl, fun o ho => .inl ⟨o, ho, rfl⟩⟩

theorem moves_prepares_storeAuthinfo {storage : PasswordStorage} {op : StoreAuthinfo}
    {salt plaintext : String} : Moves (Prepares objects) (op.exec storage salt plaintext) :=
  moves_bind readOnly_raiseIf.moves fun _ => moves_bind readOnly_get.moves fun _ =>
    moves_bind readOnly_raiseIf.moves fun _ => moves_bind readOnly_raiseIf.moves fun _ =>
    moves_bind moves_prepares_updateAuthinfo fun _ => moves_prepares_insertAuthinfos

theorem prepares_object {f : Db.Object → Db.Object} (hf : ∀ o, Keyed.key (f o) = Keyed.key o)
    (hclid : ∀ o, (f o).clid = o.clid ∨ (db.registrar.lookup (f o).clid).isSome) :
    Prepares {id} db { db with object := db.object.update (·.id = id) f hf } := by
  refine ⟨rfl, fun id => ?_, fun id' hid => ?_, fun o' ho' => ?_⟩
  · rw [Table.lookup_update, Option.isSome_map]
  · exact (Table.lookup_update_row hf fun _ => Iff.rfl).trans (if_neg hid)
  · obtain ⟨o, ho, rfl⟩ := (Table.mem_update hf).mp ho'
    split
    · rcases hclid o with heq | hr
      · exact .inl ⟨o, ho, heq.symm⟩
      · exact .inr hr
    · exact .inl ⟨o, ho, rfl⟩

theorem moves_prepares_touch {registrarId : Nat} :
    Moves (Prepares {objectId}) (UpdateObject.touch objectId registrarId) := by
  refine moves_of_run (fun db u db' h => ?_) (fun db e db' h => by cases h)
  obtain ⟨-, rfl⟩ := EStateM.Result.ok.inj h
  exact prepares_object _ fun _ => .inl rfl

/-- A version that the sequence has not given out before, with its row in the table of versions and
the row of the object in that of objects, has become the version of the object. -/
structure Records (id historyId : Nat) (db db' : Database) : Prop where
  object : (db.objectRegistry.lookup id).isSome
  unused : historyId = db.historySeq
  rest : ∃ requestId t, db.history.insert? ⟨historyId, db.historyUuid historyId, requestId⟩ = some t ∧
    db' = { db with
      objectHistory := copyToObjectHistory db historyId id
      history := t
      historySeq := db.historySeq + 1
      objectRegistry := db.objectRegistry.update (·.id = id) fun o =>
        { o with historyid := some historyId } }

theorem records_of_run {what : String} {requestId : Option Nat} {u : Unit}
    (hinsert : (insertHistory requestId id).run db = .ok historyId db')
    (hset : (setHistoryId what id historyId).run db' = .ok u db'') : Records id historyId db db'' := by
  simp only [insertHistory, EStateM.run] at hinsert
  split at hinsert
  · rename_i t ht
    obtain ⟨rfl, rfl⟩ := EStateM.Result.ok.inj hinsert
    simp only [setHistoryId, EStateM.run] at hset
    split at hset <;> cases hset
    rename_i hobject
    exact ⟨hobject, rfl, requestId, t, ht, rfl⟩
  · cases hinsert

/-- The object has been given a new version. -/
def NewVersion (id historyId : Nat) (db db' : Database) : Prop :=
  ∃ d, Prepares {id} db d ∧ Records id historyId d db'

theorem newVersion_of_run {what : String} {requestId : Option Nat} {d : Database} {u : Unit}
    (h : Prepares {id} db d) (hinsert : (insertHistory requestId id).run d = .ok historyId db')
    (hset : (setHistoryId what id historyId).run db' = .ok u db'') : NewVersion id historyId db db'' :=
  ⟨d, h, records_of_run hinsert hset⟩

theorem NewVersion.unused (h : NewVersion id historyId db db') : historyId = db.historySeq := by
  obtain ⟨d, hprepares, hrecords⟩ := h
  rw [hrecords.unused, hprepares.rest]

theorem NewVersion.registry (h : NewVersion id historyId db db') :
    db'.objectRegistry = db.objectRegistry.update (·.id = id) fun o =>
      { o with historyid := some historyId } := by
  obtain ⟨d, hprepares, hrecords⟩ := h
  obtain ⟨requestId, t, -, rfl⟩ := hrecords.rest
  have hregistry : d.objectRegistry = db.objectRegistry := by rw [hprepares.rest]
  rw [hregistry]

theorem NewVersion.rest (h : NewVersion id historyId db db') :
    db' = { db with
      objectRegistry := db'.objectRegistry
      object := db'.object
      objectHistory := db'.objectHistory
      history := db'.history
      historySeq := db.historySeq + 1
      objectAuthinfo := db'.objectAuthinfo
      objectAuthinfoSeq := db'.objectAuthinfoSeq } := by
  obtain ⟨d, hprepares, hrecords⟩ := h
  obtain ⟨requestId, t, -, rfl⟩ := hrecords.rest
  rw [hprepares.rest]

/-- The version keeps the row of the object as it is now. -/
theorem NewVersion.objectHistory (h : NewVersion id historyId db db') : db'.objectHistory =
    db.objectHistory ++ (db'.object.lookup id).toList.map (⟨historyId, ·⟩) := by
  obtain ⟨d, hprepares, hrecords⟩ := h
  obtain ⟨requestId, t, -, rfl⟩ := hrecords.rest
  have hhistory : d.objectHistory = db.objectHistory := by rw [hprepares.rest]
  exact congrArg₂ (· ++ List.map _ ·) hhistory Table.select_lookup

theorem NewVersion.otherObjects (h : NewVersion id historyId db db') {id' : Nat} (hne : id' ≠ id) :
    db'.object.lookup id' = db.object.lookup id' := by
  obtain ⟨d, hprepares, hrecords⟩ := h
  obtain ⟨requestId, t, -, rfl⟩ := hrecords.rest
  exact hprepares.others id' hne

theorem NewVersion.lookup_registry (h : NewVersion id historyId db db') (id' : Nat) :
    db'.objectRegistry.lookup id' = if id' = id then
      (db.objectRegistry.lookup id').map fun o => { o with historyid := some historyId }
    else db.objectRegistry.lookup id' := by
  have hkey (o : ObjectRegistry) : Keyed.key { o with historyid := some historyId } = Keyed.key o := rfl
  rw [h.registry]
  exact Table.lookup_update_row hkey fun _ => Iff.rfl

section Update

variable {settings : AuthinfoSettings} {op : UpdateObject}

theorem moves_prepares_update {registrarId : Nat} :
    Moves (Prepares objects) (op.storeAuthinfo settings objectId registrarId) := by
  unfold UpdateObject.storeAuthinfo
  split
  · exact readOnly_pure.moves
  · exact moves_prepares_storeAuthinfo

/-- UpdateObject makes a version of the object that its handle means. -/
theorem updateObject_newVersion (h : (op.exec settings).run db = .ok historyId db') :
    ∃ o, liveObjects db op.objType op.handle = [o] ∧ NewVersion o.id historyId db db' := by
  obtain ⟨registrarId, _, hregistrar, h₁⟩ := run_bind_eq_ok.mp h
  obtain rfl := readOnly_getRegistrarIdByHandle.ok hregistrar
  obtain ⟨found, _, hobject, h₂⟩ := run_bind_eq_ok.mp h₁
  obtain rfl := readOnly_getObjectIdByHandleAndType.ok hobject
  obtain ⟨_, db₁, hauthinfo, h₃⟩ := run_bind_eq_ok.mp h₂
  obtain ⟨_, _, hraise, h₄⟩ := run_bind_eq_ok.mp h₃
  obtain ⟨hsome, rfl⟩ := run_raiseIf_eq_ok.mp hraise
  obtain ⟨_, db₂, htouch, h₅⟩ := run_bind_eq_ok.mp h₄
  obtain ⟨v, db₃, hinsert, h₆⟩ := run_bind_eq_ok.mp h₅
  obtain ⟨_, db₄, hset, h₇⟩ := run_bind_eq_ok.mp h₆
  obtain ⟨rfl, rfl⟩ := run_pure_eq_ok.mp h₇
  obtain ⟨_, _, hget, hmatch⟩ := run_bind_eq_ok.mp hobject
  obtain ⟨rfl, -⟩ := run_get_eq_ok.mp hget
  split at hmatch
  · obtain ⟨rfl, -⟩ := run_pure_eq_ok.mp hmatch
    exact absurd rfl hsome
  · rename_i o ho
    obtain ⟨rfl, -⟩ := run_pure_eq_ok.mp hmatch
    have hprepares := trans_of (Prepares {o.id}) (moves_prepares_update.ok hauthinfo)
      (moves_prepares_touch.ok htouch)
    exact ⟨o, ho, newVersion_of_run hprepares hinsert hset⟩
  · cases hmatch

end Update

section Transfer

variable {storage : PasswordStorage} {localTime : Db.Timestamp → Ptime} {op : TransferObject}

theorem newRegistrarId_ok {handle : String} {registrarId : Nat}
    (h : (newRegistrarId handle).run db = .ok registrarId db') :
    (db.registrar.lookup registrarId).isSome := by
  obtain ⟨_, _, hget, h⟩ := run_bind_eq_ok.mp h
  obtain ⟨rfl, rfl⟩ := run_get_eq_ok.mp hget
  split at h
  · cases h
  · rename_i r hr
    obtain ⟨rfl, -⟩ := run_pure_eq_ok.mp h
    exact Option.isSome_of_eq_some (Table.lookup_eq_some.mpr ⟨(Table.select_eq_singleton.mp hr).1, rfl⟩)
  · cases h

theorem moves_prepares_incrementUsage (authinfoId : Nat) : Moves (Prepares objects) (incrementUsage authinfoId) :=
  moves_bind moves_prepares_updateAuthinfo fun _ => readOnly_pure.moves

theorem moves_prepares_incrementUsageAndCancel (authinfoId : Nat) :
    Moves (Prepares objects) (incrementUsageAndCancel authinfoId) :=
  moves_bind moves_prepares_updateAuthinfo fun _ => readOnly_raiseIf.moves

theorem moves_prepares_cleanUnlessUsed {n : Nat} : Moves (Prepares objects) (cleanUnlessUsed objectId n) := by
  unfold cleanUnlessUsed
  split
  · exact moves_bind (moves_bind moves_prepares_updateAuthinfo fun _ => readOnly_pure.moves) fun _ =>
      readOnly_pure.moves
  · exact readOnly_pure.moves

/-- transfer_object makes a version of the object, which is live. -/
theorem transferObject_newVersion (h : (op.exec storage localTime).run db = .ok historyId db') :
    isRegistered db op.objectId ∧ NewVersion op.objectId historyId db db' := by
  obtain ⟨registrarId, _, hregistrar, h₁⟩ := run_bind_eq_ok.mp h
  obtain rfl := readOnly_newRegistrarId.ok hregistrar
  obtain ⟨clid, _, hclid, h₂⟩ := run_bind_eq_ok.mp h₁
  obtain rfl := readOnly_getLockedSponsoringRegistrar.ok hclid
  obtain ⟨_, _, hraise, h₃⟩ := run_bind_eq_ok.mp h₂
  obtain ⟨-, rfl⟩ := run_raiseIf_eq_ok.mp hraise
  obtain ⟨own, db₁, hown, h₄⟩ := run_bind_eq_ok.mp h₃
  obtain ⟨authorized, db₂, hauthorized, h₅⟩ := run_bind_eq_ok.mp h₄
  obtain ⟨_, _, hraise, h₆⟩ := run_bind_eq_ok.mp h₅
  obtain ⟨-, rfl⟩ := run_raiseIf_eq_ok.mp hraise
  obtain ⟨_, db₃, hclean, h₇⟩ := run_bind_eq_ok.mp h₆
  obtain ⟨_, db₄, hsponsor, h₈⟩ := run_bind_eq_ok.mp h₇
  obtain ⟨v, db₅, hinsert, h₉⟩ := run_bind_eq_ok.mp h₈
  obtain ⟨_, db₆, hset, hend⟩ := run_bind_eq_ok.mp h₉
  obtain ⟨rfl, rfl⟩ := run_pure_eq_ok.mp hend
  have hbefore : Prepares {op.objectId} db db₃ := trans_of _
    ((moves_checkAuthinfo moves_prepares_incrementUsageAndCancel).ok hown)
    (trans_of _ ((moves_getAuthorizedContacts moves_prepares_incrementUsage).ok hauthorized)
      (moves_prepares_cleanUnlessUsed.ok hclean))
  have hafter : Prepares {op.objectId} db₃ db₄ := by
    simp only [setNewSponsoringRegistrar, EStateM.run] at hsponsor
    split at hsponsor <;> cases hsponsor
    have hregistered : db₃.registrar = db.registrar := by rw [hbefore.rest]
    refine prepares_object _ fun _ => .inr ?_
    exact hregistered ▸ newRegistrarId_ok hregistrar
  refine ⟨?_, newVersion_of_run (trans_of _ hbefore hafter) hinsert hset⟩
  obtain ⟨_, _, hget, hown⟩ := run_bind_eq_ok.mp hown
  obtain ⟨rfl, rfl⟩ := run_get_eq_ok.mp hget
  obtain ⟨_, _, hraise, -⟩ := run_bind_eq_ok.mp hown
  exact not_not.mp (run_raiseIf_eq_ok.mp hraise).1

end Transfer

section Create

variable {procedure : CreateObjectProcedure} {op : CreateObject}

/-- A new object is registered, in its first version. -/
structure NewObject (op : CreateObject) (id historyId : Nat) (db db' : Database) : Prop
    extends CreatedObject op id db db' where
  version : (db'.objectRegistry.lookup id).bind (·.historyid) = some historyId
  unused : historyId = db.historySeq
  rest : db' = { db with
    objectRegistry := db'.objectRegistry
    object := db'.object
    objectHistory := db'.objectHistory
    history := db'.history
    historySeq := db.historySeq + 1 }
  objectHistory : db'.objectHistory =
    db.objectHistory ++ (db'.object.lookup id).toList.map (⟨historyId, ·⟩)

theorem createObject_newObject (h : (op.exec procedure).run db = .ok (objectId, historyId) db') :
    NewObject op objectId historyId db db' := by
  suffices hnew : (db'.objectRegistry.lookup objectId).bind (·.historyid) = some historyId ∧
      historyId = db.historySeq ∧ db' = { db with
        objectRegistry := db'.objectRegistry
        object := db'.object
        objectHistory := db'.objectHistory
        history := db'.history
        historySeq := db.historySeq + 1 } ∧ db'.objectHistory =
          db.objectHistory ++ (db'.object.lookup objectId).toList.map (⟨historyId, ·⟩) from
    ⟨CreateObject.exec_ok h, hnew.1, hnew.2.1, hnew.2.2.1, hnew.2.2.2⟩
  obtain ⟨registrarId, _, hregistrar, h₁⟩ := run_bind_eq_ok.mp h
  obtain ⟨rfl, -⟩ := getRegistrarIdByHandle_ok hregistrar
  obtain ⟨id, _, hcall, h₂⟩ := run_bind_eq_ok.mp h₁
  obtain ⟨o, t, -, rfl, rfl, hlookup⟩ := CreateObject.callProcedure_ok hcall
  obtain ⟨_, _, hobject, h₃⟩ := run_bind_eq_ok.mp h₂
  obtain ⟨objects, rfl, -⟩ := CreateObject.insertObject_ok hobject
  obtain ⟨v, _, hhistory, h₄⟩ := run_bind_eq_ok.mp h₃
  obtain ⟨_, _, hset, h₅⟩ := run_bind_eq_ok.mp h₄
  obtain ⟨heq, rfl⟩ := run_pure_eq_ok.mp h₅
  obtain ⟨rfl, rfl⟩ := Prod.mk.inj heq
  simp only [insertHistory, EStateM.run] at hhistory
  split at hhistory <;> cases hhistory
  obtain ⟨t', rfl, hlookup'⟩ := CreateObject.setFirstHistoryId_ok hset
  refine ⟨?_, rfl, rfl, congrArg (_ ++ List.map _ ·) Table.select_lookup⟩
  rw [hlookup' o.id, if_pos rfl, hlookup o.id, if_pos rfl]
  rfl

end Create

end LibFred.Object
