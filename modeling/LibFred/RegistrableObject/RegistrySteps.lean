import LibFred.RegistrableObject.Domain.DomainUpdates
import LibFred.RegistrableObject.InfoObjects
import LibFred.RegistrableObject.ObjectSteps
import LibFred.RegistrableObject.RegistryChange

/-! The steps that operations on the registry have in common, and the updates. -/
namespace LibFred.RegistrableObject

open Sql
open LibFred.Db
open LibFred.Object (AuthinfoSettings CreateObject CreateObjectProcedure NewVersion PasswordStorage
  TransferObject
  UpdateObject createObject_newObject isRegistered liveObjects mem_liveObjects nameOf
  transferObject_newVersion updateObject_newVersion)
open LibFred.RegistrableObject.Contact (deleteObjectImpl deleteObjectRow foundName setErdate)
open LibFred.RegistrableObject.Domain (UpdateDomain)
open LibFred.RegistrableObject.Domain.UpdateDomain (exists_liveObject_of_selectDomain getDomain_ok)
open LibFred.RegistrableObject.Keyset (UpdateKeyset)
open LibFred.RegistrableObject.Nsset (UpdateNsset)

variable {α : Type} {a : α} {procedures : StateProcedures} {type : Db.ObjectType} {id historyId : Nat}
  {s s' : ObjectDatabase}

theorem run_onObjects_eq_ok {x : ObjectExec α} :
    (onObjects x).run s = .ok a s' ↔ x.run s = .ok a s' := by
  simp only [onObjects, EStateM.run]
  cases x s <;> simp

theorem run_onDatabase_eq_ok {x : Exec α} : (onDatabase x).run s = .ok a s' ↔
    ∃ d, x.run s.toDatabase = .ok a d ∧ s' = { s with toDatabase := d } :=
  run_onObjects_eq_ok.trans run_lift_eq_ok

theorem commits_onObjects {R : ObjectDatabase → ObjectDatabase → Prop} {x : ObjectExec α}
    (h : Commits R x) : Commits R (onObjects x) :=
  fun s a s' hx => h s a s' (run_onObjects_eq_ok.mp hx)

theorem live_of_mem_liveObjects {db : Database} {handle : String} {o : Db.ObjectRegistry}
    (h : o ∈ liveObjects db type handle) : Live db type o.id := by
  obtain ⟨hmem, htype, -, hlive⟩ := mem_liveObjects.mp h
  exact ⟨o, Table.lookup_eq_some.mpr ⟨hmem, rfl⟩, htype, hlive⟩

section Update

variable {settings : AuthinfoSettings} {op : UpdateObject} {updated : UpdatedObject}

theorem updateObject_opening (h : (updateObject settings op).run s = .ok updated s')
    (hobject : updated.unknownObjectHandle = none) (hregistrar : updated.unknownRegistrarHandle = none) :
    ∃ o d, liveObjects s.toDatabase op.objType op.handle = [o] ∧
      Opening op.objType o.id updated.historyId s.toDatabase d ∧ s' = { s with toDatabase := d } := by
  rcases run_tryCatch_eq_ok.mp h with h | ⟨e, t, -, h⟩
  · obtain ⟨historyId, t, hlift, h⟩ := run_bind_eq_ok.mp h
    obtain ⟨rfl, rfl⟩ := run_pure_eq_ok.mp h
    obtain ⟨d, hd, rfl⟩ := run_lift_eq_ok.mp hlift
    obtain ⟨o, ho, hversion⟩ := updateObject_newVersion hd
    exact ⟨o, d, ho, .renewed (live_of_mem_liveObjects (ho ▸ List.mem_singleton_self o)) hversion, rfl⟩
  · split at h
    · obtain ⟨rfl, -⟩ := run_pure_eq_ok.mp h
      cases hobject
    · obtain ⟨rfl, -⟩ := run_pure_eq_ok.mp h
      cases hregistrar
    · cases h

end Update

section Read

theorem readOnly_onObjects {x : ObjectExec α} (hx : ReadOnly x) : ReadOnly (onObjects x) := by
  intro s
  rcases hx s with ⟨a, ha⟩ | ⟨e, he⟩
  · exact .inl ⟨a, run_onObjects_eq_ok.mpr ha⟩
  · refine .inr ⟨.object e, ?_⟩
    simp only [onObjects, EStateM.run] at he ⊢
    rw [he]

theorem readOnly_onDatabase {x : Exec α} (hx : ReadOnly x) : ReadOnly (onDatabase x) :=
  readOnly_onObjects (readOnly_lift hx)

theorem requireRegistrar_ok {unknown : String → RegistryException} {registrar : String}
    {registrarId : Nat} (h : (requireRegistrar unknown registrar).run s = .ok registrarId s') :
    s' = s := by
  rcases run_tryCatch_eq_ok.mp h with h | ⟨e, t, -, h⟩
  · exact ((readOnly_onDatabase LibFred.Object.readOnly_getRegistrarIdByHandle).ok h).symm
  · split at h <;> cases h

theorem requireObject_ok {unknown : String → RegistryException} {handle : String}
    (h : (requireObject unknown handle type).run s = .ok id s') :
    objectIdOf s.toDatabase type handle = some id ∧ s' = s := by
  obtain ⟨found, t, hfound, h⟩ := run_bind_eq_ok.mp h
  obtain ⟨d, hd, rfl⟩ := run_onDatabase_eq_ok.mp hfound
  obtain ⟨hid, rfl, -⟩ := getObjectIdByHandleAndType_ok hd
  cases found with
  | none => cases h
  | some id' =>
    obtain ⟨rfl, rfl⟩ := run_pure_eq_ok.mp h
    exact ⟨hid.symm, rfl⟩

theorem requireObjectId_ok {unknown : Nat → RegistryException} {objectId : Nat}
    (h : (requireObjectId unknown objectId).run s = .ok id s') :
    isRegistered s.toDatabase objectId ∧ s' = s := by
  obtain ⟨_, _, hget, h⟩ := run_bind_eq_ok.mp h
  obtain ⟨rfl, rfl⟩ := run_get_eq_ok.mp hget
  split at h
  · rename_i o ho
    split at h
    · rename_i hlive
      obtain ⟨-, rfl⟩ := run_pure_eq_ok.mp h
      exact ⟨⟨o, ho, hlive⟩, rfl⟩
    · cases h
  · cases h

theorem readOnly_creationTime {settings : CreateSettings} {what : String} {objectId : Nat} :
    ReadOnly (creationTime settings what objectId) := by
  refine readOnly_bind readOnly_get fun db => ?_
  split
  · exact readOnly_pure
  · exact readOnly_throw

end Read

section Life

/-- What is read of an object shows that it is live. -/
theorem live_of_registered {object : ObjectContents} (h : registered s id type = some object) :
    Live s.toDatabase type id := by
  simp only [registered, Option.bind_eq_bind, Option.bind_eq_some_iff] at h
  obtain ⟨obr, hobr, _, -, _, -, _, -, _, -, _, hguard, -⟩ := h
  obtain ⟨htype, hlive⟩ := (Option.guard_eq_some' _).mp hguard
  exact ⟨obr, hobr, htype, hlive⟩

theorem transferObject_ok {storage : PasswordStorage} {localTime : Timestamp → Ptime}
    {op : TransferObject} (h : (transferObject type storage localTime op).run s = .ok historyId s') :
    ∃ d, NewVersion op.objectId historyId s.toDatabase d ∧ s' = { s with toDatabase := d } := by
  rcases run_tryCatch_eq_ok.mp h with h | ⟨e, t, -, h⟩
  · obtain ⟨d, hd, rfl⟩ := run_onDatabase_eq_ok.mp h
    exact ⟨d, (transferObject_newVersion hd).2, rfl⟩
  · split at h <;> cases h

theorem transferObject_opening {storage : PasswordStorage} {localTime : Timestamp → Ptime}
    {op : TransferObject} (hlive : Live s.toDatabase type op.objectId)
    (h : (transferObject type storage localTime op).run s = .ok historyId s') :
    ∃ d, Opening type op.objectId historyId s.toDatabase d ∧ s' = { s with toDatabase := d } := by
  obtain ⟨d, hversion, rfl⟩ := transferObject_ok h
  exact ⟨d, .renewed hlive hversion, rfl⟩

theorem createObject_opening {procedure : CreateObjectProcedure} {op : CreateObject}
    (h : (onDatabase (op.exec procedure)).run s = .ok (id, historyId) s')
    (hfound : foundName op.objectType (nameOf op.objectType op.handle) = nameOf op.objectType op.handle) :
    ∃ d, Opening op.objectType id historyId s.toDatabase d ∧ s' = { s with toDatabase := d } := by
  obtain ⟨d, hd, rfl⟩ := run_onDatabase_eq_ok.mp h
  exact ⟨d, .created op rfl hfound (createObject_newObject hd), rfl⟩

/-- delete_object_impl. -/
theorem deleteObjectImpl_ok {d d' : Database} {u : Unit} (h : (deleteObjectImpl id).run d = .ok u d') :
    d' = unregistered d id := by
  obtain ⟨_, _, herdate, hdelete⟩ := run_bind_eq_ok.mp h
  simp only [setErdate, EStateM.run] at herdate
  split at herdate <;> cases herdate
  simp only [deleteObjectRow, EStateM.run] at hdelete
  split at hdelete <;> cases hdelete
  rfl

theorem deleteObjectById_ok {u : Unit} (h : (deleteObjectById id).run s = .ok u s') :
    s' = { s with toDatabase := unregistered s.toDatabase id } := by
  obtain ⟨_, _, hid, hdelete⟩ := run_bind_eq_ok.mp h
  obtain ⟨-, rfl⟩ := requireObjectId_ok hid
  obtain ⟨d, hd, rfl⟩ := run_onDatabase_eq_ok.mp hdelete
  rw [deleteObjectImpl_ok hd]

/-- The object that is deleted by its handle is the one that was found by it. -/
theorem deleteObjectByHandle_ok {handle : String} {u : Unit}
    (hid : objectIdOf s.toDatabase type handle = some id)
    (h : (deleteObjectByHandle handle type).run s = .ok u s') :
    s' = { s with toDatabase := unregistered s.toDatabase id } := by
  obtain ⟨objectId, _, hobject, hdelete⟩ := run_bind_eq_ok.mp h
  obtain ⟨hid', rfl⟩ := requireObject_ok hobject
  obtain rfl := Option.some.inj (hid.symm.trans hid')
  obtain ⟨d, hd, rfl⟩ := run_onDatabase_eq_ok.mp hdelete
  rw [deleteObjectImpl_ok hd]

theorem objectIdOf_erased {type' : Db.ObjectType} {handle : String} :
    objectIdOf (erased procedures s id type).toDatabase type' handle =
      objectIdOf s.toDatabase type' handle := by
  cases type <;> rfl

theorem isRegistered_of_objectIdOf {d : Database} {handle : String}
    (h : objectIdOf d type handle = some id) : isRegistered d id := by
  obtain ⟨o, ho, -, hlive⟩ := live_of_objectIdOf h
  exact ⟨o, ho, hlive⟩

end Life

section Updates

variable {settings : UpdateSettings} {db db' : ObjectDatabase}

theorem eq_of_objectIdOf {d : Database} {type : Db.ObjectType} {handle : String} {id : Nat}
    {o : Db.ObjectRegistry} (ho : liveObjects d type handle = [o])
    (h : objectIdOf d type handle = some id) : id = o.id := by
  unfold objectIdOf at h
  rw [ho] at h
  exact (Option.some.inj h).symm

/-- What an update writes after the new version of its object. -/
theorem updateDomain_change {op : UpdateDomain} (h : (op.exec settings).run db = .ok historyId db') :
    Change settings.procedures db db' := by
  obtain ⟨_, _, hregistrar, h₁⟩ := run_bind_eq_ok.mp h
  obtain rfl := checkRegistrar_ok hregistrar
  obtain ⟨found, _, hfound, h₂⟩ := run_bind_eq_ok.mp h₁
  obtain ⟨rfl, hselect⟩ := getDomain_ok hfound
  obtain ⟨_, _, hraise, h₃⟩ := run_bind_eq_ok.mp h₂
  obtain ⟨-, rfl⟩ := run_raiseIf_eq_ok.mp hraise
  obtain ⟨_, _, hraise, h₄⟩ := run_bind_eq_ok.mp h₃
  obtain ⟨-, rfl⟩ := run_raiseIf_eq_ok.mp hraise
  obtain ⟨updated, s₁, hupdated, h₅⟩ := run_bind_eq_ok.mp h₄
  obtain ⟨_, s₂, hcolumns, h₆⟩ := run_bind_eq_ok.mp h₅
  obtain ⟨contacts, s₃, hcontacts, h₇⟩ := run_bind_eq_ok.mp h₆
  obtain ⟨_, _, hraise, h₈⟩ := run_bind_eq_ok.mp h₇
  obtain ⟨he, rfl⟩ := run_raiseIf_eq_ok.mp hraise
  obtain ⟨_, s₄, henumval, h₉⟩ := run_bind_eq_ok.mp h₈
  obtain ⟨_, s₅, hcopy, hend⟩ := run_bind_eq_ok.mp h₉
  obtain ⟨rfl, rfl⟩ := run_pure_eq_ok.mp hend
  have hnone := not_not.mp he
  obtain ⟨o, d, ho, hopening, rfl⟩ := updateObject_opening hupdated
    (congrArg DomainException.unknownDomainFqdn hnone) (congrArg DomainException.unknownRegistrarHandle hnone)
  obtain ⟨hrow, o', ho', hid⟩ := exists_liveObject_of_selectDomain (hselect ▸ List.mem_singleton_self found)
  obtain rfl : o' = o := List.mem_singleton.mp (ho ▸ ho')
  rw [← hid] at hcolumns hcontacts henumval hcopy hrow
  refine .object hopening ?_ (fun _ => .inl hrow) (copyDomainDataToDomainHistory_copies hcopy)
  exact trans_of _ (commits_updateColumns _ _ _ hcolumns)
    (trans_of _ (commits_updateAdmins _ _ _ hcontacts) (commits_updateEnumval _ _ _ henumval))

theorem updateNsset_change {op : UpdateNsset} (h : (op.exec settings).run db = .ok historyId db') :
    Change settings.procedures db db' := by
  obtain ⟨_, _, hregistrar, h₁⟩ := run_bind_eq_ok.mp h
  obtain rfl := checkRegistrar_ok hregistrar
  obtain ⟨nssetId, _, hobject, h₂⟩ := run_bind_eq_ok.mp h₁
  obtain ⟨hid, rfl⟩ := getObjectId_ok hobject
  obtain ⟨updated, s₁, hupdated, h₃⟩ := run_bind_eq_ok.mp h₂
  obtain ⟨_, s₂, hchecklevel, h₄⟩ := run_bind_eq_ok.mp h₃
  obtain ⟨contacts, s₃, hcontacts, h₅⟩ := run_bind_eq_ok.mp h₄
  obtain ⟨unassigned, s₄, hrem, h₆⟩ := run_bind_eq_ok.mp h₅
  obtain ⟨hosts, s₅, hadd, h₇⟩ := run_bind_eq_ok.mp h₆
  obtain ⟨_, _, hraise, h₈⟩ := run_bind_eq_ok.mp h₇
  obtain ⟨he, rfl⟩ := run_raiseIf_eq_ok.mp hraise
  obtain ⟨_, s₆, hcopy, hend⟩ := run_bind_eq_ok.mp h₈
  obtain ⟨rfl, rfl⟩ := run_pure_eq_ok.mp hend
  have hnone := not_not.mp he
  obtain ⟨o, d, ho, hopening, rfl⟩ := updateObject_opening hupdated
    (congrArg NssetException.unknownNssetHandle hnone) (congrArg NssetException.unknownRegistrarHandle hnone)
  obtain rfl := eq_of_objectIdOf ho hid
  refine .object hopening ?_ nofun (copyNssetDataToNssetHistory_copies hcopy)
  exact trans_of _ (commits_updateChecklevel _ _ _ hchecklevel)
    (trans_of _ (commits_updateNssetTechs _ _ _ hcontacts)
      (trans_of _ (commits_foldlM (fun _ _ => commits_remDnsHost) _ _ _ hrem)
        (commits_foldlM (fun _ _ => commits_addDnsHost) _ _ _ hadd)))

theorem updateKeyset_change {op : UpdateKeyset} (h : (op.exec settings).run db = .ok historyId db') :
    Change settings.procedures db db' := by
  obtain ⟨_, _, hregistrar, h₁⟩ := run_bind_eq_ok.mp h
  obtain rfl := checkRegistrar_ok hregistrar
  obtain ⟨keysetId, _, hobject, h₂⟩ := run_bind_eq_ok.mp h₁
  obtain ⟨hid, rfl⟩ := getObjectId_ok hobject
  obtain ⟨updated, s₁, hupdated, h₃⟩ := run_bind_eq_ok.mp h₂
  obtain ⟨contacts, s₂, hcontacts, h₄⟩ := run_bind_eq_ok.mp h₃
  obtain ⟨unassigned, s₃, hrem, h₅⟩ := run_bind_eq_ok.mp h₄
  obtain ⟨alreadySet, s₄, hadd, h₆⟩ := run_bind_eq_ok.mp h₅
  obtain ⟨_, _, hraise, h₇⟩ := run_bind_eq_ok.mp h₆
  obtain ⟨he, rfl⟩ := run_raiseIf_eq_ok.mp hraise
  obtain ⟨_, s₅, hcopy, hend⟩ := run_bind_eq_ok.mp h₇
  obtain ⟨rfl, rfl⟩ := run_pure_eq_ok.mp hend
  have hnone := not_not.mp he
  obtain ⟨o, d, ho, hopening, rfl⟩ := updateObject_opening hupdated
    (congrArg KeysetException.unknownKeysetHandle hnone) (congrArg KeysetException.unknownRegistrarHandle hnone)
  obtain rfl := eq_of_objectIdOf ho hid
  refine .object hopening ?_ nofun (copyKeysetDataToKeysetHistory_copies hcopy)
  exact trans_of _ (commits_updateKeysetTechs _ _ _ hcontacts)
    (trans_of _ (commits_foldlM (fun _ _ => commits_remDnsKey) _ _ _ hrem)
      (commits_foldlM (fun _ _ => commits_addDnsKey) _ _ _ hadd))

end Updates

end LibFred.RegistrableObject
