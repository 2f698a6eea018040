import LibFred.RegistrableObject.Contact.ContactCreation
import LibFred.RegistrableObject.Contact.CopyContact
import LibFred.RegistrableObject.RegistrySteps

/-! Transferring and deleting a contact; all operations on a contact make a version of it. -/
namespace LibFred.RegistrableObject.Contact

open Sql
open LibFred.Db
open LibFred.Object (AuthinfoSettings CreateObjectProcedure NewObject PasswordStorage Prepares
  copyAuthinfos createObject_newObject moves_prepares_insertAuthinfos updateObject_newVersion)

structure TransferContact where
  contactId : Nat
  newRegistrarHandle : String
  authinfopw : String
  logdRequestId : Option Nat

/-- TransferContact::exec; only the password of the contact itself authorises its transfer. -/
def TransferContact.exec (storage : PasswordStorage) (localTime : Timestamp → Ptime)
    (op : TransferContact) : RegistryExec Nat := do
  let historyId ← transferObject .contact storage localTime
    ⟨op.contactId, op.newRegistrarHandle, op.authinfopw, [], op.logdRequestId⟩
  onDatabase (copyContactDataToContactHistory op.contactId)
  return historyId

/-- DeleteContactById::exec. -/
def deleteContactById (id : Nat) : RegistryExec Unit := do
  let _ ← requireObjectId .unknownContactId id
  let db ← get
  raiseIf (objectHasState db.toDatabase id "linked") (.objectLinkedToContactId id)
  onDatabase (deleteContactImpl id)
  deleteObjectById id

variable {procedures : StateProcedures} {settings : AuthinfoSettings} {id historyId : Nat}
  {handle : String} {db db' : ObjectDatabase} {d d' : Database} {u : Unit}

instance : Std.Refl KeepsContacts := ⟨fun _ => ⟨rfl, fun _ => rfl⟩⟩

instance : IsTrans Database KeepsContacts where
  trans _ _ _ h h' :=
    ⟨h'.rest.trans (by rw [h.rest]), fun id => (h'.contacts id).trans (h.contacts id)⟩

theorem copyContactDataToContactHistory_ok
    (h : (copyContactDataToContactHistory id).run d = .ok u d') :
    (d.contact.lookup id).isSome ∧ d' = d := by
  obtain ⟨_, _, hget, hraise⟩ := run_bind_eq_ok.mp h
  obtain ⟨rfl, rfl⟩ := run_get_eq_ok.mp hget
  obtain ⟨hrow, rfl⟩ := run_raiseIf_eq_ok.mp hraise
  exact ⟨Option.isSome_iff_ne_none.mpr hrow, rfl⟩

section Update

variable {op : UpdateContact}

theorem commits_cancelState {state : String} : Commits KeepsContacts (cancelState id state) := by
  intro d u d' h
  simp only [cancelState, EStateM.run] at h
  split at h <;> cases h
  all_goals exact ⟨rfl, fun _ => rfl⟩

theorem commits_conditionallyCancelFinalStates {changed : Bool} :
    Commits KeepsContacts (conditionallyCancelFinalStates id changed) := by
  unfold conditionallyCancelFinalStates
  split
  · exact commits_bind commits_cancelState fun _ => commits_cancelState
  · exact readOnly_pure.commits

theorem commits_updateColumns {country : Option String} {ssntype : Option Nat} :
    Commits KeepsContacts (op.updateColumns id country ssntype) := by
  unfold UpdateContact.updateColumns
  split
  · refine commits_bind (fun d u d' h => ?_) fun _ => commits_conditionallyCancelFinalStates
    simp only [UpdateContact.setColumns, EStateM.run] at h
    split at h <;> cases h
    exact ⟨rfl, fun id' => isSome_lookup_update (op.set country ssntype) fun _ => rfl⟩
  · exact readOnly_pure.commits

theorem updateContact_change (h : (op.exec settings handle id).run db.toDatabase = .ok historyId d') :
    Change procedures db { db with toDatabase := d' } := by
  obtain ⟨d₁, d₂, t, hobject, hcolumns, rfl, -⟩ := UpdateContact.exec_statements h
  obtain ⟨o, ho, hversion⟩ := updateObject_newVersion hobject
  have hlive : Live db.toDatabase .contact o.id :=
    live_of_mem_liveObjects (ho ▸ List.mem_singleton_self o)
  have hkeeps : KeepsContacts d₂ { d₂ with contactAddress := t } := ⟨rfl, fun _ => rfl⟩
  exact .contact hlive hversion (trans_of _ (commits_updateColumns _ _ _ hcolumns) hkeeps)

/-- A contact that was not found is reported, whatever the update of the contact 0 has done. -/
theorem found_of_execSelected {unknown : ContactException} {contact : Option InfoContactData}
    (hunknown : unknown.unknownContactHandle ≠ none ∨ unknown.unknownContactId ≠ none)
    (h : (op.execSelected settings unknown contact).run d = .ok historyId d') :
    ∃ info, contact = some info := by
  cases contact with
  | some info => exact ⟨info, rfl⟩
  | none =>
    obtain ⟨updated, d₁, hrun, h₁⟩ := run_bind_eq_ok.mp h
    obtain ⟨_, d₂, hraise, h₂⟩ := run_bind_eq_ok.mp h₁
    obtain ⟨hnothing, rfl⟩ := run_raiseIf_eq_ok.mp hraise
    refine absurd (not_not.mp hnothing) ?_
    rcases run_tryCatch_eq_ok.mp hrun with hrun | ⟨e, d₃, -, hcollect⟩
    · obtain ⟨_, _, -, hpure⟩ := run_bind_eq_ok.mp hrun
      obtain ⟨rfl, -⟩ := run_pure_eq_ok.mp hpure
      rintro rfl
      exact hunknown.elim (· rfl) (· rfl)
    · split at hcollect
      · exact UpdateContact.collect_ne_nothing hunknown hcollect
      · cases hcollect

/-- Both updates select the contact before they update it. -/
theorem updateSelected_change {select : Exec (Option InfoContactData)} {unknown : ContactException}
    (hselect : Moves (· = ·) select)
    (hunknown : unknown.unknownContactHandle ≠ none ∨ unknown.unknownContactId ≠ none)
    (h : (do let contact ← select; op.execSelected settings unknown contact).run db.toDatabase =
      .ok historyId d') : Change procedures db { db with toDatabase := d' } := by
  obtain ⟨contact, d, hcontact, h₁⟩ := run_bind_eq_ok.mp h
  obtain rfl := hselect.ok hcontact
  obtain ⟨info, rfl⟩ := found_of_execSelected hunknown h₁
  exact updateContact_change (UpdateContact.execSelected_ok hunknown h₁)

theorem updateContactByHandle_change
    (h : (updateContactByHandle settings handle op).run db.toDatabase = .ok historyId d') :
    Change procedures db { db with toDatabase := d' } := by
  refine updateSelected_change ?_ (.inl (Option.some_ne_none handle)) h
  refine moves_tryCatch (readOnly_bind LibFred.Object.readOnly_infoContactByHandle fun _ =>
    readOnly_pure).moves fun e => ?_
  split
  · exact readOnly_pure.moves
  · exact readOnly_throw.moves

theorem readOnly_infoContactById {localTime : Timestamp → Ptime} :
    ReadOnly (infoContactById localTime id) := by
  refine readOnly_bind readOnly_get fun _ => ?_
  split
  · exact readOnly_throw
  · exact readOnly_pure
  · exact readOnly_throw

theorem updateContactById_change
    (h : (updateContactById settings id op).run db.toDatabase = .ok historyId d') :
    Change procedures db { db with toDatabase := d' } := by
  refine updateSelected_change ?_ (.inr (Option.some_ne_none id)) h
  refine moves_tryCatch (readOnly_bind readOnly_infoContactById fun _ => readOnly_pure).moves
    fun e => ?_
  split
  · exact readOnly_pure.moves
  · exact readOnly_throw.moves

end Update

section Create

variable {procedure : CreateObjectProcedure} {localTime : Timestamp → Ptime} {op : CreateContact}
  {objectId : Nat}

theorem createObject_newContact
    (h : (op.createObject procedure).run d = .ok ((objectId, historyId), none) d') :
    NewObject ⟨.contact, op.handle, op.registrar, op.logdRequestId⟩ objectId historyId d d' := by
  rcases run_tryCatch_eq_ok.mp h with h | ⟨e, d₁, -, h⟩
  · obtain ⟨created, _, hexec, hpure⟩ := run_bind_eq_ok.mp h
    obtain ⟨he, rfl⟩ := run_pure_eq_ok.mp hpure
    obtain ⟨rfl, -⟩ := Prod.mk.inj he
    exact createObject_newObject hexec
  · cases e <;> cases h

theorem createContact_change {result : CreateContactResult}
    (h : (op.exec procedure localTime).run db.toDatabase = .ok result d') :
    Change procedures db { db with toDatabase := d' } := by
  obtain ⟨created, d₁, hobject, h₁⟩ := run_bind_eq_ok.mp h
  obtain ⟨country, d₂, hcountry, h₂⟩ := run_bind_eq_ok.mp h₁
  obtain ⟨ssntype, d₃, hssntype, h₃⟩ := run_bind_eq_ok.mp h₂
  obtain ⟨_, d₄, hraise, h₄⟩ := run_bind_eq_ok.mp h₃
  obtain ⟨hnothing, rfl⟩ := run_raiseIf_eq_ok.mp hraise
  obtain ⟨_, d₅, hinsert, h₅⟩ := run_bind_eq_ok.mp h₄
  obtain ⟨_, d₆, haddresses, h₆⟩ := run_bind_eq_ok.mp h₅
  obtain ⟨creationTime, d₇, htime, h₇⟩ := run_bind_eq_ok.mp h₆
  obtain ⟨_, d₈, hhistory, h₈⟩ := run_bind_eq_ok.mp h₇
  obtain ⟨rfl, rfl⟩ := run_pure_eq_ok.mp h₈
  obtain ⟨⟨objectId, historyId⟩, invalidHandle⟩ := created
  obtain ⟨country, unknownCountry⟩ := country
  obtain ⟨ssntype, unknownSsntype⟩ := ssntype
  rw [not_not] at hnothing
  obtain rfl : invalidHandle = none := congrArg ContactException.invalidContactHandle hnothing
  obtain rfl : unknownCountry = none := congrArg ContactException.unknownCountry hnothing
  obtain rfl : unknownSsntype = none := congrArg ContactException.unknownSsntype hnothing
  have hnew := createObject_newContact hobject
  obtain ⟨rfl, rfl, -⟩ := resolve_ok getCountryCode_ok hcountry
  obtain ⟨rfl, rfl, -⟩ := resolve_ok getSsntypeId_ok hssntype
  obtain ⟨t, rfl, -⟩ := CreateContact.writeAddresses_ok haddresses
  obtain rfl := CreateContact.creationTime_ok htime
  obtain ⟨-, rfl⟩ := copyContactDataToContactHistory_ok hhistory
  simp only [insertContact, EStateM.run] at hinsert
  split at hinsert <;> cases hinsert
  rename_i contacts hcontacts
  exact .newContact _ rfl hnew rfl hcontacts ⟨rfl, fun _ => rfl⟩

end Create

section Copy

variable {procedure : CreateObjectProcedure} {op : CopyContact}

theorem readOnly_scalar {α : Type} {rows : List α} : ReadOnly (scalar rows) := by
  match rows with
  | [] => exact readOnly_pure
  | [_] => exact readOnly_pure
  | _ :: _ :: _ => exact readOnly_throw

theorem readOnly_checkArgs : ReadOnly op.checkArgs :=
  readOnly_bind readOnly_get fun _ => readOnly_bind readOnly_scalar fun _ =>
    readOnly_bind readOnly_scalar fun _ => readOnly_bind readOnly_scalar fun _ => readOnly_raiseIf

theorem readOnly_getRegistrar : ReadOnly op.getRegistrar := by
  unfold CopyContact.getRegistrar
  split
  · exact readOnly_pure
  · exact readOnly_throw

theorem commits_copyPasswords : Commits (Prepares ∅) op.copyPasswords := by
  refine commits_bind readOnly_get.commits fun _ => commits_bind (Moves.commits ?_) fun _ => ?_
  · exact moves_mapM fun _ => moves_mapM fun _ => moves_prepares_insertAuthinfos
  · split
    · exact readOnly_pure.commits
    · exact readOnly_throw.commits

/-- A copy is created before the passwords of the source are copied to it. -/
theorem copyContact_changes (h : (op.exec procedure).run db.toDatabase = .ok id d') :
    ∃ d, Change procedures db { db with toDatabase := d } ∧
      Change procedures { db with toDatabase := d } { db with toDatabase := d' } := by
  obtain ⟨_, _, hcheck, h₁⟩ := run_bind_eq_ok.mp h
  obtain rfl := readOnly_checkArgs.ok hcheck
  obtain ⟨old, _, hold, h₂⟩ := run_bind_eq_ok.mp h₁
  obtain rfl := LibFred.Object.readOnly_infoContactByHandle.ok hold
  obtain ⟨registrar, _, hregistrar, h₃⟩ := run_bind_eq_ok.mp h₂
  obtain rfl := readOnly_getRegistrar.ok hregistrar
  obtain ⟨created, d, hcreate, h₄⟩ := run_bind_eq_ok.mp h₃
  have hcopied : Change procedures { db with toDatabase := d }
      { ({ db with toDatabase := d } : ObjectDatabase) with toDatabase := d' } :=
    .passwords (commits_copyPasswords _ _ _ h₄)
  refine ⟨d, ?_, hcopied⟩
  rcases run_tryCatch_eq_ok.mp hcreate with hcreate | ⟨e, d₁, -, hfail⟩
  · exact createContact_change hcreate
  · split at hfail
    · split at hfail <;> cases hfail
    · cases hfail

end Copy

section Transfer

variable {storage : PasswordStorage} {localTime : Timestamp → Ptime} {op : TransferContact}

/-- The type of the object is not asked for; that it has a row of contact tells it. -/
theorem transferContact_change (hg : Grounded db)
    (h : (op.exec storage localTime).run db = .ok historyId db') : Change procedures db db' := by
  obtain ⟨v, s, htransfer, h₁⟩ := run_bind_eq_ok.mp h
  obtain ⟨_, _, hcopy, h₂⟩ := run_bind_eq_ok.mp h₁
  obtain ⟨rfl, rfl⟩ := run_pure_eq_ok.mp h₂
  obtain ⟨d, hversion, rfl⟩ := transferObject_ok htransfer
  have hcontact : d.contact = db.contact := by rw [hversion.rest]
  obtain ⟨d', hd', rfl⟩ := run_onDatabase_eq_ok.mp hcopy
  obtain ⟨hrow, rfl⟩ := copyContactDataToContactHistory_ok hd'
  rw [hcontact] at hrow
  have hlive := hg.rows .contact op.contactId hrow
  exact .contact hlive hversion (refl_of _ _)

end Transfer

section Delete

theorem deleteContactImpl_ok (procedures : StateProcedures)
    (h : (deleteContactImpl id).run db.toDatabase = .ok u d) :
    HasRow db .contact id ∧ { db with toDatabase := d } = erased procedures db id .contact := by
  simp only [deleteContactImpl, EStateM.run] at h
  split at h <;> cases h
  rename_i hrow
  exact ⟨hrow, rfl⟩

theorem deleteContactByHandle_change (h : (deleteContactByHandle handle).run db = .ok u db') :
    Change procedures db db' := by
  obtain ⟨id, _, hobject, h₁⟩ := run_bind_eq_ok.mp h
  obtain ⟨hid, rfl⟩ := getObjectId_ok hobject
  obtain ⟨_, _, hget, h₂⟩ := run_bind_eq_ok.mp h₁
  obtain ⟨rfl, rfl⟩ := run_get_eq_ok.mp hget
  obtain ⟨_, _, hraise, h₃⟩ := run_bind_eq_ok.mp h₂
  obtain ⟨hlinked, rfl⟩ := run_raiseIf_eq_ok.mp hraise
  obtain ⟨_, s₁, hcontact, h₄⟩ := run_bind_eq_ok.mp h₃
  obtain ⟨d₁, hd₁, rfl⟩ := run_lift_eq_ok.mp hcontact
  obtain ⟨hrow, heq⟩ := deleteContactImpl_ok procedures hd₁
  rw [heq] at h₄
  obtain ⟨objectId, _, hobject', h₅⟩ := run_bind_eq_ok.mp h₄
  obtain ⟨hid', rfl⟩ := getObjectId_ok hobject'
  obtain rfl := Option.some.inj (hid.symm.trans (objectIdOf_erased.symm.trans hid'))
  obtain ⟨d₂, hd₂, rfl⟩ := run_lift_eq_ok.mp h₅
  rw [deleteObjectImpl_ok hd₂]
  exact .delete .contact (isRegistered_of_objectIdOf hid) hrow fun _ => Bool.eq_false_iff.mpr hlinked

theorem deleteContactById_change (h : (deleteContactById id).run db = .ok u db') :
    Change procedures db db' := by
  obtain ⟨_, _, hobject, h₁⟩ := run_bind_eq_ok.mp h
  obtain ⟨hlive, rfl⟩ := requireObjectId_ok hobject
  obtain ⟨_, _, hget, h₂⟩ := run_bind_eq_ok.mp h₁
  obtain ⟨rfl, rfl⟩ := run_get_eq_ok.mp hget
  obtain ⟨_, _, hraise, h₃⟩ := run_bind_eq_ok.mp h₂
  obtain ⟨hlinked, rfl⟩ := run_raiseIf_eq_ok.mp hraise
  obtain ⟨_, s₁, hcontact, h₄⟩ := run_bind_eq_ok.mp h₃
  obtain ⟨d₁, hd₁, rfl⟩ := run_onDatabase_eq_ok.mp hcontact
  obtain ⟨hrow, heq⟩ := deleteContactImpl_ok procedures hd₁
  rw [heq] at h₄
  obtain rfl := deleteObjectById_ok h₄
  exact .delete .contact hlive hrow fun _ => Bool.eq_false_iff.mpr hlinked

end Delete

end LibFred.RegistrableObject.Contact
