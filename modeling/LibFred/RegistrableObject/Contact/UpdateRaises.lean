import LibFred.Object.TransferOutcome
import LibFred.RegistrableObject.Contact.ContactUpdates
import LibFred.Sql.Raises

/-! What the update of a contact raises, statement by statement. -/
namespace LibFred.RegistrableObject.Contact

open Sql
open LibFred.Db (Database EnumCountry EnumSsntype ContactException ObjectAuthinfo ObjectRegistry Exec)
open LibFred.Object (AuthinfoSettings Bookkeeping Consistent PasswordStorage StoreAuthinfo UpdateObject
  copyToObjectHistory getObjectIdByHandleAndType getRegistrarIdByHandle isRegistered liveObjects nameOf
  run_insertHistory run_setHistoryId setHistoryId updateObject_ok)

variable {db db' : Database} {id registrarId historyId : Nat} {name handle plaintext salt : String}
  {settings : AuthinfoSettings} {op : UpdateContact} {o : ObjectRegistry} {e : ContactException}
  {country : Option String} {ssntype : Option Nat}

/-- What the database guarantees besides: names of contacts are in upper case, ids of objects begin
with 1, a contact is an object, and ids of authinfos come from their sequence. -/
structure ContactsConsistent (db : Database) : Prop extends Consistent db where
  contactUpper : ∀ o ∈ db.objectRegistry, o.type = .contact → upper o.name = o.name
  objectId : ∀ o ∈ db.objectRegistry, o.id ≠ 0
  contactObject : ∀ ct ∈ db.contact, (db.objectRegistry.lookup ct.id).isSome
  authinfoId : ∀ a ∈ db.objectAuthinfo, a.id < db.objectAuthinfoSeq

theorem ContactsConsistent.lookup_zero (hc : ContactsConsistent db) : db.contact.lookup 0 = none := by
  refine Table.lookup_eq_none.mpr fun ct hct hid => ?_
  obtain ⟨o, ho⟩ := Option.isSome_iff_exists.mp (hc.contactObject ct hct)
  obtain ⟨hmem, hkey⟩ := Table.lookup_eq_some.mp ho
  exact hc.objectId o hmem (hkey.trans hid)

theorem run_getRegistrarIdByHandle (hc : Consistent db) {r : Db.Registrar} (hr : r ∈ db.registrar)
    (hhandle : r.handle = upper handle) : (getRegistrarIdByHandle handle).run db = .ok r.id db :=
  LibFred.Object.run_getRegistrarIdByHandle_of_unique hc.registrarHandle hr hhandle

theorem run_getObjectId (hc : Consistent db) (ho : o ∈ db.objectRegistry)
    (hlive : LiveContact (upper handle) o) :
    (getObjectIdByHandleAndType handle .contact).run db = .ok (some o.id) db := by
  obtain ⟨hname, htype, herdate⟩ := hlive
  have hselect : liveObjects db .contact handle = [o] := by
    refine Table.select_eq_singleton.mpr ⟨ho, ⟨htype, hname, herdate⟩, ?_⟩
    rintro o' ho' ⟨htype', hname', herdate'⟩
    exact hc.contactName o' ho' o ho ⟨rfl, htype', herdate'⟩ ⟨hname.trans hname'.symm, htype, herdate⟩
  refine run_bind_eq_ok.mpr ⟨db, db, rfl, ?_⟩
  rw [hselect]
  rfl

theorem run_getObjectId_unknown (h : ∀ o ∈ db.objectRegistry, ¬ LiveContact (upper handle) o) :
    (getObjectIdByHandleAndType handle .contact).run db = .ok none db := by
  have hselect : liveObjects db .contact handle = [] := by
    refine List.filter_eq_nil_iff.mpr fun o ho hlive => ?_
    obtain ⟨htype, hname, herdate⟩ := of_decide_eq_true hlive
    exact h o ho ⟨hname, htype, herdate⟩
  refine run_bind_eq_ok.mpr ⟨db, db, rfl, ?_⟩
  rw [hselect]
  rfl

/-- Ids of authinfos come from their sequence. -/
def FreshAuthinfoId (db : Database) : Prop := ∀ a ∈ db.objectAuthinfo, a.id < db.objectAuthinfoSeq

theorem run_deactivatePassword (store : StoreAuthinfo) (h : FreshAuthinfoId db) :
    ∃ rows t, (store.deactivatePassword).run db = .ok rows { db with objectAuthinfo := t } ∧
      FreshAuthinfoId { db with objectAuthinfo := t } := by
  refine ⟨_, _, rfl, fun a ha => ?_⟩
  have hkey : ∀ a : ObjectAuthinfo, Keyed.key { a with password := some "" } = Keyed.key a := fun _ => rfl
  obtain ⟨a₀, ha₀, rfl⟩ := (Table.mem_update hkey).mp ha
  have hlt := h a₀ ha₀
  split <;> exact hlt

theorem run_storePassword (store : StoreAuthinfo) (encrypted : String) (h : FreshAuthinfoId db) :
    ∃ t n, (store.storePassword encrypted).run db =
      .ok () { db with objectAuthinfo := t, objectAuthinfoSeq := n } := by
  have hfresh : ∀ a ∈ db.objectAuthinfo, ∀ a' ∈
      [(⟨db.objectAuthinfoSeq + 0, store.objectId, store.registrarId, some encrypted, db.now,
        db.now + store.ttl, none, 0⟩ : ObjectAuthinfo)], Keyed.key a ≠ Keyed.key a' := by
    intro a ha a' ha'
    obtain rfl := List.mem_singleton.mp ha'
    exact (h a ha).ne
  obtain ⟨t, ht⟩ := Table.exists_insertAll? hfresh (List.nodup_singleton _)
  refine ⟨t, db.objectAuthinfoSeq + 1, ?_⟩
  simp only [StoreAuthinfo.storePassword, LibFred.Object.insertAuthinfos, EStateM.run,
    List.mapIdx_cons, List.mapIdx_nil, ht, List.length_singleton]

/-- An authinfo is stored for an object that exists. -/
theorem run_storeAuthinfo {storage : PasswordStorage} {store : StoreAuthinfo}
    (hfresh : FreshAuthinfoId db) (httl : 0 < store.ttl) (hobject : isRegistered db store.objectId)
    (hregistrar : db.registrar.lookup store.registrarId ≠ none) :
    ∃ t n, (store.exec storage salt plaintext).run db =
      .ok () { db with objectAuthinfo := t, objectAuthinfoSeq := n } := by
  obtain ⟨rows, t, hdeactivate, hfresh⟩ := run_deactivatePassword store hfresh
  obtain ⟨t', n, hstore⟩ := run_storePassword store (storage.encrypt salt plaintext) hfresh
  refine ⟨t', n, ?_⟩
  rw [StoreAuthinfo.exec, run_bind_of_ok (run_raiseIf_of_neg httl.not_ge),
    run_bind_of_ok (run_get_eq_ok.mpr ⟨rfl, rfl⟩), run_bind_of_ok (run_raiseIf_of_neg (not_not.mpr hobject)),
    run_bind_of_ok (run_raiseIf_of_neg hregistrar), run_bind_of_ok hdeactivate, hstore]

/-- A version is recorded for an object that exists. -/
theorem run_recordVersion {logdRequestId : Option Nat} (hfresh : ∀ h ∈ db.history, h.id < db.historySeq)
    (ho : (db.objectRegistry.lookup id).isSome) :
    ∃ historyId db', (UpdateObject.recordVersion id logdRequestId).run db = .ok historyId db' := by
  obtain ⟨history, hinsert⟩ := Table.exists_insert? (t := db.history)
    (r := ⟨db.historySeq, db.historyUuid db.historySeq, logdRequestId⟩) fun h hh => (hfresh h hh).ne
  have hset : (setHistoryId "historyid update failed" id db.historySeq).run { db with
      objectHistory := copyToObjectHistory db db.historySeq id
      history := history
      historySeq := db.historySeq + 1 } = _ := run_setHistoryId ho
  exact ⟨_, _, run_bind_eq_ok.mpr ⟨_, _, run_insertHistory hinsert,
    run_bind_eq_ok.mpr ⟨_, _, hset, rfl⟩⟩⟩

/-- The registrar is known. -/
def RegistrarKnown (db : Database) (handle : String) : Prop := ∃ r ∈ db.registrar, r.handle = upper handle

/-- The update of an object that is found is done, but an authinfo needs a time to live. -/
theorem run_updateObject_of_found (update : UpdateObject) {r : Db.Registrar} (hr : r ∈ db.registrar)
    (hregistrar : (getRegistrarIdByHandle update.registrar).run db = .ok r.id db)
    (ho : o ∈ db.objectRegistry) (hlive : o.erdate = none)
    (hobject : (getObjectIdByHandleAndType update.handle update.objType).run db = .ok (some o.id) db)
    (hhistory : ∀ h ∈ db.history, h.id < db.historySeq) (hauthinfo : FreshAuthinfoId db)
    (httl : update.authinfo ≠ none → 0 < settings.ttl) :
    ∃ historyId db', (update.exec settings).run db = .ok historyId db' := by
  have hlookup : db.objectRegistry.lookup o.id = some o := Table.lookup_eq_some.mpr ⟨ho, rfl⟩
  have hknown : db.registrar.lookup r.id = some r := Table.lookup_eq_some.mpr ⟨hr, rfl⟩
  obtain ⟨t, n, hstore⟩ : ∃ t n, (update.storeAuthinfo settings o.id r.id).run db =
      .ok () { db with objectAuthinfo := t, objectAuthinfoSeq := n } := by
    unfold UpdateObject.storeAuthinfo
    split
    · exact ⟨_, _, rfl⟩
    · rename_i plaintext hgiven
      exact run_storeAuthinfo hauthinfo (httl (by simp [hgiven])) ⟨o, hlookup, hlive⟩ (by simp [hknown])
  obtain ⟨historyId, db', hrecord⟩ : ∃ historyId db',
      (UpdateObject.recordVersion o.id update.logdRequestId).run { db with
        objectAuthinfo := t
        objectAuthinfoSeq := n
        object := db.object.update (·.id = o.id)
          fun obj => { obj with update := some db.now, upid := some r.id } } = .ok historyId db' := by
    refine run_recordVersion ?_ (Option.isSome_of_eq_some hlookup)
    exact hhistory
  refine ⟨historyId, db', ?_⟩
  rw [UpdateObject.exec, run_bind_of_ok hregistrar, run_bind_of_ok hobject, Option.getD_some,
    run_bind_of_ok hstore, run_bind_of_ok (run_raiseIf_of_neg (Option.some_ne_none _))]
  exact hrecord

theorem run_updateObject (update : UpdateObject) (hc : ContactsConsistent db)
    (hr : RegistrarKnown db update.registrar) (htype : update.objType = .contact)
    (ho : o ∈ db.objectRegistry) (hlive : LiveContact (upper update.handle) o)
    (httl : update.authinfo ≠ none → 0 < settings.ttl) :
    ∃ historyId db', (update.exec settings).run db = .ok historyId db' := by
  obtain ⟨r, hr, hhandle⟩ := hr
  have hobject := run_getObjectId hc.toConsistent ho hlive
  rw [← htype] at hobject
  exact run_updateObject_of_found update hr (run_getRegistrarIdByHandle hc.toConsistent hr hhandle) ho
    hlive.2.2 hobject hc.historyId hc.authinfoId httl

/-- The exception is one of UpdateContact itself. -/
def IsContact (e : Db.Exception) : Prop := ∃ ce, e = .contact ce

/-- An authinfo is stored neither without a time to live nor for an object that does not exist. -/
theorem storeAuthinfo_fails (storage : PasswordStorage) (salt plaintext : String) (store : StoreAuthinfo)
    (h : store.ttl ≤ 0 ∨ ¬ isRegistered db store.objectId) :
    ∃ e, (store.exec storage salt plaintext).run db = .error e db ∧
      (e = .unknownObjectId ∨ ∃ what, e = .internalError what) := by
  by_cases httl : store.ttl ≤ 0
  · exact ⟨_, run_bind_of_error (run_raiseIf_of_pos httl), .inr ⟨_, rfl⟩⟩
  · have hobject := h.resolve_left httl
    refine ⟨.unknownObjectId, ?_, .inl rfl⟩
    rw [StoreAuthinfo.exec, run_bind_of_ok (run_raiseIf_of_neg httl),
      run_bind_of_ok (run_get_eq_ok.mpr ⟨rfl, rfl⟩), run_bind_of_error (run_raiseIf_of_pos hobject)]

namespace UpdateContact

/-- The object that the contact is found as. -/
def FindsObject (db : Database) (handle : String) : Prop :=
  ∃ o ∈ db.objectRegistry, LiveContact (upper handle) o

theorem run_updateObject_found (hc : ContactsConsistent db) (hr : RegistrarKnown db op.registrar)
    (hfound : FindsObject db handle) (httl : op.authinfo ≠ none → 0 < settings.ttl) :
    ∃ historyId db', (op.updateObject settings handle).run db = .ok (historyId, none) db' := by
  obtain ⟨o, ho, hlive⟩ := hfound
  obtain ⟨historyId, db', hrun⟩ := run_updateObject
    ⟨handle, .contact, op.registrar, op.authinfo, op.logdRequestId⟩ hc hr rfl ho hlive httl
  exact ⟨historyId, db', run_tryCatch_eq_ok.mpr (.inl (run_bind_eq_ok.mpr ⟨_, _, hrun, rfl⟩))⟩

theorem run_updateObject_unknown (settings : AuthinfoSettings) (hc : ContactsConsistent db) (hr : RegistrarKnown db op.registrar)
    (hunknown : ¬ FindsObject db handle) (hauthinfo : op.authinfo = none) :
    (op.updateObject settings handle).run db = .ok (0, some handle) db := by
  obtain ⟨r, hr, hhandle⟩ := hr
  have hnone : ∀ o ∈ db.objectRegistry, ¬ LiveContact (upper handle) o :=
    fun o ho hlive => hunknown ⟨o, ho, hlive⟩
  refine run_tryCatch_eq_ok.mpr (.inr ⟨.unknownObjectHandle handle, db, run_bind_of_error ?_, rfl⟩)
  rw [UpdateObject.exec, run_bind_of_ok (run_getRegistrarIdByHandle hc.toConsistent hr hhandle),
    run_bind_of_ok (run_getObjectId_unknown hnone), UpdateObject.storeAuthinfo, hauthinfo]
  exact run_bind_eq_error.mpr (.inr ⟨(), db, rfl, run_bind_of_error (run_raiseIf_of_pos rfl)⟩)

/-- The authinfo is stored before an unknown handle is reported. -/
theorem run_updateObject_fails (settings : AuthinfoSettings) (hc : ContactsConsistent db) (hr : RegistrarKnown db op.registrar)
    (hauthinfo : op.authinfo ≠ none) (h : settings.ttl ≤ 0 ∨ ¬ FindsObject db handle) :
    ∃ e, (op.updateObject settings handle).run db = .error e db ∧ ¬ IsContact e := by
  obtain ⟨r, hr, hhandle⟩ := hr
  obtain ⟨plaintext, hplaintext⟩ := Option.ne_none_iff_exists'.mp hauthinfo
  obtain ⟨objectId, hobject, hstore⟩ : ∃ objectId,
      (getObjectIdByHandleAndType handle .contact).run db = .ok objectId db ∧
      (settings.ttl ≤ 0 ∨ ¬ isRegistered db (objectId.getD 0)) := by
    by_cases hfound : FindsObject db handle
    · obtain ⟨o, ho, hlive⟩ := hfound
      exact ⟨_, run_getObjectId hc.toConsistent ho hlive, .inl (h.resolve_right fun hn => hn ⟨o, ho, hlive⟩)⟩
    · refine ⟨none, run_getObjectId_unknown fun o ho hlive => hfound ⟨o, ho, hlive⟩, .inr ?_⟩
      rintro ⟨o, ho, -⟩
      obtain ⟨hmem, hid⟩ := Table.lookup_eq_some.mp ho
      exact hc.objectId o hmem hid
  obtain ⟨e, hfails, he⟩ := storeAuthinfo_fails settings.storage settings.salt plaintext
    ⟨objectId.getD 0, r.id, settings.ttl⟩ hstore
  have hexec : (UpdateObject.exec settings ⟨handle, .contact, op.registrar, op.authinfo,
      op.logdRequestId⟩).run db = .error e db := by
    rw [UpdateObject.exec, run_bind_of_ok (run_getRegistrarIdByHandle hc.toConsistent hr hhandle),
      run_bind_of_ok hobject, UpdateObject.storeAuthinfo, hplaintext]
    exact run_bind_of_error hfails
  refine ⟨e, ?_, ?_⟩
  · rw [updateObject, run_tryCatch, run_bind_of_error hexec]
    rcases he with rfl | ⟨what, rfl⟩ <;> rfl
  · rintro ⟨ce, rfl⟩
    rcases he with he | ⟨what, he⟩ <;> cases he

end UpdateContact

/-- A search that finds a text in one row at most. -/
structure Finds {α ρ : Type} (find : String → Exec (Option α)) (rows : String → List ρ)
    (db : Database) : Prop where
  found : ∀ text, (rows text).length ≤ 1 →
    ∃ a, (find text).run db = .ok a db ∧ a.isNone = (rows text).isEmpty
  ambiguous : ∀ text, ¬ (rows text).length ≤ 1 →
    ∃ what, (find text).run db = .error (.internalError what) db

theorem finds_getCountryCode (db : Database) :
    Finds getCountryCode (fun text => db.enumCountry.select (EnumCountry.Named text)) db where
  found text h := by
    cases hrows : db.enumCountry.select (EnumCountry.Named text) with
    | nil => exact ⟨none, run_bind_eq_ok.mpr ⟨db, db, rfl, by rw [hrows]; rfl⟩, rfl⟩
    | cons c rest =>
      rw [hrows] at h
      obtain rfl : rest = [] := List.length_eq_zero_iff.mp (Nat.le_zero.mp (Nat.le_of_succ_le_succ h))
      exact ⟨some c.id, run_bind_eq_ok.mpr ⟨db, db, rfl, by rw [hrows]; rfl⟩, rfl⟩
  ambiguous text h := by
    refine ⟨"failed to get country", run_bind_eq_error.mpr (.inr ⟨db, db, rfl, ?_⟩)⟩
    split
    · rename_i hrows
      simp [hrows] at h
    · rename_i c hrows
      simp [hrows] at h
    · rfl

theorem finds_getSsntypeId (db : Database) :
    Finds getSsntypeId (fun text => db.enumSsntype.select (EnumSsntype.Named text)) db where
  found text h := by
    cases hrows : db.enumSsntype.select (EnumSsntype.Named text) with
    | nil => exact ⟨none, run_bind_eq_ok.mpr ⟨db, db, rfl, by rw [hrows]; rfl⟩, rfl⟩
    | cons t rest =>
      rw [hrows] at h
      obtain rfl : rest = [] := List.length_eq_zero_iff.mp (Nat.le_zero.mp (Nat.le_of_succ_le_succ h))
      exact ⟨some t.id, run_bind_eq_ok.mpr ⟨db, db, rfl, by rw [hrows]; rfl⟩, rfl⟩
  ambiguous text h := by
    refine ⟨"failed to get ssntype", run_bind_eq_error.mpr (.inr ⟨db, db, rfl, ?_⟩)⟩
    split
    · rename_i hrows
      simp [hrows] at h
    · rename_i t hrows
      simp [hrows] at h
    · rfl

section Finds

variable {α ρ : Type} {find : String → Exec (Option α)} {rows : String → List ρ} {given : Option String}

/-- A given text that no row names is told. -/
theorem Finds.run_resolve (h : Finds find rows db) (hone : ∀ text ∈ given, (rows text).length ≤ 1) :
    ∃ found, (resolve find given).run db =
      .ok (found, given.filter fun text => (rows text).isEmpty) db := by
  cases given with
  | none => exact ⟨none, rfl⟩
  | some text =>
    obtain ⟨a, hfind, hnone⟩ := h.found text (hone text rfl)
    refine ⟨a, run_bind_eq_ok.mpr ⟨a, db, hfind, ?_⟩⟩
    rw [Option.filter_some, ← hnone]
    rfl

theorem Finds.resolve_fails (h : Finds find rows db)
    (hmany : ¬ ∀ text ∈ given, (rows text).length ≤ 1) :
    ∃ what, (resolve find given).run db = .error (.internalError what) db := by
  cases given with
  | none => simp at hmany
  | some text =>
    obtain ⟨what, hfind⟩ := h.ambiguous text (by simpa using hmany)
    exact ⟨what, run_bind_of_error hfind⟩

end Finds

namespace UpdateContact

/-- The country of the given place, should no row name it. -/
def unknownCountry (db : Database) (op : UpdateContact) : Option String :=
  (op.place.join.map (·.country)).filter fun text =>
    (db.enumCountry.select (EnumCountry.Named text)).isEmpty

/-- The type of the given personal id, should no row name it. -/
def unknownSsntype (db : Database) (op : UpdateContact) : Option String :=
  (op.personalId.join.map (·.type)).filter fun text =>
    (db.enumSsntype.select (EnumSsntype.Named text)).isEmpty

/-- No two rows name the given country or type. -/
structure Unambiguous (db : Database) (op : UpdateContact) : Prop where
  country : ∀ text ∈ op.place.join.map (·.country),
    (db.enumCountry.select (EnumCountry.Named text)).length ≤ 1
  ssntype : ∀ text ∈ op.personalId.join.map (·.type),
    (db.enumSsntype.select (EnumSsntype.Named text)).length ≤ 1

end UpdateContact

/-- Of the exceptions of a cancellation the update passes over this one. -/
theorem cancelRequest_raises {reg : ObjectState.Registry} {now : Db.Timestamp}
    {statusList : ObjectState.StatusList} {requests : ObjectState.Requests Db.Timestamp}
    {e : ObjectState.Exception Db.Timestamp} (hobject : (reg.objectRegistry.lookup id).isSome)
    (hnames : statusList.names ≠ [])
    (h : Raises (ObjectState.CancelObjectStateRequestId.exec reg now ⟨id, statusList⟩) requests e) :
    ∃ text, e = .stateNotFound text := by
  obtain ⟨object, hobject⟩ := Option.isSome_iff_exists.mp hobject
  obtain ⟨name, names, hnames⟩ := List.exists_cons_of_ne_nil hnames
  obtain ⟨requests', h⟩ := h
  simp only [ObjectState.CancelObjectStateRequestId.exec, hobject] at h
  rcases run_bind_eq_error.mp h with h | ⟨found, _, hfound, h⟩
  · rcases run_bind_eq_error.mp h with h | ⟨_, _, -, h⟩
    · obtain ⟨-, rfl, -⟩ := run_raiseIf_eq_error.mp h
      exact ⟨_, rfl⟩
    · cases h
  obtain ⟨_, _, hraise, hfound⟩ := run_bind_eq_ok.mp hfound
  obtain ⟨hall, rfl⟩ := run_raiseIf_eq_ok.mp hraise
  obtain ⟨rfl, rfl⟩ := run_pure_eq_ok.mp hfound
  rcases run_bind_eq_error.mp h with h | ⟨_, _, -, h⟩
  · obtain ⟨hnone, -⟩ := run_raiseIf_eq_error.mp h
    refine absurd ⟨?_, ?_⟩ hall
    · rw [hnone, hnames]
      exact Nat.succ_pos _
    · rw [hnone, hnames]
      simp
  rcases run_bind_eq_error.mp h with h | ⟨_, _, -, h⟩
  · cases h
  obtain ⟨-, rfl, -⟩ := run_raiseIf_eq_error.mp h
  exact ⟨_, rfl⟩

theorem lookup_stateRegistry (ho : db.objectRegistry.lookup id = some o) :
    (stateRegistry db).objectRegistry.lookup id = some ⟨o.id, objectTypeId o.type, o.name⟩ := by
  obtain ⟨hmem, hid⟩ := Table.lookup_eq_some.mp ho
  exact Table.lookup_eq_some.mpr ⟨List.mem_map.mpr ⟨o, hmem, rfl⟩, hid⟩

theorem isSome_lookup_stateRegistry (h : (db.objectRegistry.lookup id).isSome) :
    ((stateRegistry db).objectRegistry.lookup id).isSome := by
  obtain ⟨o, ho⟩ := Option.isSome_iff_exists.mp h
  exact Option.isSome_of_eq_some (lookup_stateRegistry ho)

theorem run_cancelState (state : String) (h : (db.objectRegistry.lookup id).isSome) :
    ∃ db', (cancelState id state).run db = .ok () db' := by
  simp only [cancelState, EStateM.run]
  split
  · exact ⟨_, rfl⟩
  · exact ⟨_, rfl⟩
  · rename_i e requests hne hrun
    obtain ⟨text, rfl⟩ := cancelRequest_raises (isSome_lookup_stateRegistry h)
      (List.cons_ne_nil _ _) ⟨requests, hrun⟩
    exact absurd rfl (hne text)

theorem run_conditionallyCancelFinalStates {changed : Bool} (h : (db.objectRegistry.lookup id).isSome) :
    ∃ db', (conditionallyCancelFinalStates id changed).run db = .ok () db' := by
  unfold conditionallyCancelFinalStates
  split
  · obtain ⟨db₁, hfirst⟩ := run_cancelState "contactFailedManualVerification" h
    have hkeeps := (UpdateContact.moves_cancelState.ok hfirst).registry id
    have h₁ : (db₁.objectRegistry.lookup id).isSome := by
      rw [← Option.isSome_map, hkeeps, Option.isSome_map]
      exact h
    obtain ⟨db₂, hsecond⟩ := run_cancelState "contactPassedManualVerification" h₁
    exact ⟨db₂, run_bind_eq_ok.mpr ⟨_, _, hfirst, hsecond⟩⟩
  · exact ⟨db, rfl⟩

namespace UpdateContact

/-- The columns are set of a contact that exists; when none is given, none has to exist. -/
theorem run_updateColumns (country : Option String) (ssntype : Option Nat)
    (hobject : (db.contact.lookup id).isSome → (db.objectRegistry.lookup id).isSome)
    (h : (db.contact.lookup id).isSome ∨ ¬ op.changesContact) :
    ∃ db', (op.updateColumns id country ssntype).run db = .ok () db' := by
  unfold updateColumns
  split
  · rename_i hchanges
    have hsome := h.resolve_right (not_not.mpr hchanges)
    obtain ⟨db', hcancel⟩ : ∃ db', (conditionallyCancelFinalStates id op.changesVerified).run
        { db with contact := db.contact.update (·.id = id) (op.set country ssntype) } = .ok () db' := by
      refine run_conditionallyCancelFinalStates ?_
      exact hobject hsome
    exact ⟨db', run_bind_eq_ok.mpr ⟨_, _, if_pos hsome, hcancel⟩⟩
  · exact ⟨db, rfl⟩

theorem run_updateColumns_fails (country : Option String) (ssntype : Option Nat)
    (h : ¬ ((db.contact.lookup id).isSome ∨ ¬ op.changesContact)) :
    ∃ what, (op.updateColumns id country ssntype).run db = .error (.internalError what) db := by
  obtain ⟨hnone, hchanges⟩ := not_or.mp h
  refine ⟨"failed to update contact", ?_⟩
  rw [updateColumns, if_pos (not_not.mp hchanges)]
  exact run_bind_of_error (if_neg hnone)

/-- A company name is forbidden for one of the addresses to update. -/
def companyError (op : UpdateContact) : ContactException :=
  { forbiddenCompanyNameSetting := forbiddenCompanyName op.addresses.toUpdate }

theorem not_raises_insertAddresses {addresses : ContactAddressList} :
    ¬ Raises (insertAddresses id addresses) db (.contact e) := by
  rintro ⟨db', h⟩
  simp only [insertAddresses, EStateM.run] at h
  split at h <;> cases h

theorem not_raises_removeAddresses :
    ¬ Raises (do
      op.removeAddresses id
      copyContactDataToContactHistory id
      return historyId) db (.contact e) := by
  rintro ⟨db', h⟩
  rcases run_bind_eq_error.mp h with h | ⟨_, _, -, h⟩
  · cases h
  rcases run_bind_eq_error.mp h with h | ⟨_, _, -, h⟩
  · rcases run_bind_eq_error.mp h with h | ⟨_, _, -, h⟩
    · cases h
    · cases (run_raiseIf_eq_error.mp h).2.1
  · cases h

/-- Of the statements on the addresses and the history only the check of the company names raises an
exception of UpdateContact. -/
theorem raises_updateAddresses :
    Raises (do
      op.updateAddresses id
      op.removeAddresses id
      copyContactDataToContactHistory id
      return historyId) db (.contact e) ↔ op.companyError ≠ {} ∧ op.companyError = e := by
  obtain ⟨db₁, hexisting⟩ : ∃ db₁, (op.updateExistingAddresses id).run db = .ok () db₁ := ⟨_, rfl⟩
  rw [raises_bind_left fun _ _ _ => not_raises_removeAddresses, updateAddresses,
    raises_bind_of_ok (run_get_eq_ok.mpr ⟨rfl, rfl⟩), raises_bind_of_ok hexisting]
  refine raises_raiseIf_bind.trans ?_
  rw [or_iff_left fun h => not_raises_insertAddresses h.2, Db.Exception.contact.injEq]
  rfl

/-- What is unknown of what the update names. -/
def unknownError (db : Database) (op : UpdateContact) (unknownHandle : Option String) :
    ContactException :=
  { unknownContactHandle := unknownHandle
    unknownCountry := unknownCountry db op
    unknownSsntype := unknownSsntype db op }

/-- The columns can be set: the contact exists, or none is given. -/
def SetsColumns (db : Database) (op : UpdateContact) (id : Nat) : Prop :=
  (db.contact.lookup id).isSome ∨ ¬ op.changesContact

theorem raises_updateColumns (hobject : (db.contact.lookup id).isSome → (db.objectRegistry.lookup id).isSome) :
    Raises (do
      op.updateColumns id country ssntype
      op.updateAddresses id
      op.removeAddresses id
      copyContactDataToContactHistory id
      return historyId) db (.contact e) ↔
    SetsColumns db op id ∧ op.companyError ≠ {} ∧ op.companyError = e := by
  by_cases hsets : SetsColumns db op id
  · obtain ⟨db', hcolumns⟩ := run_updateColumns country ssntype hobject hsets
    rw [raises_bind_of_ok hcolumns, raises_updateAddresses, and_iff_right hsets]
  · obtain ⟨what, hfails⟩ := run_updateColumns_fails country ssntype hsets
    rw [raises_bind_of_error hfails]
    exact iff_of_false nofun fun h => hsets h.1

/-- What is unknown is raised before the contact is written, a forbidden company name while it is. -/
theorem raises_exec_of_updated {unknownHandle : Option String} (hc : ContactsConsistent db)
    (hupdated : (op.updateObject settings handle).run db = .ok (historyId, unknownHandle) db')
    (hbooks : Bookkeeping db db') :
    Raises (op.exec settings handle id) db (.contact e) ↔ Unambiguous db op ∧
      (unknownError db op unknownHandle ≠ {} ∧ unknownError db op unknownHandle = e ∨
        unknownError db op unknownHandle = {} ∧ SetsColumns db op id ∧ op.companyError ≠ {} ∧
          op.companyError = e) := by
  have hcountry := finds_getCountryCode db'
  have hssntype := finds_getSsntypeId db'
  rw [hbooks.enumCountry] at hcountry
  rw [hbooks.enumSsntype] at hssntype
  rw [exec, raises_bind_of_ok hupdated]
  by_cases hone : ∀ text ∈ op.place.join.map (·.country),
      (db.enumCountry.select (EnumCountry.Named text)).length ≤ 1
  swap
  · obtain ⟨what, hfails⟩ := hcountry.resolve_fails hone
    rw [raises_bind_of_error hfails]
    exact iff_of_false nofun fun h => hone h.1.country
  obtain ⟨code, hcode⟩ := hcountry.run_resolve hone
  rw [raises_bind_of_ok hcode]
  by_cases hone' : ∀ text ∈ op.personalId.join.map (·.type),
      (db.enumSsntype.select (EnumSsntype.Named text)).length ≤ 1
  swap
  · obtain ⟨what, hfails⟩ := hssntype.resolve_fails hone'
    rw [raises_bind_of_error hfails]
    exact iff_of_false nofun fun h => hone' h.1.ssntype
  obtain ⟨typeId, htypeId⟩ := hssntype.run_resolve hone'
  rw [raises_bind_of_ok htypeId, and_iff_right ⟨hone, hone'⟩]
  refine raises_raiseIf_bind.trans ?_
  rw [raises_updateColumns, Db.Exception.contact.injEq, not_not]
  · rw [SetsColumns, hbooks.contact]
    rfl
  · intro hsome
    rw [hbooks.contact] at hsome
    obtain ⟨ct, hct⟩ := Option.isSome_iff_exists.mp hsome
    obtain ⟨hmem, rfl⟩ := Table.lookup_eq_some.mp hct
    rw [← Option.isSome_map, hbooks.registry, Option.isSome_map]
    exact hc.contactObject ct hmem

end UpdateContact

end LibFred.RegistrableObject.Contact
