import LibFred.RegistrableObject.Contact.UpdateRaises

/-! When the update of a contact reports all that is wrong. -/
namespace LibFred.RegistrableObject.Contact

open Sql
open LibFred.Db (Database ContactException ObjectRegistry Exec)
open LibFred.Object (AuthinfoSettings consistent_friendlyDb friendlyDb plaintextStorage)

variable {db db' : Database} {id historyId : Nat} {handle : String} {settings : AuthinfoSettings}
  {op : UpdateContact} {o : ObjectRegistry} {e : ContactException}

/-- How the contact to update is given. -/
inductive Selected
  | byHandle (handle : String)
  | byId (id : Nat)

namespace Selected

def exec (settings : AuthinfoSettings) (op : UpdateContact) : Selected → Exec Nat
  | byHandle handle => updateContactByHandle settings handle op
  | byId id => updateContactById settings id op

def Selects : Selected → ObjectRegistry → Prop
  | byHandle handle, o => LiveContact (upper handle) o
  | byId id, o => o.id = id ∧ LiveContact o.name o

/-- The contact exists. -/
def Known (db : Database) (selected : Selected) : Prop := ∃ o ∈ db.objectRegistry, selected.Selects o

/-- What tells that the contact does not exist. -/
def unknown : Selected → ContactException
  | byHandle handle => { unknownContactHandle := some handle }
  | byId id => { unknownContactId := some id }

theorem unknown_ne (selected : Selected) :
    selected.unknown.unknownContactHandle ≠ none ∨ selected.unknown.unknownContactId ≠ none := by
  cases selected with
  | byHandle handle => exact .inl (Option.some_ne_none _)
  | byId id => exact .inr (Option.some_ne_none _)

end Selected

namespace UpdateContact

theorem raises_exec_found (hc : ContactsConsistent db) (hr : RegistrarKnown db op.registrar)
    (hfound : FindsObject db handle) :
    Raises (op.exec settings handle id) db (.contact e) ↔
      (op.authinfo ≠ none → 0 < settings.ttl) ∧ Unambiguous db op ∧
        (unknownError db op none ≠ {} ∧ unknownError db op none = e ∨
          unknownError db op none = {} ∧ SetsColumns db op id ∧ op.companyError ≠ {} ∧
            op.companyError = e) := by
  by_cases httl : op.authinfo ≠ none → 0 < settings.ttl
  · obtain ⟨historyId, db', hupdated⟩ := run_updateObject_found hc hr hfound httl
    rw [raises_exec_of_updated hc hupdated (updateObject_bookkeeping hupdated), and_iff_right httl]
  · obtain ⟨hauthinfo, httl⟩ := Classical.not_imp.mp httl
    obtain ⟨ex, hfails, hex⟩ := run_updateObject_fails settings hc hr hauthinfo (.inl (not_lt.mp httl))
    rw [exec, raises_bind_of_error hfails]
    refine iff_of_false (fun h => hex ⟨e, h⟩) ?_
    rintro ⟨h, -⟩
    exact httl (h hauthinfo)

theorem raises_exec_unknown (hc : ContactsConsistent db) (hr : RegistrarKnown db op.registrar)
    (hunknown : ¬ FindsObject db handle) :
    Raises (op.exec settings handle id) db (.contact e) ↔
      op.authinfo = none ∧ Unambiguous db op ∧ unknownError db op (some handle) = e := by
  by_cases hauthinfo : op.authinfo = none
  · have hupdated := run_updateObject_unknown settings hc hr hunknown hauthinfo
    have hne : unknownError db op (some handle) ≠ {} := fun h =>
      Option.some_ne_none handle (congrArg ContactException.unknownContactHandle h)
    rw [raises_exec_of_updated hc hupdated (refl_of _ db)]
    simp [hauthinfo, hne]
  · obtain ⟨ex, hfails, hex⟩ := run_updateObject_fails settings hc hr hauthinfo (.inr hunknown)
    rw [exec, raises_bind_of_error hfails]
    exact iff_of_false (fun h => hex ⟨e, h⟩) fun h => hauthinfo h.1

/-- A contact without a row is not updated. -/
theorem exec_contact (h : (op.exec settings handle id).run db = .ok historyId db') :
    (db.contact.lookup id).isSome := by
  have hrow := (exec_ok h).row
  obtain ⟨db₁, db₂, t, -, -, rfl, hexists, -⟩ := exec_statements h
  by_contra hnone
  rw [Option.not_isSome_iff_eq_none.mp hnone] at hrow
  exact absurd hrow (Option.isSome_iff_ne_none.mp hexists)

/-- What is collected from an exception that tells something. -/
def collected (found unknown e : ContactException) : ContactException :=
  { if e.unknownContactHandle.isSome then unknown else found with
    unknownSsntype := e.unknownSsntype
    unknownCountry := e.unknownCountry
    forbiddenCompanyNameSetting := e.forbiddenCompanyNameSetting }

/-- The exception tells what `collect` reads. -/
structure Told (e : ContactException) : Prop where
  registrar : e.unknownRegistrarHandle = none
  something : ¬ (e.unknownContactHandle = none ∧ e.unknownSsntype = none ∧ e.unknownCountry = none ∧
    e.forbiddenCompanyNameSetting = none)

theorem run_collect {found unknown : ContactException} (h : Told e) :
    (collect found unknown e).run db = .ok (0, collected found unknown e) db := by
  rw [collect, h.registrar, if_neg (by simp), if_neg h.something]
  rfl

theorem told_unknownError {unknownHandle : Option String} (h : unknownError db op unknownHandle ≠ {}) :
    Told (unknownError db op unknownHandle) where
  registrar := rfl
  something := by
    rintro ⟨hhandle, hssntype, hcountry, -⟩
    refine h ?_
    simp only [unknownError] at hhandle hssntype hcountry
    rw [unknownError, hhandle, hssntype, hcountry]

theorem told_companyError (h : op.companyError ≠ {}) : Told op.companyError where
  registrar := rfl
  something := by
    rintro ⟨-, -, -, hcompany⟩
    refine h ?_
    simp only [companyError] at hcompany
    rw [companyError, hcompany]

/-- An exception that tells something is collected, and what was collected is raised. -/
theorem raises_reported {found unknown e' : ContactException} {x : Exec Nat}
    {handler : Db.Exception → Exec (Nat × ContactException)}
    (hunknown : unknown.unknownContactHandle ≠ none ∨ unknown.unknownContactId ≠ none)
    (hcontact : ∀ e, handler (.contact e) = collect found unknown e)
    (hother : ∀ ex, ¬ IsContact ex → handler ex = throw ex)
    (htold : ∀ e, Raises x db (.contact e) → Told e)
    (hdone : found ≠ {} → ∀ historyId db', x.run db ≠ .ok historyId db') :
    Raises (do
      let updated ← tryCatch (do
        let historyId ← x
        return (historyId, found)) handler
      raiseIf (updated.2 ≠ {}) (.contact updated.2)
      return updated.1) db (.contact e') ↔
      ∃ e, Raises x db (.contact e) ∧ collected found unknown e = e' := by
  cases hx : x.run db with
  | ok historyId db' =>
    have hfound : found = {} := not_not.mp fun hne => hdone hne historyId db' hx
    have hupdated : (tryCatch (do
        let historyId ← x
        return (historyId, found)) handler).run db = .ok (historyId, found) db' :=
      run_tryCatch_eq_ok.mpr (.inl (run_bind_eq_ok.mpr ⟨historyId, db', hx, rfl⟩))
    rw [raises_bind_of_ok hupdated]
    refine iff_of_false (fun h => ?_) fun ⟨e, h, _⟩ => not_raises_of_ok hx h
    rcases raises_raiseIf_bind.mp h with ⟨hne, -⟩ | ⟨-, h⟩
    · exact hne hfound
    · exact not_raises_of_ok rfl h
  | error ex db' =>
    by_cases hex : IsContact ex
    · obtain ⟨e, rfl⟩ := hex
      have hcollect : (collect found unknown e).run db' = .ok (0, collected found unknown e) db' :=
        run_collect (htold e ⟨db', hx⟩)
      have hcaught := hcollect
      rw [← hcontact] at hcaught
      rw [raises_bind_of_ok (run_tryCatch_eq_ok.mpr (.inr ⟨_, _, run_bind_of_error hx, hcaught⟩)),
        raises_bind_of_error (run_raiseIf_of_pos (collect_ne_nothing hunknown hcollect)),
        Db.Exception.contact.injEq]
      constructor
      · exact fun h => ⟨e, ⟨db', hx⟩, h⟩
      · rintro ⟨e₁, h, hcollected⟩
        obtain rfl := Db.Exception.contact.inj ((raises_of_error hx).mp h)
        exact hcollected
    · have hfails : (tryCatch (do
          let historyId ← x
          return (historyId, found)) handler).run db = .error ex db' := by
        rw [run_tryCatch, run_bind_of_error hx]
        simp only [hother ex hex]
        rfl
      rw [raises_bind_of_error hfails]
      refine iff_of_false (fun h => hex ⟨e', h⟩) fun ⟨e, h, _⟩ => hex ⟨e, (raises_of_error hx).mp h⟩

theorem told_of_raises (hc : ContactsConsistent db) (hr : RegistrarKnown db op.registrar)
    (h : Raises (op.exec settings handle id) db (.contact e)) : Told e := by
  by_cases hfound : FindsObject db handle
  · obtain ⟨-, -, ⟨hne, rfl⟩ | ⟨-, -, hne, rfl⟩⟩ := (raises_exec_found hc hr hfound).mp h
    · exact told_unknownError hne
    · exact told_companyError hne
  · obtain ⟨-, -, rfl⟩ := (raises_exec_unknown hc hr hfound).mp h
    exact told_unknownError fun h =>
      Option.some_ne_none handle (congrArg ContactException.unknownContactHandle h)

/-- The update of a contact that was found raises what UpdateContact does. -/
theorem raises_execSelected_some {unknown : ContactException} {info : InfoContactData}
    (hc : ContactsConsistent db) (hr : RegistrarKnown db op.registrar)
    (hunknown : unknown.unknownContactHandle ≠ none ∨ unknown.unknownContactId ≠ none) :
    Raises (op.execSelected settings unknown (some info)) db (.contact e) ↔
      ∃ e', Raises (op.exec settings info.handle info.id) db (.contact e') ∧
        collected {} unknown e' = e := by
  refine raises_reported hunknown (fun _ => rfl) (fun ex hex => ?_) (fun _ => told_of_raises hc hr)
    fun hne => absurd rfl hne
  cases ex with
  | contact e => exact absurd ⟨e, rfl⟩ hex
  | _ => rfl

/-- The update of a contact that was not found raises what UpdateContact does, as of one without a
handle, and that the contact is unknown. -/
theorem raises_execSelected_none {unknown : ContactException} (hc : ContactsConsistent db)
    (hr : RegistrarKnown db op.registrar)
    (hunknown : unknown.unknownContactHandle ≠ none ∨ unknown.unknownContactId ≠ none) :
    Raises (op.execSelected settings unknown none) db (.contact e) ↔
      ∃ e', Raises (op.exec settings "" 0) db (.contact e') ∧ collected unknown unknown e' = e := by
  refine raises_reported hunknown (fun _ => rfl) (fun ex hex => ?_) (fun _ => told_of_raises hc hr)
    fun _ historyId db' hok => ?_
  · cases ex with
    | contact e => exact absurd ⟨e, rfl⟩ hex
    | _ => rfl
  · have hsome : (db.contact.lookup 0).isSome := exec_contact hok
    rw [hc.lookup_zero] at hsome
    cases hsome

end UpdateContact

/-- A live contact is read from its rows. -/
theorem exists_infoContactRow (hc : LibFred.Object.Consistent db) (ho : o ∈ db.objectRegistry)
    (hlive : LiveContact o.name o) : ∃ info, infoContactRow utc db o = some info ∧ info.id = o.id ∧
      info.handle = o.name ∧ (db.contact.lookup o.id).isSome := by
  obtain ⟨obj, ct, h, clr, crr, hjoined⟩ := hc.contactRows o ho hlive
  exact ⟨infoContactOf utc db o obj ct h clr crr,
    infoContactRow_eq_some.mpr ⟨obj, ct, h, clr, crr, hjoined, rfl⟩, rfl, rfl,
    Option.isSome_of_eq_some hjoined.contact⟩

theorem run_infoContactById_unknown (h : ∀ o ∈ db.objectRegistry, ¬ (o.id = id ∧ LiveContact o.name o)) :
    (infoContactById utc id).run db = .error (.unknownContactId id) db := by
  refine run_bind_eq_error.mpr (.inr ⟨db, db, rfl, ?_⟩)
  rw [List.filterMap_eq_nil_iff.mpr fun o ho => ?_]
  · rfl
  · obtain ⟨ho, hid⟩ := Table.mem_select.mp ho
    by_contra hne
    obtain ⟨info, hinfo⟩ := Option.ne_none_iff_exists'.mp hne
    obtain ⟨_, _, _, _, _, hjoined, -⟩ := infoContactRow_eq_some.mp hinfo
    exact h o ho ⟨hid, rfl, hjoined.type, hjoined.erdate⟩

namespace Selected

variable {selected : Selected}

theorem Selects.live (h : selected.Selects o) : LiveContact o.name o := by
  cases selected with
  | byHandle handle => exact ⟨rfl, h.2⟩
  | byId id => exact h.2

/-- A contact that exists is selected. -/
theorem run_exec_exists (settings : AuthinfoSettings) (op : UpdateContact)
    (hc : LibFred.Object.Consistent db) (ho : o ∈ db.objectRegistry)
    (hselects : selected.Selects o) : ∃ info, info.id = o.id ∧ info.handle = o.name ∧
      (db.contact.lookup o.id).isSome ∧ (selected.exec settings op).run db =
        (op.execSelected settings selected.unknown (some info)).run db := by
  obtain ⟨info, hrow, hid, hname, hcontact⟩ := exists_infoContactRow hc ho hselects.live
  refine ⟨info, hid, hname, hcontact, ?_⟩
  cases selected with
  | byHandle handle =>
    have hread : (infoContactByHandle utc handle).run db = .ok info db := by
      refine infoContactByHandle_ok.mpr ⟨⟨o, ho, hselects.1, hrow, fun o' ho' hname' hsome => ?_⟩, rfl⟩
      obtain ⟨_, hinfo⟩ := Option.isSome_iff_exists.mp hsome
      obtain ⟨_, _, _, _, _, hjoined, -⟩ := infoContactRow_eq_some.mp hinfo
      exact hc.contactName o' ho' o ho ⟨rfl, hjoined.type, hjoined.erdate⟩
        ⟨hselects.1.trans hname'.symm, hselects.2⟩
    exact run_bind_of_ok (run_tryCatch_eq_ok.mpr (.inl (run_bind_eq_ok.mpr ⟨info, db, hread, rfl⟩)))
  | byId id =>
    have hread : (infoContactById utc id).run db = .ok info db :=
      infoContactById_ok.mpr ⟨⟨o, ho, hselects.1, hrow, fun o' ho' hid' _ =>
        Table.eq_of_key_eq ho' ho (hid'.trans hselects.1.symm)⟩, rfl⟩
    exact run_bind_of_ok (run_tryCatch_eq_ok.mpr (.inl (run_bind_eq_ok.mpr ⟨info, db, hread, rfl⟩)))

theorem run_exec_missing (h : ¬ selected.Known db) : (selected.exec settings op).run db =
    (op.execSelected settings selected.unknown none).run db := by
  have hnone : ∀ o ∈ db.objectRegistry, ¬ selected.Selects o := fun o ho hselects => h ⟨o, ho, hselects⟩
  cases selected with
  | byHandle handle =>
    have hread : (infoContactByHandle utc handle).run db = _ :=
      LibFred.Object.run_infoContactByHandle_unknown hnone
    exact run_bind_of_ok (run_tryCatch_eq_ok.mpr (.inr ⟨_, db, run_bind_of_error hread, rfl⟩))
  | byId id =>
    have hread := run_infoContactById_unknown hnone
    exact run_bind_of_ok (run_tryCatch_eq_ok.mpr (.inr ⟨_, db, run_bind_of_error hread, rfl⟩))

end Selected

/-- A company name is given for an address to update that is not for shipping. -/
def UpdateContact.Forbids (op : UpdateContact) : Prop :=
  ∃ type, ForbidsCompanyName op.addresses.toUpdate type

namespace Selected

open UpdateContact

variable {selected : Selected}

/-- Something is wrong with the request. -/
def Wrong (db : Database) (op : UpdateContact) (selected : Selected) : Prop :=
  ¬ selected.Known db ∨ unknownCountry db op ≠ none ∨ unknownSsntype db op ≠ none ∨ op.Forbids

/-- The exception tells all that is wrong, and nothing else. -/
structure Reports (db : Database) (op : UpdateContact) (selected : Selected) (e : ContactException) :
    Prop where
  known : selected.Known db → e.unknownContactHandle = none ∧ e.unknownContactId = none
  missing : ¬ selected.Known db →
    e.unknownContactHandle = selected.unknown.unknownContactHandle ∧
      e.unknownContactId = selected.unknown.unknownContactId
  country : e.unknownCountry = unknownCountry db op
  ssntype : e.unknownSsntype = unknownSsntype db op
  company : e.forbiddenCompanyNameSetting ≠ none ↔ op.Forbids
  companyType : ∀ text ∈ e.forbiddenCompanyNameSetting,
    ∃ type, type.text = text ∧ ForbidsCompanyName op.addresses.toUpdate type
  others : e.unknownRegistrarHandle = none ∧ e.invalidContactHandle = none

/-- The update raises an exception of its own exactly when something is wrong, and it tells what. -/
structure ReportsErrors (settings : AuthinfoSettings) (db : Database) (op : UpdateContact)
    (selected : Selected) : Prop where
  raised : (∃ e, Raises (selected.exec settings op) db (.contact e)) ↔ Wrong db op selected
  reports : ∀ e, Raises (selected.exec settings op) db (.contact e) → Reports db op selected e

/-- Nothing keeps what is wrong from being told: an authinfo can be stored, no text is ambiguous, a
forbidden company name comes alone, and a contact that does not exist is not taken for the one with
the empty handle. -/
structure Reportable (settings : AuthinfoSettings) (db : Database) (op : UpdateContact)
    (selected : Selected) : Prop where
  authinfo : op.authinfo ≠ none → 0 < settings.ttl ∧ (selected.Known db ∨ FindsObject db "")
  unambiguous : Unambiguous db op
  company : op.Forbids → unknownCountry db op = none ∧ unknownSsntype db op = none ∧
    (selected.Known db ∨ FindsObject db "" ∧ ¬ op.changesContact)
  contact : ¬ selected.Known db → FindsObject db "" →
    unknownCountry db op ≠ none ∨ unknownSsntype db op ≠ none ∨ op.Forbids

theorem forbiddenCompanyName_ne_none_iff :
    forbiddenCompanyName op.addresses.toUpdate ≠ none ↔ op.Forbids := by
  constructor
  · intro h
    by_contra hnone
    refine h ?_
    rw [forbiddenCompanyName, Option.map_eq_none_iff, List.getLast?_eq_none_iff,
      List.filter_eq_nil_iff]
    exact fun type _ h => hnone ⟨type, of_decide_eq_true h⟩
  · rintro ⟨type, hforbids⟩ hnone
    exact not_forbidsCompanyName hnone type hforbids

theorem companyError_ne_iff : op.companyError ≠ {} ↔ op.Forbids := by
  rw [← forbiddenCompanyName_ne_none_iff, ne_eq, ne_eq, not_iff_not]
  constructor
  · exact congrArg ContactException.forbiddenCompanyNameSetting
  · intro h
    rw [companyError, h]

theorem companyError_type {text : String} (h : text ∈ op.companyError.forbiddenCompanyNameSetting) :
    ∃ type, type.text = text ∧ ForbidsCompanyName op.addresses.toUpdate type := by
  obtain ⟨type, htype, rfl⟩ := Option.map_eq_some_iff.mp h
  obtain ⟨-, hforbids⟩ := List.mem_filter.mp (List.mem_of_getLast? htype)
  exact ⟨type, rfl, of_decide_eq_true hforbids⟩

theorem unknownError_ne_iff : unknownError db op none ≠ {} ↔
    unknownCountry db op ≠ none ∨ unknownSsntype db op ≠ none := by
  rw [← not_and_or, not_iff_not]
  constructor
  · exact fun h => ⟨congrArg ContactException.unknownCountry h, congrArg ContactException.unknownSsntype h⟩
  · rintro ⟨hcountry, hssntype⟩
    rw [unknownError, hcountry, hssntype]

theorem raises_known (settings : AuthinfoSettings) (e : ContactException)
    (hc : ContactsConsistent db) (hr : RegistrarKnown db op.registrar)
    (hknown : selected.Known db) :
    Raises (selected.exec settings op) db (.contact e) ↔
      (op.authinfo ≠ none → 0 < settings.ttl) ∧ Unambiguous db op ∧
        (unknownError db op none ≠ {} ∧ unknownError db op none = e ∨
          unknownError db op none = {} ∧ op.companyError ≠ {} ∧ op.companyError = e) := by
  obtain ⟨o, ho, hselects⟩ := hknown
  obtain ⟨info, hid, hname, hcontact, hrun⟩ :=
    run_exec_exists settings op hc.toConsistent ho hselects
  have hfound : FindsObject db info.handle := by
    refine ⟨o, ho, ?_, hselects.live.2⟩
    rw [hname, hc.contactUpper o ho hselects.live.2.1]
  rw [Raises, hrun, ← Raises, raises_execSelected_some hc hr selected.unknown_ne]
  simp only [raises_exec_found hc hr hfound, SetsColumns, hid, hcontact, true_or, true_and]
  constructor
  · rintro ⟨e', ⟨httl, hone, ⟨hne, rfl⟩ | ⟨hnone, hne, rfl⟩⟩, rfl⟩
    · exact ⟨httl, hone, .inl ⟨hne, rfl⟩⟩
    · exact ⟨httl, hone, .inr ⟨hnone, hne, rfl⟩⟩
  · rintro ⟨httl, hone, ⟨hne, rfl⟩ | ⟨hnone, hne, rfl⟩⟩
    · exact ⟨_, ⟨httl, hone, .inl ⟨hne, rfl⟩⟩, rfl⟩
    · exact ⟨_, ⟨httl, hone, .inr ⟨hnone, hne, rfl⟩⟩, rfl⟩

/-- A contact that does not exist is updated as the one with the empty handle, but has no row. -/
theorem raises_missing_emptyHandle (settings : AuthinfoSettings) (e : ContactException)
    (hc : ContactsConsistent db) (hr : RegistrarKnown db op.registrar)
    (hmissing : ¬ selected.Known db) (hempty : FindsObject db "") :
    Raises (selected.exec settings op) db (.contact e) ↔
      (op.authinfo ≠ none → 0 < settings.ttl) ∧ Unambiguous db op ∧
        (unknownError db op none ≠ {} ∧
            collected selected.unknown selected.unknown (unknownError db op none) = e ∨
          unknownError db op none = {} ∧ ¬ op.changesContact ∧ op.companyError ≠ {} ∧
            collected selected.unknown selected.unknown op.companyError = e) := by
  rw [Raises, run_exec_missing hmissing, ← Raises, raises_execSelected_none hc hr selected.unknown_ne]
  simp only [raises_exec_found hc hr hempty, SetsColumns, hc.lookup_zero, Option.isSome_none,
    Bool.false_eq_true, false_or]
  constructor
  · rintro ⟨e', ⟨httl, hone, ⟨hne, rfl⟩ | ⟨hnone, hsame, hne, rfl⟩⟩, rfl⟩
    · exact ⟨httl, hone, .inl ⟨hne, rfl⟩⟩
    · exact ⟨httl, hone, .inr ⟨hnone, hsame, hne, rfl⟩⟩
  · rintro ⟨httl, hone, ⟨hne, rfl⟩ | ⟨hnone, hsame, hne, rfl⟩⟩
    · exact ⟨_, ⟨httl, hone, .inl ⟨hne, rfl⟩⟩, rfl⟩
    · exact ⟨_, ⟨httl, hone, .inr ⟨hnone, hsame, hne, rfl⟩⟩, rfl⟩

theorem raises_missing (settings : AuthinfoSettings) (e : ContactException)
    (hc : ContactsConsistent db) (hr : RegistrarKnown db op.registrar)
    (hmissing : ¬ selected.Known db) (hempty : ¬ FindsObject db "") :
    Raises (selected.exec settings op) db (.contact e) ↔ op.authinfo = none ∧ Unambiguous db op ∧
      collected selected.unknown selected.unknown (unknownError db op (some "")) = e := by
  rw [Raises, run_exec_missing hmissing, ← Raises, raises_execSelected_none hc hr selected.unknown_ne]
  simp only [raises_exec_unknown hc hr hempty]
  constructor
  · rintro ⟨e', ⟨hauthinfo, hone, rfl⟩, rfl⟩
    exact ⟨hauthinfo, hone, rfl⟩
  · rintro ⟨hauthinfo, hone, rfl⟩
    exact ⟨_, ⟨hauthinfo, hone, rfl⟩, rfl⟩

/-- What was unknown is told of a contact that exists, so a company name must not be forbidden. -/
theorem reports_unknownError (hknown : selected.Known db) (hallowed : ¬ op.Forbids) :
    Reports db op selected (unknownError db op none) where
  known _ := ⟨rfl, rfl⟩
  missing h := absurd hknown h
  country := rfl
  ssntype := rfl
  company := iff_of_false (fun h => h rfl) hallowed
  companyType := nofun
  others := ⟨rfl, rfl⟩

theorem reports_companyError (hknown : selected.Known db) (hcountry : unknownCountry db op = none)
    (hssntype : unknownSsntype db op = none) : Reports db op selected op.companyError where
  known _ := ⟨rfl, rfl⟩
  missing h := absurd hknown h
  country := hcountry.symm
  ssntype := hssntype.symm
  company := forbiddenCompanyName_ne_none_iff
  companyType _ := companyError_type
  others := ⟨rfl, rfl⟩

/-- What is told of a contact that does not exist. -/
theorem reports_collected (hmissing : ¬ selected.Known db) {e : ContactException}
    (hcountry : e.unknownCountry = unknownCountry db op)
    (hssntype : e.unknownSsntype = unknownSsntype db op)
    (hcompany : e.forbiddenCompanyNameSetting = op.companyError.forbiddenCompanyNameSetting) :
    Reports db op selected (collected selected.unknown selected.unknown e) where
  known h := absurd h hmissing
  missing _ := by simp [collected]
  country := hcountry
  ssntype := hssntype
  company := by
    rw [collected, hcompany]
    exact forbiddenCompanyName_ne_none_iff
  companyType text h := companyError_type (hcompany ▸ h)
  others := by
    rw [collected, ite_self]
    cases selected with
    | byHandle handle => exact ⟨rfl, rfl⟩
    | byId id => exact ⟨rfl, rfl⟩

theorem forbiddenCompanyName_eq_none (h : ¬ op.Forbids) :
    forbiddenCompanyName op.addresses.toUpdate = none :=
  not_not.mp (mt forbiddenCompanyName_ne_none_iff.mp h)

/-- Nothing is unknown of what the update names. -/
theorem unknown_eq_none (h : unknownError db op none = {}) :
    unknownCountry db op = none ∧ unknownSsntype db op = none :=
  ⟨congrArg ContactException.unknownCountry h, congrArg ContactException.unknownSsntype h⟩

theorem reportsErrors_known (hc : ContactsConsistent db) (hr : RegistrarKnown db op.registrar)
    (hknown : selected.Known db) : ReportsErrors settings db op selected ↔
      (Wrong db op selected → Reportable settings db op selected) := by
  have hraises := fun e => raises_known settings e hc hr hknown
  constructor
  · intro h hwrong
    obtain ⟨e, he⟩ := h.raised.mpr hwrong
    have hreports := h.reports e he
    obtain ⟨httl, hone, hwhat⟩ := (hraises e).mp he
    refine ⟨fun hauthinfo => ⟨httl hauthinfo, .inl hknown⟩, hone, fun hforbids => ?_,
      fun hmissing => absurd hknown hmissing⟩
    rcases hwhat with ⟨-, rfl⟩ | ⟨hnone, -, rfl⟩
    · exact absurd rfl (hreports.company.mpr hforbids)
    · obtain ⟨hcountry, hssntype⟩ := unknown_eq_none hnone
      exact ⟨hcountry, hssntype, .inl hknown⟩
  · intro h
    refine ⟨⟨fun ⟨e, he⟩ => ?_, fun hwrong => ?_⟩, fun e he => ?_⟩
    · obtain ⟨-, -, ⟨hne, -⟩ | ⟨-, hne, -⟩⟩ := (hraises e).mp he
      · exact .inr (or_assoc.mp (.inl (unknownError_ne_iff.mp hne)))
      · exact .inr (.inr (.inr (companyError_ne_iff.mp hne)))
    · have hreportable := h hwrong
      have httl := fun hauthinfo => (hreportable.authinfo hauthinfo).1
      by_cases hnone : unknownError db op none = {}
      · obtain ⟨hcountry, hssntype⟩ := unknown_eq_none hnone
        have hforbids : op.Forbids := by simpa [Wrong, hknown, hcountry, hssntype] using hwrong
        exact ⟨_, (hraises _).mpr ⟨httl, hreportable.unambiguous,
          .inr ⟨hnone, companyError_ne_iff.mpr hforbids, rfl⟩⟩⟩
      · exact ⟨_, (hraises _).mpr ⟨httl, hreportable.unambiguous, .inl ⟨hnone, rfl⟩⟩⟩
    · obtain ⟨-, -, ⟨hne, rfl⟩ | ⟨hnone, -, rfl⟩⟩ := (hraises e).mp he
      · refine reports_unknownError hknown fun hforbids => ?_
        have hwrong : Wrong db op selected := .inr (.inr (.inr hforbids))
        obtain ⟨hcountry, hssntype, -⟩ := (h hwrong).company hforbids
        exact (unknownError_ne_iff.mp hne).elim (· hcountry) (· hssntype)
      · obtain ⟨hcountry, hssntype⟩ := unknown_eq_none hnone
        exact reports_companyError hknown hcountry hssntype

theorem reportsErrors_emptyHandle (hc : ContactsConsistent db) (hr : RegistrarKnown db op.registrar)
    (hmissing : ¬ selected.Known db) (hempty : FindsObject db "") :
    ReportsErrors settings db op selected ↔ Reportable settings db op selected := by
  have hraises := fun e => raises_missing_emptyHandle settings e hc hr hmissing hempty
  constructor
  · intro h
    obtain ⟨e, he⟩ := h.raised.mpr (.inl hmissing)
    have hreports := h.reports e he
    obtain ⟨httl, hone, hwhat⟩ := (hraises e).mp he
    refine ⟨fun hauthinfo => ⟨httl hauthinfo, .inr hempty⟩, hone, fun hforbids => ?_, fun _ _ => ?_⟩
    · rcases hwhat with ⟨-, rfl⟩ | ⟨hnone, hsame, -, rfl⟩
      · exact absurd rfl (hreports.company.mpr hforbids)
      · obtain ⟨hcountry, hssntype⟩ := unknown_eq_none hnone
        exact ⟨hcountry, hssntype, .inr ⟨hempty, hsame⟩⟩
    · rcases hwhat with ⟨hne, -⟩ | ⟨-, -, hne, -⟩
      · exact or_assoc.mp (.inl (unknownError_ne_iff.mp hne))
      · exact .inr (.inr (companyError_ne_iff.mp hne))
  · intro h
    have httl := fun hauthinfo => (h.authinfo hauthinfo).1
    refine ⟨⟨fun _ => .inl hmissing, fun _ => ?_⟩, fun e he => ?_⟩
    · by_cases hnone : unknownError db op none = {}
      · obtain ⟨hcountry, hssntype⟩ := unknown_eq_none hnone
        have hforbids : op.Forbids := by simpa [hcountry, hssntype] using h.contact hmissing hempty
        obtain ⟨-, hsame⟩ := (h.company hforbids).2.2.resolve_left hmissing
        exact ⟨_, (hraises _).mpr ⟨httl, h.unambiguous,
          .inr ⟨hnone, hsame, companyError_ne_iff.mpr hforbids, rfl⟩⟩⟩
      · exact ⟨_, (hraises _).mpr ⟨httl, h.unambiguous, .inl ⟨hnone, rfl⟩⟩⟩
    · obtain ⟨-, -, ⟨hne, rfl⟩ | ⟨hnone, -, -, rfl⟩⟩ := (hraises e).mp he
      · refine reports_collected hmissing rfl rfl (forbiddenCompanyName_eq_none fun hforbids => ?_).symm
        obtain ⟨hcountry, hssntype, -⟩ := h.company hforbids
        exact (unknownError_ne_iff.mp hne).elim (· hcountry) (· hssntype)
      · obtain ⟨hcountry, hssntype⟩ := unknown_eq_none hnone
        exact reports_collected hmissing hcountry.symm hssntype.symm rfl

theorem reportsErrors_missing (hc : ContactsConsistent db) (hr : RegistrarKnown db op.registrar)
    (hmissing : ¬ selected.Known db) (hempty : ¬ FindsObject db "") :
    ReportsErrors settings db op selected ↔ Reportable settings db op selected := by
  have hraises := fun e => raises_missing settings e hc hr hmissing hempty
  constructor
  · intro h
    obtain ⟨e, he⟩ := h.raised.mpr (.inl hmissing)
    have hreports := h.reports e he
    obtain ⟨hauthinfo, hone, rfl⟩ := (hraises e).mp he
    exact ⟨fun hne => absurd hauthinfo hne, hone,
      fun hforbids => absurd rfl (hreports.company.mpr hforbids), fun _ hfinds => absurd hfinds hempty⟩
  · intro h
    have hauthinfo : op.authinfo = none := by
      by_contra hne
      exact (h.authinfo hne).2.elim hmissing hempty
    have hallowed : ¬ op.Forbids := fun hforbids =>
      (h.company hforbids).2.2.elim hmissing fun hfinds => hempty hfinds.1
    refine ⟨⟨fun _ => .inl hmissing, fun _ => ⟨_, (hraises _).mpr ⟨hauthinfo, h.unambiguous, rfl⟩⟩⟩,
      fun e he => ?_⟩
    obtain ⟨-, -, rfl⟩ := (hraises e).mp he
    exact reports_collected hmissing rfl rfl (forbiddenCompanyName_eq_none hallowed).symm

/-- The update of a contact reports all that is wrong, and nothing else, exactly when what is wrong
can be told. -/
theorem update_errors_reported (hc : ContactsConsistent db) (hr : RegistrarKnown db op.registrar) :
    ReportsErrors settings db op selected ↔
      (Wrong db op selected → Reportable settings db op selected) := by
  by_cases hknown : selected.Known db
  · exact reportsErrors_known hc hr hknown
  · have hwrong : Wrong db op selected := .inl hknown
    rw [imp_iff_right hwrong]
    by_cases hempty : FindsObject db ""
    · exact reportsErrors_emptyHandle hc hr hknown hempty
    · exact reportsErrors_missing hc hr hknown hempty

theorem contactsConsistent_friendlyDb : ContactsConsistent friendlyDb where
  toConsistent := consistent_friendlyDb
  contactUpper := (by decide : ∀ o ∈ friendlyDb.objectRegistry.rows,
    o.type = .contact → upper o.name = o.name)
  objectId := (by decide : ∀ o ∈ friendlyDb.objectRegistry.rows, o.id ≠ 0)
  contactObject := (by decide : ∀ ct ∈ friendlyDb.contact.rows,
    (friendlyDb.objectRegistry.lookup ct.id).isSome)
  authinfoId := (by decide : ∀ a ∈ friendlyDb.objectAuthinfo.rows, a.id < friendlyDb.objectAuthinfoSeq)

theorem registrarKnown_friendlyDb : RegistrarKnown friendlyDb "REG-FIRST" :=
  ⟨⟨1, "REG-FIRST"⟩, List.mem_cons_self, by decide⟩

/-- The update of nothing but the authinfo. -/
def authinfoUpdate : UpdateContact where
  registrar := "REG-FIRST"
  authinfo := some "secret"
  name := none
  organization := none
  place := none
  telephone := none
  fax := none
  email := none
  notifyemail := none
  vat := none
  personalId := none
  addresses := .empty
  disclosename := none
  discloseorganization := none
  discloseaddress := none
  disclosetelephone := none
  disclosefax := none
  discloseemail := none
  disclosevat := none
  discloseident := none
  disclosenotifyemail := none
  domainExpirationWarningLetterEnabled := none
  logdRequestId := none

def twoWeeks : AuthinfoSettings := ⟨plaintextStorage, "", 14 * 24 * 3600 * 1000000⟩

/-- The country and the type of identification are unknown. -/
def abroadUpdate : UpdateContact :=
  { authinfoUpdate with
    place := some (some ⟨"Street 1", none, none, "Town", none, "10000", "Neverland"⟩)
    personalId := some (some ⟨"SIGNATURE", "1"⟩) }

/-- Only the company name of the first address is allowed. -/
def companyUpdate : UpdateContact :=
  { authinfoUpdate with
    addresses := (ContactAddressToUpdate.empty.update .shipping
      ⟨⟨"Street 2", none, none, "Town", none, "10000", "CZ"⟩, some "Company"⟩).update .billing
      ⟨⟨"Street 3", none, none, "Town", none, "10000", "CZ"⟩, some "Company"⟩ }

theorem known_friendlyDb : (byHandle "friend").Known friendlyDb :=
  ⟨⟨6, 0, "C6-CZ", "FRIEND", .contact, 1, 0, none, some 2, some 2⟩,
    List.mem_cons_of_mem _ List.mem_cons_self, by decide, rfl, rfl⟩

theorem update_errors_reported_friendly :
    (ReportsErrors twoWeeks friendlyDb abroadUpdate (.byHandle "friend") ∧
      Raises ((Selected.byHandle "friend").exec twoWeeks abroadUpdate) friendlyDb
        (.contact { unknownCountry := some "Neverland", unknownSsntype := some "SIGNATURE" })) ∧
    ReportsErrors twoWeeks friendlyDb companyUpdate (.byHandle "friend") ∧
      Raises ((Selected.byHandle "friend").exec twoWeeks companyUpdate) friendlyDb
        (.contact { forbiddenCompanyNameSetting := some "BILLING" }) := by
  have hauthinfo : 0 < twoWeeks.ttl := by decide
  refine ⟨⟨?_, by decide +kernel⟩, ?_, by decide +kernel⟩
  · refine (update_errors_reported contactsConsistent_friendlyDb registrarKnown_friendlyDb).mpr
      fun _ => ⟨fun _ => ⟨hauthinfo, .inl known_friendlyDb⟩, ⟨?_, ?_⟩, ?_, fun h => absurd known_friendlyDb h⟩
    · exact (by decide : ∀ text ∈ abroadUpdate.place.join.map (·.country),
        (friendlyDb.enumCountry.select (EnumCountry.Named text)).length ≤ 1)
    · exact (by decide : ∀ text ∈ abroadUpdate.personalId.join.map (·.type),
        (friendlyDb.enumSsntype.select (EnumSsntype.Named text)).length ≤ 1)
    · rintro ⟨type, address, haddress, -⟩
      cases haddress
  · refine (update_errors_reported contactsConsistent_friendlyDb registrarKnown_friendlyDb).mpr
      fun _ => ⟨fun _ => ⟨hauthinfo, .inl known_friendlyDb⟩, ⟨nofun, nofun⟩,
        fun _ => ⟨rfl, rfl, .inl known_friendlyDb⟩, fun h => absurd known_friendlyDb h⟩

/-- That the contact does not exist is not told when an authinfo is given. -/
theorem not_update_errors_reported :
    ¬ ∀ (settings : AuthinfoSettings) (db : Database) (op : UpdateContact) (selected : Selected),
      ContactsConsistent db → RegistrarKnown db op.registrar → 0 < settings.ttl →
        ReportsErrors settings db op selected := by
  intro h
  have hlive : ∀ handle, handle ≠ "FRIEND" → ¬ ∃ o ∈ friendlyDb.objectRegistry, LiveContact handle o := by
    rintro handle hne ⟨o, ho, hname, htype, -⟩
    have hfriend : o.type = .contact → o.name = "FRIEND" :=
      (by decide : ∀ o ∈ friendlyDb.objectRegistry.rows, o.type = .contact → o.name = "FRIEND") o ho
    exact hne (hname.symm.trans (hfriend htype))
  have hmissing : ¬ (byHandle "nobody").Known friendlyDb := hlive _ (by decide)
  have hempty : ¬ FindsObject friendlyDb "" := hlive _ (by decide)
  have hreports := h twoWeeks friendlyDb authinfoUpdate (.byHandle "nobody")
    contactsConsistent_friendlyDb registrarKnown_friendlyDb (by decide)
  have hreportable := (reportsErrors_missing contactsConsistent_friendlyDb registrarKnown_friendlyDb
    hmissing hempty).mp hreports
  exact (hreportable.authinfo (Option.some_ne_none _)).2.elim hmissing hempty

end Selected

end LibFred.RegistrableObject.Contact
