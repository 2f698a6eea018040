import LibFred.RegistrableObject.Contact.UpdateErrors
import LibFred.RegistrableObject.Contact.Verification.CancelledRequests
import LibFred.RegistrableObject.RecordedUpdates

/-! When an update of a contact cancels the final states of its manual verification. -/
namespace LibFred.RegistrableObject.Contact

open Sql
open LibFred.Db (Database EnumCountry EnumSsntype)
open LibFred.Object (AuthinfoSettings consistent_friendlyDb friendlyDb)

variable {db db' : Database} {id historyId : Nat} {o : Db.ObjectRegistry} {ct ct' cHBefore : Db.Contact}
  {versions : ContactVersions} {settings : AuthinfoSettings} {op : UpdateContact}
  {enumCountry : Table EnumCountry} {enumSsntype : Table EnumSsntype}

/-- The columns that the manual verification of a contact covers. -/
structure VerifiedData where
  name : Option String
  organization : Option String
  street1 : Option String
  street2 : Option String
  street3 : Option String
  city : Option String
  stateorprovince : Option String
  postalcode : Option String
  country : Option String
  telephone : Option String
  fax : Option String
  email : Option String
  notifyemail : Option String
  vat : Option String
  ssn : Option String
  ssntype : Option Nat

def verifiedData (ct : Db.Contact) : VerifiedData where
  name := ct.name
  organization := ct.organization
  street1 := ct.street1
  street2 := ct.street2
  street3 := ct.street3
  city := ct.city
  stateorprovince := ct.stateorprovince
  postalcode := ct.postalcode
  country := ct.country
  telephone := ct.telephone
  fax := ct.fax
  email := ct.email
  notifyemail := ct.notifyemail
  vat := ct.vat
  ssn := ct.ssn
  ssntype := ct.ssntype

theorem isDistinctFrom_eq_true :
    isDistinctFrom ct cHBefore = true ↔ verifiedData ct ≠ verifiedData cHBefore := by
  rw [ne_eq, verifiedData, verifiedData, VerifiedData.mk.injEq]
  simp only [isDistinctFrom, Bool.or_eq_true, decide_eq_true_eq, not_and_or, or_assoc, ne_eq]

/-- In the version that the one of the id comes next to, the contact was as in the row. -/
def Precedes (versions : ContactVersions) (historyId : Nat) (ct : Db.Contact) : Prop :=
  ∃ h row, versions.history.select (·.next = some historyId) = [h] ∧
    versions.contactHistory.lookup h.id = some row ∧ row.contact = ct

/-- The contact is compared with the version before. -/
theorem selectChanges_eq (ho : db.objectRegistry.lookup id = some o)
    (hversion : o.historyid = some historyId) (hct : db.contact.lookup id = some ct')
    (hprecedes : Precedes versions historyId ct) :
    selectChanges versions id db = [isDistinctFrom ct' ct] := by
  obtain ⟨h, row, hnext, hrow, rfl⟩ := hprecedes
  obtain ⟨hmem, rfl⟩ := Table.lookup_eq_some.mp ho
  obtain ⟨hct, hctid⟩ := Table.lookup_eq_some.mp hct
  obtain ⟨hrow, hrowid⟩ := Table.lookup_eq_some.mp hrow
  have hregistry : db.objectRegistry.select (·.id = Keyed.key o) = [o] := Table.select_key hmem rfl
  have hcontact : (db.contact.rows.filter fun c => c.id = o.id) = [ct'] := Table.select_key hct hctid
  have hhistory : (versions.history.rows.filter fun hBefore =>
      hBefore.next.isSome ∧ hBefore.next = o.historyid) = [h] := by
    rw [← hnext, hversion]
    refine List.filter_congr fun hBefore _ => decide_eq_decide.mpr ⟨And.right, fun hnext => ?_⟩
    exact ⟨hnext ▸ rfl, hnext⟩
  have hcontactHistory : (versions.contactHistory.rows.filter fun cHBefore =>
      cHBefore.historyid = h.id) = [row] := Table.select_key hrow hrowid
  simp only [selectChanges, hregistry, join_singleton, hcontact, List.map_cons, List.map_nil, hhistory,
    hcontactHistory]

theorem updateValue_eq_iff {α : Type} {given : Option (Option α)} {old : Option α} :
    updateValue given old = old ↔ ∀ value ∈ given, value = old := by
  cases given <;> simp [updateValue]

/-- The columns of the place of a contact. -/
def storedPlace (ct : Db.Contact) : List (Option String) :=
  [ct.street1, ct.street2, ct.street3, ct.city, ct.stateorprovince, ct.postalcode, ct.country]

theorem verifiedData_eq_iff : verifiedData ct' = verifiedData ct ↔
    ct'.name = ct.name ∧ ct'.organization = ct.organization ∧ storedPlace ct' = storedPlace ct ∧
      ct'.telephone = ct.telephone ∧ ct'.fax = ct.fax ∧ ct'.email = ct.email ∧
      ct'.notifyemail = ct.notifyemail ∧ ct'.vat = ct.vat ∧ ct'.ssn = ct.ssn ∧ ct'.ssntype = ct.ssntype := by
  simp only [verifiedData, storedPlace, VerifiedData.mk.injEq, List.cons.injEq, and_true, and_assoc]

/-- The columns of a place that is given, with the code of its country. -/
def placeColumns (country : Option String) (place : Option PlaceAddress) : List (Option String) :=
  [place.map (·.street1), place.bind (·.street2), place.bind (·.street3), place.map (·.city),
    place.bind (·.stateorprovince), place.map (·.postalcode), country]

namespace UpdateContact

/-- What is given of the data that the verification covers is stored already. -/
structure GivesStoredData (enumCountry : Table EnumCountry) (enumSsntype : Table EnumSsntype)
    (op : UpdateContact) (ct : Db.Contact) : Prop where
  name : ∀ name ∈ op.name, name = ct.name
  organization : ∀ organization ∈ op.organization, organization = ct.organization
  place : ∀ place ∈ op.place, placeColumns (place.bind (codeOf enumCountry ·.country)) place =
    storedPlace ct
  telephone : ∀ telephone ∈ op.telephone, telephone = ct.telephone
  fax : ∀ fax ∈ op.fax, fax = ct.fax
  email : ∀ email ∈ op.email, email = ct.email
  notifyemail : ∀ notifyemail ∈ op.notifyemail, notifyemail = ct.notifyemail
  vat : ∀ vat ∈ op.vat, vat = ct.vat
  personalId : ∀ personalId ∈ op.personalId, personalId.map (·.id) = ct.ssn ∧
    personalId.bind (typeIdOf enumSsntype ·.type) = ct.ssntype

/-- The columns of a place are written together. -/
theorem storedPlace_setBy_eq_iff : storedPlace (op.setBy enumCountry enumSsntype ct) = storedPlace ct ↔
    ∀ place ∈ op.place, placeColumns (place.bind (codeOf enumCountry ·.country)) place =
      storedPlace ct := by
  cases hplace : op.place with
  | none => simp [storedPlace, setBy, set, updateValue, hplace]
  | some place =>
    have hwritten : storedPlace (op.setBy enumCountry enumSsntype ct) =
        placeColumns (place.bind (codeOf enumCountry ·.country)) place := by
      cases place <;> simp [storedPlace, setBy, set, updateValue, hplace, placeColumns]
    rw [hwritten]
    simp

theorem personalId_setBy_eq_iff : ((op.setBy enumCountry enumSsntype ct).ssn = ct.ssn ∧
      (op.setBy enumCountry enumSsntype ct).ssntype = ct.ssntype) ↔
    ∀ personalId ∈ op.personalId, personalId.map (·.id) = ct.ssn ∧
      personalId.bind (typeIdOf enumSsntype ·.type) = ct.ssntype := by
  cases hpersonalId : op.personalId with
  | none => simp [setBy, set, updateValue, hpersonalId]
  | some personalId => cases personalId <;> simp [setBy, set, updateValue, hpersonalId]

/-- The row that an update writes has the data of the old one when they are all that it gives. -/
theorem verifiedData_setBy_eq_iff :
    verifiedData (op.setBy enumCountry enumSsntype ct) = verifiedData ct ↔
      GivesStoredData enumCountry enumSsntype op ct := by
  rw [verifiedData_eq_iff, storedPlace_setBy_eq_iff, personalId_setBy_eq_iff]
  constructor
  · rintro ⟨hname, horganization, hplace, htelephone, hfax, hemail, hnotifyemail, hvat, hpersonalId⟩
    exact ⟨updateValue_eq_iff.mp hname, updateValue_eq_iff.mp horganization, hplace,
      updateValue_eq_iff.mp htelephone, updateValue_eq_iff.mp hfax, updateValue_eq_iff.mp hemail,
      updateValue_eq_iff.mp hnotifyemail, updateValue_eq_iff.mp hvat, hpersonalId⟩
  · intro h
    exact ⟨updateValue_eq_iff.mpr h.name, updateValue_eq_iff.mpr h.organization, h.place,
      updateValue_eq_iff.mpr h.telephone, updateValue_eq_iff.mpr h.fax, updateValue_eq_iff.mpr h.email,
      updateValue_eq_iff.mpr h.notifyemail, updateValue_eq_iff.mpr h.vat, h.personalId⟩

/-- An update that gives nothing of the data gives nothing that is not stored. -/
theorem givesStoredData_of_not_changesVerified (h : ¬ op.changesVerified) :
    GivesStoredData enumCountry enumSsntype op ct := by
  simp only [changesVerified, Bool.or_eq_true, not_or, Bool.not_eq_true,
    Option.isSome_eq_false_iff, Option.isNone_iff_eq_none] at h
  constructor <;> simp [h]

/-- The flags decide whether the columns that are set cancel the states. -/
theorem updateColumns_requests {country : Option String} {ssntype : Option Nat}
    (ho : db.objectRegistry.lookup id = some o) (htype : o.type = .contact)
    (h : (op.updateColumns id country ssntype).run db = .ok () db') :
    db'.objectRegistry = db.objectRegistry ∧ db'.requests =
      if op.changesVerified then cancelled db id finalStates.names else db.requests := by
  unfold updateColumns at h
  split at h
  · obtain ⟨_, db₁, hset, h⟩ := run_bind_eq_ok.mp h
    obtain ⟨t, rfl, -⟩ := setColumns_ok hset
    have hobject : ({ db with contact := t } : Database).objectRegistry.lookup id = some o := ho
    by_cases hverified : op.changesVerified
    · rw [conditionallyCancelFinalStates, if_pos hverified, run_cancelFinalStates_eq hobject htype] at h
      obtain ⟨-, rfl⟩ := EStateM.Result.ok.inj h
      exact ⟨rfl, (if_pos hverified).symm⟩
    · rw [conditionallyCancelFinalStates, if_neg hverified] at h
      obtain ⟨-, rfl⟩ := run_pure_eq_ok.mp h
      exact ⟨rfl, (if_neg hverified).symm⟩
  · rename_i hunchanged
    obtain ⟨-, rfl⟩ := run_pure_eq_ok.mp h
    have hverified : ¬ op.changesVerified := fun hverified => hunchanged (by simp [changesContact, hverified])
    exact ⟨rfl, (if_neg hverified).symm⟩

/-- What an accepted update does to the requests, and the version that it makes. -/
theorem exec_requests (hname : upper o.name = o.name) (ho : o ∈ db.objectRegistry)
    (hlive : LiveContact o.name o) (h : (op.exec settings o.name o.id).run db = .ok historyId db') :
    (∃ o', db'.objectRegistry.lookup o.id = some o' ∧ o'.historyid = some historyId ∧
      o'.type = .contact) ∧ db'.requests =
        if op.changesVerified then cancelled db o.id finalStates.names else db.requests := by
  obtain ⟨db₁, db₂, t, hobject, hcolumns, rfl, -⟩ := exec_statements h
  obtain ⟨objectId, -, honly, hrecorded⟩ := RegistrableObject.updateObject_records hobject
  obtain rfl : o.id = objectId :=
    honly o (Table.mem_select.mpr ⟨ho, hlive.2.1, hname.symm, hlive.2.2⟩)
  have hlookup : db.objectRegistry.lookup o.id = some o := Table.lookup_eq_some.mpr ⟨ho, rfl⟩
  have hversion : db₁.objectRegistry.lookup o.id = some { o with historyid := some historyId } := by
    rw [hrecorded.registry, Table.lookup_update, hlookup, Option.map_some, if_pos rfl]
  obtain ⟨hregistry, hrequests⟩ := updateColumns_requests hversion hlive.2.1 hcolumns
  refine ⟨⟨_, (congrArg (Table.lookup · o.id) hregistry).trans hversion, rfl, hlive.2.1⟩, ?_⟩
  rw [hrecorded.rest] at hrequests
  exact hrequests

end UpdateContact

theorem run_conditionallyCancelFinalStatesOfFlags (changed : Bool)
    (ho : db.objectRegistry.lookup id = some o) :
    ∃ db', (conditionallyCancelFinalStatesOfFlags id changed).run db = .ok changed db' := by
  obtain ⟨db', hrun⟩ := run_conditionallyCancelFinalStates (Option.isSome_of_eq_some ho)
  exact ⟨db', run_bind_of_ok hrun⟩

theorem run_conditionallyCancelFinalStatesOfVersions (ho : db.objectRegistry.lookup id = some o)
    (hversion : o.historyid = some historyId) (hct : db.contact.lookup id = some ct')
    (hprecedes : Precedes versions historyId ct) :
    ∃ db', (conditionallyCancelFinalStatesOfVersions versions id).run db =
      .ok (isDistinctFrom ct' ct) db' := by
  have hget : (get : Db.Exec Database).run db = .ok db db := rfl
  unfold conditionallyCancelFinalStatesOfVersions
  rw [run_bind_of_ok hget, selectChanges_eq ho hversion hct hprecedes]
  cases hdistinct : isDistinctFrom ct' ct with
  | false => exact ⟨db, rfl⟩
  | true => exact run_cancelFinalStatesAtOnce ho

/-- The final states are cancelled by an update that changes what the verification covers and by no
other one, and the flags of what it sets and the difference of the versions decide alike. -/
structure CancelsOnChange (versions : ContactVersions) (op : UpdateContact) (id : Nat)
    (db db' : Database) (ct ct' : Db.Contact) : Prop where
  changed : verifiedData ct' ≠ verifiedData ct → db'.requests = cancelled db id finalStates.names
  unchanged : verifiedData ct' = verifiedData ct → db'.requests = db.requests
  alike : ∃ decided db₁ db₂,
    (conditionallyCancelFinalStatesOfFlags id op.changesVerified).run db' = .ok decided db₁ ∧
      (conditionallyCancelFinalStatesOfVersions versions id).run db' = .ok decided db₂

/-- The states are cancelled as they should be unless all that is given of the data is stored. -/
theorem cancels_on_change_iff {selected : Selected} (op : UpdateContact) (hc : ContactsConsistent db)
    (ho : o ∈ db.objectRegistry) (hselects : selected.Selects o)
    (hct : db.contact.lookup o.id = some ct)
    (hrun : (selected.exec settings op).run db = .ok historyId db')
    (hprecedes : Precedes versions historyId ct) :
    (∃ ct', db'.contact.lookup o.id = some ct' ∧ CancelsOnChange versions op o.id db db' ct ct') ↔
      (op.changesVerified → ¬ op.GivesStoredData db.enumCountry db.enumSsntype ct) := by
  obtain ⟨info, hid, hname, -, hexec⟩ := Selected.run_exec_exists settings op hc.toConsistent ho hselects
  rw [hexec] at hrun
  have hrun := UpdateContact.execSelected_ok selected.unknown_ne hrun
  rw [hid, hname] at hrun
  have hlive := hselects.live
  obtain ⟨⟨o', ho', hversion, -⟩, hrequests⟩ :=
    UpdateContact.exec_requests (hc.contactUpper o ho hlive.2.1) ho hlive hrun
  have hrow := (UpdateContact.exec_ok hrun).row
  rw [hct, Option.map_some] at hrow
  obtain ⟨db₁, hflags⟩ := run_conditionallyCancelFinalStatesOfFlags op.changesVerified ho'
  obtain ⟨db₂, hversions⟩ := run_conditionallyCancelFinalStatesOfVersions ho' hversion hrow hprecedes
  rw [← UpdateContact.verifiedData_setBy_eq_iff, ← ne_eq, ← isDistinctFrom_eq_true]
  constructor
  · rintro ⟨ct', hct', hcancels⟩ hverified
    obtain ⟨decided, d₁, d₂, hflags', hversions'⟩ := hcancels.alike
    obtain ⟨rfl, -⟩ := EStateM.Result.ok.inj (hflags.symm.trans hflags')
    obtain ⟨hdecided, -⟩ := EStateM.Result.ok.inj (hversions.symm.trans hversions')
    exact hdecided.trans hverified
  · intro h
    have hdecided : isDistinctFrom (op.setBy db.enumCountry db.enumSsntype ct) ct = op.changesVerified := by
      refine Bool.eq_iff_iff.mpr ⟨fun hdistinct => ?_, h⟩
      by_contra hverified
      exact isDistinctFrom_eq_true.mp hdistinct (UpdateContact.verifiedData_setBy_eq_iff.mpr
        (UpdateContact.givesStoredData_of_not_changesVerified hverified))
    refine ⟨_, hrow, ?_, ?_, _, _, _, hflags, hdecided ▸ hversions⟩
    · intro hne
      rw [hrequests, if_pos (hdecided.symm.trans (isDistinctFrom_eq_true.mpr hne))]
    · intro heq
      have hverified : ¬ op.changesVerified := fun hverified => isDistinctFrom_eq_true.mp (h hverified) heq
      rw [hrequests, if_neg hverified]

def verifiedContact : Db.Contact :=
  ⟨6, some "Friendly", none, none, none, none, none, none, none, none, none, none, none, none, none, none,
    none, none, none, none, none, none, none, none, none, none, none⟩

/-- A contact that has passed its manual verification. -/
def verifiedDb : Database :=
  { friendlyDb with
    contact := ⟨[verifiedContact], by decide⟩
    enumObjectStates := ⟨[⟨1, "contactPassedManualVerification", [1], true⟩], by decide⟩
    requests := ⟨⟨[⟨1, 6, 1, 0, 0, none, none⟩], by decide⟩, 2⟩ }

theorem contactsConsistent_verifiedDb : ContactsConsistent verifiedDb where
  registrarHandle := consistent_friendlyDb.registrarHandle
  contactName := consistent_friendlyDb.contactName
  contactRows o ho hlive := by
    have hid : o.type = .contact → o = ⟨6, 0, "C6-CZ", "FRIEND", .contact, 1, 0, none, some 2, some 2⟩ :=
      (by decide : ∀ o ∈ verifiedDb.objectRegistry.rows, o.type = .contact →
        o = ⟨6, 0, "C6-CZ", "FRIEND", .contact, 1, 0, none, some 2, some 2⟩) o ho
    rw [hid hlive.2.1]
    exact ⟨_, _, _, _, _, rfl, rfl, rfl, rfl, rfl, rfl, rfl⟩
  historyId := consistent_friendlyDb.historyId
  contactUpper := Selected.contactsConsistent_friendlyDb.contactUpper
  objectId := Selected.contactsConsistent_friendlyDb.objectId
  contactObject := (by decide : ∀ ct ∈ verifiedDb.contact.rows,
    (verifiedDb.objectRegistry.lookup ct.id).isSome)
  authinfoId := Selected.contactsConsistent_friendlyDb.authinfoId

theorem selects_verifiedDb : ∃ o ∈ verifiedDb.objectRegistry, o.id = 6 ∧
    (Selected.byHandle "friend").Selects o :=
  ⟨_, List.mem_cons_of_mem _ List.mem_cons_self, rfl, by decide, rfl, rfl⟩

/-- The versions of the contact after an update. -/
def verifiedVersions : ContactVersions where
  history := ⟨[⟨2, some 3⟩, ⟨3, none⟩], by decide⟩
  contactHistory := ⟨[⟨2, verifiedContact⟩], by decide⟩

theorem precedes_verifiedVersions : Precedes verifiedVersions 3 verifiedContact :=
  ⟨⟨2, some 3⟩, ⟨2, verifiedContact⟩, rfl, rfl, rfl⟩

def nameUpdate (name : String) : UpdateContact :=
  { Selected.authinfoUpdate with authinfo := none, name := some (some name) }

theorem cancels_on_change_iff_named : ∃ db',
    ((Selected.byHandle "friend").exec Selected.twoWeeks (nameUpdate "Friend")).run verifiedDb =
      .ok 3 db' ∧
    ((∃ ct', db'.contact.lookup 6 = some ct' ∧
        CancelsOnChange verifiedVersions (nameUpdate "Friend") 6 verifiedDb db' verifiedContact ct') ↔
      ((nameUpdate "Friend").changesVerified →
        ¬ (nameUpdate "Friend").GivesStoredData verifiedDb.enumCountry verifiedDb.enumSsntype
          verifiedContact)) := by
  have hrun := run_of_returns (by decide +kernel :
    returns ((Selected.byHandle "friend").exec Selected.twoWeeks (nameUpdate "Friend")) verifiedDb 3 = true)
  obtain ⟨o, ho, hid, hselects⟩ := selects_verifiedDb
  have hct : verifiedDb.contact.lookup o.id = some verifiedContact := by rw [hid]; rfl
  have hiff := cancels_on_change_iff (nameUpdate "Friend") contactsConsistent_verifiedDb ho hselects hct
    hrun precedes_verifiedVersions
  rw [hid] at hiff
  exact ⟨_, hrun, hiff⟩

/-- A contact that is given the name that it has loses its verification. -/
theorem not_cancels_on_change : ¬ ∀ (settings : AuthinfoSettings) (selected : Selected)
    (op : UpdateContact) (versions : ContactVersions) (db db' : Database) (o : Db.ObjectRegistry)
    (historyId : Nat) (ct : Db.Contact), ContactsConsistent db → o ∈ db.objectRegistry →
      selected.Selects o → db.contact.lookup o.id = some ct →
        (selected.exec settings op).run db = .ok historyId db' → Precedes versions historyId ct →
          ∃ ct', db'.contact.lookup o.id = some ct' ∧ CancelsOnChange versions op o.id db db' ct ct' := by
  intro h
  have hrun := run_of_returns (by decide +kernel :
    returns ((Selected.byHandle "friend").exec Selected.twoWeeks (nameUpdate "Friendly")) verifiedDb 3 = true)
  obtain ⟨o, ho, hid, hselects⟩ := selects_verifiedDb
  have hct : verifiedDb.contact.lookup o.id = some verifiedContact := by rw [hid]; rfl
  obtain ⟨ct', hct', hcancels⟩ := h _ _ _ _ _ _ _ _ _ contactsConsistent_verifiedDb ho hselects hct hrun
    precedes_verifiedVersions
  rw [hid] at hct'
  have hkept : (transaction ((Selected.byHandle "friend").exec Selected.twoWeeks (nameUpdate "Friendly"))
      verifiedDb).contact.lookup 6 = some verifiedContact := by decide +kernel
  obtain rfl := Option.some.inj (hkept.symm.trans hct')
  have hcanceled := congrArg (fun requests => requests.objectStateRequest.rows.map (·.canceled))
    (hcancels.unchanged rfl)
  exact absurd hcanceled (by decide +kernel)

end LibFred.RegistrableObject.Contact
