import LibFred.RegistrableObject.Contact.ContactRows

/-! What the operations on a contact do to its rows. -/
namespace LibFred.RegistrableObject.Contact

open Sql
open LibFred.Db (Database EnumCountry EnumSsntype ContactException Timestamp Exec)
open LibFred.Object (AuthinfoSettings KeepsObjects Bookkeeping UpdateObject keepsObjects_refl
  updateObject_ok)

variable {db db' : Database} {id historyId : Nat} {name handle : String} {ct : Db.Contact}
  {settings : AuthinfoSettings} {op : UpdateContact} {country : Option String}
  {ssntype : Option Nat}

/-- The code of a country that is named by one row only. -/
def codeOf (enumCountry : Table EnumCountry) (country : String) : Option String :=
  match enumCountry.select (EnumCountry.Named country) with
  | [c] => some c.id
  | _ => none

def typeIdOf (enumSsntype : Table EnumSsntype) (ssntype : String) : Option Nat :=
  match enumSsntype.select (EnumSsntype.Named ssntype) with
  | [t] => some t.id
  | _ => none

theorem codeOf_eq_some {enumCountry : Table EnumCountry} {text code : String} :
    codeOf enumCountry text = some code ↔
      ∃ c, enumCountry.select (EnumCountry.Named text) = [c] ∧ c.id = code := by
  unfold codeOf
  split
  · rename_i c hc
    simp [hc]
  · rename_i hne
    constructor
    · intro h
      cases h
    · rintro ⟨c, hc, -⟩
      exact absurd hc (hne c)

theorem typeIdOf_eq_some {enumSsntype : Table EnumSsntype} {text : String} {n : Nat} :
    typeIdOf enumSsntype text = some n ↔
      ∃ t, enumSsntype.select (EnumSsntype.Named text) = [t] ∧ t.id = n := by
  unfold typeIdOf
  split
  · rename_i t ht
    simp [ht]
  · rename_i hne
    constructor
    · intro h
      cases h
    · rintro ⟨t, ht, -⟩
      exact absurd ht (hne t)

theorem getCountryCode_ok {text : String} {found : Option String}
    (h : (getCountryCode text).run db = .ok found db') :
    db' = db ∧ (found.isSome → codeOf db.enumCountry text = found) := by
  obtain ⟨_, _, hget, h⟩ := run_bind_eq_ok.mp h
  obtain ⟨rfl, rfl⟩ := run_get_eq_ok.mp hget
  split at h
  · obtain ⟨rfl, rfl⟩ := run_pure_eq_ok.mp h
    exact ⟨rfl, nofun⟩
  · rename_i c hc
    obtain ⟨rfl, rfl⟩ := run_pure_eq_ok.mp h
    exact ⟨rfl, fun _ => codeOf_eq_some.mpr ⟨c, hc, rfl⟩⟩
  · cases h

theorem getSsntypeId_ok {text : String} {found : Option Nat}
    (h : (getSsntypeId text).run db = .ok found db') :
    db' = db ∧ (found.isSome → typeIdOf db.enumSsntype text = found) := by
  obtain ⟨_, _, hget, h⟩ := run_bind_eq_ok.mp h
  obtain ⟨rfl, rfl⟩ := run_get_eq_ok.mp hget
  split at h
  · obtain ⟨rfl, rfl⟩ := run_pure_eq_ok.mp h
    exact ⟨rfl, nofun⟩
  · rename_i t ht
    obtain ⟨rfl, rfl⟩ := run_pure_eq_ok.mp h
    exact ⟨rfl, fun _ => typeIdOf_eq_some.mpr ⟨t, ht, rfl⟩⟩
  · cases h

/-- When nothing is reported as unknown, what was given was found. -/
theorem resolve_ok {α : Type} {find : String → Exec (Option α)} {pure? : String → Option α}
    (hfind : ∀ {text found}, (find text).run db = .ok found db' →
      db' = db ∧ (found.isSome → pure? text = found))
    {given : Option String} {found : Option α}
    (h : (resolve find given).run db = .ok (found, none) db') :
    db' = db ∧ found = given.bind pure? ∧ ∀ text ∈ given, (pure? text).isSome := by
  cases given with
  | none =>
    obtain ⟨he, rfl⟩ := run_pure_eq_ok.mp h
    cases he
    exact ⟨rfl, rfl, nofun⟩
  | some text =>
    obtain ⟨found', db₁, hrun, h⟩ := run_bind_eq_ok.mp h
    obtain ⟨he, rfl⟩ := run_pure_eq_ok.mp h
    obtain ⟨rfl, hunknown⟩ := Prod.mk.inj he
    have hsome : found'.isSome := by
      cases found' with
      | none => simp at hunknown
      | some a => rfl
    obtain ⟨rfl, hpure⟩ := hfind hrun
    refine ⟨rfl, (hpure hsome).symm, fun text' htext' => ?_⟩
    obtain rfl := Option.some.inj htext'
    rw [hpure hsome]
    exact hsome

theorem mem_addressRows {ca : Db.ContactAddress} {addresses : ContactAddressList} :
    ca ∈ addressRows id addresses ↔
      ∃ type, ∃ address ∈ addresses type, addressRowOf id type address = ca := by
  simp [addressRows, mem_contactAddressTypes]

theorem find_addressRows {id' : Nat} {type : ContactAddressType} {addresses : ContactAddressList} :
    (addressRows id addresses).find? (Keyed.key · = (id', type)) =
      if id' = id then (addresses type).map (addressRowOf id type) else none := by
  by_cases hid : id' = id
  · subst hid
    rw [if_pos rfl]
    cases ha : addresses type with
    | none =>
      refine List.find?_eq_none.mpr fun ca hca hkey => ?_
      obtain ⟨type', address, haddress, rfl⟩ := mem_addressRows.mp hca
      obtain rfl : type' = type := congrArg Prod.snd (of_decide_eq_true hkey)
      rw [ha] at haddress
      cases haddress
    | some address =>
      have hmem : addressRowOf id' type address ∈ addressRows id' addresses :=
        mem_addressRows.mpr ⟨type, address, ha, rfl⟩
      have hsome : ((addressRows id' addresses).find? (Keyed.key · = (id', type))).isSome :=
        List.find?_isSome.mpr ⟨_, hmem, decide_eq_true rfl⟩
      obtain ⟨ca, hca⟩ := Option.isSome_iff_exists.mp hsome
      obtain ⟨type', address', haddress', rfl⟩ := mem_addressRows.mp (List.mem_of_find?_eq_some hca)
      have hkey : Keyed.key (addressRowOf id' type' address') = (id', type) := by
        simpa using List.find?_some hca
      obtain rfl : type' = type := congrArg Prod.snd hkey
      obtain rfl : address = address' := Option.some.inj (ha.symm.trans haddress')
      exact hca
  · rw [if_neg hid]
    refine List.find?_eq_none.mpr fun ca hca hkey => ?_
    obtain ⟨type', address, -, rfl⟩ := mem_addressRows.mp hca
    exact hid (congrArg Prod.fst (of_decide_eq_true hkey)).symm

/-- The INSERT adds the addresses to those that exist. -/
theorem insertAddresses_ok {addresses : ContactAddressList}
    (h : (insertAddresses id addresses).run db = .ok () db') :
    ∃ t, db' = { db with contactAddress := t } ∧ ∀ id' type, t.lookup (id', type) =
      (db.contactAddress.lookup (id', type)).or
        (if id' = id then (addresses type).map (addressRowOf id type) else none) := by
  simp only [insertAddresses, EStateM.run] at h
  split at h
  · rename_i t ht
    obtain ⟨-, rfl⟩ := EStateM.Result.ok.inj h
    refine ⟨t, rfl, fun id' type => ?_⟩
    rw [Table.lookup_of_insertAll? ht, find_addressRows]
  · cases h

theorem not_forbidsCompanyName {addresses : ContactAddressList}
    (h : forbiddenCompanyName addresses = none) (type : ContactAddressType) :
    ¬ ForbidsCompanyName addresses type := by
  intro hforbids
  rw [forbiddenCompanyName, Option.map_eq_none_iff, List.getLast?_eq_none_iff,
    List.filter_eq_nil_iff] at h
  exact h type (mem_contactAddressTypes type) (by simpa using hforbids)

/-- The addresses after an update of `old`. -/
def ContactAddressToUpdate.apply (a : ContactAddressToUpdate) (old : ContactAddressList) :
    ContactAddressList :=
  fun type => if a.toRemove type then none else (a.toUpdate type).or (old type)

namespace UpdateContact

theorem updateExistingAddresses_ok (h : (op.updateExistingAddresses id).run db = .ok () db')
    (hallowed : forbiddenCompanyName op.addresses.toUpdate = none) :
    ∃ t, db' = { db with contactAddress := t } ∧ ∀ type, t.lookup (id, type) =
      (db.contactAddress.lookup (id, type)).map fun ca =>
        ((op.addresses.toUpdate type).map (addressRowOf id type)).getD ca := by
  obtain ⟨-, rfl⟩ := EStateM.Result.ok.inj h
  refine ⟨_, rfl, fun type => ?_⟩
  rw [Table.lookup_update]
  cases hca : db.contactAddress.lookup (id, type) with
  | none => rfl
  | some ca =>
    obtain ⟨hid, htype⟩ := Prod.mk.inj (Table.lookup_eq_some.mp hca).2
    rw [Option.map_some, Option.map_some, if_pos ⟨hid, not_forbidsCompanyName hallowed ca.type⟩,
      hid, htype]

theorem updateAddresses_ok (h : (op.updateAddresses id).run db = .ok () db') :
    ∃ t, db' = { db with contactAddress := t } ∧ ∀ type, t.lookup (id, type) =
      ((op.addresses.toUpdate type).map (addressRowOf id type)).or
        (db.contactAddress.lookup (id, type)) := by
  obtain ⟨_, _, hget, h⟩ := run_bind_eq_ok.mp h
  obtain ⟨rfl, rfl⟩ := run_get_eq_ok.mp hget
  obtain ⟨_, db₁, hexisting, h⟩ := run_bind_eq_ok.mp h
  obtain ⟨_, _, hraise, h⟩ := run_bind_eq_ok.mp h
  obtain ⟨hallowed, rfl⟩ := run_raiseIf_eq_ok.mp hraise
  rw [not_not] at hallowed
  have hallowed : forbiddenCompanyName op.addresses.toUpdate = none :=
    congrArg ContactException.forbiddenCompanyNameSetting hallowed
  obtain ⟨t₁, rfl, hlookup₁⟩ := updateExistingAddresses_ok hexisting hallowed
  obtain ⟨t, rfl, hlookup⟩ := insertAddresses_ok h
  refine ⟨t, rfl, fun type => ?_⟩
  rw [hlookup id type, hlookup₁ type]
  cases hold : db.contactAddress.lookup (id, type) with
  | none => cases op.addresses.toUpdate type <;> simp
  | some ca => cases op.addresses.toUpdate type <;> simp

theorem removeAddresses_ok (h : (op.removeAddresses id).run db = .ok () db') :
    ∃ t, db' = { db with contactAddress := t } ∧ ∀ type, t.lookup (id, type) =
      if op.addresses.toRemove type then none else db.contactAddress.lookup (id, type) := by
  obtain ⟨-, rfl⟩ := EStateM.Result.ok.inj h
  refine ⟨_, rfl, fun type => ?_⟩
  rw [Table.lookup_delete]
  cases hca : db.contactAddress.lookup (id, type) with
  | none => simp
  | some ca =>
    obtain ⟨hid, htype⟩ := Prod.mk.inj (Table.lookup_eq_some.mp hca).2
    by_cases hremove : op.addresses.toRemove type <;> simp [Option.filter, hid, htype, hremove]

theorem setColumns_ok (h : (op.setColumns id country ssntype).run db = .ok () db') :
    ∃ t, db' = { db with contact := t } ∧
      t.lookup id = (db.contact.lookup id).map (op.set country ssntype) := by
  simp only [setColumns, EStateM.run] at h
  split at h
  · obtain ⟨-, rfl⟩ := EStateM.Result.ok.inj h
    have hkey (ct : Db.Contact) : Keyed.key (op.set country ssntype ct) = Keyed.key ct := rfl
    exact ⟨_, rfl, (Table.lookup_update_row hkey fun _ => Iff.rfl).trans (if_pos rfl)⟩
  · cases h

theorem moves_cancelState {state : String} : Moves Bookkeeping (cancelState id state) := by
  refine moves_of_run (fun db u db' h => ?_) (fun db e db' h => ?_)
  all_goals
    simp only [cancelState] at h
    split at h <;> cases h
    all_goals exact ⟨⟨fun _ => rfl, fun _ h => h, fun _ => rfl, rfl, rfl, rfl⟩, rfl, rfl⟩

theorem moves_conditionallyCancelFinalStates {changed : Bool} :
    Moves Bookkeeping (conditionallyCancelFinalStates id changed) := by
  unfold conditionallyCancelFinalStates
  split
  · exact moves_bind moves_cancelState fun _ => moves_cancelState
  · exact readOnly_pure.moves

/-- Columns that are not given keep their values. -/
theorem set_of_not_changesContact (h : ¬ op.changesContact) : op.set country ssntype ct = ct := by
  simp only [changesContact, changesVerified, Bool.or_eq_true, not_or, Bool.not_eq_true,
    Option.isSome_eq_false_iff, Option.isNone_iff_eq_none] at h
  simp [set, updateValue, h]

theorem updateColumns_ok (h : (op.updateColumns id country ssntype).run db = .ok () db') :
    KeepsObjects db db' ∧ db'.contactAddress = db.contactAddress ∧
      db'.contact.lookup id = (db.contact.lookup id).map (op.set country ssntype) := by
  unfold updateColumns at h
  split at h
  · obtain ⟨_, db₁, hset, h⟩ := run_bind_eq_ok.mp h
    obtain ⟨t, rfl, hlookup⟩ := setColumns_ok hset
    have hcancel := moves_conditionallyCancelFinalStates.ok h
    have hkeep : KeepsObjects db { db with contact := t } :=
      ⟨fun _ => rfl, fun _ h => h, fun _ => rfl, rfl, rfl, rfl⟩
    refine ⟨hkeep.trans hcancel.toKeepsObjects, hcancel.contactAddress, ?_⟩
    rw [hcancel.contact]
    exact hlookup
  · rename_i hunchanged
    obtain ⟨-, rfl⟩ := run_pure_eq_ok.mp h
    refine ⟨keepsObjects_refl _, rfl, ?_⟩
    cases db.contact.lookup id with
    | none => rfl
    | some ct => exact congrArg some (set_of_not_changesContact hunchanged).symm

/-- An update of the object that reports nothing was done. -/
theorem updateObject_done
    (h : (op.updateObject settings handle).run db = .ok (historyId, none) db') :
    (UpdateObject.exec settings
      ⟨handle, .contact, op.registrar, op.authinfo, op.logdRequestId⟩).run db = .ok historyId db' := by
  rcases run_tryCatch_eq_ok.mp h with h | ⟨e, db₁, -, h⟩
  · obtain ⟨_, _, hexec, hpure⟩ := run_bind_eq_ok.mp h
    obtain ⟨he, rfl⟩ := run_pure_eq_ok.mp hpure
    obtain ⟨rfl, -⟩ := Prod.mk.inj he
    exact hexec
  · cases e <;> cases h

theorem updateObject_bookkeeping
    (h : (op.updateObject settings handle).run db = .ok (historyId, none) db') :
    Bookkeeping db db' :=
  updateObject_ok (updateObject_done h)

/-- The row after an update that names its country and type of identification by these tables. -/
def setBy (enumCountry : Table EnumCountry) (enumSsntype : Table EnumSsntype) (op : UpdateContact) :
    Db.Contact → Db.Contact :=
  op.set ((op.place.join.map (·.country)).bind (codeOf enumCountry))
    ((op.personalId.join.map (·.type)).bind (typeIdOf enumSsntype))

/-- The contact was updated, its object stayed, and what it names was known. -/
structure Updates (op : UpdateContact) (id : Nat) (db db' : Database) : Prop where
  objects : KeepsObjects db db'
  row : db'.contact.lookup id =
    (db.contact.lookup id).map (op.setBy db.enumCountry db.enumSsntype)
  addresses : addressesOf db' id = op.addresses.apply (addressesOf db id)
  country : ∀ p ∈ op.place.join, (codeOf db.enumCountry p.country).isSome
  ssntype : ∀ p ∈ op.personalId.join, (typeIdOf db.enumSsntype p.type).isSome

theorem addressesOf_updated {t t' : Table Db.ContactAddress}
    (hupdate : ∀ type, t.lookup (id, type) =
      ((op.addresses.toUpdate type).map (addressRowOf id type)).or
        (db.contactAddress.lookup (id, type)))
    (hremove : ∀ type, t'.lookup (id, type) =
      if op.addresses.toRemove type then none else t.lookup (id, type)) (hdb' : db'.contactAddress = t') :
    addressesOf db' id = op.addresses.apply (addressesOf db id) := by
  funext type
  rw [addressesOf, hdb', hremove type, hupdate type, ContactAddressToUpdate.apply]
  by_cases hr : op.addresses.toRemove type
  · rw [if_pos hr, if_pos hr]
    rfl
  · rw [if_neg hr, if_neg hr, addressesOf]
    cases op.addresses.toUpdate type <;> rfl

/-- The statements of an update that was accepted: that of the object, that of the columns, with
what they name found, and those of the addresses. -/
theorem exec_statements (h : (op.exec settings handle id).run db = .ok historyId db') :
    ∃ db₁ db₂ t,
      (UpdateObject.exec settings
        ⟨handle, .contact, op.registrar, op.authinfo, op.logdRequestId⟩).run db = .ok historyId db₁ ∧
      (op.updateColumns id ((op.place.join.map (·.country)).bind (codeOf db.enumCountry))
        ((op.personalId.join.map (·.type)).bind (typeIdOf db.enumSsntype))).run db₁ = .ok () db₂ ∧
      db' = { db₂ with contactAddress := t } ∧ (db₂.contact.lookup id).isSome ∧
      (db₂.contactAddress = db.contactAddress →
        addressesOf db' id = op.addresses.apply (addressesOf db id)) ∧
      (∀ p ∈ op.place.join, (codeOf db.enumCountry p.country).isSome) ∧
      ∀ p ∈ op.personalId.join, (typeIdOf db.enumSsntype p.type).isSome := by
  obtain ⟨updated, db₁, hobject, h⟩ := run_bind_eq_ok.mp h
  obtain ⟨country, db₂, hcountry, h⟩ := run_bind_eq_ok.mp h
  obtain ⟨ssntype, db₃, hssntype, h⟩ := run_bind_eq_ok.mp h
  obtain ⟨_, db₄, hraise, h⟩ := run_bind_eq_ok.mp h
  obtain ⟨hnothing, rfl⟩ := run_raiseIf_eq_ok.mp hraise
  obtain ⟨_, db₅, hcolumns, h⟩ := run_bind_eq_ok.mp h
  obtain ⟨_, db₆, haddresses, h⟩ := run_bind_eq_ok.mp h
  obtain ⟨_, db₇, hremoved, h⟩ := run_bind_eq_ok.mp h
  obtain ⟨_, db₈, hhistory, h⟩ := run_bind_eq_ok.mp h
  obtain ⟨rfl, rfl⟩ := run_pure_eq_ok.mp h
  obtain ⟨updated, unknownHandle⟩ := updated
  obtain ⟨country, unknownCountry⟩ := country
  obtain ⟨ssntype, unknownSsntype⟩ := ssntype
  rw [not_not] at hnothing
  obtain rfl : unknownHandle = none := congrArg ContactException.unknownContactHandle hnothing
  obtain rfl : unknownCountry = none := congrArg ContactException.unknownCountry hnothing
  obtain rfl : unknownSsntype = none := congrArg ContactException.unknownSsntype hnothing
  have hdone := updateObject_done hobject
  have hbooks := updateObject_ok hdone
  obtain ⟨rfl, rfl, hcodes⟩ := resolve_ok getCountryCode_ok hcountry
  obtain ⟨rfl, rfl, htypes⟩ := resolve_ok getSsntypeId_ok hssntype
  obtain ⟨t, rfl, hupdate⟩ := updateAddresses_ok haddresses
  obtain ⟨t', rfl, hremove⟩ := removeAddresses_ok hremoved
  obtain ⟨_, _, hget, hhistory⟩ := run_bind_eq_ok.mp hhistory
  obtain ⟨rfl, rfl⟩ := run_get_eq_ok.mp hget
  obtain ⟨hexists, rfl⟩ := run_raiseIf_eq_ok.mp hhistory
  rw [hbooks.enumCountry] at hcolumns hcodes
  rw [hbooks.enumSsntype] at hcolumns htypes
  refine ⟨_, _, t', hdone, hcolumns, rfl, Option.isSome_iff_ne_none.mpr hexists, fun hsame => ?_,
    fun p hp => hcodes _ (Option.mem_map_of_mem _ hp), fun p hp => htypes _ (Option.mem_map_of_mem _ hp)⟩
  rw [hsame] at hupdate
  exact addressesOf_updated hupdate hremove rfl

theorem exec_ok (h : (op.exec settings handle id).run db = .ok historyId db') :
    Updates op id db db' := by
  obtain ⟨db₁, db₂, t, hobject, hcolumns, rfl, -, haddresses, hcodes, htypes⟩ := exec_statements h
  have hbooks := updateObject_ok hobject
  obtain ⟨hkeep, hsame, hrow⟩ := updateColumns_ok hcolumns
  rw [hbooks.contact] at hrow
  exact {
    objects := hbooks.toKeepsObjects.trans
      ⟨hkeep.registry, hkeep.versioned, hkeep.sponsors, hkeep.registrar, hkeep.enumSsntype,
        hkeep.enumCountry⟩
    row := hrow
    addresses := haddresses (hsame.trans hbooks.contactAddress)
    country := hcodes
    ssntype := htypes }

/-- What is collected from an exception is reported. -/
theorem collect_ne_nothing {found unknown e : ContactException} {result : Nat × ContactException}
    (hunknown : unknown.unknownContactHandle ≠ none ∨ unknown.unknownContactId ≠ none)
    (h : (collect found unknown e).run db = .ok result db') : result.2 ≠ {} := by
  unfold collect at h
  split at h
  · cases h
  split at h
  · cases h
  rename_i hreported
  obtain ⟨rfl, -⟩ := run_pure_eq_ok.mp h
  intro hnothing
  have hhandle := congrArg ContactException.unknownContactHandle hnothing
  have hid := congrArg ContactException.unknownContactId hnothing
  have hssntype := congrArg ContactException.unknownSsntype hnothing
  have hcountry := congrArg ContactException.unknownCountry hnothing
  have hcompany := congrArg ContactException.forbiddenCompanyNameSetting hnothing
  refine hreported ⟨?_, hssntype, hcountry, hcompany⟩
  by_contra hsome
  simp only [Option.isSome_iff_ne_none.mpr hsome, if_true] at hhandle hid
  exact hunknown.elim (· hhandle) (· hid)

/-- An update that reports nothing was carried out. -/
theorem execSelected_ok {unknown : ContactException} {info : InfoContactData}
    (hunknown : unknown.unknownContactHandle ≠ none ∨ unknown.unknownContactId ≠ none)
    (h : (op.execSelected settings unknown (some info)).run db = .ok historyId db') :
    (op.exec settings info.handle info.id).run db = .ok historyId db' := by
  obtain ⟨updated, db₁, hrun, h⟩ := run_bind_eq_ok.mp h
  obtain ⟨_, db₂, hraise, h⟩ := run_bind_eq_ok.mp h
  obtain ⟨hnothing, rfl⟩ := run_raiseIf_eq_ok.mp hraise
  obtain ⟨rfl, rfl⟩ := run_pure_eq_ok.mp h
  rw [not_not] at hnothing
  rcases run_tryCatch_eq_ok.mp hrun with hrun | ⟨e, db₂, -, hrun⟩
  · obtain ⟨_, _, hexec, hpure⟩ := run_bind_eq_ok.mp hrun
    obtain ⟨rfl, rfl⟩ := run_pure_eq_ok.mp hpure
    exact hexec
  · cases e with
    | contact e => exact (collect_ne_nothing hunknown hrun hnothing).elim
    | _ => cases hrun

end UpdateContact

/-- A contact that lives under the handle is the one that is updated. -/
theorem updateContactByHandle_ok (hlives : Lives db id (upper handle))
    (hct : db.contact.lookup id = some ct)
    (h : (updateContactByHandle settings handle op).run db = .ok historyId db') :
    (op.exec settings (upper handle) id).run db = .ok historyId db' := by
  obtain ⟨contact, db₁, hselect, h⟩ := run_bind_eq_ok.mp h
  obtain ⟨info, hinfo, rfl, hhandle, -⟩ := hlives.infoContactByHandle utc hct
  rcases run_tryCatch_eq_ok.mp hselect with hselect | ⟨e, db₂, hfail, -⟩
  · obtain ⟨info', db₂, hinfo', hpure⟩ := run_bind_eq_ok.mp hselect
    obtain ⟨rfl, rfl⟩ := run_pure_eq_ok.mp hpure
    obtain ⟨rfl, rfl⟩ := EStateM.Result.ok.inj (hinfo.symm.trans hinfo')
    have hexec := UpdateContact.execSelected_ok (.inl (Option.some_ne_none _)) h
    rwa [hhandle] at hexec
  · rcases run_bind_eq_error.mp hfail with hfail | ⟨_, _, -, hfail⟩
    · rw [hinfo] at hfail
      cases hfail
    · cases hfail

theorem updateContactById_ok (hlives : Lives db id name) (hct : db.contact.lookup id = some ct)
    (h : (updateContactById settings id op).run db = .ok historyId db') :
    (op.exec settings name id).run db = .ok historyId db' := by
  obtain ⟨contact, db₁, hselect, h⟩ := run_bind_eq_ok.mp h
  obtain ⟨info, hinfo, hid, hname⟩ : ∃ info, (infoContactById utc id).run db = .ok info db ∧
      info.id = id ∧ info.handle = name := hlives.infoContactById hct
  rcases run_tryCatch_eq_ok.mp hselect with hselect | ⟨e, db₂, hfail, -⟩
  · obtain ⟨info', db₂, hinfo', hpure⟩ := run_bind_eq_ok.mp hselect
    obtain ⟨rfl, rfl⟩ := run_pure_eq_ok.mp hpure
    obtain ⟨rfl, rfl⟩ := EStateM.Result.ok.inj (hinfo.symm.trans hinfo')
    have hexec := UpdateContact.execSelected_ok (.inr (Option.some_ne_none _)) h
    rwa [hid, hname] at hexec
  · rcases run_bind_eq_error.mp hfail with hfail | ⟨_, _, -, hfail⟩
    · rw [hinfo] at hfail
      cases hfail
    · cases hfail

end LibFred.RegistrableObject.Contact
