import LibFred.Object.Bookkeeping
import LibFred.RegistrableObject.Contact.UpdateContact

/-! The rows that make up a contact and the contact that is read from them. -/
namespace LibFred.RegistrableObject.Contact

open Sql
open LibFred.Db (Database ObjectRegistry EnumSsntype Timestamp)
open LibFred.Object (KeepsObjects unversioned)

variable {db db' db'' : Database} {id : Nat} {name handle : String} {ct : Db.Contact}
  {localTime : Timestamp → Ptime} {info : InfoContactData}

/-- What a contact says, apart from the object that it is. -/
structure ContactData where
  name : Option String
  organization : Option String
  place : Option PlaceAddress
  telephone : Option String
  fax : Option String
  email : Option String
  notifyemail : Option String
  vat : Option String
  ssntype : Option String
  ssn : Option String
  disclosename : Bool
  discloseorganization : Bool
  discloseaddress : Bool
  disclosetelephone : Bool
  disclosefax : Bool
  discloseemail : Bool
  disclosevat : Bool
  discloseident : Bool
  disclosenotifyemail : Bool
  warningLetter : Option Bool
  addresses : ContactAddressList

def InfoContactData.data (info : InfoContactData) : ContactData where
  name := info.name
  organization := info.organization
  place := info.place
  telephone := info.telephone
  fax := info.fax
  email := info.email
  notifyemail := info.notifyemail
  vat := info.vat
  ssntype := info.ssntype
  ssn := info.ssn
  disclosename := info.disclosename
  discloseorganization := info.discloseorganization
  discloseaddress := info.discloseaddress
  disclosetelephone := info.disclosetelephone
  disclosefax := info.disclosefax
  discloseemail := info.discloseemail
  disclosevat := info.disclosevat
  discloseident := info.discloseident
  disclosenotifyemail := info.disclosenotifyemail
  warningLetter := info.warningLetter
  addresses := info.addresses

/-- What is read from a row of contact and the addresses. -/
def readData (enumSsntype : Table EnumSsntype) (ct : Db.Contact) (addresses : ContactAddressList) :
    ContactData where
  name := ct.name
  organization := ct.organization
  place := some (placeOf ct)
  telephone := ct.telephone
  fax := ct.fax
  email := ct.email
  notifyemail := ct.notifyemail
  vat := ct.vat
  ssntype := (ct.ssntype.bind enumSsntype.lookup).map (·.type)
  ssn := ct.ssn
  disclosename := ct.disclosename.getD false
  discloseorganization := ct.discloseorganization.getD false
  discloseaddress := ct.discloseaddress.getD false
  disclosetelephone := ct.disclosetelephone.getD false
  disclosefax := ct.disclosefax.getD false
  discloseemail := ct.discloseemail.getD false
  disclosevat := ct.disclosevat.getD false
  discloseident := ct.discloseident.getD false
  disclosenotifyemail := ct.disclosenotifyemail.getD false
  warningLetter := ct.warningLetter
  addresses := addresses

/-- The object is a live contact of the name. -/
def LiveContact (name : String) (o : ObjectRegistry) : Prop :=
  o.name = name ∧ o.type = .contact ∧ o.erdate = none

/-- The contact lives under the name, no other one does, and everything that it is joined with
when it is read exists. -/
structure Lives (db : Database) (id : Nat) (name : String) : Prop where
  row : ∃ o, db.objectRegistry.lookup id = some o ∧ LiveContact name o ∧
    (o.historyid.bind db.history.lookup).isSome ∧ (db.registrar.lookup o.crid).isSome
  only : ∀ o ∈ db.objectRegistry, LiveContact name o → o.id = id
  sponsored : ∃ obj, db.object.lookup id = some obj ∧ (db.registrar.lookup obj.clid).isSome

/-- The rows that a contact is read from. -/
structure Joined (db : Database) (cobr : ObjectRegistry) (obj : Db.Object) (ct : Db.Contact)
    (h : Db.History) (clr crr : Db.Registrar) : Prop where
  object : db.object.lookup cobr.id = some obj
  contact : db.contact.lookup cobr.id = some ct
  history : cobr.historyid.bind db.history.lookup = some h
  clr : db.registrar.lookup obj.clid = some clr
  crr : db.registrar.lookup cobr.crid = some crr
  type : cobr.type = .contact
  erdate : cobr.erdate = none

theorem infoContactRow_eq_some {cobr : ObjectRegistry} :
    infoContactRow localTime db cobr = some info ↔
      ∃ obj ct h clr crr, Joined db cobr obj ct h clr crr ∧
        infoContactOf localTime db cobr obj ct h clr crr = info := by
  constructor
  · intro hrow
    simp only [infoContactRow, Option.bind_eq_bind, Option.bind_eq_some_iff (x := db.object.lookup _),
      Option.bind_eq_some_iff (x := db.contact.lookup _), Option.bind_eq_some_iff] at hrow
    obtain ⟨obj, hobj, ct, hct, h, hh, clr, hclr, crr, hcrr, _, hguard, hinfo⟩ := hrow
    by_cases hlive : cobr.type = .contact ∧ cobr.erdate = none
    · exact ⟨obj, ct, h, clr, crr, ⟨hobj, hct, Option.bind_eq_some_iff.mpr hh, hclr, hcrr, hlive.1, hlive.2⟩,
        Option.some.inj hinfo⟩
    · simp [guard, hlive] at hguard
  · rintro ⟨obj, ct, h, clr, crr, hj, rfl⟩
    simp [infoContactRow, hj.object, hj.contact, hj.history, hj.clr, hj.crr, hj.type, hj.erdate]

/-- What is joined with the contact exists, so it is read. -/
theorem Lives.row_read (h : Lives db id name) (hct : db.contact.lookup id = some ct) :
    ∃ o info, db.objectRegistry.lookup id = some o ∧ LiveContact name o ∧
      infoContactRow localTime db o = some info ∧ info.id = id ∧ info.handle = name ∧
      info.data = readData db.enumSsntype ct (addressesOf db id) := by
  obtain ⟨o, ho, hlive, hversion, hcrr⟩ := h.row
  obtain ⟨obj, hobj, hclr⟩ := h.sponsored
  obtain ⟨version, hversion⟩ := Option.isSome_iff_exists.mp hversion
  obtain ⟨crr, hcrr⟩ := Option.isSome_iff_exists.mp hcrr
  obtain ⟨clr, hclr⟩ := Option.isSome_iff_exists.mp hclr
  have hid : o.id = id := (Table.lookup_eq_some.mp ho).2
  subst hid
  exact ⟨o, infoContactOf localTime db o obj ct version clr crr, ho, hlive,
    infoContactRow_eq_some.mpr
      ⟨obj, ct, version, clr, crr, ⟨hobj, hct, hversion, hclr, hcrr, hlive.2.1, hlive.2.2⟩, rfl⟩,
    rfl, hlive.1, rfl⟩

theorem infoContactByHandle_ok {db'' : Database} :
    (infoContactByHandle localTime handle).run db = .ok info db'' ↔
      (∃ o ∈ db.objectRegistry, o.name = upper handle ∧ infoContactRow localTime db o = some info ∧
        ∀ o' ∈ db.objectRegistry, o'.name = upper handle →
          (infoContactRow localTime db o').isSome → o' = o) ∧ db'' = db := by
  rw [← Table.filterMap_select_eq_singleton]
  constructor
  · intro h
    obtain ⟨_, _, hget, h⟩ := run_bind_eq_ok.mp h
    obtain ⟨rfl, rfl⟩ := run_get_eq_ok.mp hget
    split at h
    · cases h
    · rename_i contact heq
      obtain ⟨rfl, rfl⟩ := run_pure_eq_ok.mp h
      exact ⟨heq, rfl⟩
    · cases h
  · rintro ⟨heq, rfl⟩
    refine run_bind_eq_ok.mpr ⟨_, _, run_get_eq_ok.mpr ⟨rfl, rfl⟩, ?_⟩
    rw [heq]
    rfl

theorem infoContactById_ok {db'' : Database} :
    (infoContactById localTime id).run db = .ok info db'' ↔
      (∃ o ∈ db.objectRegistry, o.id = id ∧ infoContactRow localTime db o = some info ∧
        ∀ o' ∈ db.objectRegistry, o'.id = id →
          (infoContactRow localTime db o').isSome → o' = o) ∧ db'' = db := by
  rw [← Table.filterMap_select_eq_singleton]
  constructor
  · intro h
    obtain ⟨_, _, hget, h⟩ := run_bind_eq_ok.mp h
    obtain ⟨rfl, rfl⟩ := run_get_eq_ok.mp hget
    split at h
    · cases h
    · rename_i contact heq
      obtain ⟨rfl, rfl⟩ := run_pure_eq_ok.mp h
      exact ⟨heq, rfl⟩
    · cases h
  · rintro ⟨heq, rfl⟩
    refine run_bind_eq_ok.mpr ⟨_, _, run_get_eq_ok.mpr ⟨rfl, rfl⟩, ?_⟩
    rw [heq]
    rfl

theorem Lives.infoContactByHandle (localTime : Timestamp → Ptime) (h : Lives db id (upper handle))
    (hct : db.contact.lookup id = some ct) :
    ∃ info, (infoContactByHandle localTime handle).run db = .ok info db ∧ info.id = id ∧
      info.handle = upper handle ∧
      info.data = readData db.enumSsntype ct (addressesOf db id) := by
  obtain ⟨o, info, ho, hlive, hrow, hid, hhandle, hdata⟩ := h.row_read hct
  obtain ⟨hmem, hoid⟩ := Table.lookup_eq_some.mp ho
  refine ⟨info, infoContactByHandle_ok.mpr ⟨⟨o, hmem, hlive.1, hrow, fun o' ho' hname hsome => ?_⟩, rfl⟩,
    hid, hhandle, hdata⟩
  obtain ⟨_, hsome⟩ := Option.isSome_iff_exists.mp hsome
  obtain ⟨_, _, _, _, _, hj, -⟩ := infoContactRow_eq_some.mp hsome
  exact Table.eq_of_key_eq ho' hmem ((h.only o' ho' ⟨hname, hj.type, hj.erdate⟩).trans hoid.symm)

theorem Lives.infoContactById (h : Lives db id name) (hct : db.contact.lookup id = some ct) :
    ∃ info, (infoContactById localTime id).run db = .ok info db ∧ info.id = id ∧
      info.handle = name := by
  obtain ⟨o, info, ho, hlive, hrow, hid, hhandle, -⟩ := h.row_read hct
  obtain ⟨hmem, hoid⟩ := Table.lookup_eq_some.mp ho
  exact ⟨info, infoContactById_ok.mpr ⟨⟨o, hmem, hoid, hrow, fun o' ho' hid' _ =>
    Table.eq_of_key_eq ho' hmem (hid'.trans hoid.symm)⟩, rfl⟩, hid, hhandle⟩

/-- A contact stays alive while the books of objects are kept. -/
theorem Lives.keepsObjects (h : Lives db id name) (hk : KeepsObjects db db') : Lives db' id name where
  row := by
    obtain ⟨o, ho, hlive, hversion, hcrr⟩ := h.row
    obtain ⟨o', ho', heq⟩ := hk.lookup_registry ho
    obtain ⟨o'', ho'', hversion⟩ := hk.versioned id ⟨o, ho, hversion⟩
    obtain rfl : o' = o'' := Option.some.inj (ho'.symm.trans ho'')
    simp only [unversioned, ObjectRegistry.mk.injEq] at heq
    obtain ⟨-, -, -, hname, htype, hcrid, -, herdate, -⟩ := heq
    refine ⟨o', ho', ⟨hname.trans hlive.1, htype.trans hlive.2.1, herdate.trans hlive.2.2⟩, hversion, ?_⟩
    rw [hk.registrar, hcrid]
    exact hcrr
  only := by
    intro o' ho' hlive
    obtain ⟨o, ho, heq⟩ := hk.mem_registry ho'
    simp only [unversioned, ObjectRegistry.mk.injEq] at heq
    obtain ⟨hid, -, -, hname, htype, -, -, herdate, -⟩ := heq
    exact hid ▸ h.only o ho ⟨hname.trans hlive.1, htype.trans hlive.2.1, herdate.trans hlive.2.2⟩
  sponsored := by
    obtain ⟨obj, hobj, hclr⟩ := h.sponsored
    have hclid := hk.sponsors id
    rw [hobj, Option.map_some, Option.map_eq_some_iff] at hclid
    obtain ⟨obj', hobj', hclid⟩ := hclid
    refine ⟨obj', hobj', ?_⟩
    rw [hk.registrar, hclid]
    exact hclr

end LibFred.RegistrableObject.Contact
