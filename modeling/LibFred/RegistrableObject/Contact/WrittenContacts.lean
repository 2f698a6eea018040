import LibFred.Object.AuthinfoRevocation
import LibFred.Overwrite
import LibFred.RegistrableObject.Contact.ContactCreation

/-! Contacts as they are read after any number of updates. -/
namespace LibFred.RegistrableObject.Contact

open Sql Overwrite
open LibFred.Db (Database EnumCountry EnumSsntype Timestamp)
open LibFred.Object (AuthinfoSettings CreateObjectProcedure plaintextStorage)

variable {db db' : Database} {id historyId : Nat} {name : String} {create : CreateContact}
  {us : List UpdateContact} {u : UpdateContact} {procedure : CreateObjectProcedure}
  {localTime : Timestamp → Ptime} {d : ContactData} {enumCountry : Table EnumCountry}
  {enumSsntype : Table EnumSsntype}

/-- What an update says of an address: nothing, that there is none, or which one it is. -/
def ContactAddressToUpdate.given (a : ContactAddressToUpdate) (type : ContactAddressType) :
    Option (Option ContactAddress) :=
  if a.toRemove type then some none else (a.toUpdate type).map some

/-- The last value that the creation or an update gave. Flags that the creation does not give have
the default of the constructor of InfoContactData. -/
def lastGivenData (create : CreateContact) (us : List UpdateContact) : ContactData where
  name := lastGiven create.name (us.map (·.name))
  organization := lastGiven create.organization (us.map (·.organization))
  place := lastGiven create.place (us.map (·.place))
  telephone := lastGiven create.telephone (us.map (·.telephone))
  fax := lastGiven create.fax (us.map (·.fax))
  email := lastGiven create.email (us.map (·.email))
  notifyemail := lastGiven create.notifyemail (us.map (·.notifyemail))
  vat := lastGiven create.vat (us.map (·.vat))
  ssntype := lastGiven create.ssntype (us.map fun u => u.personalId.map (·.map (·.type)))
  ssn := lastGiven create.ssn (us.map fun u => u.personalId.map (·.map (·.id)))
  disclosename := lastGiven (create.disclosename.getD false) (us.map (·.disclosename))
  discloseorganization :=
    lastGiven (create.discloseorganization.getD false) (us.map (·.discloseorganization))
  discloseaddress := lastGiven (create.discloseaddress.getD true) (us.map (·.discloseaddress))
  disclosetelephone := lastGiven (create.disclosetelephone.getD false) (us.map (·.disclosetelephone))
  disclosefax := lastGiven (create.disclosefax.getD false) (us.map (·.disclosefax))
  discloseemail := lastGiven (create.discloseemail.getD false) (us.map (·.discloseemail))
  disclosevat := lastGiven (create.disclosevat.getD false) (us.map (·.disclosevat))
  discloseident := lastGiven (create.discloseident.getD false) (us.map (·.discloseident))
  disclosenotifyemail :=
    lastGiven (create.disclosenotifyemail.getD false) (us.map (·.disclosenotifyemail))
  warningLetter := lastGiven create.domainExpirationWarningLetterEnabled.join
    (us.map (·.domainExpirationWarningLetterEnabled))
  addresses type := lastGiven ((create.addresses.getD fun _ => none) type)
    (us.map (·.addresses.given type))

/-- Whatever the update does not mention is as it was; of the addresses it overrides those to
update and takes away those to remove. -/
structure UpdateContact.Keeps (u : UpdateContact) (d d' : ContactData) : Prop where
  name : u.name = none → d'.name = d.name
  organization : u.organization = none → d'.organization = d.organization
  place : u.place = none → d'.place = d.place
  telephone : u.telephone = none → d'.telephone = d.telephone
  fax : u.fax = none → d'.fax = d.fax
  email : u.email = none → d'.email = d.email
  notifyemail : u.notifyemail = none → d'.notifyemail = d.notifyemail
  vat : u.vat = none → d'.vat = d.vat
  personalId : u.personalId = none → d'.ssntype = d.ssntype ∧ d'.ssn = d.ssn
  disclosename : u.disclosename = none → d'.disclosename = d.disclosename
  discloseorganization :
    u.discloseorganization = none → d'.discloseorganization = d.discloseorganization
  discloseaddress : u.discloseaddress = none → d'.discloseaddress = d.discloseaddress
  disclosetelephone : u.disclosetelephone = none → d'.disclosetelephone = d.disclosetelephone
  disclosefax : u.disclosefax = none → d'.disclosefax = d.disclosefax
  discloseemail : u.discloseemail = none → d'.discloseemail = d.discloseemail
  disclosevat : u.disclosevat = none → d'.disclosevat = d.disclosevat
  discloseident : u.discloseident = none → d'.discloseident = d.discloseident
  disclosenotifyemail :
    u.disclosenotifyemail = none → d'.disclosenotifyemail = d.disclosenotifyemail
  warningLetter :
    u.domainExpirationWarningLetterEnabled = none → d'.warningLetter = d.warningLetter
  addresses : d'.addresses = u.addresses.apply d.addresses

/-- A step of others: the rows of the contact and all that it is joined with stay. -/
structure Untouched (id : Nat) (name : String) (db db' : Database) : Prop where
  registry : db'.objectRegistry.lookup id = db.objectRegistry.lookup id
  object : db'.object.lookup id = db.object.lookup id
  history : ∀ v row, db.history.lookup v = some row → db'.history.lookup v = some row
  registrar : ∀ r row, db.registrar.lookup r = some row → db'.registrar.lookup r = some row
  only : ∀ o ∈ db'.objectRegistry, LiveContact name o → o.id = id
  contact : db'.contact.lookup id = db.contact.lookup id
  contactAddress : ∀ type, db'.contactAddress.lookup (id, type) = db.contactAddress.lookup (id, type)
  enumSsntype : db'.enumSsntype = db.enumSsntype
  enumCountry : db'.enumCountry = db.enumCountry

/-- A successful update of the contact, named by its handle or by its id. -/
def UpdatedBy (id : Nat) (name : String) (u : UpdateContact) (db db' : Database) : Prop :=
  ∃ settings historyId,
    (∃ handle, upper handle = name ∧
      (updateContactByHandle settings handle u).run db = .ok historyId db') ∨
    (updateContactById settings id u).run db = .ok historyId db'

/-- The contact was created and then updated so, while others did what does not concern it. -/
inductive Written (procedure : CreateObjectProcedure) (create : CreateContact) :
    Nat → List UpdateContact → Database → Prop
  | create {db db' : Database} {localTime : Timestamp → Ptime} {result : CreateContactResult} :
      (create.exec procedure localTime).run db = .ok result db' →
        Written procedure create result.objectId [] db'
  | update {id : Nat} {us : List UpdateContact} {u : UpdateContact} {db db' : Database} :
      Written procedure create id us db → UpdatedBy id (upper create.handle) u db db' → Written procedure create id (us ++ [u]) db'
  | other {id : Nat} {us : List UpdateContact} {db db' : Database} :
      Written procedure create id us db → Untouched id (upper create.handle) db db' →
        Written procedure create id us db'

/-- The country is named by its code, and the type of identification as the table spells it. -/
structure Spelled (db : Database) (d : ContactData) : Prop where
  place : ∃ p ∈ d.place, ∃ c ∈ db.enumCountry, c.id = p.country
  ssntype : ∀ text ∈ d.ssntype, ∃ t ∈ db.enumSsntype, t.type = text

/-- What the tables make of the country and of the type of identification. -/
def ContactData.resolved (d : ContactData) (db : Database) : ContactData where
  __ := d
  place := d.place.map fun p => { p with country := (codeOf db.enumCountry p.country).getD "" }
  ssntype := ((d.ssntype.bind (typeIdOf db.enumSsntype)).bind db.enumSsntype.lookup).map (·.type)

/-- The data after an update. -/
def ContactData.update (d : ContactData) (u : UpdateContact) : ContactData where
  name := u.name.getD d.name
  organization := u.organization.getD d.organization
  place := u.place.getD d.place
  telephone := u.telephone.getD d.telephone
  fax := u.fax.getD d.fax
  email := u.email.getD d.email
  notifyemail := u.notifyemail.getD d.notifyemail
  vat := u.vat.getD d.vat
  ssntype := (u.personalId.map (·.map (·.type))).getD d.ssntype
  ssn := (u.personalId.map (·.map (·.id))).getD d.ssn
  disclosename := u.disclosename.getD d.disclosename
  discloseorganization := u.discloseorganization.getD d.discloseorganization
  discloseaddress := u.discloseaddress.getD d.discloseaddress
  disclosetelephone := u.disclosetelephone.getD d.disclosetelephone
  disclosefax := u.disclosefax.getD d.disclosefax
  discloseemail := u.discloseemail.getD d.discloseemail
  disclosevat := u.disclosevat.getD d.disclosevat
  discloseident := u.discloseident.getD d.discloseident
  disclosenotifyemail := u.disclosenotifyemail.getD d.disclosenotifyemail
  warningLetter := u.domainExpirationWarningLetterEnabled.getD d.warningLetter
  addresses := u.addresses.apply d.addresses

theorem apply_eq_given {a : ContactAddressToUpdate} {old : ContactAddressList}
    {type : ContactAddressType} : a.apply old type = (a.given type).getD (old type) := by
  unfold ContactAddressToUpdate.apply ContactAddressToUpdate.given
  by_cases hr : a.toRemove type
  · rw [if_pos hr, if_pos hr, Option.getD_some]
  · rw [if_neg hr, if_neg hr]
    cases a.toUpdate type <;> rfl

theorem lastGivenData_concat :
    lastGivenData create (us ++ [u]) = (lastGivenData create us).update u := by
  have haddresses : (lastGivenData create (us ++ [u])).addresses =
      u.addresses.apply (lastGivenData create us).addresses := by
    funext type
    rw [apply_eq_given]
    simp only [lastGivenData, List.map_append, List.map_singleton, lastGiven_concat]
  simp only [lastGivenData, ContactData.update, List.map_append, List.map_singleton,
    lastGiven_concat] at haddresses ⊢
  rw [haddresses]

/-- The row of a contact that says so. -/
def ContactData.row (d : ContactData) (enumCountry : Table EnumCountry)
    (enumSsntype : Table EnumSsntype) (id : Nat) : Db.Contact where
  id := id
  name := d.name
  organization := d.organization
  street1 := d.place.map (·.street1)
  street2 := d.place.bind (·.street2)
  street3 := d.place.bind (·.street3)
  city := d.place.map (·.city)
  stateorprovince := d.place.bind (·.stateorprovince)
  postalcode := d.place.map (·.postalcode)
  country := (d.place.map (·.country)).bind (codeOf enumCountry)
  telephone := d.telephone
  fax := d.fax
  email := d.email
  notifyemail := d.notifyemail
  vat := d.vat
  ssntype := d.ssntype.bind (typeIdOf enumSsntype)
  ssn := d.ssn
  disclosename := some d.disclosename
  discloseorganization := some d.discloseorganization
  discloseaddress := some d.discloseaddress
  disclosetelephone := some d.disclosetelephone
  disclosefax := some d.disclosefax
  discloseemail := some d.discloseemail
  disclosevat := some d.disclosevat
  discloseident := some d.discloseident
  disclosenotifyemail := some d.disclosenotifyemail
  warningLetter := d.warningLetter

theorem updateValue_some {α : Type} {given : Option α} {old : α} :
    updateValue (given.map some) (some old) = some (given.getD old) := by
  cases given <;> rfl

theorem updateValue_map {α β : Type} {f : α → β} {given : Option (Option α)} {old : Option α} :
    updateValue (given.map (·.map f)) (old.map f) = (given.getD old).map f := by
  cases given <;> rfl

theorem updateValue_bind {α β : Type} {f : α → Option β} {given : Option (Option α)}
    {old : Option α} : updateValue (given.map (·.bind f)) (old.bind f) = (given.getD old).bind f := by
  cases given <;> rfl

/-- An update writes the row of the updated data. -/
theorem setBy_row : u.setBy enumCountry enumSsntype (d.row enumCountry enumSsntype id) =
    (d.update u).row enumCountry enumSsntype id := by
  have hcountry : updateValue (u.place.map (·.bind fun _ =>
      (u.place.join.map (·.country)).bind (codeOf enumCountry)))
      ((d.place.map (·.country)).bind (codeOf enumCountry)) =
      ((u.place.getD d.place).map (·.country)).bind (codeOf enumCountry) := by
    rcases u.place with _ | _ | p <;> rfl
  have hssntype : updateValue (u.personalId.map (·.bind fun _ =>
      (u.personalId.join.map (·.type)).bind (typeIdOf enumSsntype)))
      (d.ssntype.bind (typeIdOf enumSsntype)) =
      ((u.personalId.map (·.map (·.type))).getD d.ssntype).bind (typeIdOf enumSsntype) := by
    rcases u.personalId with _ | _ | p <;> rfl
  simp only [UpdateContact.setBy, UpdateContact.set, ContactData.row, ContactData.update,
    updateValue_some, updateValue_map, updateValue_bind, hcountry, hssntype]
  rfl

/-- The contact lives under its handle, and its rows say what was given last. -/
structure Stored (create : CreateContact) (us : List UpdateContact) (id : Nat) (db : Database) :
    Prop where
  lives : Lives db id (upper create.handle)
  row : db.contact.lookup id = some ((lastGivenData create us).row db.enumCountry db.enumSsntype id)
  addresses : addressesOf db id = (lastGivenData create us).addresses
  country : ∀ p ∈ (lastGivenData create us).place, (codeOf db.enumCountry p.country).isSome
  ssntype : ∀ text ∈ (lastGivenData create us).ssntype, (typeIdOf db.enumSsntype text).isSome

theorem Lives.untouched (h : Lives db id name) (hu : Untouched id name db db') : Lives db' id name where
  row := by
    obtain ⟨o, ho, hlive, hversion, hcrr⟩ := h.row
    obtain ⟨version, hversion⟩ := Option.isSome_iff_exists.mp hversion
    obtain ⟨v, hv, hversion⟩ := Option.bind_eq_some_iff.mp hversion
    obtain ⟨crr, hcrr⟩ := Option.isSome_iff_exists.mp hcrr
    refine ⟨o, hu.registry.trans ho, hlive, ?_, Option.isSome_of_eq_some (hu.registrar _ _ hcrr)⟩
    rw [hv, Option.bind_some]
    exact Option.isSome_of_eq_some (hu.history v version hversion)
  only := hu.only
  sponsored := by
    obtain ⟨obj, hobj, hclr⟩ := h.sponsored
    obtain ⟨clr, hclr⟩ := Option.isSome_iff_exists.mp hclr
    exact ⟨obj, hu.object.trans hobj, Option.isSome_of_eq_some (hu.registrar _ _ hclr)⟩

theorem stored_create (h : create.Creates id db db') : Stored create [] id db' := by
  obtain ⟨db₁, hcreated, heq⟩ := h.object
  have hcountry : db'.enumCountry = db.enumCountry := by rw [heq, ← hcreated.enumCountry]
  have hssntype : db'.enumSsntype = db.enumSsntype := by rw [heq, ← hcreated.enumSsntype]
  exact {
    lives := h.lives
    row := by
      rw [h.row, hcountry, hssntype]
      rfl
    addresses := h.addresses
    country := by
      rw [hcountry]
      exact h.country
    ssntype := by
      rw [hssntype]
      exact h.ssntype }

theorem UpdatedBy.updates (h : UpdatedBy id name u db db') (hs : Lives db id name)
    (hct : (db.contact.lookup id).isSome) : u.Updates id db db' := by
  obtain ⟨ct, hct⟩ := Option.isSome_iff_exists.mp hct
  obtain ⟨settings, historyId, ⟨handle, rfl, h⟩ | h⟩ := h
  · exact UpdateContact.exec_ok (updateContactByHandle_ok hs hct h)
  · exact UpdateContact.exec_ok (updateContactById_ok hs hct h)

theorem stored_update (hs : Stored create us id db) (h : u.Updates id db db') :
    Stored create (us ++ [u]) id db' where
  lives := hs.lives.keepsObjects h.objects
  row := by
    rw [h.row, hs.row, Option.map_some, setBy_row, lastGivenData_concat, h.objects.enumCountry,
      h.objects.enumSsntype]
  addresses := by
    rw [h.addresses, hs.addresses, lastGivenData_concat]
    rfl
  country := by
    intro p hp
    rw [lastGivenData_concat] at hp
    rw [h.objects.enumCountry]
    cases hplace : u.place with
    | none =>
      simp only [ContactData.update, hplace, Option.getD_none] at hp
      exact hs.country p hp
    | some place =>
      simp only [ContactData.update, hplace, Option.getD_some] at hp
      exact h.country p (by simpa [hplace] using hp)
  ssntype := by
    intro text htext
    rw [lastGivenData_concat] at htext
    rw [h.objects.enumSsntype]
    cases hid : u.personalId with
    | none =>
      simp only [ContactData.update, hid, Option.map_none, Option.getD_none] at htext
      exact hs.ssntype text htext
    | some personalId =>
      simp only [ContactData.update, hid, Option.map_some, Option.getD_some, Option.mem_map] at htext
      obtain ⟨p, hp, rfl⟩ := htext
      exact h.ssntype p (by simpa [hid] using hp)

theorem stored_other (hs : Stored create us id db) (hu : Untouched id (upper create.handle) db db') :
    Stored create us id db' where
  lives := hs.lives.untouched hu
  row := by rw [hu.contact, hs.row, hu.enumCountry, hu.enumSsntype]
  addresses := by
    rw [← hs.addresses]
    funext type
    rw [addressesOf, addressesOf, hu.contactAddress type]
  country := by
    rw [hu.enumCountry]
    exact hs.country
  ssntype := by
    rw [hu.enumSsntype]
    exact hs.ssntype

theorem Written.stored (h : Written procedure create id us db) : Stored create us id db := by
  induction h with
  | create h => exact stored_create (CreateContact.exec_ok h)
  | update _ hu ih =>
    exact stored_update ih (hu.updates ih.lives (Option.isSome_of_eq_some ih.row))
  | other _ hu ih => exact stored_other ih hu

/-- The code that stands in the column is the country that was given only when that is a code. -/
theorem codeOf_eq_self_iff {text : String} (hknown : (codeOf enumCountry text).isSome) :
    codeOf enumCountry text = some text ↔ ∃ c ∈ enumCountry, c.id = text := by
  obtain ⟨code, hcode⟩ := Option.isSome_iff_exists.mp hknown
  obtain ⟨c, hc, rfl⟩ := codeOf_eq_some.mp hcode
  obtain ⟨hmem, -, honly⟩ := Table.select_eq_singleton.mp hc
  rw [hcode]
  constructor
  · intro h
    exact ⟨c, hmem, Option.some.inj h⟩
  · rintro ⟨c', hmem', rfl⟩
    rw [honly c' hmem' (.inl rfl)]

theorem typeOf_eq_self_iff {text : String} (hknown : (typeIdOf enumSsntype text).isSome) :
    ((typeIdOf enumSsntype text).bind enumSsntype.lookup).map (·.type) = some text ↔
      ∃ t ∈ enumSsntype, t.type = text := by
  obtain ⟨n, hn⟩ := Option.isSome_iff_exists.mp hknown
  obtain ⟨t, ht, rfl⟩ := typeIdOf_eq_some.mp hn
  obtain ⟨hmem, -, honly⟩ := Table.select_eq_singleton.mp ht
  have hlookup : enumSsntype.lookup t.id = some t := Table.lookup_eq_some.mpr ⟨hmem, rfl⟩
  rw [hn, Option.bind_some, hlookup, Option.map_some]
  constructor
  · intro h
    exact ⟨t, hmem, Option.some.inj h⟩
  · rintro ⟨t', hmem', rfl⟩
    rw [honly t' hmem' rfl]

/-- A place that is not there is read as one of empty texts. -/
theorem placeOf_row_eq_iff (hknown : ∀ p ∈ d.place, (codeOf enumCountry p.country).isSome) :
    some (placeOf (d.row enumCountry enumSsntype id)) = d.place ↔
      ∃ p ∈ d.place, ∃ c ∈ enumCountry, c.id = p.country := by
  cases hplace : d.place with
  | none => simp
  | some p =>
    rw [hplace] at hknown
    have hp := hknown p rfl
    obtain ⟨code, hcode⟩ := Option.isSome_iff_exists.mp hp
    have hread : placeOf (d.row enumCountry enumSsntype id) = { p with country := code } := by
      simp [placeOf, ContactData.row, hplace, hcode]
    rw [hread]
    constructor
    · intro h
      refine ⟨p, rfl, (codeOf_eq_self_iff hp).mp ?_⟩
      rw [hcode, congrArg PlaceAddress.country (Option.some.inj h).symm]
    · rintro ⟨p', hp', h⟩
      obtain rfl := Option.some.inj hp'
      rw [← codeOf_eq_self_iff hp, hcode] at h
      rw [Option.some.inj h]

theorem typeOf_row_eq_iff (hknown : ∀ text ∈ d.ssntype, (typeIdOf enumSsntype text).isSome) :
    ((d.ssntype.bind (typeIdOf enumSsntype)).bind enumSsntype.lookup).map (·.type) = d.ssntype ↔
      ∀ text ∈ d.ssntype, ∃ t ∈ enumSsntype, t.type = text := by
  cases hssntype : d.ssntype with
  | none => simp
  | some text =>
    rw [hssntype] at hknown
    rw [Option.bind_some, typeOf_eq_self_iff (hknown text rfl)]
    simp

/-- Only a place and a type of identification are not read as they were given. -/
theorem readData_row : readData enumSsntype (d.row enumCountry enumSsntype id) d.addresses =
    { d with
      place := some (placeOf (d.row enumCountry enumSsntype id))
      ssntype := ((d.ssntype.bind (typeIdOf enumSsntype)).bind enumSsntype.lookup).map (·.type) } := rfl

theorem Stored.read_iff (hs : Stored create us id db) :
    readData db.enumSsntype ((lastGivenData create us).row db.enumCountry db.enumSsntype id)
      (lastGivenData create us).addresses = lastGivenData create us ↔
        Spelled db (lastGivenData create us) := by
  rw [readData_row]
  constructor
  · intro h
    exact ⟨(placeOf_row_eq_iff hs.country).mp (congrArg ContactData.place h),
      (typeOf_row_eq_iff hs.ssntype).mp (congrArg ContactData.ssntype h)⟩
  · intro h
    rw [(placeOf_row_eq_iff hs.country).mpr h.place, (typeOf_row_eq_iff hs.ssntype).mpr h.ssntype]

theorem Stored.read_resolved_iff (hs : Stored create us id db) :
    readData db.enumSsntype ((lastGivenData create us).row db.enumCountry db.enumSsntype id)
      (lastGivenData create us).addresses = (lastGivenData create us).resolved db ↔
        (lastGivenData create us).place.isSome := by
  rw [readData_row]
  constructor
  · intro h
    have hplace := congrArg ContactData.place h
    cases hnone : (lastGivenData create us).place with
    | none =>
      simp only [ContactData.resolved, hnone, Option.map_none] at hplace
      cases hplace
    | some p => rfl
  · intro h
    obtain ⟨p, hp⟩ := Option.isSome_iff_exists.mp h
    obtain ⟨code, hcode⟩ := Option.isSome_iff_exists.mp (hs.country p hp)
    simp [ContactData.resolved, placeOf, ContactData.row, hp, hcode]

/-- What is read after an update is what was read before it where the update says nothing. -/
theorem keeps_readData {ct : Db.Contact} {addresses : ContactAddressList} {country : Option String}
    {ssntype : Option Nat} : u.Keeps (readData enumSsntype ct addresses)
      (readData enumSsntype (u.set country ssntype ct) (u.addresses.apply addresses)) := by
  constructor
  case place =>
    intro h
    simp [readData, placeOf, UpdateContact.set, updateValue, h]
  case personalId =>
    intro h
    simp [readData, UpdateContact.set, updateValue, h]
  case addresses => rfl
  all_goals
    intro h
    simp only [readData, UpdateContact.set, updateValue, h, Option.map_none, Option.getD_none]

/-- A contact is read as it was written last exactly when the last place that was given is not NULL
and names its country by the code, and the type of identification is spelled as the table spells
it. Apart from these spellings it is the NULL place alone that is not read back. No update changes
what it does not mention. -/
theorem read_as_written (h : Written procedure create id us db) :
    ∃ info, (infoContactByHandle localTime create.handle).run db = .ok info db ∧ info.id = id ∧
      (info.data = lastGivenData create us ↔ Spelled db (lastGivenData create us)) ∧
      (info.data = (lastGivenData create us).resolved db ↔ (lastGivenData create us).place.isSome) ∧
      ∀ u db', UpdatedBy id (upper create.handle) u db db' →
        ∃ info', (infoContactByHandle localTime create.handle).run db' = .ok info' db' ∧
          u.Keeps info.data info'.data := by
  have hs := h.stored
  obtain ⟨info, hread, hid, -, hdata⟩ := hs.lives.infoContactByHandle localTime hs.row
  refine ⟨info, hread, hid, ?_, ?_, fun u db' hu => ?_⟩
  · rw [hdata, hs.addresses]
    exact hs.read_iff
  · rw [hdata, hs.addresses]
    exact hs.read_resolved_iff
  · have hupdates := hu.updates hs.lives (Option.isSome_of_eq_some hs.row)
    have hs' := stored_update hs hupdates
    obtain ⟨info', hread', -, -, hdata'⟩ :=
      hs'.lives.infoContactByHandle localTime hs'.row
    refine ⟨info', hread', ?_⟩
    have hrow := hupdates.row
    rw [hs.row, hs'.row, Option.map_some] at hrow
    rw [hdata, hdata', Option.some.inj hrow, hupdates.addresses, hupdates.objects.enumSsntype]
    exact keeps_readData

def writtenTables : Database :=
  { Database.empty with
    registrar := ⟨[⟨1, "REG-WRITER"⟩], by decide⟩
    enumCountry := ⟨[⟨"CZ", "Czech Republic", none⟩], by decide⟩
    enumSsntype := ⟨[⟨1, "PASSPORT"⟩], by decide⟩ }

/-- A contact of which nothing is given but its handle, and its place, should it have one. -/
def writtenContact (place : Option PlaceAddress) : CreateContact where
  handle := "written"
  registrar := "REG-WRITER"
  name := none
  organization := none
  place := place
  telephone := none
  fax := none
  email := none
  notifyemail := none
  vat := none
  ssntype := none
  ssn := none
  addresses := none
  disclosename := none
  discloseorganization := none
  discloseaddress := none
  disclosetelephone := none
  disclosefax := none
  discloseemail := none
  disclosevat := none
  discloseident := none
  disclosenotifyemail := none
  domainExpirationWarningLetterEnabled := none
  logdRequestId := none

def writtenPlace : PlaceAddress := ⟨"Street 1", none, none, "Praha", none, "11000", "CZ"⟩

def writtenDb (place : Option PlaceAddress) : Database :=
  transaction ((writtenContact place).exec .sequential utc) writtenTables

def mailingAddress : ContactAddress := ⟨⟨"Mailing 2", none, none, "Brno", none, "60200", "CZ"⟩, none⟩

def shippingAddress : ContactAddress :=
  ⟨⟨"Shipping 3", some "Yard", none, "Plzeň", none, "30100", "CZ"⟩, some "Writers"⟩

/-- A contact of a name, a telephone, an email and a mailing address. -/
def knownContact : CreateContact :=
  { writtenContact (some writtenPlace) with
    name := some "Name"
    telephone := some "+420.1"
    email := some "first@example.com"
    disclosename := some true
    addresses := some fun type => if type = .mailing then some mailingAddress else none }

/-- An update that mentions nothing. -/
def silentUpdate : UpdateContact where
  registrar := "REG-WRITER"
  authinfo := none
  name := none
  organization := none
  place := none
  telephone := none
  fax := none
  email := none
  notifyemail := none
  vat := none
  personalId := none
  addresses := .empty
  disclosename := none
  discloseorganization := none
  discloseaddress := none
  disclosetelephone := none
  disclosefax := none
  discloseemail := none
  disclosevat := none
  discloseident := none
  disclosenotifyemail := none
  domainExpirationWarningLetterEnabled := none
  logdRequestId := none

/-- The name and the identification are given, the telephone is set to NULL, and a shipping address
takes the place of the mailing one. -/
def renamed : UpdateContact :=
  { silentUpdate with
    name := some (some "Other Name")
    telephone := some none
    personalId := some (some ⟨"PASSPORT", "7"⟩)
    disclosename := some false
    addresses := (ContactAddressToUpdate.empty.update .shipping shippingAddress).remove .mailing }

/-- The email is set to NULL, the telephone is given again, and so are a place and the mailing
address. -/
def moved : UpdateContact :=
  { silentUpdate with
    place := some (some mailingAddress.toPlaceAddress)
    telephone := some (some "+420.2")
    email := some none
    domainExpirationWarningLetterEnabled := some (some true)
    addresses := ContactAddressToUpdate.empty.update .mailing mailingAddress }

def writtenSettings : AuthinfoSettings := ⟨plaintextStorage, "", 100⟩

def knownDb : Database := transaction (knownContact.exec .sequential utc) writtenTables

def renamedDb : Database := transaction (updateContactByHandle writtenSettings "Written" renamed) knownDb

def movedDb : Database := transaction (updateContactById writtenSettings 1 moved) renamedDb

theorem written_movedDb : Written .sequential knownContact 1 [renamed, moved] movedDb := by
  have hcreate : (knownContact.exec .sequential utc).run writtenTables = .ok ⟨1, 1, .time 0⟩ knownDb := by
    rfl
  have hrename : (updateContactByHandle writtenSettings "Written" renamed).run knownDb =
      .ok 2 renamedDb := run_of_returns (by decide +kernel)
  have hmove : (updateContactById writtenSettings 1 moved).run renamedDb = .ok 3 movedDb :=
    run_of_returns (by decide +kernel)
  exact .update (.update (.create hcreate) ⟨writtenSettings, 2, .inl ⟨"Written", by decide, hrename⟩⟩)
    ⟨writtenSettings, 3, .inr hmove⟩

theorem spelled_movedDb : Spelled movedDb (lastGivenData knownContact [renamed, moved]) := by
  have hcountry : movedDb.enumCountry = writtenTables.enumCountry := by rfl
  have hssntype : movedDb.enumSsntype = writtenTables.enumSsntype := by rfl
  refine ⟨⟨mailingAddress.toPlaceAddress, rfl, ⟨"CZ", "Czech Republic", none⟩, ?_, rfl⟩, ?_⟩
  · rw [hcountry]
    exact List.mem_cons_self
  · rintro text ⟨⟩
    rw [hssntype]
    exact ⟨⟨1, "PASSPORT"⟩, List.mem_cons_self, rfl⟩

theorem read_as_written_movedDb :
    ∃ info, (infoContactByHandle utc knownContact.handle).run movedDb = .ok info movedDb ∧ info.id = 1 ∧
      info.data = lastGivenData knownContact [renamed, moved] ∧
      ∃ info', (infoContactByHandle utc knownContact.handle).run
          (transaction (updateContactById writtenSettings 1 renamed) movedDb) =
            .ok info' (transaction (updateContactById writtenSettings 1 renamed) movedDb) ∧
        renamed.Keeps info.data info'.data := by
  obtain ⟨info, hread, hid, hdata, -, hkeeps⟩ :
      ∃ info, (infoContactByHandle utc knownContact.handle).run movedDb = .ok info movedDb ∧ _ :=
    read_as_written written_movedDb
  have hrename : (updateContactById writtenSettings 1 renamed).run movedDb =
      .ok 4 (transaction (updateContactById writtenSettings 1 renamed) movedDb) :=
    run_of_returns (by decide +kernel)
  exact ⟨info, hread, hid, hdata.mpr spelled_movedDb,
    hkeeps renamed _ ⟨writtenSettings, 4, .inr hrename⟩⟩

/-- A contact that was created without a place is read with one. -/
theorem not_read_as_written :
    ¬ ∀ (procedure : CreateObjectProcedure) (create : CreateContact) (id : Nat)
      (us : List UpdateContact) (db : Database), Written procedure create id us db →
        ∃ info, (infoContactByHandle utc create.handle).run db = .ok info db ∧
          info.data = lastGivenData create us := by
  intro h
  have hrun : ((writtenContact none).exec .sequential utc).run writtenTables =
      .ok ⟨1, 1, .time 0⟩ (writtenDb none) := by rfl
  have hw : Written .sequential (writtenContact none) 1 [] (writtenDb none) := .create hrun
  obtain ⟨info, hread, hdata⟩ := h _ _ _ _ _ hw
  obtain ⟨info', hread', -, -, hdata'⟩ :=
    hw.stored.lives.infoContactByHandle utc hw.stored.row
  obtain ⟨rfl, -⟩ := EStateM.Result.ok.inj (hread.symm.trans hread')
  have hplace := congrArg ContactData.place (hdata.symm.trans hdata')
  cases hplace

end LibFred.RegistrableObject.Contact
