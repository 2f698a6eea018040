import LibFred.Object.ObjectCreation
import LibFred.RegistrableObject.Contact.ContactUpdates

/-! What the creation of a contact does. -/
namespace LibFred.RegistrableObject.Contact

open Sql
open LibFred.Db (Database ContactException Timestamp)
open LibFred.Object (CreateObject CreateObjectProcedure CreatedObject mem_liveObjects)

variable {db db' : Database} {id objectId historyId : Nat} {row : Db.Contact}
  {procedure : CreateObjectProcedure} {localTime : Timestamp → Ptime} {op : CreateContact}
  {result : CreateContactResult}

theorem insertContact_ok (h : (insertContact row).run db = .ok () db') :
    ∃ t, db' = { db with contact := t } ∧
      ∀ id, t.lookup id = if row.id = id then some row else db.contact.lookup id := by
  simp only [insertContact, EStateM.run] at h
  split at h
  · rename_i t ht
    obtain ⟨-, rfl⟩ := EStateM.Result.ok.inj h
    exact ⟨t, rfl, fun id => Table.lookup_of_insert? ht⟩
  · cases h

namespace CreateContact

/-- A creation of the object that reports nothing was done. -/
theorem createObject_ok
    (h : (op.createObject procedure).run db = .ok ((objectId, historyId), none) db') :
    CreatedObject ⟨.contact, op.handle, op.registrar, op.logdRequestId⟩ objectId db db' := by
  rcases run_tryCatch_eq_ok.mp h with h | ⟨e, db₁, -, h⟩
  · obtain ⟨created, _, hexec, hpure⟩ := run_bind_eq_ok.mp h
    obtain ⟨he, rfl⟩ := run_pure_eq_ok.mp hpure
    obtain ⟨rfl, -⟩ := Prod.mk.inj he
    exact CreateObject.exec_ok hexec
  · cases e <;> cases h

theorem writeAddresses_ok (h : (op.writeAddresses objectId).run db = .ok () db') :
    ∃ t, db' = { db with contactAddress := t } ∧ ∀ id type, t.lookup (id, type) =
      (db.contactAddress.lookup (id, type)).or
        (if id = objectId then (op.addresses.bind (· type)).map (addressRowOf objectId type)
        else none) := by
  unfold writeAddresses at h
  split at h
  · rename_i hnone
    obtain ⟨-, rfl⟩ := run_pure_eq_ok.mp h
    refine ⟨db.contactAddress, rfl, fun id type => ?_⟩
    simp [hnone]
  · rename_i addresses hsome
    obtain ⟨_, _, hraise, h⟩ := run_bind_eq_ok.mp h
    obtain ⟨-, rfl⟩ := run_raiseIf_eq_ok.mp hraise
    obtain ⟨t, rfl, hlookup⟩ := insertAddresses_ok h
    refine ⟨t, rfl, fun id type => ?_⟩
    rw [hlookup id type, hsome, Option.bind_some]

theorem creationTime_ok {creationTime : Ptime}
    (h : (CreateContact.creationTime localTime objectId).run db = .ok creationTime db') :
    db' = db := by
  obtain ⟨_, _, hget, h⟩ := run_bind_eq_ok.mp h
  obtain ⟨rfl, rfl⟩ := run_get_eq_ok.mp hget
  split at h
  · obtain ⟨-, rfl⟩ := run_pure_eq_ok.mp h
    rfl
  · cases h

/-- The row that is inserted, with what these tables know of its country and identification. -/
def rowBy (op : CreateContact) (db : Database) (id : Nat) : Db.Contact :=
  op.row id ((op.place.map (·.country)).bind (codeOf db.enumCountry))
    (op.ssntype.bind (typeIdOf db.enumSsntype))

/-- The contact was created under its handle, and what it names was known. -/
structure Creates (op : CreateContact) (id : Nat) (db db' : Database) : Prop where
  object : ∃ db₁, CreatedObject ⟨.contact, op.handle, op.registrar, op.logdRequestId⟩ id db db₁ ∧
    db' = { db₁ with contact := db'.contact, contactAddress := db'.contactAddress }
  row : db'.contact.lookup id = some (op.rowBy db id)
  addresses : addressesOf db' id = op.addresses.getD fun _ => none
  otherRows : ∀ id' ≠ id, db'.contact.lookup id' = db.contact.lookup id'
  otherAddresses : ∀ id' ≠ id, ∀ type,
    db'.contactAddress.lookup (id', type) = db.contactAddress.lookup (id', type)
  country : ∀ p ∈ op.place, (codeOf db.enumCountry p.country).isSome
  ssntype : ∀ text ∈ op.ssntype, (typeIdOf db.enumSsntype text).isSome

theorem addressesOf_created {t : Table Db.ContactAddress}
    (hnone : ∀ ca ∈ db.contactAddress, ca.contactid ≠ id)
    (hlookup : ∀ id' type, t.lookup (id', type) = (db.contactAddress.lookup (id', type)).or
      (if id' = id then (op.addresses.bind (· type)).map (addressRowOf id type) else none))
    (hdb' : db'.contactAddress = t) :
    addressesOf db' id = op.addresses.getD fun _ => none := by
  funext type
  have hold : db.contactAddress.lookup (id, type) = none := by
    refine Table.lookup_eq_none.mpr fun ca hca hkey => ?_
    exact hnone ca hca (congrArg Prod.fst hkey)
  rw [addressesOf, hdb', hlookup id type, hold, Option.none_or, if_pos rfl, Option.map_map]
  cases op.addresses with
  | none => rfl
  | some addresses =>
    change (addresses type).map (addressOf ∘ addressRowOf id type) = addresses type
    cases addresses type <;> rfl

theorem exec_ok (h : (op.exec procedure localTime).run db = .ok result db') :
    Creates op result.objectId db db' := by
  obtain ⟨created, db₁, hobject, h⟩ := run_bind_eq_ok.mp h
  obtain ⟨country, db₂, hcountry, h⟩ := run_bind_eq_ok.mp h
  obtain ⟨ssntype, db₃, hssntype, h⟩ := run_bind_eq_ok.mp h
  obtain ⟨_, db₄, hraise, h⟩ := run_bind_eq_ok.mp h
  obtain ⟨hnothing, rfl⟩ := run_raiseIf_eq_ok.mp hraise
  obtain ⟨_, db₅, hinsert, h⟩ := run_bind_eq_ok.mp h
  obtain ⟨_, db₆, haddresses, h⟩ := run_bind_eq_ok.mp h
  obtain ⟨creationTime, db₇, htime, h⟩ := run_bind_eq_ok.mp h
  obtain ⟨_, db₈, hhistory, h⟩ := run_bind_eq_ok.mp h
  obtain ⟨rfl, rfl⟩ := run_pure_eq_ok.mp h
  obtain ⟨⟨objectId, historyId⟩, invalidHandle⟩ := created
  obtain ⟨country, unknownCountry⟩ := country
  obtain ⟨ssntype, unknownSsntype⟩ := ssntype
  rw [not_not] at hnothing
  obtain rfl : invalidHandle = none := congrArg ContactException.invalidContactHandle hnothing
  obtain rfl : unknownCountry = none := congrArg ContactException.unknownCountry hnothing
  obtain rfl : unknownSsntype = none := congrArg ContactException.unknownSsntype hnothing
  have hcreated := createObject_ok hobject
  obtain ⟨rfl, rfl, hcodes⟩ := resolve_ok getCountryCode_ok hcountry
  obtain ⟨rfl, rfl, htypes⟩ := resolve_ok getSsntypeId_ok hssntype
  obtain ⟨t, rfl, hrows⟩ := insertContact_ok hinsert
  obtain ⟨t', rfl, hlookup⟩ := writeAddresses_ok haddresses
  obtain rfl := creationTime_ok htime
  obtain ⟨_, _, hget, hhistory⟩ := run_bind_eq_ok.mp hhistory
  obtain ⟨rfl, rfl⟩ := run_get_eq_ok.mp hget
  obtain ⟨-, rfl⟩ := run_raiseIf_eq_ok.mp hhistory
  simp only [hcreated.contactAddress] at hlookup
  rw [hcreated.enumCountry, hcreated.enumSsntype] at hrows
  rw [hcreated.enumCountry] at hcodes
  rw [hcreated.enumSsntype] at htypes
  exact {
    object := ⟨_, hcreated, rfl⟩
    row := (hrows objectId).trans (if_pos rfl)
    addresses := addressesOf_created hcreated.noAddress hlookup rfl
    otherRows := fun id' hid => by
      rw [← hcreated.contact]
      exact (hrows id').trans (if_neg (Ne.symm hid))
    otherAddresses := fun id' hid type => by
      rw [hlookup id' type, if_neg hid, Option.or_none]
    country := fun p hp => hcodes _ (Option.mem_map_of_mem _ hp)
    ssntype := htypes }

/-- The contact that was created lives under its handle, and no other one does. -/
theorem Creates.lives (h : Creates op id db db') : Lives db' id (upper op.handle) := by
  obtain ⟨db₁, hcreated, heq⟩ := h.object
  obtain ⟨o, ho, hname, htype, herdate, hversion, hcrr⟩ := hcreated.row
  obtain ⟨obj, hobj, hclr⟩ := hcreated.sponsored
  rw [heq]
  refine ⟨⟨o, ho, ⟨hname, htype, herdate⟩, hversion, hcreated.registrar ▸ hcrr⟩, ?_,
    ⟨obj, hobj, hcreated.registrar ▸ hclr⟩⟩
  intro o' ho' hlive
  by_contra hid
  have hlookup : db.objectRegistry.lookup o'.id = some o' :=
    (hcreated.others o'.id hid).symm.trans (Table.lookup_eq_some.mpr ⟨ho', rfl⟩)
  have hmem : o' ∈ Object.liveObjects db .contact op.handle :=
    mem_liveObjects.mpr ⟨(Table.lookup_eq_some.mp hlookup).1, hlive.2.1, hlive.1, hlive.2.2⟩
  rw [hcreated.free] at hmem
  cases hmem

end CreateContact

end LibFred.RegistrableObject.Contact
