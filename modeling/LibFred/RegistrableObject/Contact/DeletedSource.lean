import LibFred.RegistrableObject.Contact.ContactUpdates
import LibFred.RegistrableObject.Contact.ReplacedContacts

/-! The end of a merge: the source contact is deleted and the destination contact stays. -/
namespace LibFred.RegistrableObject.Contact

open Sql
open LibFred.Db
open LibFred.Object (AuthinfoSettings KeepsObjects keepsObjects_refl)

variable {handle : String} {s s' : ObjectDatabase} {d d' : Database} {id historyId : Nat}

/-- The contact had a row and has none, and its object is registered as deleted. -/
structure Deleted (id : Nat) (d d' : Database) : Prop where
  row : (d.contact.lookup id).isSome
  contact : d'.contact = d.contact.delete (·.id = id)
  registry : d'.objectRegistry =
    d.objectRegistry.update (·.id = id) fun o => { o with erdate := some d.now }

theorem deleteContactByHandle_ok {u : Unit} (h : (deleteContactByHandle handle).run s = .ok u s') :
    ∃ id d, objectIdOf s.toDatabase .contact handle = some id ∧ Deleted id s.toDatabase d ∧
      s' = { s with toDatabase := d } := by
  obtain ⟨id, t, hobject, h₁⟩ := run_bind_eq_ok.mp h
  obtain ⟨hid, rfl⟩ := getObjectId_ok hobject
  obtain ⟨_, _, hget, h₂⟩ := run_bind_eq_ok.mp h₁
  obtain ⟨rfl, rfl⟩ := run_get_eq_ok.mp hget
  obtain ⟨_, t', hraise, h₃⟩ := run_bind_eq_ok.mp h₂
  obtain ⟨-, rfl⟩ := run_raiseIf_eq_ok.mp hraise
  obtain ⟨_, s₁, hcontact, h₄⟩ := run_bind_eq_ok.mp h₃
  obtain ⟨d₁, hd₁, rfl⟩ := run_lift_eq_ok.mp hcontact
  simp only [deleteContactImpl, EStateM.run] at hd₁
  split at hd₁ <;> cases hd₁
  rename_i hrow
  obtain ⟨objectId, s₂, hobject', h₅⟩ := run_bind_eq_ok.mp h₄
  obtain ⟨hid', rfl⟩ := getObjectId_ok hobject'
  obtain rfl : id = objectId := Option.some.inj (hid.symm.trans hid')
  obtain ⟨d₂, hd₂, rfl⟩ := run_lift_eq_ok.mp h₅
  obtain ⟨_, _, herdate, hdelete⟩ := run_bind_eq_ok.mp hd₂
  simp only [setErdate, EStateM.run] at herdate
  split at herdate <;> cases herdate
  simp only [deleteObjectRow, EStateM.run] at hdelete
  split at hdelete <;> cases hdelete
  exact ⟨id, _, hid, ⟨hrow, rfl, rfl⟩, rfl⟩

theorem Deleted.lookup_self (h : Deleted id d d') : d'.contact.lookup id = none := by
  rw [h.contact, Table.lookup_eq_none]
  intro c hc
  exact (Table.mem_delete.mp hc).2

theorem Deleted.lookup_registry (h : Deleted id d d') (id' : Nat) :
    d'.objectRegistry.lookup id' = (d.objectRegistry.lookup id').map
      fun o => if o.id = id then { o with erdate := some d.now } else o := by
  rw [h.registry, Table.lookup_update]

/-- The objects that are left are those from before but for the contact. -/
theorem Deleted.lookup_live (h : Deleted id d d') {o : Db.ObjectRegistry} (hlive : o.erdate = none)
    {id' : Nat} : d'.objectRegistry.lookup id' = some o ↔
      d.objectRegistry.lookup id' = some o ∧ id' ≠ id := by
  rw [h.lookup_registry]
  constructor
  · intro ho
    obtain ⟨o', ho', heq⟩ := Option.map_eq_some_iff.mp ho
    obtain ⟨-, rfl⟩ := Table.lookup_eq_some.mp ho'
    split at heq
    · rw [← heq] at hlive
      cases hlive
    · rename_i hne
      exact ⟨heq ▸ ho', hne⟩
  · rintro ⟨ho, hne⟩
    obtain ⟨-, rfl⟩ := Table.lookup_eq_some.mp ho
    rw [ho, Option.map_some]
    exact congrArg some (if_neg hne)

theorem Deleted.uniqueNames (h : Deleted id d d') (hu : UniqueNames d) : UniqueNames d' := by
  have hold {o : Db.ObjectRegistry} (ho : o ∈ d'.objectRegistry) (hlive : o.erdate = none) :
      o ∈ d.objectRegistry :=
    (Table.lookup_eq_some.mp ((h.lookup_live hlive).mp (Table.lookup_eq_some.mpr ⟨ho, rfl⟩)).1).1
  intro a ha b hb htype hname hlive hlive'
  exact hu a (hold ha hlive) b (hold hb hlive') htype hname hlive hlive'

theorem Deleted.objectIdOf_eq_some (h : Deleted id d d') (hu : UniqueNames d) {type : Db.ObjectType}
    {id' : Nat} : objectIdOf d' type handle = some id' ↔
      objectIdOf d type handle = some id' ∧ id' ≠ id := by
  rw [Contact.objectIdOf_eq_some (h.uniqueNames hu), Contact.objectIdOf_eq_some hu]
  constructor
  · rintro ⟨o, ho, htype, hname, hlive⟩
    obtain ⟨ho, hne⟩ := (h.lookup_live hlive).mp ho
    exact ⟨⟨o, ho, htype, hname, hlive⟩, hne⟩
  · rintro ⟨⟨o, ho, htype, hname, hlive⟩, hne⟩
    exact ⟨o, (h.lookup_live hlive).mpr ⟨ho, hne⟩, htype, hname, hlive⟩

/-- An update of a contact that changes nothing but its authinfo keeps all contacts. -/
theorem updateContactByHandle_keeps {settings : AuthinfoSettings} {op : UpdateContact}
    (hnone : op.changesContact = false)
    (h : (updateContactByHandle settings handle op).run d = .ok historyId d') :
    KeepsObjects d d' ∧ d'.contact = d.contact := by
  obtain ⟨contact, d₁, hselect, h₁⟩ := run_bind_eq_ok.mp h
  have hread : d = d₁ := by
    refine (moves_tryCatch (R := (· = ·)) (readOnly_bind LibFred.Object.readOnly_infoContactByHandle
      fun _ => readOnly_pure).moves fun e => ?_).ok hselect
    split
    · exact readOnly_pure.moves
    · exact readOnly_throw.moves
  subst hread
  cases contact with
  | none =>
    obtain ⟨updated, d₂, hrun, h₂⟩ := run_bind_eq_ok.mp h₁
    obtain ⟨_, d₃, hraise, h₃⟩ := run_bind_eq_ok.mp h₂
    obtain ⟨hnothing, rfl⟩ := run_raiseIf_eq_ok.mp hraise
    -- A contact that was not found is reported, whatever the update of the contact 0 has done.
    refine absurd (not_not.mp hnothing) ?_
    rcases run_tryCatch_eq_ok.mp hrun with hrun | ⟨e, d₄, -, hcollect⟩
    · obtain ⟨_, _, -, hpure⟩ := run_bind_eq_ok.mp hrun
      obtain ⟨rfl, -⟩ := run_pure_eq_ok.mp hpure
      exact fun he => Option.some_ne_none _ (congrArg ContactException.unknownContactHandle he)
    · split at hcollect
      · exact UpdateContact.collect_ne_nothing (.inl (Option.some_ne_none _)) hcollect
      · cases hcollect
  | some info =>
    have hexec := UpdateContact.execSelected_ok (.inl (Option.some_ne_none _)) h₁
    obtain ⟨d₂, d₃, t, hobject, hcolumns, rfl, -⟩ := UpdateContact.exec_statements hexec
    refine ⟨(UpdateContact.exec_ok hexec).objects, ?_⟩
    rw [UpdateContact.updateColumns, hnone] at hcolumns
    obtain ⟨-, rfl⟩ := run_pure_eq_ok.mp hcolumns
    exact (LibFred.Object.updateObject_ok hobject).contact

end LibFred.RegistrableObject.Contact
