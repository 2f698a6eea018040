import LibFred.RegistrableObject.Keyset.KeyLists
import LibFred.RegistrableObject.RecordedUpdates

/-! What an update of a keyset changes, and what it names when it refuses. -/
namespace LibFred.RegistrableObject.Keyset

open Sql
open LibFred.Db
open LibFred.Object (UpdateObject)

theorem lawful_keysetContactMap : keysetContactMap.Lawful :=
  ⟨fun _ _ => rfl, fun _ => rfl, fun _ _ _ => rfl, fun _ _ _ => rfl, fun _ _ => rfl⟩

namespace UpdateKeyset

/-- The update of the object that the keyset is. -/
def updateObject (op : UpdateKeyset) : UpdateObject :=
  ⟨op.handle, .keyset, op.registrar, op.authinfo, op.logdRequestId⟩

/-- An update that was accepted: contacts and keys as the set laws say, and all the rest as it was. -/
structure Updates (op : UpdateKeyset) (keysetId historyId : Nat) (db db' : ObjectDatabase) : Prop where
  contacts : keysetContactMap.UpdatesContacts keysetId op.addTechContact op.remTechContact db db'
  keys : UpdatesKeys keysetId op.addDnsKey op.remDnsKey db db'
  recorded : Recorded op.updateObject keysetId historyId db.toDatabase db'.toDatabase
  rest : db' = { db with
    toDatabase := db'.toDatabase
    keysetContactMap := db'.keysetContactMap
    dnskey := db'.dnskey
    dnskeySeq := db'.dnskeySeq
    keysetHistory := db'.keysetHistory
    dsrecordHistory := db'.dsrecordHistory
    dnskeyHistory := db'.dnskeyHistory
    keysetContactMapHistory := db'.keysetContactMapHistory }

/-- The items that are wrong are named, and nothing else. -/
structure Names (op : UpdateKeyset) (keysetId : Nat) (db : ObjectDatabase) (e : KeysetException) :
    Prop where
  contacts : keysetContactMap.NamesContacts keysetId op.addTechContact op.remTechContact db
    ⟨e.unknownTechnicalContactHandle, e.alreadySetTechnicalContactHandle,
      e.unassignedTechnicalContactHandle⟩
  keys : NamesKeys keysetId op.addDnsKey op.remDnsKey db e.alreadySetDnsKey e.unassignedDnsKey
  rest : e = {
    unknownTechnicalContactHandle := e.unknownTechnicalContactHandle
    alreadySetTechnicalContactHandle := e.alreadySetTechnicalContactHandle
    unassignedTechnicalContactHandle := e.unassignedTechnicalContactHandle
    alreadySetDnsKey := e.alreadySetDnsKey
    unassignedDnsKey := e.unassignedDnsKey }

variable {settings : UpdateSettings} {op : UpdateKeyset} {keysetId historyId : Nat}
  {db db' s s' : ObjectDatabase} {u : Unit}

theorem copy_ok (h : (copyKeysetDataToKeysetHistory keysetId historyId).run s = .ok u s') :
    ∃ t₁ t₂ t₃ t₄, s' = { s with
      keysetHistory := t₁
      dsrecordHistory := t₂
      dnskeyHistory := t₃
      keysetContactMapHistory := t₄ } := by
  obtain ⟨_, _, h₁, h⟩ := run_bind_eq_ok.mp h
  obtain ⟨_, _, hraise, h⟩ := run_bind_eq_ok.mp h
  obtain ⟨_, _, h₂, h⟩ := run_bind_eq_ok.mp h
  obtain ⟨_, _, h₃, h⟩ := run_bind_eq_ok.mp h
  obtain ⟨_, _, h₄, h⟩ := run_bind_eq_ok.mp h
  obtain ⟨-, rfl⟩ := run_pure_eq_ok.mp h
  obtain ⟨t₁, rfl⟩ := copyToHistory_ok h₁
  obtain ⟨-, rfl⟩ := run_raiseIf_eq_ok.mp hraise
  obtain ⟨t₂, rfl⟩ := copyToHistory_ok h₂
  obtain ⟨t₃, rfl⟩ := copyToHistory_ok h₃
  obtain ⟨t₄, rfl⟩ := copyToHistory_ok h₄
  exact ⟨t₁, t₂, t₃, t₄, rfl⟩

theorem raisesDatabase_copy : RaisesDatabase (copyKeysetDataToKeysetHistory keysetId historyId) :=
  raisesDatabase_bind raisesDatabase_copyToHistory fun _ =>
    raisesDatabase_bind raisesDatabase_raiseIf fun _ =>
    raisesDatabase_bind raisesDatabase_copyToHistory fun _ =>
    raisesDatabase_bind raisesDatabase_copyToHistory fun _ =>
    raisesDatabase_bind raisesDatabase_copyToHistory fun _ => raisesDatabase_pure

/-- The set laws, of the contacts and keys as they are once the update is recorded. -/
theorem updates_of_ok (h : (op.exec settings).run db = .ok historyId db') :
    ∃ keysetId, objectIdOf db.toDatabase .keyset op.handle = some keysetId ∧
      op.Updates keysetId historyId db db' := by
  obtain ⟨_, t, hregistrar, h₁⟩ := run_bind_eq_ok.mp h
  obtain rfl := checkRegistrar_ok hregistrar
  obtain ⟨keysetId, t', hobject, h₂⟩ := run_bind_eq_ok.mp h₁
  obtain ⟨hid, rfl⟩ := getObjectId_ok hobject
  obtain ⟨updated, s₁, hupdated, h₃⟩ := run_bind_eq_ok.mp h₂
  obtain ⟨contacts, s₂, hcontacts, h₄⟩ := run_bind_eq_ok.mp h₃
  obtain ⟨unassigned, s₃, hrem, h₅⟩ := run_bind_eq_ok.mp h₄
  obtain ⟨alreadySet, s₄, hadd, h₆⟩ := run_bind_eq_ok.mp h₅
  obtain ⟨_, t, hraise, h₇⟩ := run_bind_eq_ok.mp h₆
  obtain ⟨hnone, rfl⟩ := run_raiseIf_eq_ok.mp hraise
  obtain ⟨_, s₅, hcopy, h₈⟩ := run_bind_eq_ok.mp h₇
  obtain ⟨rfl, rfl⟩ := run_pure_eq_ok.mp h₈
  have hnone := not_not.mp hnone
  simp only [KeysetException.mk.injEq] at hnone
  obtain ⟨hobject, hregistrar, -, hcontactsSet, -, -, -⟩ := hnone
  obtain ⟨keysetId', d, hid', -, hrecorded, rfl⟩ := updateObject_known hupdated hobject hregistrar
  obtain rfl : keysetId = keysetId' := Option.some.inj (hid.symm.trans hid')
  have hlists := (ContactMap.ends_updateContacts lawful_keysetContactMap _ _ _ _ _).ok hcontacts
  have hupdates := hlists.updates hcontactsSet
  have hremoved := (ends_remDnsKeys _ _ _).ok hrem
  obtain ⟨-, hkeys⟩ := hremoved.updates ((ends_addDnsKeys _ _ _).ok hadd)
  obtain ⟨links, os, rfl⟩ := hlists.state
  obtain ⟨t, n, rfl⟩ := hremoved.state
  obtain ⟨t', n', rfl⟩ := ((ends_addDnsKeys _ _ _).ok hadd).state
  obtain ⟨_, _, _, _, rfl⟩ := copy_ok hcopy
  refine ⟨keysetId, hid, hupdates.congr rfl (hrecorded.objectIdOf _) rfl, ?_, hrecorded.setStates os, ?_⟩
  · exact ⟨hkeys.keys, hkeys.others⟩
  · rfl

/-- An update that is not refused before it comes to its lists names all that is wrong with them,
and it does so whenever something is. -/
theorem raises_iff (hc : ObjectsConsistent db.toDatabase) (hk : KeysConsistent db)
    (hr : Recordable settings.authinfo op.updateObject db.toDatabase) :
    ∃ keysetId e, objectIdOf db.toDatabase .keyset op.handle = some keysetId ∧ op.Names keysetId db e ∧
      ∀ e', Raises (op.exec settings) db (.keyset e') ↔ e ≠ {} ∧ e' = e := by
  obtain ⟨keysetId, hid⟩ := Option.ne_none_iff_exists'.mp hr.object
  obtain ⟨historyId, d, hupdated⟩ := run_updateObject hc hr
  obtain ⟨keysetId', d', hid', -, hrecorded, hd⟩ := updateObject_known hupdated rfl rfl
  obtain rfl : keysetId = keysetId' := Option.some.inj (hid.symm.trans hid')
  obtain rfl : d = d' := congrArg ObjectDatabase.toDatabase hd
  obtain ⟨contacts, s₂, hcontacts, hlists⟩ := (ContactMap.ends_updateContacts lawful_keysetContactMap
    settings.procedures keysetId op.addTechContact op.remTechContact
    { db with toDatabase := d }).exists_ok fun _ h => h (hrecorded.uniqueNames hc.uniqueNames)
  obtain ⟨links, os, hs₂⟩ := hlists.state
  have hk₂ : KeysConsistent s₂ := by
    rw [hs₂]
    exact ⟨hk.key, hk.id⟩
  obtain ⟨unassigned, s₃, hrem, hremoved⟩ :=
    (ends_remDnsKeys keysetId op.remDnsKey s₂).exists_ok fun _ h => h hk₂
  obtain ⟨alreadySet, s₄, hadd, hadded⟩ :=
    (ends_addDnsKeys keysetId op.addDnsKey s₃).exists_ok fun _ h => h (hremoved.consistent hk₂)
  obtain ⟨hkeys, -⟩ := hremoved.updates hadded
  let e : KeysetException := {
    unknownTechnicalContactHandle := contacts.unknown
    alreadySetTechnicalContactHandle := contacts.alreadySet
    unassignedTechnicalContactHandle := contacts.unassigned
    alreadySetDnsKey := alreadySet
    unassignedDnsKey := unassigned }
  refine ⟨keysetId, e, hid, ⟨?_, ?_, rfl⟩, fun e' => ?_⟩
  · exact hlists.toNamesContacts.congr rfl (hrecorded.objectIdOf _)
  · rw [hs₂] at hkeys
    exact ⟨hkeys.alreadySet, hkeys.unassigned⟩
  · refine (raises_bind_of_ok (run_checkRegistrar hc hr.registrar)).trans ?_
    refine (raises_bind_of_ok (run_getObjectId hc hid)).trans ?_
    refine (raises_bind_of_ok hupdated).trans ?_
    refine (raises_bind_of_ok hcontacts).trans ?_
    refine (raises_bind_of_ok hrem).trans ?_
    refine (raises_bind_of_ok hadd).trans ?_
    have hrest : ¬ Raises (do
        copyKeysetDataToKeysetHistory keysetId historyId
        return historyId) s₄ (.keyset e') :=
      (raisesDatabase_bind raisesDatabase_copy fun _ => raisesDatabase_pure).not_raises nofun
    refine (raises_raiseIf_only hrest).trans (and_congr_right fun _ => ?_)
    exact ⟨fun he => (ObjectException.keyset.inj he).symm, fun he => congrArg _ he.symm⟩

end UpdateKeyset

end LibFred.RegistrableObject.Keyset
