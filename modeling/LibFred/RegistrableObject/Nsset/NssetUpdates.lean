import LibFred.RegistrableObject.Nsset.HostLists
import LibFred.RegistrableObject.RecordedUpdates

/-! What an update of an nsset changes, and what it names when it refuses. -/
namespace LibFred.RegistrableObject.Nsset

open Sql
open LibFred.Db
open LibFred.Object (UpdateObject)

theorem lawful_nssetContactMap : nssetContactMap.Lawful :=
  ⟨fun _ _ => rfl, fun _ => rfl, fun _ _ _ => rfl, fun _ _ _ => rfl, fun _ _ => rfl⟩

/-- A level that is not given is not set, and other nssets keep theirs. -/
structure KeepsChecklevel (nssetId : Nat) (techCheckLevel : Option Int) (n n' : Db.Nsset) : Prop where
  id : n'.id = n.id
  checklevel : techCheckLevel = none ∨ n.id ≠ nssetId → n'.checklevel = n.checklevel

variable {nssetId historyId : Nat} {db db' s s' : ObjectDatabase} {level : Option Int}

theorem updateChecklevel_ok {u : Unit} (h : (updateChecklevel nssetId level).run s = .ok u s') :
    ∃ t, s' = { s with nsset := t } ∧ List.Forall₂ (KeepsChecklevel nssetId level) s.nsset.rows t.rows := by
  have hrefl : List.Forall₂ (KeepsChecklevel nssetId level) s.nsset.rows s.nsset.rows :=
    List.forall₂_same.mpr fun n _ => ⟨rfl, fun _ => rfl⟩
  unfold updateChecklevel at h
  split at h
  · rename_i checklevel hlevel
    simp only [setChecklevel, EStateM.run] at h
    split at h <;> cases h
    refine ⟨_, rfl, Table.forall₂_update _ hrefl fun n _ n' hn hid => ⟨hn.id, fun hkeeps => ?_⟩⟩
    rcases hkeeps with hnone | hother
    · rw [hnone] at hlevel
      cases hlevel
    · exact absurd (hn.id.symm.trans hid) hother
  · obtain ⟨-, rfl⟩ := run_pure_eq_ok.mp h
    exact ⟨_, rfl, hrefl⟩

/-- A level is set for an nsset that exists. -/
theorem run_updateChecklevel (level : Option Int) (h : (s.nsset.lookup nssetId).isSome) :
    ∃ t, (updateChecklevel nssetId level).run s = .ok () { s with nsset := t } := by
  unfold updateChecklevel
  split
  · exact ⟨_, if_pos h⟩
  · exact ⟨_, rfl⟩

namespace UpdateNsset

/-- The update of the object that the nsset is. -/
def updateObject (op : UpdateNsset) : UpdateObject :=
  ⟨op.handle, .nsset, op.registrar, op.authinfo, op.logdRequestId⟩

/-- An update that was accepted: contacts and hosts as the set laws say, and all the rest as it was. -/
structure Updates (op : UpdateNsset) (nssetId historyId : Nat) (db db' : ObjectDatabase) : Prop where
  contacts : nssetContactMap.UpdatesContacts nssetId op.addTechContact op.remTechContact db db'
  hosts : UpdatesHosts nssetId op.addDns op.remDns db db'
  checklevel : List.Forall₂ (KeepsChecklevel nssetId op.techCheckLevel) db.nsset.rows db'.nsset.rows
  recorded : Recorded op.updateObject nssetId historyId db.toDatabase db'.toDatabase
  rest : db' = { db with
    toDatabase := db'.toDatabase
    nsset := db'.nsset
    nssetContactMap := db'.nssetContactMap
    host := db'.host
    hostSeq := db'.hostSeq
    hostIpaddrMap := db'.hostIpaddrMap
    hostIpaddrMapSeq := db'.hostIpaddrMapSeq
    nssetHistory := db'.nssetHistory
    hostHistory := db'.hostHistory
    hostIpaddrMapHistory := db'.hostIpaddrMapHistory
    nssetContactMapHistory := db'.nssetContactMapHistory }

/-- The items that are wrong are named, and nothing else. -/
structure Names (op : UpdateNsset) (nssetId : Nat) (db : ObjectDatabase) (e : NssetException) :
    Prop where
  contacts : nssetContactMap.NamesContacts nssetId op.addTechContact op.remTechContact db
    ⟨e.unknownTechnicalContactHandle, e.alreadySetTechnicalContactHandle,
      e.unassignedTechnicalContactHandle⟩
  hosts : NamesHosts nssetId op.addDns op.remDns db e.alreadySetDnsHost e.unassignedDnsHost
    e.invalidDnsHostIpaddr
  rest : e = {
    unknownTechnicalContactHandle := e.unknownTechnicalContactHandle
    alreadySetTechnicalContactHandle := e.alreadySetTechnicalContactHandle
    unassignedTechnicalContactHandle := e.unassignedTechnicalContactHandle
    alreadySetDnsHost := e.alreadySetDnsHost
    unassignedDnsHost := e.unassignedDnsHost
    invalidDnsHostIpaddr := e.invalidDnsHostIpaddr }

variable {settings : UpdateSettings} {op : UpdateNsset} {u : Unit}

theorem copy_ok (h : (copyNssetDataToNssetHistory nssetId historyId).run s = .ok u s') :
    ∃ t₁ t₂ t₃ t₄, s' = { s with
      nssetHistory := t₁
      hostHistory := t₂
      hostIpaddrMapHistory := t₃
      nssetContactMapHistory := t₄ } := by
  obtain ⟨_, _, h₁, h⟩ := run_bind_eq_ok.mp h
  obtain ⟨_, _, hraise, h⟩ := run_bind_eq_ok.mp h
  obtain ⟨_, _, h₂, h⟩ := run_bind_eq_ok.mp h
  obtain ⟨_, _, h₃, h⟩ := run_bind_eq_ok.mp h
  obtain ⟨_, _, h₄, h⟩ := run_bind_eq_ok.mp h
  obtain ⟨-, rfl⟩ := run_pure_eq_ok.mp h
  obtain ⟨t₁, rfl⟩ := copyToHistory_ok h₁
  obtain ⟨-, rfl⟩ := run_raiseIf_eq_ok.mp hraise
  obtain ⟨t₂, rfl⟩ := copyToHistory_ok h₂
  obtain ⟨t₃, rfl⟩ := copyToHistory_ok h₃
  obtain ⟨t₄, rfl⟩ := copyToHistory_ok h₄
  exact ⟨t₁, t₂, t₃, t₄, rfl⟩

theorem raisesDatabase_copy : RaisesDatabase (copyNssetDataToNssetHistory nssetId historyId) :=
  raisesDatabase_bind raisesDatabase_copyToHistory fun _ =>
    raisesDatabase_bind raisesDatabase_raiseIf fun _ =>
    raisesDatabase_bind raisesDatabase_copyToHistory fun _ =>
    raisesDatabase_bind raisesDatabase_copyToHistory fun _ =>
    raisesDatabase_bind raisesDatabase_copyToHistory fun _ => raisesDatabase_pure

/-- The set laws, of the contacts and hosts as they are once the update is recorded. -/
theorem updates_of_ok (hc : HostsConsistent db) (h : (op.exec settings).run db = .ok historyId db') :
    ∃ nssetId, objectIdOf db.toDatabase .nsset op.handle = some nssetId ∧
      op.Updates nssetId historyId db db' := by
  obtain ⟨_, t, hregistrar, h₁⟩ := run_bind_eq_ok.mp h
  obtain rfl := checkRegistrar_ok hregistrar
  obtain ⟨nssetId, t', hobject, h₂⟩ := run_bind_eq_ok.mp h₁
  obtain ⟨hid, rfl⟩ := getObjectId_ok hobject
  obtain ⟨updated, s₁, hupdated, h₃⟩ := run_bind_eq_ok.mp h₂
  obtain ⟨_, s₂, hlevel, h₄⟩ := run_bind_eq_ok.mp h₃
  obtain ⟨contacts, s₃, hcontacts, h₅⟩ := run_bind_eq_ok.mp h₄
  obtain ⟨unassigned, s₄, hrem, h₆⟩ := run_bind_eq_ok.mp h₅
  obtain ⟨hosts, s₅, hadd, h₇⟩ := run_bind_eq_ok.mp h₆
  obtain ⟨_, t, hraise, h₈⟩ := run_bind_eq_ok.mp h₇
  obtain ⟨hnone, rfl⟩ := run_raiseIf_eq_ok.mp hraise
  obtain ⟨_, s₆, hcopy, h₉⟩ := run_bind_eq_ok.mp h₈
  obtain ⟨rfl, rfl⟩ := run_pure_eq_ok.mp h₉
  have hnone := not_not.mp hnone
  simp only [NssetException.mk.injEq] at hnone
  obtain ⟨hobject, hregistrar, -, hcontactsSet, -, hhostsSet, -, hinvalid⟩ := hnone
  obtain ⟨nssetId', d, hid', -, hrecorded, rfl⟩ := updateObject_known hupdated hobject hregistrar
  obtain rfl : nssetId = nssetId' := Option.some.inj (hid.symm.trans hid')
  obtain ⟨nssets, rfl, hchecklevel⟩ := updateChecklevel_ok hlevel
  have hlists := (ContactMap.ends_updateContacts lawful_nssetContactMap _ _ _ _ _).ok hcontacts
  have hupdates := hlists.updates hcontactsSet
  obtain ⟨links, os, hs₃⟩ := hlists.state
  have hc₃ : HostsConsistent s₃ := by
    rw [hs₃]
    exact ⟨hc.name, hc.lowerName, hc.id, hc.owned, hc.ipaddrId⟩
  have hremoved := (ends_remDnsHosts hc₃ _ _).ok hrem
  have hadded := (ends_addDnsHosts hremoved.consistent _ _).ok hadd
  have hhosts := hremoved.updates hadded hhostsSet hinvalid
  obtain rfl := hs₃
  obtain ⟨_, _, _, _, rfl⟩ := hremoved.state
  obtain ⟨_, _, _, _, rfl⟩ := hadded.state
  obtain ⟨_, _, _, _, rfl⟩ := copy_ok hcopy
  refine ⟨nssetId, hid, hupdates.congr rfl (hrecorded.objectIdOf _) rfl, ?_, hchecklevel,
    hrecorded.setStates os, rfl⟩
  exact ⟨hhosts.hosts, hhosts.others⟩

/-- An update that is not refused before it comes to its lists names all that is wrong with them,
and it does so whenever something is. -/
theorem raises_iff (hc : ObjectsConsistent db.toDatabase) (hh : HostsConsistent db)
    (hnsset : ∀ o ∈ db.objectRegistry, o.type = .nsset → o.erdate = none →
      (db.nsset.lookup o.id).isSome)
    (hr : Recordable settings.authinfo op.updateObject db.toDatabase) :
    ∃ nssetId e, objectIdOf db.toDatabase .nsset op.handle = some nssetId ∧ op.Names nssetId db e ∧
      ∀ e', Raises (op.exec settings) db (.nsset e') ↔ e ≠ {} ∧ e' = e := by
  obtain ⟨nssetId, hid⟩ := Option.ne_none_iff_exists'.mp hr.object
  obtain ⟨historyId, d, hupdated⟩ := run_updateObject hc hr
  obtain ⟨nssetId', d', hid', -, hrecorded, hd⟩ := updateObject_known hupdated rfl rfl
  obtain rfl : nssetId = nssetId' := Option.some.inj (hid.symm.trans hid')
  obtain rfl : d = d' := congrArg ObjectDatabase.toDatabase hd
  have hrow : (db.nsset.lookup nssetId).isSome := by
    obtain ⟨o, ho, rfl, htype, hlive⟩ := exists_liveObject hid
    exact hnsset o ho htype hlive
  obtain ⟨nssets, hlevel⟩ := run_updateChecklevel (s := { db with toDatabase := d })
    op.techCheckLevel hrow
  obtain ⟨contacts, s₃, hcontacts, hlists⟩ := (ContactMap.ends_updateContacts lawful_nssetContactMap
    settings.procedures nssetId op.addTechContact op.remTechContact
    { db with toDatabase := d, nsset := nssets }).exists_ok
    fun _ h => h (hrecorded.uniqueNames hc.uniqueNames)
  obtain ⟨links, os, hs₃⟩ := hlists.state
  have hh₃ : HostsConsistent s₃ := by
    rw [hs₃]
    exact ⟨hh.name, hh.lowerName, hh.id, hh.owned, hh.ipaddrId⟩
  obtain ⟨unassigned, s₄, hrem, hremoved⟩ :=
    (ends_remDnsHosts hh₃ nssetId op.remDns).exists_ok fun _ h => h
  obtain ⟨hosts, s₅, hadd, hadded⟩ :=
    (ends_addDnsHosts hremoved.consistent nssetId op.addDns).exists_ok fun _ h => h
  have hnames := hremoved.namesHosts hadded
  let e : NssetException := {
    unknownTechnicalContactHandle := contacts.unknown
    alreadySetTechnicalContactHandle := contacts.alreadySet
    unassignedTechnicalContactHandle := contacts.unassigned
    alreadySetDnsHost := hosts.alreadySet
    unassignedDnsHost := unassigned
    invalidDnsHostIpaddr := hosts.invalidIpaddr }
  refine ⟨nssetId, e, hid, ⟨?_, ?_, rfl⟩, fun e' => ?_⟩
  · exact hlists.toNamesContacts.congr rfl (hrecorded.objectIdOf _)
  · rw [hs₃] at hnames
    exact ⟨hnames.allInvalid, hnames.invalidIpaddr, hnames.alreadySet, hnames.unassigned⟩
  · refine (raises_bind_of_ok (run_checkRegistrar hc hr.registrar)).trans ?_
    refine (raises_bind_of_ok (run_getObjectId hc hid)).trans ?_
    refine (raises_bind_of_ok hupdated).trans ?_
    refine (raises_bind_of_ok hlevel).trans ?_
    refine (raises_bind_of_ok hcontacts).trans ?_
    refine (raises_bind_of_ok hrem).trans ?_
    refine (raises_bind_of_ok hadd).trans ?_
    have hrest : ¬ Raises (do
        copyNssetDataToNssetHistory nssetId historyId
        return historyId) s₅ (.nsset e') :=
      (raisesDatabase_bind raisesDatabase_copy fun _ => raisesDatabase_pure).not_raises nofun
    refine (raises_raiseIf_only hrest).trans (and_congr_right fun _ => ?_)
    exact ⟨fun he => (ObjectException.nsset.inj he).symm, fun he => congrArg _ he.symm⟩

end UpdateNsset

end LibFred.RegistrableObject.Nsset
