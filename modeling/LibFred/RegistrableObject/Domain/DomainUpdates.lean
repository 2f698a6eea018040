import LibFred.RegistrableObject.Contact.MergeChecks
import LibFred.RegistrableObject.RecordedUpdates

/-! What an update of a domain changes, and what it names when it refuses. -/
namespace LibFred.RegistrableObject.Domain

open Sql
open LibFred.Db
open LibFred.Object (UpdateObject liveObjects)
open LibFred.RegistrableObject.Contact (readOnly_getDomain readOnly_resolveOptional
  readOnly_resolveRegistrant)

theorem lawful_domainContactMap : domainContactMap.Lawful :=
  ⟨fun _ _ => rfl, fun _ => rfl, fun _ _ _ => rfl, fun _ _ _ => rfl, fun _ _ => rfl⟩

namespace UpdateDomain

/-- Columns that are not given are not set, and other domains keep theirs. -/
structure KeepsColumns (op : UpdateDomain) (domainId : Nat) (d d' : Db.Domain) : Prop where
  id : d'.id = d.id
  zone : d'.zone = d.zone
  registrant : op.registrant = none ∨ d.id ≠ domainId → d'.registrant = d.registrant
  nsset : op.nsset = none ∨ d.id ≠ domainId → d'.nsset = d.nsset
  exdate : op.expirationDate = none ∨ d.id ≠ domainId → d'.exdate = d.exdate
  keyset : op.keyset = none ∨ d.id ≠ domainId → d'.keyset = d.keyset

structure KeepsEnumval (op : UpdateDomain) (domainId : Nat) (ev ev' : Enumval) : Prop where
  domainid : ev'.domainid = ev.domainid
  exdate : op.enumValidationExpiration = none ∨ ev.domainid ≠ domainId → ev'.exdate = ev.exdate
  publish : op.enumPublishFlag = none ∨ ev.domainid ≠ domainId → ev'.publish = ev.publish

/-- The update of the object that the domain is. -/
def updateObject (op : UpdateDomain) : UpdateObject :=
  ⟨remTrailingDot op.fqdn, .domain, op.registrar, op.authinfo, op.logdRequestId⟩

/-- An update that was accepted: contacts as the set law says, and all the rest as it was. -/
structure Updates (op : UpdateDomain) (domainId historyId : Nat) (db db' : ObjectDatabase) : Prop where
  contacts : domainContactMap.UpdatesContacts domainId op.addAdminContact op.remAdminContact db db'
  columns : List.Forall₂ (op.KeepsColumns domainId) db.domain.rows db'.domain.rows
  enumval : List.Forall₂ (op.KeepsEnumval domainId) db.enumval.rows db'.enumval.rows
  recorded : Recorded op.updateObject domainId historyId db.toDatabase db'.toDatabase
  rest : db' = { db with
    toDatabase := db'.toDatabase
    domain := db'.domain
    domainContactMap := db'.domainContactMap
    enumval := db'.enumval
    domainHistory := db'.domainHistory
    domainContactMapHistory := db'.domainContactMapHistory
    enumvalHistory := db'.enumvalHistory }

/-- The contacts that are wrong are named, and a validation that does not expire on a day, and
nothing else. -/
structure Names (op : UpdateDomain) (domainId : Nat) (db : ObjectDatabase) (e : DomainException) :
    Prop where
  contacts : domainContactMap.NamesContacts domainId op.addAdminContact op.remAdminContact db
    ⟨e.unknownAdminContactHandle, e.alreadySetAdminContactHandle, e.unassignedAdminContactHandle⟩
  rest : e = {
    unknownAdminContactHandle := e.unknownAdminContactHandle
    alreadySetAdminContactHandle := e.alreadySetAdminContactHandle
    unassignedAdminContactHandle := e.unassignedAdminContactHandle
    invalidEnumValidationExpirationDate := op.enumValidationExpiration.filter (·.day? = none) }

/-- Nothing refuses the update before it comes to its lists: parameters of ENUM domains are given for
such only, and the columns to be set are given values that are known. -/
structure Settable (op : UpdateDomain) (domainId : Nat) (db : ObjectDatabase) : Prop where
  found : ∃ enumZone, op.selectDomain db = [(domainId, enumZone)] ∧
    (enumZone = false → op.enumValidationExpiration = none ∧ op.enumPublishFlag = none)
  registrant : ∀ handle, op.registrant = some handle → objectIdOf db.toDatabase .contact handle ≠ none
  nsset : ∀ handle, op.nsset = some (some handle) → objectIdOf db.toDatabase .nsset handle ≠ none
  keyset : ∀ handle, op.keyset = some (some handle) → objectIdOf db.toDatabase .keyset handle ≠ none
  expirationDate : ∀ date, op.expirationDate = some date → date.day? ≠ none

variable {settings : UpdateSettings} {op : UpdateDomain} {domainId historyId : Nat}
  {db db' s s' : ObjectDatabase} {u : Unit} {e : DomainException}

theorem getDomain_ok {found : Nat × Bool} (h : op.getDomain.run s = .ok found s') :
    s' = s ∧ op.selectDomain s = [found] := by
  obtain ⟨_, _, hget, h⟩ := run_bind_eq_ok.mp h
  obtain ⟨rfl, rfl⟩ := run_get_eq_ok.mp hget
  split at h
  · cases h
  · rename_i found' hselect
    obtain ⟨rfl, rfl⟩ := run_pure_eq_ok.mp h
    exact ⟨rfl, hselect⟩
  · cases h

theorem run_getDomain {found : Nat × Bool} (h : op.selectDomain s = [found]) :
    op.getDomain.run s = .ok found s := by
  refine run_bind_eq_ok.mpr ⟨s, s, rfl, ?_⟩
  rw [h]
  rfl

/-- The domain that is found is the object under its name. -/
theorem exists_liveObject_of_selectDomain {found : Nat × Bool} (h : found ∈ op.selectDomain s) :
    (s.domain.lookup found.1).isSome ∧
      ∃ o ∈ liveObjects s.toDatabase .domain (remTrailingDot op.fqdn), o.id = found.1 := by
  obtain ⟨d, hd, hfound⟩ := List.mem_filterMap.mp h
  split at hfound
  · rename_i z oreg hz horeg
    split at hfound <;> cases hfound
    rename_i hlive
    obtain ⟨hmem, hkey⟩ := Table.lookup_eq_some.mp horeg
    refine ⟨?_, oreg, Table.mem_select.mpr ⟨hmem, hlive⟩, rfl⟩
    exact Option.isSome_of_eq_some (Table.lookup_eq_some.mpr ⟨hd, hkey.symm⟩)
  · cases hfound

theorem resolveOptional_ok {type : Db.ObjectType} {given : Option (Option String)}
    {r : Option (Option Nat) × Option String} (h : (resolveOptional type given).run s = .ok r s') :
    s' = s ∧ (given = none → r.1 = none) := by
  refine ⟨(readOnly_resolveOptional.ok h).symm, ?_⟩
  rintro rfl
  obtain ⟨rfl, -⟩ := run_pure_eq_ok.mp h
  rfl

theorem resolveRegistrant_ok {r : Option Nat × Option String}
    (h : op.resolveRegistrant.run s = .ok r s') : s' = s ∧ (op.registrant = none → r.1 = none) := by
  refine ⟨(readOnly_resolveRegistrant.ok h).symm, fun hnone => ?_⟩
  rw [resolveRegistrant, hnone] at h
  obtain ⟨rfl, -⟩ := run_pure_eq_ok.mp h
  rfl

theorem keepsColumns_set {columns : DomainColumns} {d d₀ : Db.Domain} (h : op.KeepsColumns domainId d₀ d)
    (hid : d.id = domainId) (hregistrant : op.registrant = none → columns.registrant = none)
    (hnsset : op.nsset = none → columns.nsset = none)
    (hexdate : op.expirationDate = none → columns.exdate = none)
    (hkeyset : op.keyset = none → columns.keyset = none) :
    op.KeepsColumns domainId d₀ (columns.set d) := by
  have hother : ¬ d₀.id ≠ domainId := not_not.mpr (h.id.symm.trans hid)
  refine ⟨h.id, h.zone, fun hk => ?_, fun hk => ?_, fun hk => ?_, fun hk => ?_⟩
  · rw [DomainColumns.set, hregistrant (hk.resolve_right hother), Option.getD_none, h.registrant hk]
  · rw [DomainColumns.set, hnsset (hk.resolve_right hother), Option.getD_none, h.nsset hk]
  · rw [DomainColumns.set, hexdate (hk.resolve_right hother), Option.getD_none, h.exdate hk]
  · rw [DomainColumns.set, hkeyset (hk.resolve_right hother), Option.getD_none, h.keyset hk]

theorem updateColumns_ok (h : (op.updateColumns settings domainId e).run s = .ok u s') :
    ∃ t os, s' = { s with domain := t, objectState := os } ∧
      List.Forall₂ (op.KeepsColumns domainId) s.domain.rows t.rows := by
  have hrefl : List.Forall₂ (op.KeepsColumns domainId) s.domain.rows s.domain.rows :=
    List.forall₂_same.mpr fun d _ =>
      ⟨rfl, rfl, fun _ => rfl, fun _ => rfl, fun _ => rfl, fun _ => rfl⟩
  unfold updateColumns at h
  split at h
  · obtain ⟨nsset, t₁, h₁, h⟩ := run_bind_eq_ok.mp h
    obtain ⟨hs₁, hnsset⟩ := resolveOptional_ok h₁
    obtain ⟨keyset, t₂, h₂, h⟩ := run_bind_eq_ok.mp h
    obtain ⟨hs₂, hkeyset⟩ := resolveOptional_ok h₂
    obtain ⟨registrant, t₃, h₃, h⟩ := run_bind_eq_ok.mp h
    obtain ⟨hs₃, hregistrant⟩ := resolveRegistrant_ok h₃
    obtain ⟨_, t₄, h₄, hwrite⟩ := run_bind_eq_ok.mp h
    obtain ⟨-, hs₄⟩ := run_raiseIf_eq_ok.mp h₄
    obtain rfl : t₄ = s := hs₄.symm.trans (hs₃.trans (hs₂.trans hs₁))
    simp only [DomainColumns.write, EStateM.run] at hwrite
    split at hwrite <;> cases hwrite
    refine ⟨_, _, rfl, ?_⟩
    refine Table.forall₂_update (DomainColumns.key_set _) hrefl fun d₀ _ d hd hid => ?_
    refine keepsColumns_set hd hid hregistrant hnsset (fun hnone => ?_) hkeyset
    rw [hnone]
    rfl
  · obtain ⟨-, rfl⟩ := run_pure_eq_ok.mp h
    exact ⟨_, _, rfl, hrefl⟩

theorem updateEnumval_ok (h : (op.updateEnumval settings domainId).run s = .ok u s') :
    ∃ t os, s' = { s with enumval := t, objectState := os } ∧
      List.Forall₂ (op.KeepsEnumval domainId) s.enumval.rows t.rows := by
  have hrefl : List.Forall₂ (op.KeepsEnumval domainId) s.enumval.rows s.enumval.rows :=
    List.forall₂_same.mpr fun ev _ => ⟨rfl, fun _ => rfl, fun _ => rfl⟩
  unfold updateEnumval at h
  split at h
  · simp only [setEnumval, EStateM.run] at h
    split at h <;> cases h
    have hkey (ev : Enumval) : Keyed.key { ev with
        exdate := (op.enumValidationExpiration.bind (·.day?)).getD ev.exdate
        publish := op.enumPublishFlag.getD ev.publish } = Keyed.key ev := rfl
    refine ⟨_, _, rfl, ?_⟩
    refine Table.forall₂_update hkey hrefl fun ev₀ _ ev hev hid => ?_
    have hother : ¬ ev₀.domainid ≠ domainId := not_not.mpr (hev.domainid.symm.trans hid)
    refine ⟨hev.domainid, fun hk => ?_, fun hk => ?_⟩
    · rw [hk.resolve_right hother, ← hev.exdate hk]
      rfl
    · rw [hk.resolve_right hother, ← hev.publish hk]
      rfl
  · obtain ⟨-, rfl⟩ := run_pure_eq_ok.mp h
    exact ⟨_, _, rfl, hrefl⟩

theorem copy_ok (h : (copyDomainDataToDomainHistory domainId historyId).run s = .ok u s') :
    ∃ t₁ t₂ t₃, s' = { s with
      domainHistory := t₁
      domainContactMapHistory := t₂
      enumvalHistory := t₃ } := by
  obtain ⟨_, _, h₁, h⟩ := run_bind_eq_ok.mp h
  obtain ⟨_, _, hraise, h⟩ := run_bind_eq_ok.mp h
  obtain ⟨_, _, h₂, h⟩ := run_bind_eq_ok.mp h
  obtain ⟨_, _, h₃, h⟩ := run_bind_eq_ok.mp h
  obtain ⟨-, rfl⟩ := run_pure_eq_ok.mp h
  obtain ⟨t₁, rfl⟩ := copyToHistory_ok h₁
  obtain ⟨-, rfl⟩ := run_raiseIf_eq_ok.mp hraise
  obtain ⟨t₂, rfl⟩ := copyToHistory_ok h₂
  obtain ⟨t₃, rfl⟩ := copyToHistory_ok h₃
  exact ⟨t₁, t₂, t₃, rfl⟩

/-- The set law, of the contacts as they are once the update is recorded. -/
theorem updates_of_ok (h : (op.exec settings).run db = .ok historyId db') :
    ∃ found, op.selectDomain db = [found] ∧ op.Updates found.1 historyId db db' := by
  obtain ⟨_, t, hregistrar, h₁⟩ := run_bind_eq_ok.mp h
  obtain rfl := checkRegistrar_ok hregistrar
  obtain ⟨found, t', hdomain, h₂⟩ := run_bind_eq_ok.mp h₁
  obtain ⟨rfl, hfound⟩ := getDomain_ok hdomain
  obtain ⟨_, t, hraise, h₃⟩ := run_bind_eq_ok.mp h₂
  obtain ⟨-, rfl⟩ := run_raiseIf_eq_ok.mp hraise
  obtain ⟨_, t, hraise, h₄⟩ := run_bind_eq_ok.mp h₃
  obtain ⟨-, rfl⟩ := run_raiseIf_eq_ok.mp hraise
  obtain ⟨updated, s₁, hupdated, h₅⟩ := run_bind_eq_ok.mp h₄
  obtain ⟨_, s₂, hcolumns, h₆⟩ := run_bind_eq_ok.mp h₅
  obtain ⟨contacts, s₃, hcontacts, h₇⟩ := run_bind_eq_ok.mp h₆
  obtain ⟨_, t', hraise, h₈⟩ := run_bind_eq_ok.mp h₇
  obtain ⟨hnone, rfl⟩ := run_raiseIf_eq_ok.mp hraise
  obtain ⟨_, s₄, henumval, h₉⟩ := run_bind_eq_ok.mp h₈
  obtain ⟨_, s₅, hcopy, h₁₀⟩ := run_bind_eq_ok.mp h₉
  obtain ⟨rfl, rfl⟩ := run_pure_eq_ok.mp h₁₀
  have hnone := not_not.mp hnone
  simp only [exceptionOf, DomainException.mk.injEq] at hnone
  obtain ⟨hobject, hregistrar, -, -, -, -, hcontactsSet, -⟩ := hnone
  obtain ⟨domainId, d, -, hlive, hrecorded, rfl⟩ := updateObject_known hupdated hobject hregistrar
  obtain rfl : found.1 = domainId := by
    obtain ⟨-, o, ho, hid⟩ := exists_liveObject_of_selectDomain (hfound ▸ List.mem_singleton_self found)
    exact hid.symm.trans (hlive o ho)
  obtain ⟨domains, os, rfl, hdomains⟩ := updateColumns_ok hcolumns
  have hlists := (ContactMap.ends_updateContacts lawful_domainContactMap _ _ _ _ _).ok hcontacts
  have hupdates := hlists.updates hcontactsSet
  obtain ⟨links, os', rfl⟩ := hlists.state
  obtain ⟨enumvals, os'', rfl, henumvals⟩ := updateEnumval_ok henumval
  obtain ⟨_, _, _, rfl⟩ := copy_ok hcopy
  exact ⟨found, hfound, hupdates.congr rfl (hrecorded.objectIdOf _) rfl, hdomains, henumvals,
    hrecorded.setStates os'', rfl⟩

theorem run_resolveHandle {type : Db.ObjectType} {handle : String} (hu : UniqueNames s.toDatabase)
    (h : objectIdOf s.toDatabase type handle ≠ none) :
    ∃ id, (resolveHandle type handle).run s = .ok (id, none) s := by
  obtain ⟨id, hid⟩ := Option.ne_none_iff_exists'.mp h
  refine ⟨id, ?_⟩
  rw [resolveHandle, run_bind_of_ok (run_lift_getObjectId hu), hid]
  rfl

theorem run_resolveOptional {type : Db.ObjectType} {given : Option (Option String)}
    (hu : UniqueNames s.toDatabase)
    (h : ∀ handle, given = some (some handle) → objectIdOf s.toDatabase type handle ≠ none) :
    ∃ value, (resolveOptional type given).run s = .ok (value, none) s := by
  rcases given with _ | _ | handle
  · exact ⟨_, rfl⟩
  · exact ⟨_, rfl⟩
  · obtain ⟨id, hid⟩ := run_resolveHandle hu (h handle rfl)
    exact ⟨some (some id), run_bind_of_ok hid⟩

theorem run_resolveRegistrant (hu : UniqueNames s.toDatabase)
    (h : ∀ handle, op.registrant = some handle → objectIdOf s.toDatabase .contact handle ≠ none) :
    ∃ value, op.resolveRegistrant.run s = .ok (value, none) s := by
  unfold resolveRegistrant
  split
  · exact ⟨_, rfl⟩
  · rename_i handle hgiven
    obtain ⟨id, hid⟩ := run_resolveHandle hu (h handle hgiven)
    exact ⟨some id, run_bind_of_ok hid⟩

/-- Columns are set to values that are known. -/
theorem run_updateColumns (hu : UniqueNames s.toDatabase) (hd : (s.domain.lookup domainId).isSome)
    (hregistrant : ∀ handle, op.registrant = some handle →
      objectIdOf s.toDatabase .contact handle ≠ none)
    (hnsset : ∀ handle, op.nsset = some (some handle) → objectIdOf s.toDatabase .nsset handle ≠ none)
    (hkeyset : ∀ handle, op.keyset = some (some handle) →
      objectIdOf s.toDatabase .keyset handle ≠ none)
    (hdate : ∀ date, op.expirationDate = some date → date.day? ≠ none) :
    ∃ s', (op.updateColumns settings domainId {}).run s = .ok () s' := by
  unfold updateColumns
  split
  · obtain ⟨nsset, hnsset⟩ := run_resolveOptional hu hnsset
    obtain ⟨keyset, hkeyset⟩ := run_resolveOptional hu hkeyset
    obtain ⟨registrant, hregistrant⟩ := run_resolveRegistrant hu hregistrant
    have hinvalid : op.expirationDate.filter (·.day? = none) = none := by
      refine Option.filter_eq_none_iff.mpr fun date hgiven => ?_
      simpa using hdate date hgiven
    obtain ⟨s', hwrite⟩ : ∃ s', (DomainColumns.write settings.procedures
        ⟨nsset, keyset, registrant, op.expirationDate.bind (·.day?)⟩ domainId).run s = .ok () s' :=
      ⟨_, if_pos hd⟩
    have hnone : ¬ (⟨none, none, none, none, none, [], [], [],
        op.expirationDate.filter (·.day? = none), none⟩ : DomainException) ≠ {} := by
      rw [hinvalid]
      exact not_not.mpr rfl
    refine ⟨s', (run_bind_of_ok hnsset).trans ((run_bind_of_ok hkeyset).trans
      ((run_bind_of_ok hregistrant).trans ?_))⟩
    exact (run_bind_of_ok (run_raiseIf_of_neg hnone)).trans hwrite
  · exact ⟨s, rfl⟩

theorem raisesDatabase_updateEnumval : RaisesDatabase (op.updateEnumval settings domainId) := by
  unfold updateEnumval
  split
  · intro s
    by_cases hd : (s.enumval.lookup domainId).isSome
    · have hrun : (op.setEnumval settings domainId).run s = .ok () _ := if_pos hd
      exact ends_of_run hrun trivial
    · have hrun : (op.setEnumval settings domainId).run s = .error _ s := if_neg hd
      exact ends_of_error hrun ⟨_, rfl⟩
  · exact raisesDatabase_pure

theorem raisesDatabase_copy : RaisesDatabase (copyDomainDataToDomainHistory domainId historyId) :=
  raisesDatabase_bind raisesDatabase_copyToHistory fun _ =>
    raisesDatabase_bind raisesDatabase_raiseIf fun _ =>
    raisesDatabase_bind raisesDatabase_copyToHistory fun _ =>
    raisesDatabase_bind raisesDatabase_copyToHistory fun _ => raisesDatabase_pure

/-- An update that is not refused before it comes to its lists names all that is wrong with them,
and it does so whenever something is. -/
theorem raises_iff (hc : ObjectsConsistent db.toDatabase) (hs : op.Settable domainId db)
    (hr : Recordable settings.authinfo op.updateObject db.toDatabase) :
    ∃ e, op.Names domainId db e ∧
      ∀ e', Raises (op.exec settings) db (.domain e') ↔ e ≠ {} ∧ e' = e := by
  obtain ⟨enumZone, hfound, henum⟩ := hs.found
  obtain ⟨hdomain, o, ho, hid⟩ := exists_liveObject_of_selectDomain
    (hfound ▸ List.mem_singleton_self (domainId, enumZone))
  obtain ⟨historyId, d, hupdated⟩ := run_updateObject hc hr
  obtain ⟨domainId', d', -, hlive, hrecorded, hd⟩ := updateObject_known hupdated rfl rfl
  obtain rfl : domainId = domainId' := hid.symm.trans (hlive o ho)
  obtain rfl : d = d' := congrArg ObjectDatabase.toDatabase hd
  have hu : UniqueNames d := hrecorded.uniqueNames hc.uniqueNames
  obtain ⟨s₂, hcolumns⟩ : ∃ s', (op.updateColumns settings domainId {}).run
      { db with toDatabase := d } = .ok () s' := by
    refine run_updateColumns hu hdomain ?_ ?_ ?_ hs.expirationDate
    · rw [hrecorded.objectIdOf]
      exact hs.registrant
    · rw [hrecorded.objectIdOf]
      exact hs.nsset
    · rw [hrecorded.objectIdOf]
      exact hs.keyset
  obtain ⟨domains, os, hs₂, -⟩ := updateColumns_ok hcolumns
  have hu₂ : UniqueNames s₂.toDatabase := by
    rw [hs₂]
    exact hu
  obtain ⟨contacts, s₃, hcontacts, hlists⟩ := (ContactMap.ends_updateContacts lawful_domainContactMap
    settings.procedures domainId op.addAdminContact op.remAdminContact s₂).exists_ok fun _ h => h hu₂
  let e : DomainException := {
    unknownAdminContactHandle := contacts.unknown
    alreadySetAdminContactHandle := contacts.alreadySet
    unassignedAdminContactHandle := contacts.unassigned
    invalidEnumValidationExpirationDate := op.enumValidationExpiration.filter (·.day? = none) }
  refine ⟨e, ⟨?_, rfl⟩, fun e' => ?_⟩
  · rw [hs₂] at hlists
    exact hlists.toNamesContacts.congr rfl (hrecorded.objectIdOf _)
  · refine (raises_bind_of_ok (run_checkRegistrar hc hr.registrar)).trans ?_
    refine (raises_bind_of_ok (run_getDomain hfound)).trans ?_
    refine (raises_bind_of_ok (run_raiseIf_of_neg ?_)).trans ?_
    · rintro ⟨hnot, hgiven⟩
      rw [(henum hnot).1] at hgiven
      cases hgiven
    refine (raises_bind_of_ok (run_raiseIf_of_neg ?_)).trans ?_
    · rintro ⟨hnot, hgiven⟩
      rw [(henum hnot).2] at hgiven
      cases hgiven
    refine (raises_bind_of_ok hupdated).trans ?_
    refine (raises_bind_of_ok hcolumns).trans ?_
    refine (raises_bind_of_ok hcontacts).trans ?_
    have hrest : ¬ Raises (do
        op.updateEnumval settings domainId
        copyDomainDataToDomainHistory domainId historyId
        return historyId) s₃ (.domain e') :=
      (raisesDatabase_bind raisesDatabase_updateEnumval fun _ =>
        raisesDatabase_bind raisesDatabase_copy fun _ => raisesDatabase_pure).not_raises nofun
    refine (raises_raiseIf_only hrest).trans (and_congr_right fun _ => ?_)
    exact ⟨fun he => (ObjectException.domain.inj he).symm, fun he => congrArg _ he.symm⟩

end UpdateDomain

end LibFred.RegistrableObject.Domain
