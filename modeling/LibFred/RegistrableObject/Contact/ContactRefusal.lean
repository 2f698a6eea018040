import LibFred.RegistrableObject.Domain.DomainUpdates
import LibFred.RegistrableObject.Keyset.KeysetUpdates
import LibFred.RegistrableObject.LinkTakeOver
import LibFred.RegistrableObject.Nsset.NssetUpdates

/-! Why updates refuse contacts that are to be added. -/
namespace LibFred.RegistrableObject.Contact

open Sql
open LibFred.Db
open LibFred.RegistrableObject.Domain
open LibFred.RegistrableObject.Nsset
open LibFred.RegistrableObject.Keyset

/-- The contacts that are refused because they are linked already. -/
def alreadySetContacts : ObjectException → List String
  | .domain e => e.alreadySetAdminContactHandle
  | .nsset e => e.alreadySetTechnicalContactHandle
  | .keyset e => e.alreadySetTechnicalContactHandle
  | _ => []

/-- Statements that refuse no contact so. -/
abbrev Spares {α : Type} (x : ObjectExec α) : Prop := RaisesOnly (alreadySetContacts · = []) x

variable {settings : UpdateSettings} {handle handle' : String} {s s' : ObjectDatabase} {dst : Nat}
  {e : ObjectException} {unknown : String → ObjectException}

theorem spares_of_raisesDatabase {α : Type} {x : ObjectExec α} (hx : RaisesDatabase x) : Spares x :=
  RaisesOnly.mono hx fun _ ⟨_, h⟩ => h ▸ rfl

theorem spares_lift {α : Type} {x : Exec α} : Spares (lift x) := by
  intro s
  unfold Ends
  cases h : (lift x).run s with
  | ok a s' => trivial
  | error e s' =>
    obtain ⟨_, _, -, rfl, -⟩ := run_lift_eq_error.mp h
    rfl

theorem spares_checkRegistrar (hunknown : ∀ handle, alreadySetContacts (unknown handle) = []) :
    Spares (checkRegistrar unknown handle) := by
  refine raisesOnly_tryCatch (raisesOnly_bind spares_lift fun _ => raisesOnly_pure) fun e he => ?_
  split
  · exact raisesOnly_throw (hunknown _)
  · exact raisesOnly_throw he

theorem spares_getObjectId {type : Db.ObjectType}
    (hunknown : ∀ handle, alreadySetContacts (unknown handle) = []) :
    Spares (getObjectId unknown handle type) := by
  refine raisesOnly_bind spares_lift fun id => ?_
  split
  · exact raisesOnly_pure
  · exact raisesOnly_throw (hunknown _)

theorem spares_updateObject {op : LibFred.Object.UpdateObject} :
    Spares (updateObject settings.authinfo op) := by
  refine raisesOnly_tryCatch (raisesOnly_bind spares_lift fun _ => raisesOnly_pure) fun e he => ?_
  split
  · exact raisesOnly_pure
  · exact raisesOnly_pure
  · exact raisesOnly_throw he

section ContactMap

variable {ρ : Type} [Keyed ρ (Nat × Nat)] {map : ContactMap ρ} {procedures : StateProcedures}
  {objectId : Nat}

theorem spares_insertContact {contactId : Nat} :
    Spares (map.insertContact procedures objectId contactId) := by
  intro s
  by_cases hlinked : contactId ∈ map.linked objectId s
  · exact ends_of_run (ContactMap.run_insertContact_of_linked hlinked) trivial
  · obtain ⟨t, hrun, -⟩ := ContactMap.run_insertContact procedures hlinked
    exact ends_of_run hrun trivial

theorem spares_addContact {found : ContactErrors} :
    Spares (map.addContact procedures objectId found handle) := by
  refine raisesOnly_bind spares_lift fun id => ?_
  split
  · exact raisesOnly_pure
  · refine raisesOnly_bind spares_insertContact fun inserted => ?_
    split <;> exact raisesOnly_pure

theorem spares_remContact {found : ContactErrors} :
    Spares (map.remContact procedures objectId found handle) := by
  refine raisesOnly_bind spares_lift fun id => ?_
  split
  · exact raisesOnly_pure
  · refine raisesOnly_bind (fun s => trivial) fun deleted => raisesOnly_bind (raisesOnly_raiseIf rfl) fun _ => ?_
    split <;> exact raisesOnly_pure

theorem spares_updateContacts {add rem : List String} :
    Spares (map.updateContacts procedures objectId add rem) :=
  raisesOnly_bind (raisesOnly_foldlM fun _ _ => spares_addContact) fun _ =>
    raisesOnly_foldlM fun _ _ => spares_remContact

end ContactMap

section Columns

variable {op : UpdateDomain} {domainId : Nat}

theorem spares_getDomain : Spares op.getDomain := by
  refine raisesOnly_bind raisesOnly_get fun db => ?_
  split
  · exact raisesOnly_throw rfl
  · exact raisesOnly_pure
  · exact raisesOnly_throw rfl

theorem spares_resolveHandle {type : Db.ObjectType} : Spares (resolveHandle type handle) := by
  refine raisesOnly_bind spares_lift fun id => ?_
  split <;> exact raisesOnly_pure

theorem spares_resolveOptional {type : Db.ObjectType} {given : Option (Option String)} :
    Spares (resolveOptional type given) := by
  unfold resolveOptional
  split
  · exact raisesOnly_pure
  · exact raisesOnly_pure
  · exact raisesOnly_bind spares_resolveHandle fun _ => raisesOnly_pure

theorem spares_resolveRegistrant : Spares op.resolveRegistrant := by
  unfold UpdateDomain.resolveRegistrant
  split
  · exact raisesOnly_pure
  · exact raisesOnly_bind spares_resolveHandle fun _ => raisesOnly_pure

theorem spares_write {procedures : StateProcedures} {columns : DomainColumns} :
    Spares (columns.write procedures domainId) := by
  intro s
  by_cases hd : (s.domain.lookup domainId).isSome
  · have hrun : (columns.write procedures domainId).run s = .ok () _ := if_pos hd
    exact ends_of_run hrun trivial
  · have hrun : (columns.write procedures domainId).run s = .error _ s := if_neg hd
    exact ends_of_error hrun rfl

theorem spares_updateColumns {e : DomainException} (he : e.alreadySetAdminContactHandle = []) :
    Spares (op.updateColumns settings domainId e) := by
  unfold UpdateDomain.updateColumns
  split
  · exact raisesOnly_bind spares_resolveOptional fun _ => raisesOnly_bind spares_resolveOptional fun _ =>
      raisesOnly_bind spares_resolveRegistrant fun _ => raisesOnly_bind (raisesOnly_raiseIf he) fun _ =>
      spares_write
  · exact raisesOnly_pure

end Columns

section Names

open LibFred.Object (KeepsObjects nameOf liveObjects)

variable {d d' : Database} {type : Db.ObjectType} {id : Nat}

theorem objectIdOf_eq_some (hu : UniqueNames d) : objectIdOf d type handle = some id ↔
    ∃ o ∈ d.objectRegistry.lookup id, o.type = type ∧ o.name = nameOf type handle ∧
      o.erdate = none := by
  constructor
  · intro h
    obtain ⟨o, ho, rfl⟩ := Option.map_eq_some_iff.mp h
    obtain ⟨hmem, hlive⟩ := Table.mem_select.mp (List.mem_of_mem_head? ho)
    exact ⟨o, Table.lookup_eq_some.mpr ⟨hmem, rfl⟩, hlive⟩
  · rintro ⟨o, ho, hlive⟩
    obtain ⟨hrow, rfl⟩ := Table.lookup_eq_some.mp ho
    have hmem : o ∈ liveObjects d type handle := Table.mem_select.mpr ⟨hrow, hlive⟩
    rcases hu.liveObjects type handle with hnil | ⟨o', hone⟩
    · rw [hnil] at hmem
      cases hmem
    · rw [hone, List.mem_singleton] at hmem
      rw [objectIdOf, hone, hmem]
      rfl

theorem uniqueNames_of_keepsObjects (h : KeepsObjects d d') (hu : UniqueNames d) : UniqueNames d' := by
  intro a ha b hb htype hname hlive hlive'
  obtain ⟨a₀, ha₀, heq⟩ := h.mem_registry ha
  obtain ⟨b₀, hb₀, heq'⟩ := h.mem_registry hb
  have hid : a₀.id = a.id := (congrArg Db.ObjectRegistry.id heq :)
  have hid' : b₀.id = b.id := (congrArg Db.ObjectRegistry.id heq' :)
  have hsame : a₀ = b₀ := hu a₀ ha₀ b₀ hb₀
    ((congrArg Db.ObjectRegistry.type heq :).trans
      (htype.trans (congrArg Db.ObjectRegistry.type heq' :).symm))
    ((congrArg Db.ObjectRegistry.name heq :).trans
      (hname.trans (congrArg Db.ObjectRegistry.name heq' :).symm))
    ((congrArg Db.ObjectRegistry.erdate heq :).trans hlive)
    ((congrArg Db.ObjectRegistry.erdate heq' :).trans hlive')
  exact Table.eq_of_key_eq ha hb (hid.symm.trans ((congrArg Db.ObjectRegistry.id hsame).trans hid'))

theorem objectIdOf_of_keepsObjects (type : Db.ObjectType) (h : KeepsObjects d d')
    (hu : UniqueNames d) :
    objectIdOf d' type = objectIdOf d type := by
  funext handle
  refine Option.ext fun id => ?_
  rw [objectIdOf_eq_some (uniqueNames_of_keepsObjects h hu), objectIdOf_eq_some hu]
  exact exists_registry_congr h fun _ => Iff.rfl

end Names

section Refused

/-- Tables of links are told by the links in them. -/
theorem table_eq_of_rows {ρ κ : Type} [Keyed ρ κ] {t t' : Table ρ} {row : ρ → Nat × Nat × Nat}
    (hrow : Function.Injective row) (h : t'.rows.map row = t.rows.map row) : t' = t :=
  Table.ext (hrow.list_map h)

theorem KeepsLinks.domainContactMap {links : List Link} (h : KeepsLinks links s s')
    (hl : Link.admin ∈ links) : s'.domainContactMap = s.domainContactMap := by
  refine table_eq_of_rows (fun m m' heq => ?_) (h.rows .admin hl)
  cases m
  cases m'
  simpa using heq

theorem KeepsLinks.nssetContactMap {links : List Link} (h : KeepsLinks links s s')
    (hl : Link.nssetTech ∈ links) : s'.nssetContactMap = s.nssetContactMap := by
  refine table_eq_of_rows (fun m m' heq => ?_) (h.rows .nssetTech hl)
  cases m
  cases m'
  simpa using heq

theorem KeepsLinks.keysetContactMap {links : List Link} (h : KeepsLinks links s s')
    (hl : Link.keysetTech ∈ links) : s'.keysetContactMap = s.keysetContactMap := by
  refine table_eq_of_rows (fun m m' heq => ?_) (h.rows .keysetTech hl)
  cases m
  cases m'
  simpa using heq

/-- An administrator that is to be added is refused when it is linked to the domain in any role. -/
theorem linked_of_refusedAdmin {op : UpdateDomain} (hu : UniqueNames s.toDatabase)
    (hadd : op.addAdminContact = [handle]) (h : (op.exec settings).run s = .error e s')
    (hrefused : (alreadySetContacts e).head? = some handle')
    (hid : objectIdOf s.toDatabase .contact handle = some dst) :
    ∃ found, op.selectDomain s = [found] ∧
      dst ∈ Domain.domainContactMap.linked found.1 s := by
  have hnot : alreadySetContacts e ≠ [] := by
    intro hnil
    rw [hnil] at hrefused
    cases hrefused
  rcases run_bind_eq_error.mp h with he | ⟨_, t, hregistrar, h₁⟩
  · exact absurd ((spares_checkRegistrar fun _ => rfl).error he) hnot
  obtain rfl := checkRegistrar_ok hregistrar
  rcases run_bind_eq_error.mp h₁ with he | ⟨found, t', hdomain, h₂⟩
  · exact absurd (spares_getDomain.error he) hnot
  obtain ⟨rfl, hfound⟩ := UpdateDomain.getDomain_ok hdomain
  rcases run_bind_eq_error.mp h₂ with he | ⟨_, t, hraise, h₃⟩
  · exact absurd ((raisesOnly_raiseIf rfl : Spares _).error he) hnot
  obtain ⟨-, rfl⟩ := run_raiseIf_eq_ok.mp hraise
  rcases run_bind_eq_error.mp h₃ with he | ⟨_, t, hraise, h₄⟩
  · exact absurd ((raisesOnly_raiseIf rfl : Spares _).error he) hnot
  obtain ⟨-, rfl⟩ := run_raiseIf_eq_ok.mp hraise
  rcases run_bind_eq_error.mp h₄ with he | ⟨updated, s₁, hupdated, h₅⟩
  · exact absurd (spares_updateObject.error he) hnot
  rcases run_bind_eq_error.mp h₅ with he | ⟨_, s₂, hcolumns, h₆⟩
  · exact absurd ((spares_updateColumns rfl).error he) hnot
  rcases run_bind_eq_error.mp h₆ with he | ⟨contacts, s₃, hcontacts, h₇⟩
  · exact absurd (spares_updateContacts.error he) hnot
  rcases run_bind_eq_error.mp h₇ with he | ⟨_, _, -, h₈⟩
  · obtain ⟨-, rfl, -⟩ := run_raiseIf_eq_error.mp he
    have hkeeps := trans_of (KeepsLinks [.admin]) (moves_updateObject.ok hupdated)
      ((moves_updateColumns (by decide)).ok hcolumns)
    have hlists := (ContactMap.ends_updateContacts lawful_domainContactMap _ _ _ _ _).ok hcontacts
    rw [hadd] at hlists
    refine ⟨found, hfound, (hlists.toNamesContacts.congr ?_ ?_).mem_linked hrefused hid⟩
    · exact hkeeps.domainContactMap List.mem_cons_self
    · exact objectIdOf_of_keepsObjects _ hkeeps.books.toKeepsObjects hu
  · rcases run_bind_eq_error.mp h₈ with he | ⟨_, _, -, h₉⟩
    · exact absurd ((spares_of_raisesDatabase UpdateDomain.raisesDatabase_updateEnumval).error he) hnot
    rcases run_bind_eq_error.mp h₉ with he | ⟨_, _, -, h₁₀⟩
    · exact absurd ((spares_of_raisesDatabase UpdateDomain.raisesDatabase_copy).error he) hnot
    cases h₁₀

theorem spares_updateChecklevel {nssetId : Nat} {level : Option Int} :
    Spares (updateChecklevel nssetId level) := by
  unfold updateChecklevel
  split
  · rename_i checklevel _
    intro s
    by_cases hn : (s.nsset.lookup nssetId).isSome
    · have hrun : (setChecklevel nssetId checklevel).run s = .ok () _ := if_pos hn
      exact ends_of_run hrun trivial
    · have hrun : (setChecklevel nssetId checklevel).run s = .error _ s := if_neg hn
      exact ends_of_error hrun rfl
  · exact raisesOnly_pure

/-- The same of a technical contact of an nsset, as long as hosts are not updated with it. -/
theorem linked_of_refusedNssetTech {op : UpdateNsset} (hu : UniqueNames s.toDatabase)
    (hadd : op.addTechContact = [handle]) (hadds : op.addDns = []) (hrems : op.remDns = [])
    (h : (op.exec settings).run s = .error e s')
    (hrefused : (alreadySetContacts e).head? = some handle')
    (hid : objectIdOf s.toDatabase .contact handle = some dst) :
    ∃ nssetId, objectIdOf s.toDatabase .nsset op.handle = some nssetId ∧
      dst ∈ Nsset.nssetContactMap.linked nssetId s := by
  have hnot : alreadySetContacts e ≠ [] := by
    intro hnil
    rw [hnil] at hrefused
    cases hrefused
  rcases run_bind_eq_error.mp h with he | ⟨_, t, hregistrar, h₁⟩
  · exact absurd ((spares_checkRegistrar fun _ => rfl).error he) hnot
  obtain rfl := checkRegistrar_ok hregistrar
  rcases run_bind_eq_error.mp h₁ with he | ⟨nssetId, t', hobject, h₂⟩
  · exact absurd ((spares_getObjectId fun _ => rfl).error he) hnot
  obtain ⟨hfound, rfl⟩ := getObjectId_ok hobject
  rcases run_bind_eq_error.mp h₂ with he | ⟨updated, s₁, hupdated, h₃⟩
  · exact absurd (spares_updateObject.error he) hnot
  rcases run_bind_eq_error.mp h₃ with he | ⟨_, s₂, hlevel, h₄⟩
  · exact absurd (spares_updateChecklevel.error he) hnot
  rcases run_bind_eq_error.mp h₄ with he | ⟨contacts, s₃, hcontacts, h₅⟩
  · exact absurd (spares_updateContacts.error he) hnot
  simp only [hrems, hadds, List.foldlM_nil, pure_bind] at h₅
  rcases run_bind_eq_error.mp h₅ with he | ⟨_, _, -, h₆⟩
  · obtain ⟨-, rfl, -⟩ := run_raiseIf_eq_error.mp he
    have hkeeps := trans_of (KeepsLinks [.nssetTech]) (moves_updateObject.ok hupdated)
      (moves_updateChecklevel.ok hlevel)
    have hlists := (ContactMap.ends_updateContacts lawful_nssetContactMap _ _ _ _ _).ok hcontacts
    rw [hadd] at hlists
    refine ⟨nssetId, hfound, (hlists.toNamesContacts.congr ?_ ?_).mem_linked hrefused hid⟩
    · exact hkeeps.nssetContactMap List.mem_cons_self
    · exact objectIdOf_of_keepsObjects _ hkeeps.books.toKeepsObjects hu
  · rcases run_bind_eq_error.mp h₆ with he | ⟨_, _, -, h₇⟩
    · exact absurd ((spares_of_raisesDatabase UpdateNsset.raisesDatabase_copy).error he) hnot
    cases h₇

/-- The same of a technical contact of a keyset, as long as keys are not updated with it. -/
theorem linked_of_refusedKeysetTech {op : UpdateKeyset} (hu : UniqueNames s.toDatabase)
    (hadd : op.addTechContact = [handle]) (hadds : op.addDnsKey = []) (hrems : op.remDnsKey = [])
    (h : (op.exec settings).run s = .error e s')
    (hrefused : (alreadySetContacts e).head? = some handle')
    (hid : objectIdOf s.toDatabase .contact handle = some dst) :
    ∃ keysetId, objectIdOf s.toDatabase .keyset op.handle = some keysetId ∧
      dst ∈ Keyset.keysetContactMap.linked keysetId s := by
  have hnot : alreadySetContacts e ≠ [] := by
    intro hnil
    rw [hnil] at hrefused
    cases hrefused
  rcases run_bind_eq_error.mp h with he | ⟨_, t, hregistrar, h₁⟩
  · exact absurd ((spares_checkRegistrar fun _ => rfl).error he) hnot
  obtain rfl := checkRegistrar_ok hregistrar
  rcases run_bind_eq_error.mp h₁ with he | ⟨keysetId, t', hobject, h₂⟩
  · exact absurd ((spares_getObjectId fun _ => rfl).error he) hnot
  obtain ⟨hfound, rfl⟩ := getObjectId_ok hobject
  rcases run_bind_eq_error.mp h₂ with he | ⟨updated, s₁, hupdated, h₃⟩
  · exact absurd (spares_updateObject.error he) hnot
  rcases run_bind_eq_error.mp h₃ with he | ⟨contacts, s₂, hcontacts, h₄⟩
  · exact absurd (spares_updateContacts.error he) hnot
  simp only [hrems, hadds, List.foldlM_nil, pure_bind] at h₄
  rcases run_bind_eq_error.mp h₄ with he | ⟨_, _, -, h₅⟩
  · obtain ⟨-, rfl, -⟩ := run_raiseIf_eq_error.mp he
    have hkeeps : KeepsLinks [.keysetTech] t' s₁ := moves_updateObject.ok hupdated
    have hlists := (ContactMap.ends_updateContacts lawful_keysetContactMap _ _ _ _ _).ok hcontacts
    rw [hadd] at hlists
    refine ⟨keysetId, hfound, (hlists.toNamesContacts.congr ?_ ?_).mem_linked hrefused hid⟩
    · exact hkeeps.keysetContactMap List.mem_cons_self
    · exact objectIdOf_of_keepsObjects _ hkeeps.books.toKeepsObjects hu
  · rcases run_bind_eq_error.mp h₅ with he | ⟨_, _, -, h₆⟩
    · exact absurd ((spares_of_raisesDatabase UpdateKeyset.raisesDatabase_copy).error he) hnot
    cases h₆

end Refused

end LibFred.RegistrableObject.Contact
