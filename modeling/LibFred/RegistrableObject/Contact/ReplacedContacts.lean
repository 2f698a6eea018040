import LibFred.RegistrableObject.Contact.LinkOwners
import LibFred.RegistrableObject.Contact.MergeDryRun

/-! One object of a merge: the destination contact takes over a role of the source contact. -/
namespace LibFred.RegistrableObject.Contact

open Sql
open LibFred.Db
open LibFred.RegistrableObject.Domain
open LibFred.RegistrableObject.Nsset
open LibFred.RegistrableObject.Keyset
open TakeOver (takeOver)

/-- The contacts that the handles of a merge mean. -/
structure Merging (op : MergeContact) (src dst : Nat) (db : ObjectDatabase) : Prop where
  src : objectIdOf db.toDatabase .contact op.srcContactHandle = some src
  dst : objectIdOf db.toDatabase .contact op.dstContactHandle = some dst

variable {settings : MergeSettings} {op : MergeContact} {src dst : Nat} {s s' t : ObjectDatabase}
  {o : LinkedObject} {historyId : Nat}

theorem Merging.ne (hm : Merging op src dst s) (hu : UniqueNames s.toDatabase) : src ≠ dst := by
  rintro rfl
  obtain ⟨o, ho, -, hname, -⟩ := (objectIdOf_eq_some hu).mp hm.src
  obtain ⟨o', ho', -, hname', -⟩ := (objectIdOf_eq_some hu).mp hm.dst
  obtain rfl := Option.some.inj (ho.symm.trans ho')
  exact op.distinct (hname.symm.trans hname')

theorem Merging.congr {links : List Link} (hm : Merging op src dst s) (h : KeepsLinks links s t)
    (hu : UniqueNames s.toDatabase) : Merging op src dst t := by
  have hids := objectIdOf_of_keepsObjects .contact h.books.toKeepsObjects hu
  exact ⟨(congrFun hids _).trans hm.src, (congrFun hids _).trans hm.dst⟩

theorem run_orElseRollback_eq_ok {α : Type} {ignored : ObjectException → Bool} {x y : ObjectExec α}
    {a : α} (h : (orElseRollback ignored x y).run s = .ok a s') :
    x.run s = .ok a s' ∨ ∃ e t, x.run s = .error e t ∧ ignored e = true ∧
      y.run (s.rollbackTo t) = .ok a s' := by
  obtain ⟨saved, _, hget, h₁⟩ := run_bind_eq_ok.mp h
  obtain ⟨rfl, rfl⟩ := run_get_eq_ok.mp hget
  rcases run_tryCatch_eq_ok.mp h₁ with hx | ⟨e, t, hx, h₂⟩
  · exact .inl hx
  · split at h₂
    · rename_i hignored
      obtain ⟨_, t', hmodify, hy⟩ := run_bind_eq_ok.mp h₂
      obtain ⟨-, rfl⟩ := EStateM.Result.ok.inj hmodify
      exact .inr ⟨e, t, hx, hignored, hy⟩
    · cases h₂

section ContactMap

variable {ρ : Type} [Keyed ρ (Nat × Nat)] {map : ContactMap ρ} {role : ρ → Nat} {objectId : Nat}

/-- Either the contact was replaced, or it was removed where the other one was linked already. -/
theorem takeOver_of_replaced (hrow : ∀ objectId contactId, role (map.row objectId contactId) = 1)
    (hu : UniqueNames s.toDatabase) (hm : Merging op src dst s)
    (h : map.UpdatesContacts objectId [op.dstContactHandle] [op.srcContactHandle] s s' ∨
      dst ∈ map.linked objectId s ∧ map.UpdatesContacts objectId [] [op.srcContactHandle] s s') :
    map.links role s' = takeOver 1 src dst {objectId} (map.links role s) := by
  have hsingle {handle : String} {id : Nat} (hid : objectIdOf s.toDatabase .contact handle = some id) :
      ContactMap.contactIds s [handle] = {id} := by
    ext k
    simp [ContactMap.contactIds, Itemwise.keys, hid, eq_comm]
  rcases h with h | ⟨hlinked, h⟩
  · exact h.takeOver hrow (hm.ne hu) ⟨.inl (hsingle hm.dst), hsingle hm.src⟩
  · refine h.takeOver hrow (hm.ne hu) ⟨.inr ⟨?_, hlinked⟩, hsingle hm.src⟩
    simp [ContactMap.contactIds, Itemwise.keys]

end ContactMap

theorem Link.links_admin : Link.admin.links s = Domain.domainContactMap.links (·.role) s := by
  ext ⟨i, k, r⟩
  simp [Link.links, Link.rows, ContactMap.links, Keyed.key, Domain.domainContactMap, and_assoc, Table.mem_rows]

theorem Link.links_nssetTech :
    Link.nssetTech.links s = Nsset.nssetContactMap.links (fun _ => 1) s := by
  ext ⟨i, k, r⟩
  simp [Link.links, Link.rows, ContactMap.links, Keyed.key, Nsset.nssetContactMap, and_assoc, Table.mem_rows]

theorem Link.links_keysetTech :
    Link.keysetTech.links s = Keyset.keysetContactMap.links (fun _ => 1) s := by
  ext ⟨i, k, r⟩
  simp [Link.links, Link.rows, ContactMap.links, Keyed.key, Keyset.keysetContactMap, and_assoc, Table.mem_rows]

theorem refused_of_adminAlreadySet {e : ObjectException} (h : op.adminAlreadySet e = true) :
    (alreadySetContacts e).head? = some op.dstContactHandle := by
  cases e with
  | domain e => exact of_decide_eq_true h
  | _ => cases h

theorem refused_of_techAlreadySet {e : ObjectException} (h : op.techAlreadySet e = true) :
    (alreadySetContacts e).head? = some op.dstContactHandle := by
  cases e with
  | nsset e => exact of_decide_eq_true h
  | keyset e => exact of_decide_eq_true h
  | _ => cases h

/-- The administrator of one domain. -/
theorem updateAdmin_takeOver (hc : OwnersRegistered .admin s) (hm : Merging op src dst s)
    (ho : linkedObject s o.id = some o) (howned : o.id ∈ Link.admin.owners s)
    (h : (op.updateAdmin settings o).run s = .ok historyId s') :
    Link.admin.links s' = takeOver 1 src dst {o.id} (Link.admin.links s) := by
  have hfound {r : UpdateDomain} {found : Nat × Bool} (hfqdn : r.fqdn = o.name)
      (hselect : r.selectDomain s = [found]) : found.1 = o.id :=
    selectDomain_eq hc.uniqueNames (hc.owners _ howned) ho hfqdn hselect
  rw [Link.links_admin, Link.links_admin]
  refine takeOver_of_replaced (fun _ _ => rfl) hc.uniqueNames hm ?_
  rcases run_orElseRollback_eq_ok h with h | ⟨e, t, herror, hignored, h⟩
  · obtain ⟨found, hselect, hupdates⟩ := UpdateDomain.updates_of_ok h
    have hcontacts := hupdates.contacts
    rw [hfound rfl hselect] at hcontacts
    exact .inl hcontacts
  · obtain ⟨found, hselect, hupdates⟩ := UpdateDomain.updates_of_ok h
    obtain ⟨found', hselect', hlinked⟩ := linked_of_refusedAdmin hc.uniqueNames rfl herror
      (refused_of_adminAlreadySet hignored) hm.dst
    have hcontacts := hupdates.contacts
    rw [hfound rfl (hselect : UpdateDomain.selectDomain _ s = [found])] at hcontacts
    rw [hfound rfl hselect'] at hlinked
    exact .inr ⟨hlinked, hcontacts.congr rfl rfl rfl⟩

/-- The contacts of an nsset whose hosts are not updated. -/
theorem updateNsset_contacts {op : UpdateNsset} {settings : UpdateSettings} (hadds : op.addDns = [])
    (hrems : op.remDns = []) (h : (op.exec settings).run s = .ok historyId s') :
    ∃ nssetId, objectIdOf s.toDatabase .nsset op.handle = some nssetId ∧
      nssetContactMap.UpdatesContacts nssetId op.addTechContact op.remTechContact s s' := by
  obtain ⟨_, t, hregistrar, h₁⟩ := run_bind_eq_ok.mp h
  obtain rfl := checkRegistrar_ok hregistrar
  obtain ⟨nssetId, t', hobject, h₂⟩ := run_bind_eq_ok.mp h₁
  obtain ⟨hid, rfl⟩ := getObjectId_ok hobject
  obtain ⟨updated, s₁, hupdated, h₃⟩ := run_bind_eq_ok.mp h₂
  obtain ⟨_, s₂, hlevel, h₄⟩ := run_bind_eq_ok.mp h₃
  obtain ⟨contacts, s₃, hcontacts, h₅⟩ := run_bind_eq_ok.mp h₄
  simp only [hrems, hadds, List.foldlM_nil, pure_bind] at h₅
  obtain ⟨_, t, hraise, h₆⟩ := run_bind_eq_ok.mp h₅
  obtain ⟨hnone, rfl⟩ := run_raiseIf_eq_ok.mp hraise
  obtain ⟨_, s₆, hcopy, h₇⟩ := run_bind_eq_ok.mp h₆
  obtain ⟨rfl, rfl⟩ := run_pure_eq_ok.mp h₇
  have hnone := not_not.mp hnone
  obtain ⟨_, d, -, -, hrecorded, rfl⟩ := updateObject_known hupdated
    (congrArg NssetException.unknownNssetHandle hnone)
    (congrArg NssetException.unknownRegistrarHandle hnone)
  obtain ⟨nssets, rfl, -⟩ := updateChecklevel_ok hlevel
  have hupdates := ((ContactMap.ends_updateContacts lawful_nssetContactMap _ _ _ _ _).ok hcontacts).updates
    (congrArg NssetException.alreadySetTechnicalContactHandle hnone)
  obtain ⟨_, _, _, _, rfl⟩ := UpdateNsset.copy_ok hcopy
  exact ⟨nssetId, hid, hupdates.congr rfl (hrecorded.objectIdOf _) rfl⟩

/-- The technical contact of one nsset. -/
theorem updateNssetTech_takeOver (hc : OwnersRegistered .nssetTech s) (hm : Merging op src dst s)
    (ho : linkedObject s o.id = some o) (howned : o.id ∈ Link.nssetTech.owners s)
    (h : (op.updateNssetTech settings o).run s = .ok historyId s') :
    Link.nssetTech.links s' = takeOver 1 src dst {o.id} (Link.nssetTech.links s) := by
  have hfound {nssetId : Nat} (hid : objectIdOf s.toDatabase .nsset o.name = some nssetId) :
      nssetId = o.id := objectIdOf_eq hc.uniqueNames (hc.owners _ howned) (by decide) ho hid
  rw [Link.links_nssetTech, Link.links_nssetTech]
  refine takeOver_of_replaced (fun _ _ => rfl) hc.uniqueNames hm ?_
  rcases run_orElseRollback_eq_ok h with h | ⟨e, t, herror, hignored, h⟩
  · obtain ⟨nssetId, hid, hupdates⟩ := updateNsset_contacts rfl rfl h
    rw [← hfound hid]
    exact .inl hupdates
  · obtain ⟨nssetId, hid, hupdates⟩ := updateNsset_contacts rfl rfl h
    obtain ⟨nssetId', hid', hlinked⟩ := linked_of_refusedNssetTech hc.uniqueNames rfl rfl rfl herror
      (refused_of_techAlreadySet hignored) hm.dst
    rw [hfound hid] at hupdates
    rw [hfound hid'] at hlinked
    exact .inr ⟨hlinked, hupdates.congr rfl rfl rfl⟩

/-- The technical contact of one keyset. -/
theorem updateKeysetTech_takeOver (hc : OwnersRegistered .keysetTech s) (hm : Merging op src dst s)
    (ho : linkedObject s o.id = some o) (howned : o.id ∈ Link.keysetTech.owners s)
    (h : (op.updateKeysetTech settings o).run s = .ok historyId s') :
    Link.keysetTech.links s' = takeOver 1 src dst {o.id} (Link.keysetTech.links s) := by
  have hfound {keysetId : Nat} (hid : objectIdOf s.toDatabase .keyset o.name = some keysetId) :
      keysetId = o.id := objectIdOf_eq hc.uniqueNames (hc.owners _ howned) (by decide) ho hid
  rw [Link.links_keysetTech, Link.links_keysetTech]
  refine takeOver_of_replaced (fun _ _ => rfl) hc.uniqueNames hm ?_
  rcases run_orElseRollback_eq_ok h with h | ⟨e, t, herror, hignored, h⟩
  · obtain ⟨keysetId, hid, hupdates⟩ := UpdateKeyset.updates_of_ok h
    have hcontacts := hupdates.contacts
    rw [hfound hid] at hcontacts
    exact .inl hcontacts
  · obtain ⟨keysetId, hid, hupdates⟩ := UpdateKeyset.updates_of_ok h
    obtain ⟨keysetId', hid', hlinked⟩ := linked_of_refusedKeysetTech hc.uniqueNames rfl rfl rfl herror
      (refused_of_techAlreadySet hignored) hm.dst
    have hcontacts := hupdates.contacts
    rw [hfound hid] at hcontacts
    rw [hfound hid'] at hlinked
    exact .inr ⟨hlinked, hcontacts.congr rfl rfl rfl⟩

/-- The registrant of one domain, who is the source contact unless the domain was dealt with. -/
theorem updateRegistrant_takeOver (hc : OwnersRegistered .registrant s) (hm : Merging op src dst s)
    (ho : linkedObject s o.id = some o) (howned : o.id ∈ Link.registrant.owners s)
    (hheld : ∀ k r, (o.id, k, r) ∈ Link.registrant.links s → k = src ∨ k = dst)
    (h : (op.updateRegistrant settings o).run s = .ok historyId s') :
    Link.registrant.links s' = takeOver 1 src dst {o.id} (Link.registrant.links s) := by
  obtain ⟨found, hselect, hdomain⟩ := UpdateDomain.domain_of_ok h
  rw [selectDomain_eq hc.uniqueNames (hc.owners _ howned) ho rfl hselect] at hdomain
  have hne := hm.ne hc.uniqueNames
  have hlinks (i k r : Nat) : (i, k, r) ∈ Link.registrant.links s ↔
      ∃ d ∈ s.domain, d.id = i ∧ d.registrant = k ∧ 1 = r := by
    simp [Link.links, Link.rows, Table.mem_rows]
  have hlinks' (i k r : Nat) : (i, k, r) ∈ Link.registrant.links s' ↔
      ∃ d ∈ s.domain, d.id = i ∧ (if d.id = o.id then dst else d.registrant) = k ∧ 1 = r := by
    simp only [Link.links, Link.rows, hdomain, Table.update, List.map_map, Set.mem_ofPred_eq,
      List.mem_map, Table.mem_rows, Function.comp_apply]
    refine exists_congr fun d => and_congr_right fun _ => ?_
    by_cases hid : d.id = o.id <;>
      simp [hid, DomainColumns.set, UpdateDomain.columnsOf, hm.dst]
  have hsame {d d' : Db.Domain} (hd : d ∈ s.domain) (hd' : d' ∈ s.domain) (hid : d.id = d'.id) :
      d = d' := Table.eq_of_key_eq hd hd' hid
  ext ⟨i, k, r⟩
  rw [hlinks']
  constructor
  · rintro ⟨d, hd, rfl, rfl, rfl⟩
    by_cases hid : d.id = o.id
    · simp only [if_pos hid]
      refine ⟨fun _ => hne.symm, ?_⟩
      by_cases hdst : d.registrant = dst
      · exact .inl ((hlinks _ _ _).mpr ⟨d, hd, rfl, hdst, rfl⟩)
      · refine .inr ⟨hid, rfl, fun r hr => ?_⟩
        obtain ⟨d', hd', hid', hdst', -⟩ := (hlinks _ _ _).mp hr
        exact hdst (hsame hd' hd hid' ▸ hdst')
    · simp only [if_neg hid]
      exact ⟨fun h => absurd h hid, .inl ((hlinks _ _ _).mpr ⟨d, hd, rfl, rfl, rfl⟩)⟩
  · rintro ⟨hsrc, hold | ⟨hid, hk, -⟩⟩
    · obtain ⟨d, hd, hi, hk, hr⟩ := (hlinks _ _ _).mp hold
      refine ⟨d, hd, hi, ?_, hr⟩
      by_cases hid : d.id = o.id
      · rw [if_pos hid]
        have hi' : i = o.id := hi.symm.trans hid
        exact ((hheld k r (hi' ▸ hold)).resolve_left (hsrc hi')).symm
      · rw [if_neg hid]
        exact hk
    · obtain ⟨d, hd, hid'⟩ := List.mem_map.mp howned
      obtain ⟨rfl, rfl⟩ := Prod.mk.inj hk
      exact ⟨d, hd, hid'.trans hid.symm, if_pos hid', rfl⟩

end LibFred.RegistrableObject.Contact
