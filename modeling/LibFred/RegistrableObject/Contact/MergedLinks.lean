import LibFred.RegistrableObject.Contact.DeletedSource

/-! What a merge leaves of the links of the source contact. -/
namespace LibFred.RegistrableObject.Contact

open Sql
open LibFred.Db
open LibFred.Object (KeepsObjects nameOf)
open TakeOver (TakenOver held takeOver)

/-- The roles that updates in this role leave alone. -/
def Link.others : Link → List Link
  | .registrant => [.admin, .nssetTech, .keysetTech]
  | .admin => [.registrant, .nssetTech, .keysetTech]
  | .nssetTech => [.registrant, .admin, .keysetTech]
  | .keysetTech => [.registrant, .admin, .nssetTech]

variable {ρ : Type} {settings : MergeSettings} {order : RowOrder} {op : MergeContact} {link : Link}
  {links : List Link} {blocking : List String} {update : LinkedObject → ObjectExec Nat}
  {record : LinkedObject → Option Nat → ρ} {src dst : Nat} {s s' t db db' : ObjectDatabase}
  {o : LinkedObject}

theorem mergeObject_ok {r : ρ} (h : (mergeObject false blocking update record o).run s = .ok r s') :
    ∃ historyId, (update o).run s = .ok historyId s' := by
  obtain ⟨_, t, hblocked, h₁⟩ := run_bind_eq_ok.mp h
  obtain rfl := (readOnly_bind (checks_getStates.readOnly) fun _ => readOnly_raiseIf).ok hblocked
  obtain ⟨_, t', hupdate, h₂⟩ := run_bind_eq_ok.mp h₁
  obtain ⟨-, rfl⟩ := run_pure_eq_ok.mp h₂
  obtain ⟨historyId, t, hoperation, h₃⟩ := run_bind_eq_ok.mp hupdate
  obtain ⟨-, rfl⟩ := run_pure_eq_ok.mp h₃
  exact ⟨historyId, operation_ok hoperation⟩

/-- A loop that keeps `P`, a property of the objects that were dealt with, keeps it to its end. -/
theorem mergeLinked_ok {P : List LinkedObject → ObjectDatabase → Prop} {records : List ρ}
    (hstep : ∀ p, ∀ o ∈ linkedObjects s op.srcContactHandle link, ∀ t t' historyId, P p t →
      (update o).run t = .ok historyId t' → P (p ++ [o]) t')
    (hstart : P [] s)
    (h : (op.mergeLinked order false link blocking update record).run s = .ok records s') :
    P ((order link).sort (linkedObjects s op.srcContactHandle link)) s' := by
  obtain ⟨objects, t, hselect, h⟩ := run_bind_eq_ok.mp h
  obtain ⟨rfl, rfl⟩ := EStateM.Result.ok.inj hselect
  have hmem (o : LinkedObject) := ((order link).perm (linkedObjects s op.srcContactHandle link)).mem_iff (a := o)
  refine (ends_mapM (R := fun _ => True) _ (fun p o ho t ht => ends_of_ok fun r t' hr => ?_) hstart).ok h
  obtain ⟨historyId, hupdate⟩ := mergeObject_ok hr
  exact hstep p o ((hmem o).mp ho) t t' historyId ht hupdate

theorem mergeLinked_keeps {records : List ρ}
    (hkeeps : ∀ o s historyId s', (update o).run s = .ok historyId s' → KeepsLinks links s s')
    (h : (op.mergeLinked order false link blocking update record).run s = .ok records s') :
    KeepsLinks links s s' :=
  mergeLinked_ok (P := fun _ t => KeepsLinks links s t)
    (fun _ _ _ _ _ _ ht hupdate => trans_of _ ht (hkeeps _ _ _ _ hupdate)) (refl_of _ s) h

/-- The destination contact takes over one role of the source contact. -/
theorem mergeLinked_takeOver {records : List ρ} (hc : LinkConsistent link s)
    (hm : Merging op src dst s) (hrow : (s.contact.lookup src).isSome)
    (hkeeps : ∀ o s historyId s', (update o).run s = .ok historyId s' → KeepsLinks link.others s s')
    (hstep : ∀ o t historyId t' ids, OwnersRegistered link t → Merging op src dst t →
      linkedObject t o.id = some o → o.id ∈ link.owners t → (o.id, src, 1) ∈ link.links s →
      link.links t = takeOver 1 src dst ids (link.links s) → (update o).run t = .ok historyId t' →
      link.links t' = takeOver 1 src dst {o.id} (link.links t))
    (h : (op.mergeLinked order false link blocking update record).run s = .ok records s') :
    link.links s' = takeOver 1 src dst (held 1 src (link.links s)) (link.links s) := by
  have hne := hm.ne hc.uniqueNames
  have hdone := (mergeLinked_ok (P := fun p t => KeepsLinks link.others s t ∧
    link.links t = takeOver 1 src dst {i | ∃ o ∈ p, o.id = i} (link.links s))
    (fun p o ho t t' historyId ht hupdate => ?_) ⟨refl_of _ s, by simp⟩ h).2
  · rw [hdone, ← held_eq hc hm.src hrow]
    simp only [((order link).perm (linkedObjects s op.srcContactHandle link)).mem_iff]
  · obtain ⟨hkept, hlinks⟩ := ht
    obtain ⟨hlinked, hheld⟩ := (mem_linkedObjects hc hm.src hrow).mp ho
    refine ⟨trans_of _ hkept (hkeeps o t historyId t' hupdate), ?_⟩
    rw [hstep o t historyId t' _ (hc.toOwnersRegistered.congr hkept) (hm.congr hkept hc.uniqueNames)
      ((linkedObject_congr hkept.books.toKeepsObjects).trans hlinked)
      (hkept.owners link ▸ hc.owned _ hheld) hheld hlinks hupdate, hlinks,
      TakeOver.takeOver_takeOver hne]
    congr 1
    ext i
    simp [or_and_right, exists_or, eq_comm, or_comm]

theorem updateRegistrant_keeps {historyId : Nat}
    (h : (op.updateRegistrant settings o).run s = .ok historyId s') :
    KeepsLinks Link.registrant.others s s' :=
  (moves_updateDomain (by decide) fun _ => ⟨rfl, rfl⟩).ok h

theorem updateAdmin_keeps {historyId : Nat} (h : (op.updateAdmin settings o).run s = .ok historyId s') :
    KeepsLinks Link.admin.others s s' :=
  orElseRollback_ok (moves_updateDomain_of_not_changesDomain rfl (by decide))
    (moves_updateDomain_of_not_changesDomain rfl (by decide)) h

theorem updateNssetTech_keeps {historyId : Nat}
    (h : (op.updateNssetTech settings o).run s = .ok historyId s') :
    KeepsLinks Link.nssetTech.others s s' :=
  orElseRollback_ok (moves_updateNsset (by decide)) (moves_updateNsset (by decide)) h

theorem updateKeysetTech_keeps {historyId : Nat}
    (h : (op.updateKeysetTech settings o).run s = .ok historyId s') :
    KeepsLinks Link.keysetTech.others s s' :=
  orElseRollback_ok (moves_updateKeyset (by decide)) (moves_updateKeyset (by decide)) h

/-- A domain has one registrant only. -/
theorem registrant_of_takeOver {ids : Set Nat} {i k r : Nat}
    (hheld : (i, src, 1) ∈ Link.registrant.links s)
    (h : (i, k, r) ∈ takeOver 1 src dst ids (Link.registrant.links s)) : k = src ∨ k = dst := by
  obtain ⟨-, hold | ⟨-, hk, -⟩⟩ := h
  · obtain ⟨d, hd, heq⟩ := List.mem_map.mp hheld
    obtain ⟨d', hd', heq'⟩ := List.mem_map.mp hold
    simp only [Prod.mk.injEq] at heq heq'
    obtain rfl : d = d' := Table.eq_of_key_eq hd hd' (heq.1.trans heq'.1.symm)
    exact .inl (heq'.2.1.symm.trans heq.2.1)
  · exact .inr (congrArg Prod.fst hk)

section Roles

variable (hm : Merging op src dst s) (hrow : (s.contact.lookup src).isSome)

include hm hrow

theorem mergeDomainRegistrants_takeOver {records : List MergeContactUpdateDomainRegistrant}
    (hc : LinkConsistent .registrant s)
    (h : (op.mergeDomainRegistrants settings order false).run s = .ok records s') :
    Link.registrant.links s' =
      takeOver 1 src dst (held 1 src (Link.registrant.links s)) (Link.registrant.links s) := by
  refine mergeLinked_takeOver hc hm hrow (fun _ _ _ _ => updateRegistrant_keeps) ?_ h
  intro o t historyId t' ids hc hm ho howned hheld hlinks hupdate
  refine updateRegistrant_takeOver hc hm ho howned (fun k r hk => ?_) hupdate
  rw [hlinks] at hk
  exact registrant_of_takeOver hheld hk

theorem mergeDomainAdmins_takeOver {records : List MergeContactUpdateDomainAdminContact}
    (hc : LinkConsistent .admin s)
    (h : (op.mergeDomainAdmins settings order false).run s = .ok records s') :
    Link.admin.links s' = takeOver 1 src dst (held 1 src (Link.admin.links s)) (Link.admin.links s) :=
  mergeLinked_takeOver hc hm hrow (fun _ _ _ _ => updateAdmin_keeps)
    (fun _ _ _ _ _ hc hm ho howned _ _ => updateAdmin_takeOver hc hm ho howned) h

theorem mergeNssetTechs_takeOver {records : List MergeContactUpdateNssetTechContact}
    (hc : LinkConsistent .nssetTech s)
    (h : (op.mergeNssetTechs settings order false).run s = .ok records s') :
    Link.nssetTech.links s' =
      takeOver 1 src dst (held 1 src (Link.nssetTech.links s)) (Link.nssetTech.links s) :=
  mergeLinked_takeOver hc hm hrow (fun _ _ _ _ => updateNssetTech_keeps)
    (fun _ _ _ _ _ hc hm ho howned _ _ => updateNssetTech_takeOver hc hm ho howned) h

theorem mergeKeysetTechs_takeOver {records : List MergeContactUpdateKeysetTechContact}
    (hc : LinkConsistent .keysetTech s)
    (h : (op.mergeKeysetTechs settings order false).run s = .ok records s') :
    Link.keysetTech.links s' =
      takeOver 1 src dst (held 1 src (Link.keysetTech.links s)) (Link.keysetTech.links s) :=
  mergeLinked_takeOver hc hm hrow (fun _ _ _ _ => updateKeysetTech_keeps)
    (fun _ _ _ _ _ hc hm ho howned _ _ => updateKeysetTech_takeOver hc hm ho howned) h

end Roles

theorem lockContact_ok {unknown : MergeContactException} {failed handle : String}
    {locked : LockedContact} (h : (lockContact handle unknown failed).run s = .ok locked s') :
    s' = s ∧ (UniqueNames s.toDatabase → ∃ id, objectIdOf s.toDatabase .contact handle = some id) := by
  obtain ⟨_, _, hget, h⟩ := run_bind_eq_ok.mp h
  obtain ⟨rfl, rfl⟩ := run_get_eq_ok.mp hget
  split at h
  · cases h
  · rename_i found hselect
    obtain ⟨-, rfl⟩ := run_pure_eq_ok.mp h
    refine ⟨rfl, fun hu => ?_⟩
    obtain ⟨oreg, hmem, -⟩ := List.mem_filterMap.mp (hselect ▸ List.mem_singleton_self found)
    obtain ⟨hrow, hname, htype, hlive⟩ := Table.mem_select.mp hmem
    exact ⟨oreg.id, (objectIdOf_eq_some hu).mpr
      ⟨oreg, Table.lookup_eq_some.mpr ⟨hrow, rfl⟩, htype, hname, hlive⟩⟩
  · cases h

theorem checkContacts_ok {locked : MergeContactLockedContactId}
    (hu : UniqueNames s.toDatabase) (h : op.checkContacts.run s = .ok locked s') :
    s' = s ∧ ∃ id, objectIdOf s.toDatabase .contact op.dstContactHandle = some id := by
  refine ⟨(checks_checkContacts.readOnly.ok h).symm, ?_⟩
  obtain ⟨_, t, hlock, -⟩ := run_bind_eq_ok.mp h
  obtain ⟨_, t₁, hsrc, h₁⟩ := run_bind_eq_ok.mp hlock
  obtain ⟨rfl, -⟩ := lockContact_ok hsrc
  obtain ⟨_, t₂, hdst, -⟩ := run_bind_eq_ok.mp h₁
  exact (lockContact_ok hdst).2 hu

/-- The states of the contacts do not concern their links. -/
theorem transferStates_ok {locked : MergeContactLockedContactId} {u : Unit}
    (h : (MergeContact.transferStates settings false locked).run s = .ok u s') :
    ∃ requests os, s' = { s with toDatabase :=
      { s.toDatabase with requests := requests, objectState := os } } := by
  obtain ⟨src, t, hsrc, h₁⟩ := run_bind_eq_ok.mp h
  obtain rfl := checks_getStates.readOnly.ok hsrc
  obtain ⟨dst, t, hdst, h₂⟩ := run_bind_eq_ok.mp h₁
  obtain rfl := checks_getStates.readOnly.ok hdst
  split at h₂
  · obtain ⟨_, t, hunless, h₃⟩ := run_bind_eq_ok.mp h₂
    obtain ⟨-, rfl⟩ := run_pure_eq_ok.mp h₃
    obtain ⟨_, t, hoperation, h₄⟩ := run_bind_eq_ok.mp hunless
    obtain ⟨-, rfl⟩ := run_pure_eq_ok.mp h₄
    obtain ⟨_, t, hrequest, hperform⟩ := run_bind_eq_ok.mp (operation_ok hoperation)
    obtain ⟨-, rfl⟩ := EStateM.Result.ok.inj hperform
    obtain ⟨d, hd, rfl⟩ := run_lift_eq_ok.mp hrequest
    simp only [createObjectStateRequest, EStateM.run] at hd
    split at hd <;> cases hd
    exact ⟨_, _, rfl⟩
  · obtain ⟨-, rfl⟩ := run_pure_eq_ok.mp h₂
    exact ⟨_, _, rfl⟩

theorem deleteSource_ok {u : Unit} (h : (op.deleteSource settings).run s = .ok u s') :
    ∃ src d d', objectIdOf s.toDatabase .contact op.srcContactHandle = some src ∧
      Deleted src s.toDatabase d ∧ KeepsObjects d d' ∧ d'.contact = d.contact ∧
      s' = { s with toDatabase := d' } := by
  obtain ⟨_, t, hdelete, h₁⟩ := run_bind_eq_ok.mp h
  obtain ⟨src, d, hsrc, hdeleted, rfl⟩ := deleteContactByHandle_ok hdelete
  obtain ⟨_, t, hupdate, h₂⟩ := run_bind_eq_ok.mp h₁
  obtain ⟨-, rfl⟩ := run_pure_eq_ok.mp h₂
  obtain ⟨d', hd', rfl⟩ := run_lift_eq_ok.mp hupdate
  obtain ⟨hkeeps, hcontact⟩ := updateContactByHandle_keeps rfl hd'
  exact ⟨src, d, d', hsrc, hdeleted, hkeeps, hcontact, rfl⟩

theorem Link.links_toDatabase {d : Database} (link : Link) :
    link.links { s with toDatabase := d } = link.links s := by
  cases link <;> rfl

theorem KeepsLinks.links_eq (h : KeepsLinks links s s') (hlink : link ∈ links) :
    link.links s' = link.links s := by
  unfold Link.links
  rw [h.rows link hlink]

/-- The destination contact has its links in the role 1 unless it has another role for a domain. -/
theorem takenOver_links_iff (hne : src ≠ dst)
    (hlinks : ∀ link : Link, link.links db' =
      takeOver 1 src dst (held 1 src (link.links db)) (link.links db)) :
    (∀ link : Link, TakenOver 1 src dst (link.links db) (link.links db')) ↔
      ∀ domainId role, (domainId, src, 1) ∈ Link.admin.links db →
        (domainId, dst, role) ∈ Link.admin.links db → role = 1 := by
  have hone {link : Link} (hadmin : link ≠ .admin) {i k r : Nat} (h : (i, k, r) ∈ link.links db) :
      r = 1 := by
    cases link with
    | admin => exact absurd rfl hadmin
    | _ =>
      obtain ⟨_, -, heq⟩ := List.mem_map.mp h
      exact (congrArg (·.2.2) heq).symm
  simp only [hlinks, TakeOver.takenOver_iff hne]
  constructor
  · intro h domainId role hsrc hdst
    obtain ⟨m, hm, heq⟩ := List.mem_map.mp (h .admin domainId role hsrc hdst)
    obtain ⟨m', hm', heq'⟩ := List.mem_map.mp hdst
    simp only [Prod.mk.injEq] at heq heq'
    obtain rfl : m = m' := Table.eq_of_key_eq hm hm'
      (Prod.ext (heq.1.trans heq'.1.symm) (heq.2.1.trans heq'.2.1.symm))
    exact heq'.2.2.symm.trans heq.2.2
  · intro h link i r hsrc hdst
    by_cases hadmin : link = .admin
    · subst hadmin
      exact h i r hsrc hdst ▸ hdst
    · exact hone hadmin hdst ▸ hdst

/-- A merge that was done has deleted the source contact, and for all objects that had it in a role
the destination contact has taken the role over. The one exception are domains that the destination
contact is linked to otherwise than as an administrator: there nobody has the role any more. -/
theorem merge_takes_over (op : MergeContact) (settings : MergeSettings) (order : RowOrder)
    (db db' : ObjectDatabase) (out : MergeContactOutput) (hc : ∀ link, LinkConsistent link db)
    (h : (op.exec settings order).run db = .ok out db') :
    ∃ src dst, src ≠ dst ∧ objectIdOf db.toDatabase .contact op.srcContactHandle = some src ∧
      objectIdOf db.toDatabase .contact op.dstContactHandle = some dst ∧
      objectIdOf db'.toDatabase .contact op.srcContactHandle = none ∧
      db'.contact.lookup src = none ∧
      objectIdOf db'.toDatabase .contact op.dstContactHandle = some dst ∧
      (∀ link : Link, link.links db' =
        takeOver 1 src dst (held 1 src (link.links db)) (link.links db)) ∧
      ((∀ link : Link, TakenOver 1 src dst (link.links db) (link.links db')) ↔
        ∀ domainId role, (domainId, src, 1) ∈ Link.admin.links db →
          (domainId, dst, role) ∈ Link.admin.links db → role = 1) := by
  have hu := (hc .admin).uniqueNames
  obtain ⟨locked, t, hchecks, h₁⟩ := run_bind_eq_ok.mp h
  obtain ⟨rfl, dst, hdst⟩ := checkContacts_ok hu hchecks
  obtain ⟨_, s₁, hregistrants, h₂⟩ := run_bind_eq_ok.mp h₁
  obtain ⟨_, s₂, hadmins, h₃⟩ := run_bind_eq_ok.mp h₂
  obtain ⟨_, s₃, hnssets, h₄⟩ := run_bind_eq_ok.mp h₃
  obtain ⟨_, s₄, hkeysets, h₅⟩ := run_bind_eq_ok.mp h₄
  obtain ⟨_, s₅, htransfer, h₆⟩ := run_bind_eq_ok.mp h₅
  obtain ⟨_, s₆, hunless, h₇⟩ := run_bind_eq_ok.mp h₆
  obtain ⟨-, rfl⟩ := run_pure_eq_ok.mp h₇
  obtain ⟨_, s₇, hoperation, h₈⟩ := run_bind_eq_ok.mp hunless
  obtain ⟨-, rfl⟩ := run_pure_eq_ok.mp h₈
  have hk₁ := mergeLinked_keeps (fun _ _ _ _ => updateRegistrant_keeps) hregistrants
  have hk₂ := mergeLinked_keeps (fun _ _ _ _ => updateAdmin_keeps) hadmins
  have hk₃ := mergeLinked_keeps (fun _ _ _ _ => updateNssetTech_keeps) hnssets
  have hk₄ := mergeLinked_keeps (fun _ _ _ _ => updateKeysetTech_keeps) hkeysets
  have hb₁ : KeepsLinks [] t s₁ := hk₁.mono (List.nil_subset _)
  have hb₂ : KeepsLinks [] t s₂ := trans_of _ hb₁ (hk₂.mono (List.nil_subset _))
  have hb₃ : KeepsLinks [] t s₃ := trans_of _ hb₂ (hk₃.mono (List.nil_subset _))
  have hb₄ : KeepsLinks [] t s₄ := trans_of _ hb₃ (hk₄.mono (List.nil_subset _))
  obtain ⟨requests, os, rfl⟩ := transferStates_ok htransfer
  obtain ⟨src, d, d', hsrc, hdeleted, hkeeps, hcontact, rfl⟩ := deleteSource_ok (operation_ok hoperation)
  have hids := objectIdOf_of_keepsObjects .contact hb₄.books.toKeepsObjects hu
  have hu₄ := uniqueNames_of_keepsObjects hb₄.books.toKeepsObjects hu
  have hids' := objectIdOf_of_keepsObjects .contact hkeeps (hdeleted.uniqueNames hu₄)
  have hm : Merging op src dst t := ⟨(congrFun hids _).symm.trans hsrc, hdst⟩
  have hne := hm.ne hu
  have hrow : (t.contact.lookup src).isSome := hb₄.books.contact ▸ hdeleted.row
  have hlinks (link : Link) : link.links { s₄ with toDatabase := d' } =
      takeOver 1 src dst (held 1 src (link.links t)) (link.links t) := by
    rw [Link.links_toDatabase]
    cases link with
    | registrant =>
      rw [hk₄.links_eq (by decide), hk₃.links_eq (by decide), hk₂.links_eq (by decide)]
      exact mergeDomainRegistrants_takeOver hm hrow (hc .registrant) hregistrants
    | admin =>
      have hc₁ := (hc .admin).congr hk₁ (by decide)
      have hadmins := mergeDomainAdmins_takeOver (hm.congr hb₁ hu) (hb₁.books.contact ▸ hrow) hc₁ hadmins
      rw [hk₄.links_eq (by decide), hk₃.links_eq (by decide), hadmins, hk₁.links_eq (by decide)]
    | nssetTech =>
      have hk : KeepsLinks [.nssetTech] t s₂ :=
        trans_of _ (hk₁.mono (by decide)) (hk₂.mono (by decide))
      have hc₂ := (hc .nssetTech).congr hk (by decide)
      have hnssets := mergeNssetTechs_takeOver (hm.congr hb₂ hu) (hb₂.books.contact ▸ hrow) hc₂ hnssets
      rw [hk₄.links_eq (by decide), hnssets, hk.links_eq (by decide)]
    | keysetTech =>
      have hk : KeepsLinks [.keysetTech] t s₃ := trans_of _ (hk₁.mono (by decide))
        (trans_of _ (hk₂.mono (by decide)) (hk₃.mono (by decide)))
      have hc₃ := (hc .keysetTech).congr hk (by decide)
      have hkeysets := mergeKeysetTechs_takeOver (hm.congr hb₃ hu) (hb₃.books.contact ▸ hrow) hc₃ hkeysets
      rw [hkeysets, hk.links_eq (by decide)]
  refine ⟨src, dst, hne, hm.src, hdst, ?_, ?_, ?_, hlinks, takenOver_links_iff hne hlinks⟩
  · refine Option.eq_none_iff_forall_ne_some.mpr fun id hid => ?_
    obtain ⟨hid, hother⟩ := (hdeleted.objectIdOf_eq_some hu₄).mp ((congrFun hids' _).symm.trans hid)
    exact hother (Option.some.inj (hid.symm.trans hsrc))
  · exact (congrArg (·.lookup src) hcontact).trans hdeleted.lookup_self
  · refine (congrFun hids' _).trans ((hdeleted.objectIdOf_eq_some hu₄).mpr ⟨?_, hne.symm⟩)
    exact (congrFun hids _).trans hdst

/-- SRC has all roles. DST is a technical contact of the keyset already, and it has another role for
one of the domains that SRC administrates. -/
def mergedDatabase : Database :=
  { Database.empty with
    now := 50
    registrar := ⟨[⟨2, "REG-MERGE"⟩], by decide⟩
    objectRegistry := ⟨[⟨1, 0, "C1-CZ", "SRC", .contact, 2, 0, none, some 1, some 1⟩,
      ⟨7, 0, "C7-CZ", "DST", .contact, 2, 0, none, some 2, some 2⟩,
      ⟨3, 0, "D3-CZ", "one.cz", .domain, 2, 0, none, some 3, some 3⟩,
      ⟨4, 0, "D4-CZ", "other.cz", .domain, 2, 0, none, some 4, some 4⟩,
      ⟨5, 0, "N5-CZ", "NSSET", .nsset, 2, 0, none, some 5, some 5⟩,
      ⟨6, 0, "K6-CZ", "KEYSET", .keyset, 2, 0, none, some 6, some 6⟩], by decide⟩
    object := ⟨[⟨1, 2, none, none, none⟩, ⟨7, 2, none, none, none⟩, ⟨3, 2, none, none, none⟩,
      ⟨4, 2, none, none, none⟩, ⟨5, 2, none, none, none⟩, ⟨6, 2, none, none, none⟩], by decide⟩
    history := ⟨[⟨1, 0, none⟩, ⟨2, 0, none⟩, ⟨3, 0, none⟩, ⟨4, 0, none⟩, ⟨5, 0, none⟩,
      ⟨6, 0, none⟩], by decide⟩
    historySeq := 7
    contact := ⟨[emptyContact 1, emptyContact 7], by decide⟩ }

def mergedDb : ObjectDatabase :=
  { ObjectDatabase.ofDatabase mergedDatabase with
    zone := ⟨[⟨2, false, ['c', 'z'], 1, 12, 120, 0⟩], by decide⟩
    domain := ⟨[⟨3, 2, 1, none, 100, none⟩, ⟨4, 2, 7, none, 100, none⟩], by decide⟩
    domainContactMap := ⟨[⟨3, 1, 1⟩, ⟨4, 1, 1⟩, ⟨4, 7, 2⟩], by decide⟩
    nsset := ⟨[⟨5, 0⟩], by decide⟩
    nssetContactMap := ⟨[⟨5, 1⟩], by decide⟩
    keyset := ⟨[⟨6⟩], by decide⟩
    keysetContactMap := ⟨[⟨6, 1⟩, ⟨6, 7⟩], by decide⟩ }

theorem linkConsistent_mergedDb (link : Link) : LinkConsistent link mergedDb where
  uniqueNames := (by decide : ∀ o ∈ mergedDb.objectRegistry.rows, ∀ o' ∈ mergedDb.objectRegistry.rows,
    o.type = o'.type → o.name = o'.name → o.erdate = none → o'.erdate = none → o = o')
  contacts := (by decide : ∀ c ∈ mergedDb.contact.rows,
    ∃ o ∈ mergedDb.objectRegistry.lookup c.id, o.type = .contact)
  owners := by
    have hrow : ∀ id ∈ link.owners mergedDb, ∃ o ∈ mergedDb.objectRegistry.lookup id,
        o.type = link.objectType ∧ foundName link.objectType o.name = o.name ∧ o.erdate = none := by
      cases link <;> decide
    have hsponsor : ∀ id ∈ link.owners mergedDb, ∃ o ∈ mergedDb.object.lookup id,
        (mergedDb.registrar.lookup o.clid).isSome := by
      cases link <;> decide
    exact fun id hid => ⟨hrow id hid, hsponsor id hid⟩
  owned := by cases link <;> decide

theorem merge_takes_over_mergedDb :
    ∃ out db', ((mergeBy "REG-MERGE").exec mergeSettings tableOrder).run mergedDb = .ok out db' ∧
      ∃ src dst, src ≠ dst ∧ ∀ link : Link, link.links db' =
        takeOver 1 src dst (held 1 src (link.links mergedDb)) (link.links mergedDb) := by
  cases hrun : ((mergeBy "REG-MERGE").exec mergeSettings tableOrder).run mergedDb with
  | ok out db' =>
    obtain ⟨src, dst, hne, -, -, -, -, -, hlinks, -⟩ := merge_takes_over (mergeBy "REG-MERGE")
      mergeSettings tableOrder mergedDb db' out linkConsistent_mergedDb hrun
    exact ⟨out, db', rfl, src, dst, hne, hlinks⟩
  | error e db' =>
    have hdone : (match ((mergeBy "REG-MERGE").exec mergeSettings tableOrder).run mergedDb with
        | .ok _ _ => true
        | .error _ _ => false) = true := by decide +kernel
    rw [hrun] at hdone
    cases hdone

end LibFred.RegistrableObject.Contact
