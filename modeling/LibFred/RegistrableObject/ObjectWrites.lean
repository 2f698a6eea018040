import LibFred.RegistrableObject.Contact.MergeChecks
import LibFred.RegistrableObject.Domain.UpdateDomain
import LibFred.RegistrableObject.Keyset.UpdateKeyset
import LibFred.RegistrableObject.Nsset.UpdateNsset
import LibFred.RegistrableObject.RecordedUpdates
import Mathlib.Logic.Relation

/-! What operations write to the tables of domains, nssets and keysets, and that the steps of updates
write nothing else. -/
namespace LibFred.RegistrableObject

open Sql
open LibFred.Db
open Relation (ReflTransGen)
open LibFred.RegistrableObject.Domain (DomainColumns)
open LibFred.RegistrableObject.Keyset (DnsKey)
open LibFred.RegistrableObject.Nsset (NamesHost)

/-- An object of the type that was not deleted. -/
def Live (db : Database) (type : Db.ObjectType) (id : Nat) : Prop :=
  ∃ o ∈ db.objectRegistry.lookup id, o.type = type ∧ o.erdate = none

/-- The objects that a domain refers to are live. -/
structure RefersToLive (db : Database) (registrant nsset keyset : Option Nat) : Prop where
  registrant : ∀ id ∈ registrant, Live db .contact id
  nsset : ∀ id ∈ nsset, Live db .nsset id
  keyset : ∀ id ∈ keyset, Live db .keyset id

/-- What one step of an operation on an object of a type writes. -/
inductive Write (procedures : StateProcedures) (id : Nat) (db : ObjectDatabase) :
    Db.ObjectType → ObjectDatabase → Prop
  | insertDomain (row : Db.Domain) {t : Table Db.Domain} (hid : row.id = id)
      (hrefers : RefersToLive db.toDatabase (some row.registrant) row.nsset row.keyset)
      (ht : db.domain.insert? row = some t) :
      Write procedures id db .domain (procedures.fire { db with domain := t })
  | setDomain (columns : DomainColumns)
      (hrefers : RefersToLive db.toDatabase columns.registrant columns.nsset.join columns.keyset.join) :
      Write procedures id db .domain (procedures.fire { db with
        domain := db.domain.update (·.id = id) columns.set columns.key_set })
  | linkAdmin {contactId : Nat} {t : Table DomainContactMap}
      (hcontact : Live db.toDatabase .contact contactId)
      (ht : db.domainContactMap.insert? ⟨id, contactId, 1⟩ = some t) :
      Write procedures id db .domain (procedures.fire { db with domainContactMap := t })
  | unlinkAdmin (contactId : Nat) :
      Write procedures id db .domain (procedures.fire { db with
        domainContactMap := db.domainContactMap.delete (Keyed.key · = (id, contactId)) })
  | insertEnumval (row : Enumval) {t : Table Enumval} (hid : row.domainid = id)
      (ht : db.enumval.insert? row = some t) :
      Write procedures id db .domain (procedures.fire { db with enumval := t })
  | setEnumval (f : Enumval → Enumval) (hf : ∀ ev, Keyed.key (f ev) = Keyed.key ev) :
      Write procedures id db .domain (procedures.fire { db with
        enumval := db.enumval.update (·.domainid = id) f hf })
  | insertNsset (row : Db.Nsset) {t : Table Db.Nsset} (hid : row.id = id)
      (ht : db.nsset.insert? row = some t) : Write procedures id db .nsset { db with nsset := t }
  | setChecklevel (checklevel : Int) :
      Write procedures id db .nsset { db with
        nsset := db.nsset.update (·.id = id) fun n => { n with checklevel } }
  | linkNssetTech {contactId : Nat} {t : Table NssetContactMap}
      (hcontact : Live db.toDatabase .contact contactId)
      (ht : db.nssetContactMap.insert? ⟨id, contactId⟩ = some t) :
      Write procedures id db .nsset (procedures.fire { db with nssetContactMap := t })
  | unlinkNssetTech (contactId : Nat) :
      Write procedures id db .nsset (procedures.fire { db with
        nssetContactMap := db.nssetContactMap.delete (Keyed.key · = (id, contactId)) })
  | skipHost : Write procedures id db .nsset { db with hostSeq := db.hostSeq + 1 }
  | insertHost (fqdn : String) {t : Table Host}
      (ht : db.host.insert? ⟨db.hostSeq, id, fqdn⟩ = some t) :
      Write procedures id db .nsset { db with host := t, hostSeq := db.hostSeq + 1 }
  | deleteHost (fqdn : String) {h : Host} (hh : db.host.select (NamesHost id fqdn) = [h]) :
      Write procedures id db .nsset { db with
        host := db.host.delete (NamesHost id fqdn)
        hostIpaddrMap := db.hostIpaddrMap.delete (·.hostid = h.id) }
  | insertIpaddr {h : Host} (hh : h ∈ db.host) (hid : h.nssetid = id) (ipaddr : IpAddress)
      {t : Table HostIpaddrMap}
      (ht : db.hostIpaddrMap.insert? ⟨db.hostIpaddrMapSeq, h.id, id, ipaddr⟩ = some t) :
      Write procedures id db .nsset { db with
        hostIpaddrMap := t
        hostIpaddrMapSeq := db.hostIpaddrMapSeq + 1 }
  | insertKeyset (row : Db.Keyset) {t : Table Db.Keyset} (hid : row.id = id)
      (ht : db.keyset.insert? row = some t) : Write procedures id db .keyset { db with keyset := t }
  | linkKeysetTech {contactId : Nat} {t : Table KeysetContactMap}
      (hcontact : Live db.toDatabase .contact contactId)
      (ht : db.keysetContactMap.insert? ⟨id, contactId⟩ = some t) :
      Write procedures id db .keyset (procedures.fire { db with keysetContactMap := t })
  | unlinkKeysetTech (contactId : Nat) :
      Write procedures id db .keyset (procedures.fire { db with
        keysetContactMap := db.keysetContactMap.delete (Keyed.key · = (id, contactId)) })
  | skipKey : Write procedures id db .keyset { db with dnskeySeq := db.dnskeySeq + 1 }
  | insertKey (key : DnsKey) {t : Table Dnskey}
      (ht : db.dnskey.insert? ⟨db.dnskeySeq, id, key⟩ = some t) :
      Write procedures id db .keyset { db with dnskey := t, dnskeySeq := db.dnskeySeq + 1 }
  | deleteKey (key : DnsKey) :
      Write procedures id db .keyset { db with
        dnskey := db.dnskey.delete fun k => k.keysetid = id ∧ k.dnsKey = key }

/-- The writes of several steps. -/
def Writes (procedures : StateProcedures) (type : Db.ObjectType) (id : Nat) :
    ObjectDatabase → ObjectDatabase → Prop :=
  ReflTransGen fun db db' => Write procedures id db type db'

section Updates

open LibFred.Object (getObjectIdByHandleAndType readOnly_getObjectIdByHandleAndType)
open LibFred.RegistrableObject.Contact (readOnly_resolveOptional readOnly_resolveRegistrant)
open LibFred.RegistrableObject.Domain (UpdateDomain domainContactMap resolveHandle resolveOptional)
open LibFred.RegistrableObject.Keyset (addDnsKey insertDnsKey keysetContactMap remDnsKey)
open LibFred.RegistrableObject.Nsset (DnsHost HostErrors addDnsHost addIpaddr deleteHosts insertHost
  insertIpaddr nssetContactMap remDnsHost updateChecklevel)

variable {procedures : StateProcedures} {type : Db.ObjectType} {id : Nat}
  {s s' : ObjectDatabase} {R : ObjectDatabase → ObjectDatabase → Prop}

instance : Std.Refl (Writes procedures type id) := ⟨fun _ => .refl⟩

instance : IsTrans ObjectDatabase (Writes procedures type id) := ⟨fun _ _ _ => .trans⟩

theorem Write.writes (h : Write procedures id s type s') : Writes procedures type id s s' := .single h

theorem live_of_objectIdOf {db : Database} {handle : String} (h : objectIdOf db type handle = some id) :
    Live db type id := by
  obtain ⟨o, ho, rfl, htype, hlive⟩ := exists_liveObject h
  exact ⟨o, Table.lookup_eq_some.mpr ⟨ho, rfl⟩, htype, hlive⟩

theorem live_of_getObjectId {handle : String}
    (h : (lift (getObjectIdByHandleAndType handle type)).run s = .ok (some id) s') :
    Live s.toDatabase type id := by
  obtain ⟨d, hd, -⟩ := run_lift_eq_ok.mp h
  exact live_of_objectIdOf (getObjectIdByHandleAndType_ok hd).1.symm

namespace ContactMap

variable {ρ : Type} [Keyed ρ (Nat × Nat)] {map : ContactMap ρ} {e : ContactErrors} {handle : String}
  [Std.Refl R] [IsTrans ObjectDatabase R]

theorem commits_addContact
    (hlink : ∀ s contactId t, Live s.toDatabase .contact contactId →
      (map.table s).insert? (map.row id contactId) = some t → R s (procedures.fire (map.setTable s t))) :
    Commits R (map.addContact procedures id e handle) := by
  refine fun s => (readOnly_lift readOnly_getObjectIdByHandleAndType).commitsFrom_bind fun found hfound => ?_
  cases found with
  | none => exact readOnly_pure.commits s
  | some contactId =>
    refine commitsFrom_bind (fun inserted s' h => ?_) fun inserted s' _ => ?_
    · simp only [insertContact, EStateM.run] at h
      split at h <;> cases h
      · rename_i t ht
        exact hlink s contactId t (live_of_getObjectId hfound) ht
      · exact refl_of R s
    · cases inserted <;> exact readOnly_pure.commits s'

theorem commits_remContact
    (hunlink : ∀ s contactId, R s (procedures.fire
      (map.setTable s ((map.table s).delete (Keyed.key · = (id, contactId)))))) :
    Commits R (map.remContact procedures id e handle) := by
  refine commits_bind (readOnly_lift readOnly_getObjectIdByHandleAndType).commits fun found => ?_
  cases found with
  | none => exact readOnly_pure.commits
  | some contactId =>
    refine commits_bind (fun s n s' h => ?_) fun n => commits_bind readOnly_raiseIf.commits fun _ => ?_
    · obtain ⟨-, rfl⟩ := EStateM.Result.ok.inj h
      exact hunlink s contactId
    · split <;> exact readOnly_pure.commits

theorem commits_updateContacts {add rem : List String}
    (hlink : ∀ s contactId t, Live s.toDatabase .contact contactId →
      (map.table s).insert? (map.row id contactId) = some t → R s (procedures.fire (map.setTable s t)))
    (hunlink : ∀ s contactId, R s (procedures.fire
      (map.setTable s ((map.table s).delete (Keyed.key · = (id, contactId)))))) :
    Commits R (map.updateContacts procedures id add rem) :=
  commits_bind (commits_foldlM fun _ _ => commits_addContact hlink) fun _ =>
    commits_foldlM fun _ _ => commits_remContact hunlink

end ContactMap

section Domain

theorem commits_updateAdmins {add rem : List String} :
    Commits (Writes procedures .domain id) (domainContactMap.updateContacts procedures id add rem) :=
  ContactMap.commits_updateContacts (fun _ _ _ hcontact ht => (Write.linkAdmin hcontact ht).writes)
    fun _ contactId => (Write.unlinkAdmin contactId).writes

theorem live_of_resolveHandle {handle : String} {resolved : Nat × Option String}
    (h : (resolveHandle type handle).run s = .ok resolved s') (hknown : resolved.2 = none) :
    Live s.toDatabase type resolved.1 := by
  obtain ⟨found, t, hfound, h⟩ := run_bind_eq_ok.mp h
  cases found with
  | none =>
    obtain ⟨rfl, -⟩ := run_pure_eq_ok.mp h
    cases hknown
  | some objectId =>
    obtain ⟨rfl, -⟩ := run_pure_eq_ok.mp h
    exact live_of_getObjectId hfound

theorem live_of_resolveOptional {given : Option (Option String)}
    {resolved : Option (Option Nat) × Option String}
    (h : (resolveOptional type given).run s = .ok resolved s') (hknown : resolved.2 = none) :
    ∀ objectId ∈ resolved.1.join, Live s.toDatabase type objectId := by
  intro objectId hid
  match given with
  | none =>
    obtain ⟨rfl, -⟩ := run_pure_eq_ok.mp h
    cases hid
  | some none =>
    obtain ⟨rfl, -⟩ := run_pure_eq_ok.mp h
    cases hid
  | some (some handle) =>
    obtain ⟨found, t, hfound, h⟩ := run_bind_eq_ok.mp h
    obtain ⟨rfl, -⟩ := run_pure_eq_ok.mp h
    obtain rfl := Option.some.inj hid
    exact live_of_resolveHandle hfound hknown

theorem commits_write {columns : DomainColumns}
    (hrefers : RefersToLive s.toDatabase columns.registrant columns.nsset.join columns.keyset.join) :
    CommitsFrom (Writes procedures .domain id) s (columns.write procedures id) := by
  intro u s' h
  simp only [DomainColumns.write, EStateM.run] at h
  split at h <;> cases h
  exact (Write.setDomain columns hrefers).writes

variable {settings : UpdateSettings} {op : UpdateDomain}

theorem live_of_resolveRegistrant {resolved : Option Nat × Option String}
    (h : op.resolveRegistrant.run s = .ok resolved s') (hknown : resolved.2 = none) :
    ∀ objectId ∈ resolved.1, Live s.toDatabase .contact objectId := by
  intro objectId hid
  unfold UpdateDomain.resolveRegistrant at h
  split at h
  · obtain ⟨rfl, -⟩ := run_pure_eq_ok.mp h
    cases hid
  · obtain ⟨found, t, hfound, h⟩ := run_bind_eq_ok.mp h
    obtain ⟨rfl, -⟩ := run_pure_eq_ok.mp h
    obtain rfl := Option.some.inj hid
    exact live_of_resolveHandle hfound hknown

theorem commits_updateColumns {e : DomainException} :
    Commits (Writes settings.procedures .domain id) (op.updateColumns settings id e) := by
  unfold UpdateDomain.updateColumns
  split
  · refine fun s => readOnly_resolveOptional.commitsFrom_bind fun nsset hnsset =>
      readOnly_resolveOptional.commitsFrom_bind fun keyset hkeyset =>
      readOnly_resolveRegistrant.commitsFrom_bind fun registrant hregistrant =>
      readOnly_raiseIf.commitsFrom_bind fun _ hraise => commits_write ?_
    obtain ⟨he, -⟩ := run_raiseIf_eq_ok.mp hraise
    have hall := not_not.mp he
    exact ⟨live_of_resolveRegistrant hregistrant (congrArg DomainException.unknownRegistrantHandle hall :),
      live_of_resolveOptional hnsset (congrArg DomainException.unknownNssetHandle hall :),
      live_of_resolveOptional hkeyset (congrArg DomainException.unknownKeysetHandle hall :)⟩
  · exact readOnly_pure.commits

theorem commits_updateEnumval :
    Commits (Writes settings.procedures .domain id) (op.updateEnumval settings id) := by
  unfold UpdateDomain.updateEnumval
  split
  · intro s u s' h
    simp only [UpdateDomain.setEnumval, EStateM.run] at h
    split at h <;> cases h
    exact (Write.setEnumval _ _).writes
  · exact readOnly_pure.commits

end Domain

section Nsset

theorem commits_updateChecklevel {level : Option Int} :
    Commits (Writes procedures .nsset id) (updateChecklevel id level) := by
  unfold updateChecklevel
  split
  · intro s u s' h
    simp only [LibFred.RegistrableObject.Nsset.setChecklevel, EStateM.run] at h
    split at h <;> cases h
    exact (Write.setChecklevel _).writes
  · exact readOnly_pure.commits

theorem commits_updateNssetTechs {add rem : List String} :
    Commits (Writes procedures .nsset id) (nssetContactMap.updateContacts procedures id add rem) :=
  ContactMap.commits_updateContacts (fun _ _ _ hcontact ht => (Write.linkNssetTech hcontact ht).writes)
    fun _ contactId => (Write.unlinkNssetTech contactId).writes

/-- A host and its addresses go in two steps, between which nothing else happens. -/
theorem commits_remDnsHost {unassigned : List String} {fqdn : String} :
    Commits (Writes procedures .nsset id) (remDnsHost id unassigned fqdn) := by
  intro s u s' h
  obtain ⟨ids, t, hdelete, h⟩ := run_bind_eq_ok.mp h
  obtain ⟨hids, rfl⟩ := EStateM.Result.ok.inj hdelete
  split at h
  · obtain ⟨-, rfl⟩ := run_pure_eq_ok.mp h
    have hnone : s.host.delete (LibFred.RegistrableObject.Nsset.NamesHost id fqdn) = s.host :=
      Table.delete_eq_self (List.map_eq_nil_iff.mp hids)
    rw [hnone]
    exact refl_of _ s
  · obtain ⟨_, t, hips, h⟩ := run_bind_eq_ok.mp h
    obtain ⟨-, rfl⟩ := run_pure_eq_ok.mp h
    obtain ⟨-, rfl⟩ := EStateM.Result.ok.inj hips
    obtain ⟨host, hhost, rfl⟩ := List.map_eq_singleton_iff.mp hids
    exact (Write.deleteHost fqdn hhost).writes
  · cases h

/-- The addresses of a host that the nsset has. -/
theorem commits_addIpaddrs {h : Host} (hh : h ∈ s.host) (hid : h.nssetid = id) {e : HostErrors}
    {ipaddrs : List IpAddress} :
    CommitsFrom (Writes procedures .nsset id) s (ipaddrs.foldlM (addIpaddr h.id id) e) := by
  suffices hgo : ∀ e s s', h ∈ s.host → ∀ e', (ipaddrs.foldlM (addIpaddr h.id id) e).run s = .ok e' s' →
      Writes procedures .nsset id s s' from fun e' s' hrun => hgo e s s' hh e' hrun
  induction ipaddrs with
  | nil =>
    intro e s s' _ e' hrun
    obtain ⟨-, rfl⟩ := run_pure_eq_ok.mp hrun
    exact refl_of _ s
  | cons ipaddr ipaddrs ih =>
    intro e s s' hh e' hrun
    rw [List.foldlM_cons] at hrun
    obtain ⟨e₁, t, hone, hrest⟩ := run_bind_eq_ok.mp hrun
    obtain ⟨inserted, t', hinsert, hone⟩ := run_bind_eq_ok.mp hone
    have hend : t' = t := by
      cases inserted <;> exact (run_pure_eq_ok.mp hone).2
    subst hend
    simp only [insertIpaddr, EStateM.run] at hinsert
    split at hinsert
    · split at hinsert
      · rename_i table htable
        cases hinsert
        exact .head (Write.insertIpaddr hh hid ipaddr htable) (ih e₁ _ s' hh e' hrest)
      · cases hinsert
    · cases hinsert
      exact ih e₁ s s' hh e' hrest

theorem commits_addDnsHost {e : HostErrors} {host : DnsHost} :
    Commits (Writes procedures .nsset id) (addDnsHost id e host) := by
  refine fun s => commitsFrom_bind (fun found s' h => ?_) fun found s' h => ?_
  · simp only [insertHost, EStateM.run] at h
    split at h
    · cases h
      exact Write.skipHost.writes
    · split at h <;> cases h
      rename_i t ht
      exact (Write.insertHost _ ht).writes
  · cases found with
    | none => exact readOnly_pure.commits s'
    | some hostId =>
      simp only [insertHost, EStateM.run] at h
      split at h
      · cases h
      · split at h <;> cases h
        rename_i t ht
        exact commits_addIpaddrs (h := ⟨s.hostSeq, id, lower host.fqdn⟩)
          ((Table.mem_of_insert? ht).mpr (.inr rfl)) rfl

end Nsset

section Keyset

theorem commits_updateKeysetTechs {add rem : List String} :
    Commits (Writes procedures .keyset id) (keysetContactMap.updateContacts procedures id add rem) :=
  ContactMap.commits_updateContacts (fun _ _ _ hcontact ht => (Write.linkKeysetTech hcontact ht).writes)
    fun _ contactId => (Write.unlinkKeysetTech contactId).writes

theorem commits_remDnsKey {unassigned : List DnsKey} {key : DnsKey} :
    Commits (Writes procedures .keyset id) (remDnsKey id unassigned key) := by
  refine commits_bind (fun s n s' h => ?_) fun _ => commits_bind readOnly_raiseIf.commits fun _ =>
    readOnly_pure.commits
  obtain ⟨-, rfl⟩ := EStateM.Result.ok.inj h
  exact (Write.deleteKey key).writes

theorem commits_addDnsKey {alreadySet : List DnsKey} {key : DnsKey} :
    Commits (Writes procedures .keyset id) (addDnsKey id alreadySet key) := by
  refine commits_bind (fun s inserted s' h => ?_) fun inserted => ?_
  · simp only [insertDnsKey, EStateM.run] at h
    split at h
    · cases h
      exact Write.skipKey.writes
    · split at h <;> cases h
      rename_i t ht
      exact (Write.insertKey key ht).writes
  · cases inserted <;> exact readOnly_pure.commits

end Keyset

end Updates

end LibFred.RegistrableObject
