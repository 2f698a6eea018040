import LibFred.Itemwise
import LibFred.RegistrableObject.Nsset.UpdateNsset
import LibFred.Sql.Ends

/-! What the lists of hosts of an update do to an nsset. -/
namespace LibFred.RegistrableObject.Nsset

open Sql
open LibFred.Db
open Itemwise (Change Refused Tally step)

/-- The addresses of a host. -/
def addresses (db : ObjectDatabase) (hostId : Nat) : Set IpAddress :=
  {ipaddr | ∃ m ∈ db.hostIpaddrMap, m.hostid = hostId ∧ m.ipaddr = ipaddr}

/-- The hosts of an nsset, each with its addresses. -/
def hosts (nssetId : Nat) (db : ObjectDatabase) : Set (String × Set IpAddress) :=
  {x | ∃ h ∈ db.host, h.nssetid = nssetId ∧ x = (h.fqdn, addresses db h.id)}

def hostNames (nssetId : Nat) (db : ObjectDatabase) : Set String := Prod.fst '' hosts nssetId db

/-- An nsset has a host of a name once, names are in lower case, addresses are those of hosts, and
ids come from their sequences. -/
structure HostsConsistent (db : ObjectDatabase) : Prop where
  name : ∀ h ∈ db.host, ∀ h' ∈ db.host, h.nssetid = h'.nssetid → h.fqdn = h'.fqdn → h = h'
  lowerName : ∀ h ∈ db.host, lower h.fqdn = h.fqdn
  id : ∀ h ∈ db.host, h.id < db.hostSeq
  owned : ∀ m ∈ db.hostIpaddrMap, ∃ h ∈ db.host, h.id = m.hostid
  ipaddrId : ∀ m ∈ db.hostIpaddrMap, m.id < db.hostIpaddrMapSeq

variable {nssetId hostId : Nat} {db s s' : ObjectDatabase} {fqdn : String} {x : String × Set IpAddress}

theorem mem_hostNames : fqdn ∈ hostNames nssetId db ↔
    ∃ h ∈ db.host, h.nssetid = nssetId ∧ h.fqdn = fqdn := by
  constructor
  · rintro ⟨_, ⟨h, hh, hnsset, rfl⟩, rfl⟩
    exact ⟨h, hh, hnsset, rfl⟩
  · rintro ⟨h, hh, hnsset, rfl⟩
    exact ⟨_, ⟨h, hh, hnsset, rfl⟩, rfl⟩

/-- The names that a list of hosts spells, in lower case as they are stored. -/
def spelled (fqdn : String) : Option String := some (lower fqdn)

theorem spelled_eq (fqdn : String) : spelled fqdn = some (lower fqdn) := rfl

theorem HostsConsistent.namesHost_iff (hc : HostsConsistent db) {h : Host} (hh : h ∈ db.host) :
    NamesHost nssetId fqdn h ↔ h.nssetid = nssetId ∧ h.fqdn = lower fqdn := by
  rw [NamesHost, hc.lowerName h hh, and_comm]

/-- Hosts under one name are deleted together with their addresses. -/
theorem hosts_of_deleted (hc : HostsConsistent s)
    (hhost : ∀ h, h ∈ s'.host ↔ h ∈ s.host ∧ ¬ NamesHost nssetId fqdn h)
    (haddresses : ∀ h ∈ s'.host, addresses s' h.id = addresses s h.id) :
    hosts nssetId s' = {x ∈ hosts nssetId s | x.1 ≠ lower fqdn} ∧
      ∀ k, k ≠ nssetId → hosts k s' = hosts k s := by
  constructor
  · ext x
    constructor
    · rintro ⟨h, hh, hnsset, rfl⟩
      obtain ⟨hold, hnot⟩ := (hhost h).mp hh
      rw [haddresses h hh]
      exact ⟨⟨h, hold, hnsset, rfl⟩, fun hname => hnot ((hc.namesHost_iff hold).mpr ⟨hnsset, hname⟩)⟩
    · rintro ⟨⟨h, hold, hnsset, rfl⟩, hname⟩
      have hh : h ∈ s'.host :=
        (hhost h).mpr ⟨hold, fun hnames => hname ((hc.namesHost_iff hold).mp hnames).2⟩
      exact ⟨h, hh, hnsset, by rw [haddresses h hh]⟩
  · intro k hk
    ext x
    constructor
    · rintro ⟨h, hh, hnsset, rfl⟩
      rw [haddresses h hh]
      exact ⟨h, ((hhost h).mp hh).1, hnsset, rfl⟩
    · rintro ⟨h, hold, hnsset, rfl⟩
      have hh : h ∈ s'.host := (hhost h).mpr ⟨hold, fun hnames => hk (hnsset.symm.trans hnames.2)⟩
      exact ⟨h, hh, hnsset, by rw [haddresses h hh]⟩

/-- A host with an id of its own is added to those of its nsset. -/
theorem hosts_of_inserted {addrs : Set IpAddress}
    (hhost : ∀ h, h ∈ s'.host ↔ h ∈ s.host ∨ h = ⟨hostId, nssetId, fqdn⟩)
    (haddresses : ∀ h ∈ s.host, addresses s' h.id = addresses s h.id)
    (hnew : addresses s' hostId = addrs) :
    hosts nssetId s' = hosts nssetId s ∪ {(fqdn, addrs)} ∧
      ∀ k, k ≠ nssetId → hosts k s' = hosts k s := by
  constructor
  · ext x
    constructor
    · rintro ⟨h, hh, hnsset, rfl⟩
      rcases (hhost h).mp hh with hold | rfl
      · exact .inl ⟨h, hold, hnsset, by rw [haddresses h hold]⟩
      · exact .inr (by rw [hnew]; rfl)
    · rintro (⟨h, hold, hnsset, rfl⟩ | rfl)
      · exact ⟨h, (hhost h).mpr (.inl hold), hnsset, by rw [haddresses h hold]⟩
      · exact ⟨_, (hhost _).mpr (.inr rfl), rfl, by rw [hnew]⟩
  · intro k hk
    ext x
    constructor
    · rintro ⟨h, hh, hnsset, rfl⟩
      rcases (hhost h).mp hh with hold | rfl
      · exact ⟨h, hold, hnsset, by rw [haddresses h hold]⟩
      · exact absurd hnsset.symm hk
    · rintro ⟨h, hold, hnsset, rfl⟩
      exact ⟨h, (hhost h).mpr (.inl hold), hnsset, by rw [haddresses h hold]⟩

/-- What a list has made of the hosts so far; those of other nssets are left alone. -/
structure ListsHosts (nssetId : Nat) (db : ObjectDatabase) (o : Tally String String)
    (named : List String) (s : ObjectDatabase) : Prop where
  named : named = o.refused
  names : hostNames nssetId s = o.set
  state : ∃ t n t' n', s =
    { db with host := t, hostSeq := n, hostIpaddrMap := t', hostIpaddrMapSeq := n' }
  others : ∀ k, k ≠ nssetId → hosts k s = hosts k db
  consistent : HostsConsistent s

structure RemovesHosts (nssetId : Nat) (db : ObjectDatabase) (o : Tally String String)
    (named : List String) (s : ObjectDatabase) : Prop extends ListsHosts nssetId db o named s where
  hosts : hosts nssetId s = {x ∈ hosts nssetId db | x.1 ∈ o.set}

variable {o : Tally String String} {named : List String}

/-- Deleting hosts and their addresses keeps the constraints. -/
theorem HostsConsistent.deleted {t : Table Host} {t' : Table HostIpaddrMap} (hc : HostsConsistent s)
    (ht : ∀ h, h ∈ t → h ∈ s.host) (ht' : ∀ m, m ∈ t' → m ∈ s.hostIpaddrMap)
    (howned : ∀ m ∈ t', ∀ h ∈ s.host, h.id = m.hostid → h ∈ t) :
    HostsConsistent { s with host := t, hostIpaddrMap := t' } where
  name h hh h' hh' := hc.name h (ht h hh) h' (ht h' hh')
  lowerName h hh := hc.lowerName h (ht h hh)
  id h hh := hc.id h (ht h hh)
  owned m hm := by
    obtain ⟨h, hh, hid⟩ := hc.owned m (ht' m hm)
    exact ⟨h, howned m hm h hh hid, hid⟩
  ipaddrId m hm := hc.ipaddrId m (ht' m hm)

/-- One host is deleted, or none. -/
theorem run_remDnsHost (hc : HostsConsistent s) (nssetId : Nat) (named : List String)
    (fqdn : String) : ∃ named' s', (remDnsHost nssetId named fqdn).run s = .ok named' s' ∧
      (∃ t t', s' = { s with host := t, hostIpaddrMap := t' }) ∧
      (∀ h, h ∈ s'.host ↔ h ∈ s.host ∧ ¬ NamesHost nssetId fqdn h) ∧
      (∀ h ∈ s'.host, addresses s' h.id = addresses s h.id) ∧ HostsConsistent s' ∧
      (lower fqdn ∈ hostNames nssetId s ∧ named' = named ∨
        lower fqdn ∉ hostNames nssetId s ∧ named' = named ++ [fqdn]) := by
  have hone : s.host.select (NamesHost nssetId fqdn) = [] ∨
      ∃ h, s.host.select (NamesHost nssetId fqdn) = [h] := by
    refine Table.select_eq_nil_or_singleton fun a ha b hb hpa hpb => ?_
    obtain ⟨hnsset, hname⟩ := (hc.namesHost_iff ha).mp hpa
    obtain ⟨hnsset', hname'⟩ := (hc.namesHost_iff hb).mp hpb
    exact hc.name a ha b hb (hnsset.trans hnsset'.symm) (hname.trans hname'.symm)
  have hdelete : (deleteHosts nssetId fqdn).run s =
      .ok ((s.host.select (NamesHost nssetId fqdn)).map (·.id))
        { s with host := s.host.delete (NamesHost nssetId fqdn) } := rfl
  rcases hone with hnil | ⟨h₀, hsingle⟩
  · refine ⟨named ++ [fqdn], { s with host := s.host.delete (NamesHost nssetId fqdn) }, ?_,
      ⟨_, s.hostIpaddrMap, rfl⟩, fun h => Table.mem_delete, fun _ _ => rfl, ?_,
      .inr ⟨fun hin => ?_, rfl⟩⟩
    · rw [remDnsHost, run_bind_of_ok hdelete, hnil]
      rfl
    · refine hc.deleted (fun h hh => (Table.mem_delete.mp hh).1) (fun m hm => hm) fun m hm h hh hid => ?_
      refine Table.mem_delete.mpr ⟨hh, fun hp => ?_⟩
      exact List.eq_nil_iff_forall_not_mem.mp hnil h (Table.mem_select.mpr ⟨hh, hp⟩)
    · obtain ⟨h, hh, hnames⟩ := mem_hostNames.mp hin
      exact List.eq_nil_iff_forall_not_mem.mp hnil h
        (Table.mem_select.mpr ⟨hh, (hc.namesHost_iff hh).mpr hnames⟩)
  · obtain ⟨hh₀, hnames₀, honly⟩ := Table.select_eq_singleton.mp hsingle
    have hother : ∀ h ∈ s.host.delete (NamesHost nssetId fqdn), h.id ≠ h₀.id := by
      intro h hh hid
      obtain ⟨hh, hnot⟩ := Table.mem_delete.mp hh
      exact hnot (Table.eq_of_key_eq hh hh₀ hid ▸ hnames₀)
    refine ⟨named, { s with
      host := s.host.delete (NamesHost nssetId fqdn)
      hostIpaddrMap := s.hostIpaddrMap.delete (·.hostid = h₀.id) }, ?_, ⟨_, _, rfl⟩,
      fun h => Table.mem_delete, fun h hh => ?_, ?_, .inl ⟨?_, rfl⟩⟩
    · rw [remDnsHost, run_bind_of_ok hdelete, hsingle]
      rfl
    · ext ipaddr
      constructor
      · rintro ⟨m, hm, hid, rfl⟩
        exact ⟨m, (Table.mem_delete.mp hm).1, hid, rfl⟩
      · rintro ⟨m, hm, hid, rfl⟩
        exact ⟨m, Table.mem_delete.mpr ⟨hm, fun he => hother h hh (hid.symm.trans he)⟩, hid, rfl⟩
    · refine hc.deleted (fun h hh => (Table.mem_delete.mp hh).1) (fun m hm => (Table.mem_delete.mp hm).1)
        fun m hm h hh hid => ?_
      refine Table.mem_delete.mpr ⟨hh, fun hp => (Table.mem_delete.mp hm).2 ?_⟩
      rw [← hid, honly h hh hp]
    · exact mem_hostNames.mpr ⟨h₀, hh₀, (hc.namesHost_iff hh₀).mp hnames₀⟩

theorem ends_remDnsHost (hs : RemovesHosts nssetId db o named s) (fqdn : String) :
    Ends (remDnsHost nssetId named fqdn) s (RemovesHosts nssetId db (step spelled .take o fqdn))
      fun _ => False := by
  obtain ⟨named', s', hrun, ⟨t, t', hs'⟩, hhost, haddresses, hconsistent, hnamed⟩ :=
    run_remDnsHost hs.consistent nssetId named fqdn
  obtain ⟨hhosts, hothers⟩ := hosts_of_deleted hs.consistent hhost haddresses
  have hstate : ∃ t₁ n t₁' n', s' =
      { db with host := t₁, hostSeq := n, hostIpaddrMap := t₁', hostIpaddrMapSeq := n' } := by
    obtain ⟨_, _, _, _, hstate⟩ := hs.state
    rw [hs', hstate]
    exact ⟨_, _, _, _, rfl⟩
  have hhosts' : Nsset.hosts nssetId s' =
      {x ∈ Nsset.hosts nssetId db | x.1 ∈ o.set \ {lower fqdn}} := by
    rw [hhosts, hs.hosts]
    ext x
    exact and_assoc
  have hnames : hostNames nssetId s' = o.set \ {lower fqdn} := by
    rw [← hs.names, hostNames, hhosts]
    ext name
    constructor
    · rintro ⟨x, ⟨hx, hne⟩, rfl⟩
      exact ⟨⟨x, hx, rfl⟩, hne⟩
    · rintro ⟨⟨x, hx, rfl⟩, hne⟩
      exact ⟨x, ⟨hx, hne⟩, rfl⟩
  refine ends_of_run hrun ?_
  by_cases hin : Change.take.Done o.set (lower fqdn)
  · rw [Itemwise.step_refused (spelled_eq fqdn) hin]
    have hsame : o.set \ {lower fqdn} = o.set := Set.sdiff_singleton_eq_self hin
    rw [hsame] at hhosts' hnames
    obtain ⟨hmem, -⟩ | ⟨-, rfl⟩ := hnamed
    · exact absurd (hs.names ▸ hmem) hin
    · exact ⟨⟨congrArg (· ++ [fqdn]) hs.named, hnames, hstate,
        fun k hk => (hothers k hk).trans (hs.others k hk), hconsistent⟩, hhosts'⟩
  · rw [Itemwise.step_changes (spelled_eq fqdn) hin]
    obtain ⟨-, rfl⟩ | ⟨hmem, -⟩ := hnamed
    · exact ⟨⟨hs.named, hnames, hstate, fun k hk => (hothers k hk).trans (hs.others k hk), hconsistent⟩,
        hhosts'⟩
    · exact absurd (hs.names ▸ hmem) hin

section Addresses

variable {ipaddr : IpAddress} {p : List IpAddress} {e e' : HostErrors}

/-- The addresses of a new host as far as they are added. -/
structure AddsAddresses (hostId : Nat) (e : HostErrors) (db : ObjectDatabase) (p : List IpAddress)
    (e' : HostErrors) (s : ObjectDatabase) : Prop where
  alreadySet : e'.alreadySet = e.alreadySet
  invalidIpaddr : e'.invalidIpaddr = e.invalidIpaddr ++ p.filter fun ipaddr => !isInet ipaddr
  addresses : addresses s hostId = addresses db hostId ∪ {ipaddr | ipaddr ∈ p ∧ isInet ipaddr}
  state : ∃ t n, s = { db with hostIpaddrMap := t, hostIpaddrMapSeq := n }
  others : ∀ id, id ≠ hostId → Nsset.addresses s id = Nsset.addresses db id
  consistent : HostsConsistent s

theorem run_insertIpaddr (hc : HostsConsistent s) (hostId nssetId : Nat) (h : isInet ipaddr) :
    ∃ t, (insertIpaddr hostId nssetId ipaddr).run s =
        .ok true { s with hostIpaddrMap := t, hostIpaddrMapSeq := s.hostIpaddrMapSeq + 1 } ∧
      ∀ m, m ∈ t ↔ m ∈ s.hostIpaddrMap ∨ m = ⟨s.hostIpaddrMapSeq, hostId, nssetId, ipaddr⟩ := by
  have hfresh : ∀ m ∈ s.hostIpaddrMap,
      Keyed.key m ≠ Keyed.key (⟨s.hostIpaddrMapSeq, hostId, nssetId, ipaddr⟩ : HostIpaddrMap) :=
    fun m hm => (hc.ipaddrId m hm).ne
  obtain ⟨t, ht⟩ := Table.exists_insert? hfresh
  refine ⟨t, ?_, fun m => Table.mem_of_insert? ht⟩
  simp only [insertIpaddr, EStateM.run]
  rw [if_pos h, ht]

theorem addresses_of_inserted {id nssetId : Nat} (h : ∀ m, m ∈ s'.hostIpaddrMap ↔
      m ∈ s.hostIpaddrMap ∨ m = ⟨id, hostId, nssetId, ipaddr⟩) :
    Nsset.addresses s' hostId = Nsset.addresses s hostId ∪ {ipaddr} ∧
      ∀ id, id ≠ hostId → Nsset.addresses s' id = Nsset.addresses s id := by
  constructor
  · ext a
    constructor
    · rintro ⟨m, hm, hid, rfl⟩
      rcases (h m).mp hm with hm | rfl
      · exact .inl ⟨m, hm, hid, rfl⟩
      · exact .inr rfl
    · rintro (⟨m, hm, hid, rfl⟩ | rfl)
      · exact ⟨m, (h m).mpr (.inl hm), hid, rfl⟩
      · exact ⟨_, (h _).mpr (.inr rfl), rfl, rfl⟩
  · intro k hk
    ext a
    constructor
    · rintro ⟨m, hm, hid, rfl⟩
      rcases (h m).mp hm with hm | rfl
      · exact ⟨m, hm, hid, rfl⟩
      · exact absurd hid.symm hk
    · rintro ⟨m, hm, hid, rfl⟩
      exact ⟨m, (h m).mpr (.inl hm), hid, rfl⟩

theorem HostsConsistent.insertedIpaddr {t : Table HostIpaddrMap} {nssetId : Nat}
    (hc : HostsConsistent s) (hhost : ∃ h ∈ s.host, h.id = hostId) (ht : ∀ m, m ∈ t ↔
      m ∈ s.hostIpaddrMap ∨ m = ⟨s.hostIpaddrMapSeq, hostId, nssetId, ipaddr⟩) :
    HostsConsistent { s with hostIpaddrMap := t, hostIpaddrMapSeq := s.hostIpaddrMapSeq + 1 } := by
  refine ⟨hc.name, hc.lowerName, hc.id, fun m hm => ?_, fun m hm => ?_⟩
  · rcases (ht m).mp hm with hm | rfl
    · exact hc.owned m hm
    · exact hhost
  · change m.id < s.hostIpaddrMapSeq + 1
    rcases (ht m).mp hm with hm | rfl
    · exact (hc.ipaddrId m hm).trans (Nat.lt_succ_self _)
    · exact Nat.lt_succ_self _

theorem inet_concat (p : List IpAddress) (ipaddr : IpAddress) :
    {a | a ∈ p ++ [ipaddr] ∧ isInet a} = {a | a ∈ p ∧ isInet a} ∪ {a | a = ipaddr ∧ isInet a} := by
  ext a
  simp only [List.mem_append, List.mem_singleton, Set.mem_union, Set.mem_ofPred_eq, or_and_right]

theorem ends_addIpaddr (hs : AddsAddresses hostId e db p e' s) (hhost : ∃ h ∈ s.host, h.id = hostId)
    (ipaddr : IpAddress) : Ends (addIpaddr hostId nssetId e' ipaddr) s
      (AddsAddresses hostId e db (p ++ [ipaddr])) fun _ => False := by
  by_cases hinet : isInet ipaddr
  · obtain ⟨t, hrun, ht⟩ := run_insertIpaddr hs.consistent hostId nssetId hinet
    obtain ⟨haddresses, hothers⟩ : Nsset.addresses { s with
        hostIpaddrMap := t, hostIpaddrMapSeq := s.hostIpaddrMapSeq + 1 } hostId = _ ∧ _ :=
      addresses_of_inserted ht
    refine ends_of_run (a := e') (run_bind_of_ok hrun) ?_
    refine ⟨hs.alreadySet, ?_, ?_, ?_, ?_, ?_⟩
    · rw [hs.invalidIpaddr, List.filter_append]
      simp [hinet]
    · have hone : {a | a = ipaddr ∧ isInet a} = {ipaddr} := by
        refine Set.ext fun a => and_iff_left_of_imp ?_
        rintro rfl
        exact hinet
      rw [haddresses, hs.addresses, inet_concat, hone, Set.union_assoc]
    · obtain ⟨_, _, hstate⟩ := hs.state
      exact ⟨t, s.hostIpaddrMapSeq + 1, by rw [hstate]⟩
    · exact fun id hid => (hothers id hid).trans (hs.others id hid)
    · exact hs.consistent.insertedIpaddr hhost ht
  · have hrun : (insertIpaddr hostId nssetId ipaddr).run s = .ok false s := if_neg hinet
    refine ends_of_run (run_bind_of_ok hrun) (a := { e' with
      invalidIpaddr := e'.invalidIpaddr ++ [ipaddr] }) ?_
    refine ⟨hs.alreadySet, ?_, ?_, hs.state, hs.others, hs.consistent⟩
    · rw [List.filter_append, ← List.append_assoc, ← hs.invalidIpaddr]
      simp [hinet]
    · have hnone : {a | a = ipaddr ∧ isInet a} = ∅ := by
        refine Set.eq_empty_of_forall_notMem ?_
        rintro a ⟨rfl, ha⟩
        exact hinet ha
      rw [hs.addresses, inet_concat, hnone, Set.union_empty]

theorem ends_addIpaddrs (hc : HostsConsistent db) (hhost : ∃ h ∈ db.host, h.id = hostId)
    (ipaddrs : List IpAddress) : Ends (ipaddrs.foldlM (addIpaddr hostId nssetId) e) db
      (AddsAddresses hostId e db ipaddrs) fun _ => False := by
  refine ends_foldlM ipaddrs (fun p ipaddr e' s hs => ends_addIpaddr hs ?_ ipaddr)
    ⟨rfl, by simp, by simp, ⟨_, _, rfl⟩, fun _ _ => rfl, hc⟩
  obtain ⟨_, _, hstate⟩ := hs.state
  rw [hstate]
  exact hhost

end Addresses

/-- The hosts that a list adds, under the names as they are stored. -/
def added (add : List DnsHost) : Set (String × Set IpAddress) :=
  {x | ∃ host ∈ add, x = (lower host.fqdn, {ipaddr | ipaddr ∈ host.inetAddr})}

/-- The addresses of hosts to be added that are none to the database. -/
def invalid (add : List DnsHost) : List IpAddress :=
  (add.flatMap (·.inetAddr)).filter fun ipaddr => !isInet ipaddr

/-- The hosts of a list as far as they are added: all of them, once none is wrong. -/
structure AddsHosts (nssetId : Nat) (db : ObjectDatabase) (p : List DnsHost) (e : HostErrors)
    (s : ObjectDatabase) : Prop extends
    ListsHosts nssetId db ((p.map (·.fqdn)).foldl (step spelled .put) ⟨hostNames nssetId db, [], []⟩)
      e.alreadySet s where
  invalidIpaddr : e.invalidIpaddr.Sublist (invalid p)
  allInvalid : e.alreadySet = [] → e.invalidIpaddr = invalid p
  hosts : e.alreadySet = [] → e.invalidIpaddr = [] → hosts nssetId s = hosts nssetId db ∪ added p

theorem addsHosts_refl (hc : HostsConsistent db) : AddsHosts nssetId db [] {} db := by
  refine ⟨⟨rfl, rfl, ⟨_, _, _, _, rfl⟩, fun _ _ => rfl, hc⟩, .slnil, fun _ => rfl, fun _ _ => ?_⟩
  simp [added]

theorem invalid_concat (p : List DnsHost) (host : DnsHost) : invalid (p ++ [host]) =
    invalid p ++ host.inetAddr.filter fun ipaddr => !isInet ipaddr := by
  simp only [invalid, List.flatMap_append, List.flatMap_singleton, List.filter_append]

theorem added_concat (p : List DnsHost) (host : DnsHost) : added (p ++ [host]) =
    added p ∪ {(lower host.fqdn, {ipaddr | ipaddr ∈ host.inetAddr})} := by
  ext x
  simp only [added, List.mem_append, List.mem_singleton, Set.mem_union, Set.mem_ofPred_eq,
    Set.mem_singleton_iff, or_and_right, exists_or, exists_eq_left]

theorem run_insertHost_of_named (h : lower fqdn ∈ hostNames nssetId s) :
    (insertHost nssetId fqdn).run s = .ok none { s with hostSeq := s.hostSeq + 1 } := by
  obtain ⟨h₀, hh₀, hnsset, hname⟩ := mem_hostNames.mp h
  have hfound : s.host.select (fun h => h.nssetid = nssetId ∧ h.fqdn = lower fqdn) ≠ [] :=
    List.ne_nil_of_mem (Table.mem_select.mpr ⟨hh₀, hnsset, hname⟩)
  simp only [insertHost, EStateM.run]
  exact if_pos hfound

theorem run_insertHost (hc : HostsConsistent s) (h : lower fqdn ∉ hostNames nssetId s) :
    ∃ t, (insertHost nssetId fqdn).run s =
        .ok (some s.hostSeq) { s with host := t, hostSeq := s.hostSeq + 1 } ∧
      ∀ h, h ∈ t ↔ h ∈ s.host ∨ h = ⟨s.hostSeq, nssetId, lower fqdn⟩ := by
  have hnone : s.host.select (fun h => h.nssetid = nssetId ∧ h.fqdn = lower fqdn) = [] := by
    refine List.eq_nil_iff_forall_not_mem.mpr fun h₀ hh₀ => h (mem_hostNames.mpr ⟨h₀, ?_⟩)
    exact Table.mem_select.mp hh₀
  have hfresh : ∀ h ∈ s.host, Keyed.key h ≠ Keyed.key (⟨s.hostSeq, nssetId, lower fqdn⟩ : Host) :=
    fun h hh => (hc.id h hh).ne
  obtain ⟨t, ht⟩ := Table.exists_insert? hfresh
  refine ⟨t, ?_, fun h => Table.mem_of_insert? ht⟩
  simp only [insertHost, EStateM.run]
  rw [if_neg (not_not.mpr hnone), ht]

theorem HostsConsistent.inserted {t : Table Host} (hc : HostsConsistent s)
    (hnew : lower fqdn ∉ hostNames nssetId s)
    (ht : ∀ h, h ∈ t ↔ h ∈ s.host ∨ h = ⟨s.hostSeq, nssetId, lower fqdn⟩) :
    HostsConsistent { s with host := t, hostSeq := s.hostSeq + 1 } := by
  refine ⟨fun h hh h' hh' hnsset hname => ?_, fun h hh => ?_, fun h hh => ?_, fun m hm => ?_,
    hc.ipaddrId⟩
  · rcases (ht h).mp hh with hh | rfl
    · rcases (ht h').mp hh' with hh' | rfl
      · exact hc.name h hh h' hh' hnsset hname
      · exact absurd (mem_hostNames.mpr ⟨h, hh, hnsset, hname⟩) hnew
    · rcases (ht h').mp hh' with hh' | rfl
      · exact absurd (mem_hostNames.mpr ⟨h', hh', hnsset.symm, hname.symm⟩) hnew
      · rfl
  · rcases (ht h).mp hh with hh | rfl
    · exact hc.lowerName h hh
    · exact lower_lower fqdn
  · change h.id < s.hostSeq + 1
    rcases (ht h).mp hh with hh | rfl
    · exact (hc.id h hh).trans (Nat.lt_succ_self _)
    · exact Nat.lt_succ_self _
  · obtain ⟨h, hh, hid⟩ := hc.owned m hm
    exact ⟨h, (ht h).mpr (.inl hh), hid⟩

theorem hostNames_of_inserted {addrs : Set IpAddress}
    (h : hosts nssetId s' = hosts nssetId s ∪ {(fqdn, addrs)}) :
    hostNames nssetId s' = hostNames nssetId s ∪ {fqdn} := by
  rw [hostNames, h, Set.image_union, Set.image_singleton, hostNames]

/-- A host that is new gets its addresses. -/
theorem ends_addNewHost {e : HostErrors} (hc : HostsConsistent s) (host : DnsHost)
    (hnew : lower host.fqdn ∉ hostNames nssetId s) :
    Ends (addDnsHost nssetId e host) s (fun e' s' =>
      e'.alreadySet = e.alreadySet ∧
      e'.invalidIpaddr = e.invalidIpaddr ++ host.inetAddr.filter (fun ipaddr => !isInet ipaddr) ∧
      (∃ t n t' n', s' =
        { s with host := t, hostSeq := n, hostIpaddrMap := t', hostIpaddrMapSeq := n' }) ∧
      hosts nssetId s' = hosts nssetId s ∪
        {(lower host.fqdn, {ipaddr | ipaddr ∈ host.inetAddr ∧ isInet ipaddr})} ∧
      (∀ k, k ≠ nssetId → hosts k s' = hosts k s) ∧ HostsConsistent s') fun _ => False := by
  obtain ⟨t, hrun, ht⟩ := run_insertHost hc hnew
  have hc₁ := hc.inserted hnew ht
  generalize hs₁ : { s with host := t, hostSeq := s.hostSeq + 1 } = s₁ at hrun hc₁
  have hhost : ∃ h ∈ s₁.host, h.id = s.hostSeq := by
    rw [← hs₁]
    exact ⟨_, (ht _).mpr (.inr rfl), rfl⟩
  refine ends_bind (ends_of_run hrun (Q := fun id s' => id = some s.hostSeq ∧ s' = s₁) ⟨rfl, rfl⟩) ?_
  rintro id s' ⟨rfl, rfl⟩
  refine (ends_addIpaddrs hc₁ hhost host.inetAddr).mono (fun e' s₂ h => ?_) fun _ h => h
  obtain ⟨t', n', hstate⟩ := h.state
  have hnone : addresses s' s.hostSeq = ∅ := by
    rw [← hs₁]
    refine Set.eq_empty_of_forall_notMem ?_
    rintro ipaddr ⟨m, hm, hid, -⟩
    obtain ⟨h₀, hh₀, hh₀id⟩ := hc.owned m hm
    have hlt := hc.id h₀ hh₀
    omega
  have hinserted : ∀ h, h ∈ s₂.host ↔ h ∈ s.host ∨ h = ⟨s.hostSeq, nssetId, lower host.fqdn⟩ := by
    rw [hstate, ← hs₁]
    exact ht
  have haddresses : ∀ h ∈ s.host, addresses s₂ h.id = addresses s h.id := by
    intro h₀ hh₀
    rw [h.others h₀.id (hc.id h₀ hh₀).ne, ← hs₁]
    rfl
  have hown : addresses s₂ s.hostSeq = {ipaddr | ipaddr ∈ host.inetAddr ∧ isInet ipaddr} := by
    rw [h.addresses, hnone, Set.empty_union]
  obtain ⟨hhosts, hothers⟩ := hosts_of_inserted hinserted haddresses hown
  refine ⟨h.alreadySet, h.invalidIpaddr, ?_, hhosts, hothers, h.consistent⟩
  rw [hstate, ← hs₁]
  exact ⟨_, _, _, _, rfl⟩

theorem ends_addDnsHost {p : List DnsHost} {e : HostErrors} (hs : AddsHosts nssetId db p e s)
    (host : DnsHost) : Ends (addDnsHost nssetId e host) s (AddsHosts nssetId db (p ++ [host]))
      fun _ => False := by
  have hconcat : ((p ++ [host]).map (·.fqdn)).foldl (step spelled .put) ⟨hostNames nssetId db, [], []⟩ =
      step spelled .put ((p.map (·.fqdn)).foldl (step spelled .put) ⟨hostNames nssetId db, [], []⟩)
        host.fqdn := by
    rw [List.map_append, List.foldl_append]
    rfl
  have hkey := spelled_eq host.fqdn
  by_cases hin : Change.put.Done
    ((p.map (·.fqdn)).foldl (step spelled .put) ⟨hostNames nssetId db, [], []⟩).set (lower host.fqdn)
  · have hrun : (insertHost nssetId host.fqdn).run s = .ok none { s with hostSeq := s.hostSeq + 1 } :=
      run_insertHost_of_named (hs.names.symm ▸ hin)
    refine ends_of_run (run_bind_of_ok hrun)
      (a := { e with alreadySet := e.alreadySet ++ [host.fqdn] }) ?_
    refine ⟨?_, ?_, fun hnone => ?_, fun hnone => ?_⟩
    · rw [hconcat, Itemwise.step_refused hkey hin]
      refine ⟨congrArg (· ++ [host.fqdn]) hs.named, hs.names, ?_, hs.others, ?_⟩
      · obtain ⟨_, _, _, _, hstate⟩ := hs.state
        rw [hstate]
        exact ⟨_, _, _, _, rfl⟩
      · obtain ⟨hname, hlower, hid, howned, hipaddr⟩ := hs.consistent
        exact ⟨hname, hlower, fun h hh => (hid h hh).trans (Nat.lt_succ_self _), howned, hipaddr⟩
    · rw [invalid_concat]
      exact hs.invalidIpaddr.trans (List.sublist_append_left _ _)
    · simp at hnone
    · simp at hnone
  · have hnew : lower host.fqdn ∉ hostNames nssetId s := fun h => hin (hs.names ▸ h)
    refine (ends_addNewHost hs.consistent host hnew).mono (fun e' s' h => ?_) fun _ h => h
    obtain ⟨halready, hinvalid, ⟨t, n, t', n', hstate'⟩, hhosts, hothers, hconsistent⟩ := h
    refine ⟨?_, ?_, fun hset => ?_, fun hset hinet => ?_⟩
    · rw [hconcat, Itemwise.step_changes hkey hin]
      refine ⟨halready.trans hs.named, ?_, ?_, fun k hk => (hothers k hk).trans (hs.others k hk),
        hconsistent⟩
      · rw [hostNames_of_inserted hhosts, hs.names]
        rfl
      · obtain ⟨_, _, _, _, hstate⟩ := hs.state
        rw [hstate', hstate]
        exact ⟨_, _, _, _, rfl⟩
    · rw [hinvalid, invalid_concat]
      exact hs.invalidIpaddr.append (.refl _)
    · rw [hinvalid, hs.allInvalid (halready ▸ hset), invalid_concat]
    · rw [hinvalid, List.append_eq_nil_iff, List.filter_eq_nil_iff] at hinet
      rw [hhosts, hs.hosts (halready ▸ hset) hinet.1, added_concat, Set.union_assoc]
      have hall : {ipaddr | ipaddr ∈ host.inetAddr ∧ isInet ipaddr} =
          {ipaddr | ipaddr ∈ host.inetAddr} := by
        refine Set.ext fun ipaddr => and_iff_left_of_imp fun hmem => ?_
        simpa using hinet.2 ipaddr hmem
      rw [hall]

theorem ends_remDnsHosts (hc : HostsConsistent db) (nssetId : Nat) (rem : List String) :
    Ends (rem.foldlM (remDnsHost nssetId) []) db
      (RemovesHosts nssetId db (rem.foldl (step spelled .take) ⟨hostNames nssetId db, [], []⟩))
      fun _ => False := by
  refine ends_foldlM (P := fun p => RemovesHosts nssetId db
    (p.foldl (step spelled .take) ⟨hostNames nssetId db, [], []⟩)) rem (fun p fqdn named s hs => ?_) ?_
  · rw [List.foldl_append]
    exact ends_remDnsHost hs fqdn
  · refine ⟨⟨rfl, rfl, ⟨_, _, _, _, rfl⟩, fun _ _ => rfl, hc⟩, ?_⟩
    exact (Set.sep_eq_self_iff_mem_true.mpr fun x hx => ⟨x, hx, rfl⟩).symm

theorem ends_addDnsHosts (hc : HostsConsistent db) (nssetId : Nat) (add : List DnsHost) :
    Ends (add.foldlM (addDnsHost nssetId) {}) db (AddsHosts nssetId db add) fun _ => False :=
  ends_foldlM add (fun _ host _ _ hs => ends_addDnsHost hs host) (addsHosts_refl hc)

/-- The names of a list in lower case. -/
def lowerNames (fqdns : List String) : Set String := {name | ∃ fqdn ∈ fqdns, lower fqdn = name}

/-- The hosts that are wrong are named, and no others. One that stands in its list twice is wrong
the second time; those to be added may be among those to be removed. Invalid addresses of a host are
named as well, unless the host is. -/
structure NamesHosts (nssetId : Nat) (add : List DnsHost) (rem : List String) (db : ObjectDatabase)
    (alreadySet unassigned : List String) (invalidIpaddr : List IpAddress) : Prop where
  allInvalid : alreadySet = [] → invalidIpaddr = invalid add
  invalidIpaddr : invalidIpaddr.Sublist (invalid add)
  alreadySet : ∀ fqdn, fqdn ∈ alreadySet ↔
    Refused spelled .put (hostNames nssetId db \ lowerNames rem) (add.map (·.fqdn)) fqdn
  unassigned : ∀ fqdn, fqdn ∈ unassigned ↔ Refused spelled .take (hostNames nssetId db) rem fqdn

/-- The set law of hosts. -/
structure UpdatesHosts (nssetId : Nat) (add : List DnsHost) (rem : List String)
    (db db' : ObjectDatabase) : Prop where
  hosts : hosts nssetId db' = {x ∈ hosts nssetId db | x.1 ∉ lowerNames rem} ∪ added add
  others : ∀ k, k ≠ nssetId → Nsset.hosts k db' = Nsset.hosts k db

theorem keys_spelled (rem : List String) : Itemwise.keys spelled rem = lowerNames rem := by
  ext name
  simp only [Itemwise.mem_keys, spelled_eq, Option.some.injEq]
  exact Iff.rfl

theorem RemovesHosts.names_eq {rem : List String}
    (h : RemovesHosts nssetId db (rem.foldl (step spelled .take) ⟨hostNames nssetId db, [], []⟩)
      named s) : hostNames nssetId s = hostNames nssetId db \ lowerNames rem := by
  rw [h.names, Itemwise.set_foldl, keys_spelled]
  rfl

variable {add : List DnsHost} {rem : List String} {s₁ : ObjectDatabase} {e : HostErrors}

/-- The hosts to be removed come first. -/
theorem RemovesHosts.namesHosts
    (h₁ : RemovesHosts nssetId db (rem.foldl (step spelled .take) ⟨hostNames nssetId db, [], []⟩)
      named s₁) (h₂ : AddsHosts nssetId s₁ add e s) :
    NamesHosts nssetId add rem db e.alreadySet named e.invalidIpaddr := by
  refine ⟨h₂.allInvalid, h₂.invalidIpaddr, fun fqdn => ?_, fun fqdn => ?_⟩
  · rw [h₂.named, Itemwise.mem_refused_foldl, h₁.names_eq]
    simp
  · rw [h₁.named, Itemwise.mem_refused_foldl]
    simp

/-- Once no host is set already and no address is invalid, the lists do what the set law says. -/
theorem RemovesHosts.updates
    (h₁ : RemovesHosts nssetId db (rem.foldl (step spelled .take) ⟨hostNames nssetId db, [], []⟩)
      named s₁) (h₂ : AddsHosts nssetId s₁ add e s) (halready : e.alreadySet = [])
    (hinvalid : e.invalidIpaddr = []) : UpdatesHosts nssetId add rem db s := by
  refine ⟨?_, fun k hk => (h₂.others k hk).trans (h₁.others k hk)⟩
  rw [h₂.hosts halready hinvalid, h₁.hosts]
  refine congrArg (· ∪ added add) (Set.ext fun x => and_congr_right fun hx => ?_)
  rw [Itemwise.set_foldl, keys_spelled]
  exact and_iff_right ⟨x, hx, rfl⟩

end LibFred.RegistrableObject.Nsset
