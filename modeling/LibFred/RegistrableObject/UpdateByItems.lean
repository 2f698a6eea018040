import LibFred.RegistrableObject.Contact.MergeDryRun
import LibFred.RegistrableObject.Domain.DomainUpdates
import LibFred.RegistrableObject.Keyset.KeysetUpdates
import LibFred.RegistrableObject.Nsset.NssetUpdates

/-! Updates of domains, nssets and keysets by lists of items. -/
namespace LibFred.RegistrableObject

open Sql
open LibFred.Db
open LibFred.RegistrableObject.Contact (RegistrarKnown emptyContact idleProcedures)
open LibFred.RegistrableObject.Domain (UpdateDomain)
open LibFred.RegistrableObject.Nsset (HostsConsistent UpdateNsset)
open LibFred.RegistrableObject.Keyset (KeysConsistent UpdateKeyset)

/-- What the unique indexes, the foreign keys and the sequences of the database guarantee. -/
structure UpdatesConsistent (db : ObjectDatabase) : Prop where
  objects : ObjectsConsistent db.toDatabase
  nsset : ∀ o ∈ db.objectRegistry, o.type = .nsset → o.erdate = none → (db.nsset.lookup o.id).isSome
  hosts : HostsConsistent db
  keys : KeysConsistent db

/-- Contacts are added before others are removed, hosts and keys are removed before others are added,
and all that an update does not mention is kept. An update that nothing refuses before it comes to
its lists names exactly the items that are wrong. -/
theorem update_by_items (settings : UpdateSettings) (db : ObjectDatabase) :
    (∀ (op : UpdateDomain) historyId db', (op.exec settings).run db = .ok historyId db' →
      ∃ found, op.selectDomain db = [found] ∧ op.Updates found.1 historyId db db') ∧
    (∀ (op : UpdateNsset) historyId db', HostsConsistent db →
      (op.exec settings).run db = .ok historyId db' →
      ∃ nssetId, objectIdOf db.toDatabase .nsset op.handle = some nssetId ∧
        op.Updates nssetId historyId db db') ∧
    (∀ (op : UpdateKeyset) historyId db', (op.exec settings).run db = .ok historyId db' →
      ∃ keysetId, objectIdOf db.toDatabase .keyset op.handle = some keysetId ∧
        op.Updates keysetId historyId db db') ∧
    (∀ (op : UpdateDomain) domainId, UpdatesConsistent db → op.Settable domainId db →
      Recordable settings.authinfo op.updateObject db.toDatabase →
      ∃ e, op.Names domainId db e ∧
        ∀ e', Raises (op.exec settings) db (.domain e') ↔ e ≠ {} ∧ e' = e) ∧
    (∀ op : UpdateNsset, UpdatesConsistent db →
      Recordable settings.authinfo op.updateObject db.toDatabase →
      ∃ nssetId e, objectIdOf db.toDatabase .nsset op.handle = some nssetId ∧ op.Names nssetId db e ∧
        ∀ e', Raises (op.exec settings) db (.nsset e') ↔ e ≠ {} ∧ e' = e) ∧
    ∀ op : UpdateKeyset, UpdatesConsistent db →
      Recordable settings.authinfo op.updateObject db.toDatabase →
      ∃ keysetId e, objectIdOf db.toDatabase .keyset op.handle = some keysetId ∧ op.Names keysetId db e ∧
        ∀ e', Raises (op.exec settings) db (.keyset e') ↔ e ≠ {} ∧ e' = e :=
  ⟨fun _ _ _ => UpdateDomain.updates_of_ok, fun _ _ _ => UpdateNsset.updates_of_ok,
    fun _ _ _ => UpdateKeyset.updates_of_ok, fun _ _ hc => UpdateDomain.raises_iff hc.objects,
    fun _ hc => UpdateNsset.raises_iff hc.objects hc.hosts hc.nsset,
    fun _ hc => UpdateKeyset.raises_iff hc.objects hc.keys⟩

/-- A domain and an nsset with a contact, and a keyset without one. -/
def listsDatabase : Database :=
  { Database.empty with
    now := 50
    registrar := ⟨[⟨8, "REG-LISTS"⟩], by decide⟩
    objectRegistry := ⟨[⟨11, 0, "C11-CZ", "FIRST", .contact, 21, 0, none, some 21, some 21⟩,
      ⟨12, 0, "C12-CZ", "SECOND", .contact, 22, 0, none, some 22, some 22⟩,
      ⟨13, 0, "D13-CZ", "lists.cz", .domain, 23, 0, none, some 23, some 23⟩,
      ⟨14, 0, "N14-CZ", "NS-LISTS", .nsset, 24, 0, none, some 24, some 24⟩,
      ⟨15, 0, "K15-CZ", "KEY-LISTS", .keyset, 25, 0, none, some 25, some 25⟩], by decide⟩
    object := ⟨[⟨11, 8, none, none, none⟩, ⟨12, 8, none, none, none⟩, ⟨13, 8, none, none, none⟩,
      ⟨14, 8, none, none, none⟩, ⟨15, 8, none, none, none⟩], by decide⟩
    history := ⟨[⟨21, 0, none⟩, ⟨22, 0, none⟩, ⟨23, 0, none⟩, ⟨24, 0, none⟩, ⟨25, 0, none⟩], by decide⟩
    historySeq := 26
    contact := ⟨[emptyContact 11, emptyContact 12], by decide⟩ }

def listsDb : ObjectDatabase :=
  { ObjectDatabase.ofDatabase listsDatabase with
    zone := ⟨[⟨9, false, ['c', 'z'], 1, 12, 120, 0⟩], by decide⟩
    domain := ⟨[⟨13, 9, 11, none, 100, none⟩], by decide⟩
    domainContactMap := ⟨[⟨13, 11, 1⟩], by decide⟩
    nsset := ⟨[⟨14, 3⟩], by decide⟩
    nssetContactMap := ⟨[⟨14, 11⟩], by decide⟩
    host := ⟨[⟨1, 14, "a.cz"⟩, ⟨2, 14, "b.cz"⟩], by decide⟩
    hostSeq := 3
    hostIpaddrMap := ⟨[⟨1, 1, 14, .v4 ⟨10, by decide⟩⟩], by decide⟩
    hostIpaddrMapSeq := 2
    keyset := ⟨[⟨15⟩], by decide⟩
    dnskey := ⟨[⟨1, 15, ⟨257, 3, 5, "AQ=="⟩⟩], by decide⟩
    dnskeySeq := 2 }

def listsSettings : UpdateSettings := ⟨⟨LibFred.Object.plaintextStorage, "", 14⟩, idleProcedures⟩

/-- The second contact is added and removed. -/
def domainLists : UpdateDomain where
  fqdn := "Lists.cz."
  registrar := "reg-lists"
  addAdminContact := ["second"]
  remAdminContact := ["SECOND", "first"]

/-- The first host is removed and added, with another address. -/
def nssetLists : UpdateNsset where
  handle := "ns-lists"
  registrar := "REG-LISTS"
  addTechContact := ["SECOND"]
  addDns := [⟨"A.cz", [.v4 ⟨11, by decide⟩]⟩]
  remDns := ["a.CZ"]

/-- The key is removed and added. -/
def keysetLists : UpdateKeyset where
  handle := "KEY-LISTS"
  registrar := "REG-LISTS"
  addTechContact := ["first"]
  addDnsKey := [⟨257, 3, 5, "AQ=="⟩]
  remDnsKey := [⟨257, 3, 5, "AQ=="⟩]

theorem updatesConsistent_listsDb : UpdatesConsistent listsDb where
  objects :=
    { registrarHandle := (by decide : ∀ r ∈ listsDb.registrar.rows, ∀ r' ∈ listsDb.registrar.rows,
        r.handle = r'.handle → r = r')
      uniqueNames := (by decide : ∀ o ∈ listsDb.objectRegistry.rows,
        ∀ o' ∈ listsDb.objectRegistry.rows, o.type = o'.type → o.name = o'.name → o.erdate = none →
          o'.erdate = none → o = o')
      historyId := (by decide : ∀ h ∈ listsDb.history.rows, h.id < listsDb.historySeq)
      authinfoId := (by decide : ∀ a ∈ listsDb.objectAuthinfo.rows, a.id < listsDb.objectAuthinfoSeq) }
  nsset := (by decide : ∀ o ∈ listsDb.objectRegistry.rows, o.type = .nsset → o.erdate = none →
    (listsDb.nsset.lookup o.id).isSome)
  hosts :=
    { name := (by decide : ∀ h ∈ listsDb.host.rows, ∀ h' ∈ listsDb.host.rows,
        h.nssetid = h'.nssetid → h.fqdn = h'.fqdn → h = h')
      lowerName := (by decide : ∀ h ∈ listsDb.host.rows, lower h.fqdn = h.fqdn)
      id := (by decide : ∀ h ∈ listsDb.host.rows, h.id < listsDb.hostSeq)
      owned := (by decide : ∀ m ∈ listsDb.hostIpaddrMap.rows, ∃ h ∈ listsDb.host.rows,
        h.id = m.hostid)
      ipaddrId := (by decide : ∀ m ∈ listsDb.hostIpaddrMap.rows, m.id < listsDb.hostIpaddrMapSeq) }
  keys :=
    { key := (by decide : ∀ k ∈ listsDb.dnskey.rows, ∀ k' ∈ listsDb.dnskey.rows,
        k.keysetid = k'.keysetid → k.dnsKey = k'.dnsKey → k = k')
      id := (by decide : ∀ k ∈ listsDb.dnskey.rows, k.id < listsDb.dnskeySeq) }

theorem registrarKnown_lists {registrar : String} (h : upper registrar = "REG-LISTS") :
    RegistrarKnown listsDatabase registrar :=
  ⟨⟨8, "REG-LISTS"⟩, List.mem_singleton_self _, h.symm⟩

/-- Of the contacts to be added one is unknown and one is there, and one to be removed is not. -/
def wrongDomainLists : UpdateDomain where
  fqdn := "lists.cz"
  registrar := "REG-LISTS"
  addAdminContact := ["NOBODY", "First"]
  remAdminContact := ["SECOND"]

def wrongDomainItems : DomainException where
  unknownAdminContactHandle := ["NOBODY"]
  alreadySetAdminContactHandle := ["First"]
  unassignedAdminContactHandle := ["SECOND"]

/-- A host to be added is there and one to be removed is not. -/
def wrongNssetLists : UpdateNsset where
  handle := "NS-LISTS"
  registrar := "REG-LISTS"
  addTechContact := ["SECOND"]
  addDns := [⟨"B.cz", [.v4 ⟨12, by decide⟩]⟩, ⟨"d.cz", []⟩]
  remDns := ["c.cz", "a.cz"]

def wrongNssetItems : NssetException where
  alreadySetDnsHost := ["B.cz"]
  unassignedDnsHost := ["c.cz"]

/-- The key to be added is there, the one to be removed is not, and neither is the contact. -/
def wrongKeysetLists : UpdateKeyset where
  handle := "KEY-LISTS"
  registrar := "REG-LISTS"
  remTechContact := ["FIRST"]
  addDnsKey := [⟨257, 3, 5, "AQ=="⟩]
  remDnsKey := [⟨256, 3, 5, "AQ=="⟩]

def wrongKeysetItems : KeysetException where
  unassignedTechnicalContactHandle := ["FIRST"]
  alreadySetDnsKey := [⟨257, 3, 5, "AQ=="⟩]
  unassignedDnsKey := [⟨256, 3, 5, "AQ=="⟩]

theorem settable_wrongDomainLists : wrongDomainLists.Settable 13 listsDb where
  found := ⟨false, (by decide : wrongDomainLists.selectDomain listsDb = [(13, false)]),
    fun _ => ⟨rfl, rfl⟩⟩
  registrant := nofun
  nsset := nofun
  keyset := nofun
  expirationDate := nofun

theorem update_by_items_lists :
    (∃ found, domainLists.selectDomain listsDb = [found] ∧ domainLists.Updates found.1 26 listsDb
      (transaction (domainLists.exec listsSettings) listsDb)) ∧
    (∃ nssetId, objectIdOf listsDatabase .nsset "ns-lists" = some nssetId ∧
      nssetLists.Updates nssetId 26 listsDb (transaction (nssetLists.exec listsSettings) listsDb)) ∧
    (∃ keysetId, objectIdOf listsDatabase .keyset "KEY-LISTS" = some keysetId ∧
      keysetLists.Updates keysetId 26 listsDb
        (transaction (keysetLists.exec listsSettings) listsDb)) ∧
    (wrongDomainLists.Names 13 listsDb wrongDomainItems ∧
      Raises (wrongDomainLists.exec listsSettings) listsDb (.domain wrongDomainItems)) ∧
    (∃ nssetId, wrongNssetLists.Names nssetId listsDb wrongNssetItems ∧
      Raises (wrongNssetLists.exec listsSettings) listsDb (.nsset wrongNssetItems)) ∧
    ∃ keysetId, wrongKeysetLists.Names keysetId listsDb wrongKeysetItems ∧
      Raises (wrongKeysetLists.exec listsSettings) listsDb (.keyset wrongKeysetItems) := by
  obtain ⟨hdomain, hnsset, hkeyset, hdomainNames, hnssetNames, hkeysetNames⟩ :=
    update_by_items listsSettings listsDb
  have hregistrar : RegistrarKnown listsDatabase "REG-LISTS" := registrarKnown_lists (by decide)
  refine ⟨hdomain domainLists 26 _ ?_, hnsset nssetLists 26 _ updatesConsistent_listsDb.hosts ?_,
    hkeyset keysetLists 26 _ ?_, ?_, ?_, ?_⟩
  · exact run_of_returns (by decide +kernel)
  · exact run_of_returns (by decide +kernel)
  · exact run_of_returns (by decide +kernel)
  · obtain ⟨e, hnames, hraises⟩ := hdomainNames wrongDomainLists 13 updatesConsistent_listsDb
      settable_wrongDomainLists ⟨hregistrar,
        (by decide : objectIdOf listsDatabase .domain "lists.cz" ≠ none), nofun⟩
    have hraised : Raises (wrongDomainLists.exec listsSettings) listsDb (.domain wrongDomainItems) := by
      decide +kernel
    obtain rfl := ((hraises wrongDomainItems).mp hraised).2
    exact ⟨hnames, hraised⟩
  · obtain ⟨nssetId, e, -, hnames, hraises⟩ := hnssetNames wrongNssetLists updatesConsistent_listsDb
      ⟨hregistrar, (by decide : objectIdOf listsDatabase .nsset "NS-LISTS" ≠ none), nofun⟩
    have hraised : Raises (wrongNssetLists.exec listsSettings) listsDb (.nsset wrongNssetItems) := by
      decide +kernel
    obtain rfl := ((hraises wrongNssetItems).mp hraised).2
    exact ⟨nssetId, hnames, hraised⟩
  · obtain ⟨keysetId, e, -, hnames, hraises⟩ := hkeysetNames wrongKeysetLists updatesConsistent_listsDb
      ⟨hregistrar, (by decide : objectIdOf listsDatabase .keyset "KEY-LISTS" ≠ none), nofun⟩
    have hraised : Raises (wrongKeysetLists.exec listsSettings) listsDb (.keyset wrongKeysetItems) := by
      decide +kernel
    obtain rfl := ((hraises wrongKeysetItems).mp hraised).2
    exact ⟨keysetId, hnames, hraised⟩

/-- An unknown contact is to be added on behalf of a registrar that is unknown as well. -/
def unknownLists : UpdateDomain where
  fqdn := "lists.cz"
  registrar := "REG-NOBODY"
  addAdminContact := ["NOBODY"]

/-- Where the registrar is unknown, the contacts are not looked at. -/
theorem not_update_by_items :
    ¬ ∀ (settings : UpdateSettings) (op : UpdateDomain) (handle : String) (db : ObjectDatabase),
      UpdatesConsistent db → handle ∈ op.addAdminContact →
      objectIdOf db.toDatabase .contact handle = none →
      ∃ e, Raises (op.exec settings) db (.domain e) ∧ handle ∈ e.unknownAdminContactHandle := by
  intro h
  obtain ⟨e, hraises, hnamed⟩ := h listsSettings unknownLists "NOBODY" listsDb
    updatesConsistent_listsDb (List.mem_singleton_self _)
    (by decide : objectIdOf listsDatabase .contact "NOBODY" = none)
  have hrun : (unknownLists.exec listsSettings).run listsDb =
      .error (.domain { unknownRegistrarHandle := some "REG-NOBODY" }) listsDb := rfl
  obtain rfl := ObjectException.domain.inj ((raises_of_error hrun).mp hraises)
  cases hnamed

end LibFred.RegistrableObject
