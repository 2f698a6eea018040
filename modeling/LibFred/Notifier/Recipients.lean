import LibFred.Notifier.EmailAddresses

/-! Who is told about an update. -/
namespace LibFred.Notifier

open RegistrableObject Sql
open RegistrableObject.Domain (InfoDomainData diffDomainData)
open RegistrableObject.Nsset (InfoNssetData)
open RegistrableObject.Keyset (InfoKeysetData)

variable {T : Type} {db : Versions T} {time : T} {historyid c : Nat} {e : String}
  {linked : Nat → Prop} {type : ObjectType}

/-- A version of a linked contact, among those that `p` admits, has the trimmed address. -/
def HasAddress (db : Versions T) (linked : Nat → Prop) (p : History T → Prop) (e : String) : Prop :=
  ∃ c_h ∈ db.contactHistory, linked c_h.id ∧ (∃ h ∈ db.history, h.id = c_h.historyid ∧ p h) ∧
    ∃ notifyemail, c_h.notifyemail = some notifyemail ∧ trimCopy notifyemail = e ∧ e ≠ ""

theorem HasAddress.imp {linked' : Nat → Prop} {p q : History T → Prop}
    (h : HasAddress db linked p e) (hlinked : ∀ c, linked c → linked' c) (hpq : ∀ h, p h → q h) :
    HasAddress db linked' q e := by
  obtain ⟨c_h, hmem, hc, ⟨h, hh, hid, hp⟩, hmail⟩ := h
  exact ⟨c_h, hmem, hlinked _ hc, ⟨h, hh, hid, hpq h hp⟩, hmail⟩

/-- The versions of a table before and after a change, and when it was made. -/
structure Change {ρ : Type} [Keyed ρ Nat] (db : Versions T) (table : Table ρ) (historyid : Nat)
    (before after : ρ) (time : T) : Prop where
  event : ∃ h, db.history.lookup historyid = some h ∧ h.validFrom = time
  after : table.lookup historyid = some after
  previous : ∃ older, db.history.select (·.next = some historyid) = [older] ∧
    table.lookup older.id = some before

section

variable {ρ : Type} [Keyed ρ Nat] {table : Table ρ} {before after : ρ}

theorem Change.getUtcTimeOfEvent_ok (h : Change db table historyid before after time) :
    getUtcTimeOfEvent db .updated historyid = .ok time := by
  obtain ⟨row, hrow, rfl⟩ := h.event
  rw [getUtcTimeOfEvent, hrow]

theorem Change.after_ok (h : Change db table historyid before after time) :
    infoHistoryByHistoryid db table historyid = .ok after := by
  obtain ⟨row, hrow, -⟩ := h.event
  rw [infoHistoryByHistoryid, h.after, hrow]

theorem Change.before_ok (h : Change db table historyid before after time) :
    ∃ olderId, (getPreviousObjectHistoryid db historyid >>= getValueOrThrow) = .ok olderId ∧
      infoHistoryByHistoryid db table olderId = .ok before := by
  obtain ⟨older, hselect, hlookup⟩ := h.previous
  have hmem : older ∈ db.history := (Table.mem_select.mp (hselect ▸ List.mem_singleton_self older)).1
  refine ⟨older.id, ?_, ?_⟩
  · rw [getPreviousObjectHistoryid, hselect]
    rfl
  · have hrow : db.history.lookup older.id = some older := Table.lookup_eq_some.mpr ⟨hmem, rfl⟩
    rw [infoHistoryByHistoryid, hlookup, hrow]

end

theorem bind_of_ok {ε α β : Type} {x : Except ε α} {f : α → Except ε β} {a : α} (h : x = .ok a) :
    (x >>= f) = f a := by
  rw [h]
  rfl

/-- A loop that adds a set for each element. -/
theorem foldlM_union {ε : Type} {f : Nat → Except ε (Finset Nat)} {s : Nat → Nat → Prop} {l : List Nat}
    (init : Finset Nat) (h : ∀ id ∈ l, ∃ found, f id = .ok found ∧ ∀ c, c ∈ found ↔ s id c) :
    ∃ all, l.foldlM (fun found id => do
      let more ← f id
      return found ∪ more) init = .ok all ∧ ∀ c, c ∈ all ↔ c ∈ init ∨ ∃ id ∈ l, s id c := by
  induction l generalizing init with
  | nil => exact ⟨init, rfl, by simp⟩
  | cons id l ih =>
    obtain ⟨found, hfound, hs⟩ := h id List.mem_cons_self
    obtain ⟨all, hall, hmem⟩ := ih (init ∪ found) fun id' hid' => h id' (List.mem_cons_of_mem _ hid')
    refine ⟨all, ?_, fun c => ?_⟩
    · rw [List.foldlM_cons, hfound]
      exact hall
    · rw [hmem, Finset.mem_union, hs, List.exists_mem_cons_iff, or_assoc]

theorem diffMember_references {before after : Option RegistrableObjectReference} :
    diffMember (isEqual RegistrableObjectReference.equal) before after =
      if before.map (·.identity) = after.map (·.identity) then none else some (before, after) := by
  have hequal : isEqual RegistrableObjectReference.equal before after ↔
      before.map (·.identity) = after.map (·.identity) := by
    cases before <;> cases after <;> simp [isEqual, RegistrableObjectReference.equal_iff]
  unfold diffMember
  by_cases h : before.map (·.identity) = after.map (·.identity)
  · rw [if_pos (hequal.mpr h), if_pos h]
  · rw [if_neg (fun hq => h (hequal.mp hq)), if_neg h]

theorem gatherContactIdsToNotifyNssetEvent_ok {before after : InfoNssetData}
    (h : Change db db.nssetHistory historyid before after time) :
    gatherContactIdsToNotifyNssetEvent db .updated historyid =
      .ok (ids after.techContacts ∪ ids before.techContacts) := by
  have hafterOk : infoNssetHistoryByHistoryid db historyid = .ok after := h.after_ok
  obtain ⟨olderId, hprevious, hbefore⟩ := h.before_ok
  have hbeforeOk : infoNssetHistoryByHistoryid db olderId = .ok before := hbefore
  rw [gatherContactIdsToNotifyNssetEvent, bind_of_ok hafterOk, if_pos rfl, bind_of_ok hprevious,
    bind_of_ok hbeforeOk]
  rfl

theorem gatherContactIdsToNotifyKeysetEvent_ok {before after : InfoKeysetData}
    (h : Change db db.keysetHistory historyid before after time) :
    gatherContactIdsToNotifyKeysetEvent db .updated historyid =
      .ok (ids after.techContacts ∪ ids before.techContacts) := by
  have hafterOk : infoKeysetHistoryByHistoryid db historyid = .ok after := h.after_ok
  obtain ⟨olderId, hprevious, hbefore⟩ := h.before_ok
  have hbeforeOk : infoKeysetHistoryByHistoryid db olderId = .ok before := hbefore
  rw [gatherContactIdsToNotifyKeysetEvent, bind_of_ok hafterOk, if_pos rfl, bind_of_ok hprevious,
    bind_of_ok hbeforeOk]
  rfl

variable [LinearOrder T]

/-- The closed interval of the version contains the time. -/
def History.Covers (time : T) (h : History T) : Prop :=
  h.validFrom ≤ time ∧ ∀ validTo, h.validTo = some validTo → time ≤ validTo

theorem History.validAt_iff {h : History T} :
    h.validAt time ↔ h.Covers time ∧ h.validTo ≠ some time := by
  unfold validAt Covers
  cases hto : h.validTo with
  | none => simp
  | some validTo =>
    simp only [Truth.holds_and, Truth.holds_or, holds_le, holds_lt, holds_isNull, reduceCtorEq, false_or,
      Option.some.injEq, ne_eq]
    constructor
    · rintro ⟨⟨_, _, rfl, rfl, hfrom⟩, _, _, rfl, rfl, hlt⟩
      exact ⟨⟨hfrom, fun _ hv => hv ▸ hlt.le⟩, hlt.ne'⟩
    · rintro ⟨⟨hfrom, hle⟩, hne⟩
      exact ⟨⟨_, _, rfl, rfl, hfrom⟩, _, _, rfl, rfl, (hle _ rfl).lt_of_ne (Ne.symm hne)⟩

theorem mem_getEmailAddresses {contactIds : Finset Nat} :
    e ∈ getEmailAddresses db contactIds time ↔ HasAddress db (· ∈ contactIds) (History.validAt time) e := by
  simp only [getEmailAddresses, List.mem_toFinset, List.mem_filter, List.mem_map, List.mem_filterMap,
    Table.mem_select, HasAddress, decide_eq_true_eq]
  constructor
  · rintro ⟨⟨notifyemail, ⟨c_h, ⟨hmem, hlinked, hvalid⟩, hsome⟩, rfl⟩, hne⟩
    exact ⟨c_h, hmem, hlinked, hvalid, notifyemail, hsome, rfl, hne⟩
  · rintro ⟨c_h, hmem, hlinked, hvalid, notifyemail, hsome, rfl, hne⟩
    exact ⟨⟨notifyemail, ⟨c_h, ⟨hmem, hlinked, hvalid⟩, hsome⟩, rfl⟩, hne⟩

/-- The addresses of the versions valid at the time are all of those whose closed interval contains
it exactly when a version that ends at it has no address of its own. -/
theorem complete_iff {emails : Finset String}
    (h : ∀ e, e ∈ emails ↔ HasAddress db linked (History.validAt time) e) :
    (∀ e, HasAddress db linked (History.Covers time) e → e ∈ emails) ↔
      ∀ e, HasAddress db linked (fun h => h.Covers time ∧ h.validTo = some time) e →
        HasAddress db linked (fun h => h.Covers time ∧ h.validTo ≠ some time) e := by
  have hvalid : ∀ e, e ∈ emails ↔
      HasAddress db linked (fun h => h.Covers time ∧ h.validTo ≠ some time) e := by
    intro e
    rw [h]
    simp only [HasAddress, History.validAt_iff]
  constructor
  · intro hall e he
    exact (hvalid e).mp (hall e (he.imp (fun _ hc => hc) fun _ hh => hh.1))
  · rintro hends e ⟨c_h, hmem, hc, ⟨h, hh, hid, hcovers⟩, hmail⟩
    rw [hvalid]
    by_cases hto : h.validTo = some time
    · exact hends e ⟨c_h, hmem, hc, ⟨h, hh, hid, hcovers, hto⟩, hmail⟩
    · exact ⟨c_h, hmem, hc, ⟨h, hh, hid, hcovers, hto⟩, hmail⟩

/-- A version of the object around the time has the technical contact. -/
def TechContactAt (versions : List (TechVersion T)) (time : T) (c : Nat) : Prop :=
  ∃ version ∈ versions, version.validAt time ∧ c ∈ version.techContacts.map (·.id)

/-- The contact is linked to the old or the new nsset or keyset of a domain, unless it is the same. -/
def LinkedByChange (history : Nat → List (TechVersion T)) (before after : Option RegistrableObjectReference)
    (time : T) (c : Nat) : Prop :=
  before.map (·.identity) ≠ after.map (·.identity) ∧
    ∃ reference, (before = some reference ∨ after = some reference) ∧
      TechContactAt (history reference.id) time c

/-- The old and the new nsset or keyset exist at the time. -/
def ExistsAt (history : Nat → List (TechVersion T)) (before after : Option RegistrableObjectReference)
    (time : T) : Prop :=
  ∀ reference, before = some reference ∨ after = some reference →
    ∃ version ∈ history reference.id, version.validAt time

/-- The contact is linked to the domain before or after the change. -/
def DomainLinked (db : Versions T) (before after : InfoDomainData) (time : T) (c : Nat) : Prop :=
  (c = before.registrant.id ∨ c = after.registrant.id) ∨
  (c ∈ before.adminContacts.map (·.id) ∨ c ∈ after.adminContacts.map (·.id)) ∨
  LinkedByChange (infoNssetHistoryById db) before.nsset after.nsset time c ∨
  LinkedByChange (infoKeysetHistoryById db) before.keyset after.keyset time c

/-- An update of an object, with the contacts that are linked to it before or after. -/
inductive UpdateEvent (db : Versions T) (historyid : Nat) (time : T) : ObjectType → (Nat → Prop) → Prop
  | domain {before after : InfoDomainData} (h : Change db db.domainHistory historyid before after time)
      (hnsset : ExistsAt (infoNssetHistoryById db) before.nsset after.nsset time)
      (hkeyset : ExistsAt (infoKeysetHistoryById db) before.keyset after.keyset time) :
      UpdateEvent db historyid time .domain (DomainLinked db before after time)
  | nsset {before after : InfoNssetData} (h : Change db db.nssetHistory historyid before after time) :
      UpdateEvent db historyid time .nsset fun c =>
        c ∈ before.techContacts.map (·.id) ∨ c ∈ after.techContacts.map (·.id)
  | keyset {before after : InfoKeysetData} (h : Change db db.keysetHistory historyid before after time) :
      UpdateEvent db historyid time .keyset fun c =>
        c ∈ before.techContacts.map (·.id) ∨ c ∈ after.techContacts.map (·.id)

theorem techContactsAt_ok {error : String} {versions : List (TechVersion T)}
    (h : ∃ version ∈ versions, version.validAt time) :
    ∃ tech, techContactsAt error time versions = .ok tech ∧
      ∀ c, c ∈ tech ↔ TechContactAt versions time c := by
  obtain ⟨version, hversion, hvalid⟩ := h
  have hmem : version ∈ versions.filter (·.validAt time) := by simp [hversion, hvalid]
  have hc : ∀ c, c ∈ ids ((versions.filter (·.validAt time)).flatMap (·.techContacts)) ↔
      TechContactAt versions time c := by
    intro c
    simp only [ids, List.mem_toFinset, List.mem_map, List.mem_flatMap, List.mem_filter, TechContactAt,
      decide_eq_true_eq]
    constructor
    · rintro ⟨r, ⟨v, ⟨hv, hvalid⟩, hr⟩, rfl⟩
      exact ⟨v, hv, hvalid, r, hr, rfl⟩
    · rintro ⟨v, hv, hvalid, r, hr, rfl⟩
      exact ⟨r, ⟨v, ⟨hv, hvalid⟩, hr⟩, rfl⟩
  unfold techContactsAt
  split
  · rename_i hnil
    rw [hnil] at hmem
    cases hmem
  · exact ⟨_, rfl, hc⟩

theorem insertTechContacts_ok (error : String) (contactIds : Finset Nat)
    {history : Nat → List (TechVersion T)} {before after : Option RegistrableObjectReference}
    (htime : getUtcTimeOfEvent db .updated historyid = .ok time)
    (hexists : ExistsAt history before after time) :
    ∃ all, insertTechContacts db .updated historyid error history
        (diffMember (isEqual RegistrableObjectReference.equal) before after) contactIds = .ok all ∧
      ∀ c, c ∈ all ↔ c ∈ contactIds ∨ LinkedByChange history before after time c := by
  rw [diffMember_references]
  by_cases hsame : before.map (·.identity) = after.map (·.identity)
  · rw [if_pos hsame]
    exact ⟨contactIds, rfl, by simp [LinkedByChange, hsame]⟩
  · rw [if_neg hsame]
    have hid : ∀ id, id ∈ ((before.toList ++ after.toList).map (·.id)).dedup ↔
        ∃ reference, (before = some reference ∨ after = some reference) ∧ reference.id = id := by
      intro id
      simp [List.mem_dedup, or_and_right, exists_or]
    obtain ⟨all, hall, hmem⟩ := foldlM_union contactIds
      (l := ((before.toList ++ after.toList).map (·.id)).dedup)
      (f := fun id => techContactsAt error time (history id))
      (s := fun id => TechContactAt (history id) time) fun id hmem => by
        obtain ⟨reference, href, rfl⟩ := (hid id).mp hmem
        exact techContactsAt_ok (hexists reference href)
    refine ⟨all, ?_, fun c => ?_⟩
    · rw [insertTechContacts, htime]
      exact hall
    · rw [hmem]
      refine or_congr_right ?_
      simp only [hid, LinkedByChange, ne_eq, hsame, not_false_eq_true, true_and]
      constructor
      · rintro ⟨_, ⟨reference, href, rfl⟩, hc⟩
        exact ⟨reference, href, hc⟩
      · rintro ⟨reference, href, hc⟩
        exact ⟨_, ⟨reference, href, rfl⟩, hc⟩

theorem mem_ids {references : List RegistrableObjectReference} :
    c ∈ ids references ↔ c ∈ references.map (·.id) := List.mem_toFinset

theorem mem_getIdsOfContactsAcceptingNotifications {data : InfoDomainData} :
    c ∈ getIdsOfContactsAcceptingNotifications data ↔
      c = data.registrant.id ∨ c ∈ data.adminContacts.map (·.id) := by
  rw [getIdsOfContactsAcceptingNotifications, Finset.mem_insert, mem_ids]

theorem gatherContactIdsToNotifyDomainEvent_ok {before after : InfoDomainData}
    (h : Change db db.domainHistory historyid before after time)
    (hnsset : ExistsAt (infoNssetHistoryById db) before.nsset after.nsset time)
    (hkeyset : ExistsAt (infoKeysetHistoryById db) before.keyset after.keyset time) :
    ∃ contactIds, gatherContactIdsToNotifyDomainEvent db .updated historyid = .ok contactIds ∧
      ∀ c, c ∈ contactIds ↔ DomainLinked db before after time c := by
  have hafterOk : infoDomainHistoryByHistoryid db historyid = .ok after := h.after_ok
  obtain ⟨olderId, hprevious, hbefore⟩ := h.before_ok
  have hbeforeOk : infoDomainHistoryByHistoryid db olderId = .ok before := hbefore
  obtain ⟨withNsset, hnssetOk, hnssetMem⟩ := insertTechContacts_ok
    "inconsistent data - Nsset that was associated before or after event to domain should exist at that time"
    (getIdsOfContactsAcceptingNotifications after ∪ getIdsOfContactsAcceptingNotifications before)
    h.getUtcTimeOfEvent_ok hnsset
  obtain ⟨all, hkeysetOk, hkeysetMem⟩ := insertTechContacts_ok
    "inconsistent data - Keyset that was associated before or after event to domain should exist at that time"
    withNsset h.getUtcTimeOfEvent_ok hkeyset
  refine ⟨all, ?_, fun c => ?_⟩
  · rw [gatherContactIdsToNotifyDomainEvent, bind_of_ok hafterOk, if_pos rfl, bind_of_ok hprevious,
      bind_of_ok hbeforeOk, diffDomainData, bind_of_ok hnssetOk]
    exact hkeysetOk
  · rw [hkeysetMem, hnssetMem, Finset.mem_union, mem_getIdsOfContactsAcceptingNotifications,
      mem_getIdsOfContactsAcceptingNotifications, DomainLinked]
    tauto

/-- The addresses of the linked contacts are gathered that the query finds valid at the time. -/
theorem gatherEmailAddresses_ok (h : UpdateEvent db historyid time type linked) :
    ∃ emails, gatherEmailAddresses db .updated historyid type = .ok emails ∧
      ∀ e, e ∈ emails ↔ HasAddress db linked (History.validAt time) e := by
  have hmem : ∀ {contactIds : Finset Nat}, (∀ c, c ∈ contactIds ↔ linked c) →
      ∀ e, e ∈ getEmailAddresses db contactIds time ↔ HasAddress db linked (History.validAt time) e := by
    intro contactIds hids e
    rw [mem_getEmailAddresses]
    exact ⟨fun h => h.imp (fun c => (hids c).mp) fun _ hp => hp,
      fun h => h.imp (fun c => (hids c).mpr) fun _ hp => hp⟩
  cases h with
  | domain h hnsset hkeyset =>
    obtain ⟨contactIds, hok, hids⟩ := gatherContactIdsToNotifyDomainEvent_ok h hnsset hkeyset
    refine ⟨getEmailAddresses db contactIds time, ?_, hmem hids⟩
    rw [gatherEmailAddresses, bind_of_ok hok, bind_of_ok h.getUtcTimeOfEvent_ok]
    rfl
  | @nsset before after h =>
    refine ⟨getEmailAddresses db (ids after.techContacts ∪ ids before.techContacts) time, ?_,
      hmem fun c => ?_⟩
    · rw [gatherEmailAddresses, bind_of_ok (gatherContactIdsToNotifyNssetEvent_ok h),
        bind_of_ok h.getUtcTimeOfEvent_ok]
      rfl
    · rw [Finset.mem_union, mem_ids, mem_ids, or_comm]
  | @keyset before after h =>
    refine ⟨getEmailAddresses db (ids after.techContacts ∪ ids before.techContacts) time, ?_,
      hmem fun c => ?_⟩
    · rw [gatherEmailAddresses, bind_of_ok (gatherContactIdsToNotifyKeysetEvent_ok h),
        bind_of_ok h.getUtcTimeOfEvent_ok]
      rfl
    · rw [Finset.mem_union, mem_ids, mem_ids, or_comm]

/-- Nobody but linked contacts is told, and all of them are exactly when no address was in use only
up to the very time of the event. -/
theorem recipients_complete_iff (h : UpdateEvent db historyid time type linked) :
    ∃ emails, gatherEmailAddresses db .updated historyid type = .ok emails ∧
      (∀ e ∈ emails, HasAddress db linked (History.Covers time) e) ∧
      ((∀ e, HasAddress db linked (History.Covers time) e → e ∈ emails) ↔
        ∀ e, HasAddress db linked (fun h => h.Covers time ∧ h.validTo = some time) e →
          HasAddress db linked (fun h => h.Covers time ∧ h.validTo ≠ some time) e) := by
  obtain ⟨emails, hok, hmem⟩ := gatherEmailAddresses_ok h
  refine ⟨emails, hok, fun e he => ?_, complete_iff hmem⟩
  exact ((hmem e).mp he).imp (fun _ hc => hc) fun _ hvalid => (History.validAt_iff.mp hvalid).1

/-- A version of an nsset with one technical contact. -/
def sampleNsset (historyid contactId : Nat) : InfoNssetData where
  crhistoryid := 1
  historyid := historyid
  historyUuid := 1
  id := 7
  uuid := 7
  deleteTime := none
  handle := "NSSET-1"
  roid := "N7-CZ"
  sponsoringRegistrarHandle := "REG-TEST"
  createRegistrarHandle := "REG-TEST"
  updateRegistrarHandle := none
  creationTime := .time 0
  updateTime := none
  transferTime := none
  techCheckLevel := none
  dnsHosts := []
  techContacts := [⟨contactId, "CONTACT", 5⟩]

/-- At 10 contact 6 takes the place of contact 5, whose last version ends at `validTo`. -/
def sampleVersions (validTo : Option Nat) : Versions Nat where
  history := ⟨[⟨1, 0, some 10, some 2⟩, ⟨2, 10, none, none⟩, ⟨3, 0, validTo, none⟩], by simp [Keyed.key]⟩
  contactHistory := ⟨[⟨3, 5, some " tech@nic.cz "⟩], by simp⟩
  domainHistory := ∅
  nssetHistory := ⟨[sampleNsset 1 5, sampleNsset 2 6], by simp [Keyed.key, sampleNsset]⟩
  keysetHistory := ∅

theorem sampleVersions_change (validTo : Option Nat) : Change (sampleVersions validTo)
    (sampleVersions validTo).nssetHistory 2 (sampleNsset 1 5) (sampleNsset 2 6) 10 where
  event := ⟨⟨2, 10, none, none⟩, rfl, rfl⟩
  after := rfl
  previous := ⟨⟨1, 0, some 10, some 2⟩, rfl, rfl⟩

theorem recipients_complete_iff_sampleVersions :
    ∃ emails, gatherEmailAddresses (sampleVersions none) .updated 2 .nsset = .ok emails ∧
      (∀ e ∈ emails, HasAddress (sampleVersions none) (fun c => c ∈ [5] ∨ c ∈ [6]) (History.Covers 10) e) ∧
      ((∀ e, HasAddress (sampleVersions none) (fun c => c ∈ [5] ∨ c ∈ [6]) (History.Covers 10) e →
          e ∈ emails) ↔
        ∀ e, HasAddress (sampleVersions none) (fun c => c ∈ [5] ∨ c ∈ [6])
            (fun h => h.Covers 10 ∧ h.validTo = some 10) e →
          HasAddress (sampleVersions none) (fun c => c ∈ [5] ∨ c ∈ [6])
            (fun h => h.Covers 10 ∧ h.validTo ≠ some 10) e) :=
  recipients_complete_iff (.nsset (sampleVersions_change none))

/-- A technical contact that is deleted in the transaction of the update is not told. -/
theorem not_recipients_complete :
    ¬ ∀ (db : Versions Nat) (historyid time : Nat) (type : ObjectType) (linked : Nat → Prop)
      (emails : Finset String), UpdateEvent db historyid time type linked →
      gatherEmailAddresses db .updated historyid type = .ok emails →
      ∀ e, HasAddress db linked (History.Covers time) e → e ∈ emails := by
  intro h
  have hgather : gatherEmailAddresses (sampleVersions (some 10)) .updated 2 .nsset = .ok ∅ := by rfl
  have hmem := h _ 2 10 .nsset _ ∅ (.nsset (sampleVersions_change (some 10))) hgather "tech@nic.cz" ?_
  · simp at hmem
  · refine ⟨⟨3, 5, some " tech@nic.cz "⟩, List.mem_cons_self, .inl (by simp [sampleNsset]),
      ⟨⟨3, 0, some 10, none⟩, by simp [sampleVersions, ← Table.mem_rows], rfl, by decide, ?_⟩,
      _, rfl, by decide, by decide⟩
    intro validTo hv
    exact (Option.some.inj hv).le

end LibFred.Notifier
