import LibFred.Order.Span
import LibFred.Poll.CreateUpdateOperationPollMessage

/-! Which registrars are told of the update of a contact. -/
namespace LibFred.Poll

open Sql

variable {tables : VersionTables} {db db' : UpdateDatabase} {historyId contact r : Nat} {t : Timestamp}
  {period : HistoryPeriod} {act : ObjectVersion}

/-- A version of a domain that was current at an instant, with the registrar that sponsored it. -/
def SponsorsAt (tables : VersionTables) (t : Timestamp) (chosen : Nat → Prop) (r : Nat) : Prop :=
  ∃ v ∈ tables.objectHistory, v.clid = r ∧ chosen v.historyid ∧
    ∃ h ∈ tables.history, h.id = v.historyid ∧ t ∈ Span.ico h.validFrom h.validTo

/-- The domain of a version had the contact as its registrant. -/
def HasRegistrant (tables : VersionTables) (contact historyid : Nat) : Prop :=
  ∃ dh ∈ tables.domainHistory, dh.historyid = historyid ∧ dh.registrant = contact

/-- The domain of a version was linked to the contact in a role. -/
def HasLink (tables : VersionTables) (contact : Nat) (role : Nat → Prop) (historyid : Nat) : Prop :=
  ∃ link ∈ tables.domainContactMapHistory, link.historyid = historyid ∧ link.contactid = contact ∧
    role link.role

/-- A sponsor of a domain that had the contact as registrant or administrator. -/
def IsConcerned (tables : VersionTables) (t : Timestamp) (contact r : Nat) : Prop :=
  SponsorsAt tables t (fun id => HasRegistrant tables contact id ∨ HasLink tables contact (· = 1) id) r

/-- A sponsor of a domain that the contact was linked to, but not as an administrator. -/
def IsLinkedOtherwise (tables : VersionTables) (t : Timestamp) (contact r : Nat) : Prop :=
  SponsorsAt tables t (HasLink tables contact (· ≠ 1)) r

/-- The registrars to be told: other sponsors that are concerned, and the contact's own unless it has
made the update itself. -/
def ShouldKnow (tables : VersionTables) (period : HistoryPeriod) (act : ObjectVersion) (r : Nat) : Prop :=
  (r ≠ act.clid ∧ IsConcerned tables period.validFrom act.id r) ∨
    r = act.clid ∧ act.upid ≠ some act.clid

/-- A version of a contact that an update has made: the previous one has the same sponsor, and the
registrar that has made it is written. -/
structure ContactUpdate (db : UpdateDatabase) (historyId : Nat) (period : HistoryPeriod)
    (act : ObjectVersion) : Prop where
  begins : period ∈ db.history ∧ period.id = historyId
  version : act ∈ db.objectHistory ∧ act.historyid = historyId
  registered : ∃ obr ∈ db.objectRegistry, obr.id = act.id ∧
    ∃ eot ∈ db.enums.enumObjectType, eot.id = obr.type ∧ eot.name = ObjectType.contact.toDbHandle
  previous : ∃ prev ∈ db.history, prev.next = some historyId ∧
    (∀ h ∈ db.history, h.next = some historyId → h = prev) ∧
    ∃ v ∈ db.objectHistory, v.historyid = prev.id ∧ v.clid = act.clid
  updated : ∃ upid, act.upid = some upid

/-- Messages can be written: their type exists and their ids are below the next value of the sequence. -/
structure MessagesReady (db : UpdateDatabase) (type : MessageTypeName) : Prop where
  named : type ∈ db.enums.messagetype ∧ type.name = MessageType.updateContact.toDbHandle
  message : ∀ m ∈ db.message, m.id < db.messageIdSeq
  eppaction : ∀ pe ∈ db.pollEppaction, pe.msgid < db.messageIdSeq

/-- New messages about the version, one for each registrar of the list. -/
structure Sends (historyId : Nat) (type : MessageTypeName) (registrars : List Nat)
    (db db' : UpdateDatabase) (messages : List Message) : Prop where
  message : db'.message.rows = db.message.rows ++ messages
  eppaction : db'.pollEppaction.rows = db.pollEppaction.rows ++ messages.map fun m => ⟨m.id, historyId⟩
  clids : messages.map (·.clid) = registrars
  msgtype : ∀ m ∈ messages, m.msgtype = type.id ∧ m.crdate = db.now ∧
    m.exdate = db.now + CreateStateMessages.expiration ∧ m.seen = false
  same : db'.toVersionTables = db.toVersionTables ∧ db'.now = db.now ∧ db'.enums = db.enums

theorem Sends.trans {type : MessageTypeName} {registrars registrars' : List Nat}
    {db₁ : UpdateDatabase} {messages messages' : List Message}
    (h : Sends historyId type registrars db db₁ messages)
    (h' : Sends historyId type registrars' db₁ db' messages') :
    Sends historyId type (registrars ++ registrars') db db' (messages ++ messages') where
  message := by rw [h'.message, h.message, List.append_assoc]
  eppaction := by rw [h'.eppaction, h.eppaction, List.map_append, List.append_assoc]
  clids := by rw [List.map_append, h.clids, h'.clids]
  msgtype := by
    intro m hm
    rcases List.mem_append.mp hm with hm | hm
    · exact h.msgtype m hm
    · rw [← h.same.2.1]
      exact h'.msgtype m hm
  same := ⟨h'.same.1.trans h.same.1, h'.same.2.1.trans h.same.2.1, h'.same.2.2.trans h.same.2.2⟩

/-- Every registrar that should know of the update gets one message, and nobody else gets one. -/
def InformsRegistrars (db : UpdateDatabase) (historyId : Nat) (period : HistoryPeriod)
    (act : ObjectVersion) (type : MessageTypeName) : Prop :=
  ∃ ids db' messages registrars, (CreateUpdateOperationPollMessage.exec historyId).run db = .ok ids db' ∧
    Sends historyId type registrars db db' messages ∧ registrars.Nodup ∧
    ∀ r, r ∈ registrars ↔ ShouldKnow db.toVersionTables period act r

namespace CreateUpdateOperationPollMessage

theorem mem_otherSponsors {c : HistoryPeriod × ObjectVersion} {historyids : List Nat} :
    r ∈ otherSponsors tables c historyids ↔
      r ≠ c.2.clid ∧ SponsorsAt tables c.1.validFrom (· ∈ historyids) r := by
  unfold otherSponsors SponsorsAt
  dsimp only
  simp only [List.mem_map, List.mem_filter, Prod.exists, mem_join, decide_eq_true_eq, Table.mem_rows,
    Span.mem_ico]
  constructor
  · rintro ⟨id, v, h, ⟨⟨⟨hid, hv, hvid⟩, hh, hhid, hfrom, hto⟩, hne⟩, rfl⟩
    exact ⟨hne, v, hv, rfl, hvid ▸ hid, h, hh, hhid.trans hvid.symm, hfrom, hto⟩
  · rintro ⟨hne, v, hv, rfl, hid, h, hh, hhid, hfrom, hto⟩
    exact ⟨v.historyid, v, h, ⟨⟨⟨hid, hv, rfl⟩, hh, hhid, hfrom, hto⟩, hne⟩, rfl⟩

theorem mem_registrantVersions {id : Nat} :
    id ∈ registrantVersions tables contact ↔ HasRegistrant tables contact id := by
  unfold registrantVersions HasRegistrant
  rw [List.mem_map]
  simp only [Table.mem_select, and_assoc, and_comm (a := DomainVersion.registrant _ = _)]

theorem mem_linkVersions {id : Nat} : id ∈ linkVersions tables contact ↔
    HasLink tables contact (· = 1) id ∨ HasLink tables contact (· ≠ 1) id := by
  unfold linkVersions HasLink
  rw [List.mem_map]
  simp only [List.mem_filter, decide_eq_true_eq]
  constructor
  · rintro ⟨link, ⟨hlink, hcontact⟩, hid⟩
    rcases em (link.role = 1) with hrole | hrole
    · exact .inl ⟨link, hlink, hid, hcontact, hrole⟩
    · exact .inr ⟨link, hlink, hid, hcontact, hrole⟩
  · rintro (⟨link, hlink, hid, hcontact, -⟩ | ⟨link, hlink, hid, hcontact, -⟩)
    · exact ⟨link, ⟨hlink, hcontact⟩, hid⟩
    · exact ⟨link, ⟨hlink, hcontact⟩, hid⟩

theorem sponsorsAt_or {p q : Nat → Prop} : SponsorsAt tables t (fun id => p id ∨ q id) r ↔
    SponsorsAt tables t p r ∨ SponsorsAt tables t q r := by
  constructor
  · rintro ⟨v, hv, hclid, hp | hq, hvalid⟩
    · exact .inl ⟨v, hv, hclid, hp, hvalid⟩
    · exact .inr ⟨v, hv, hclid, hq, hvalid⟩
  · rintro (⟨v, hv, hclid, hp, hvalid⟩ | ⟨v, hv, hclid, hq, hvalid⟩)
    · exact ⟨v, hv, hclid, .inl hp, hvalid⟩
    · exact ⟨v, hv, hclid, .inr hq, hvalid⟩

theorem SponsorsAt.congr {p q : Nat → Prop} (h : ∀ id, p id ↔ q id) :
    SponsorsAt tables t p r ↔ SponsorsAt tables t q r := by
  unfold SponsorsAt
  simp only [h]

theorem actual_eq (h : ContactUpdate db historyId period act) :
    db.objectHistory.select (·.historyid = historyId) = [act] :=
  Table.select_key h.version.1 h.version.2

theorem contacts_eq (h : ContactUpdate db historyId period act) :
    contacts db.toVersionTables historyId = [(period, act)] := by
  have hperiod : db.history.select (·.id = historyId) = [period] :=
    Table.select_key h.begins.1 h.begins.2
  have hact : db.objectHistory.rows.filter (fun oh => oh.historyid = period.id) = [act] := by
    rw [h.begins.2]
    exact actual_eq h
  rw [contacts, hperiod, join_singleton, hact, List.map_singleton]

theorem mem_getAdditionalRecipients (h : ContactUpdate db historyId period act) :
    r ∈ getAdditionalRecipients db.toVersionTables historyId ↔ r ≠ act.clid ∧
      (IsConcerned db.toVersionTables period.validFrom act.id r ∨
        IsLinkedOtherwise db.toVersionTables period.validFrom act.id r) := by
  have hset (l : List Nat) : r ∈ StdSet.ofList (fun a b => decide (a < b)) l ↔ r ∈ l := by
    have hmap : r ∈ (StdSet.ofList (fun a b : Nat => decide (a < b)) l).map id ↔ r ∈ l.map id :=
      StdSet.mem_map_ofList (by simp)
    rwa [List.map_id, List.map_id] at hmap
  rw [getAdditionalRecipients, hset, contacts_eq h, List.flatMap_singleton, List.mem_append,
    mem_otherSponsors, mem_otherSponsors, ← and_or_left, IsConcerned, IsLinkedOtherwise,
    SponsorsAt.congr (q := HasRegistrant _ act.id) fun id => mem_registrantVersions,
    SponsorsAt.congr (q := fun id => HasLink _ act.id (· = 1) id ∨ HasLink _ act.id (· ≠ 1) id)
      fun id => mem_linkVersions, sponsorsAt_or, sponsorsAt_or, or_assoc]

theorem run_wasUpdateDone (h : ContactUpdate db historyId period act) :
    (wasUpdateDoneBySponsoringRegistrar historyId).run db =
      .ok (decide (act.upid = some act.clid)) db := by
  obtain ⟨prev, hprev, hnext, hunique, v, hv, hvid, hclid⟩ := h.previous
  obtain ⟨upid, hupid⟩ := h.updated
  have hprevious :
      db.history.rows.filter (fun h => (Sql.eq h.next (some act.historyid)).holds) = [prev] := by
    refine Table.select_eq_singleton.mpr ⟨hprev, ?_, fun h' hh' hnext' => hunique h' hh' ?_⟩
    · rw [holds_eq, hnext, h.version.2]
      exact ⟨historyId, rfl, rfl⟩
    · obtain ⟨id, hid, hact⟩ := holds_eq.mp hnext'
      rw [hid, ← hact, h.version.2]
  have hsponsor : db.objectHistory.rows.filter (fun oh =>
      (∃ h ∈ some prev, oh.historyid = h.id) ∧ oh.clid = act.clid) = [v] := by
    refine Table.select_eq_of_key hv ⟨⟨prev, rfl, hvid⟩, hclid⟩ ?_
    rintro v' - ⟨⟨h', hh', hid⟩, -⟩
    cases hh'
    exact hid.trans hvid.symm
  have hdone : updatedBySponsor db.toVersionTables historyId =
      [some (decide (act.upid = some act.clid))] := by
    rw [updatedBySponsor, actual_eq h, leftJoin_singleton, hprevious]
    simp only [orNull, List.cons_ne_nil, if_false, List.map_singleton, leftJoin_singleton, hsponsor]
    rw [hupid, Option.map_some, hclid]
    simp [Sql.eq, Sql.compare, eq_comm]
  rw [wasUpdateDoneBySponsoringRegistrar, run_bind_of_ok (EStateM.run_get db), hdone]
  rfl

theorem run_getPrimaryRecipient (h : ContactUpdate db historyId period act) :
    (getPrimaryRecipient historyId).run db = .ok act.clid db := by
  obtain ⟨obr, hobr, hid, eot, heot, htype, hname⟩ := h.registered
  have hobject : db.objectRegistry.rows.filter (fun obr => obr.id = act.id) = [obr] :=
    Table.select_key hobr hid
  have heots : db.enums.enumObjectType.rows.filter (fun eot =>
      eot.id = obr.type ∧ eot.name = ObjectType.contact.toDbHandle) = [eot] :=
    Table.select_eq_of_key heot ⟨htype, hname⟩ fun _ _ h' => h'.1.trans htype.symm
  have htypes : leftJoin (fun o (eot : EnumObjectType) => eot.id = o.2.type ∧
      eot.name = ObjectType.contact.toDbHandle)
      (join (fun oh (obr : ObjectRegistry) => obr.id = oh.id)
        (db.objectHistory.select (·.historyid = historyId)) db.objectRegistry.rows)
      db.enums.enumObjectType.rows = [((act, obr), some eot)] := by
    rw [actual_eq h, join_singleton, hobject, List.map_singleton, leftJoin_singleton, heots]
    rfl
  rw [getPrimaryRecipient, run_bind_of_ok (EStateM.run_get db)]
  dsimp only
  rw [htypes]
  rfl

theorem typesWithIds_eq {type : MessageTypeName} (h : MessagesReady db type) :
    typesWithIds db = [(type, db.messageIdSeq)] := by
  have htypes : db.enums.messagetype.select (·.name = MessageType.updateContact.toDbHandle) = [type] :=
    Table.select_eq_of_unique db.enums.messagetype_unique h.named.1 h.named.2
  rw [typesWithIds, htypes]
  rfl

theorem run_createPollEppactionMessage {type : MessageTypeName} (h : MessagesReady db type) :
    ∃ id db' m, (createPollEppactionMessage historyId r).run db = .ok id db' ∧
      Sends historyId type [r] db db' [m] ∧ MessagesReady db' type := by
  let m := newMessage db.now r (type, db.messageIdSeq)
  obtain ⟨message, hmessage⟩ : ∃ message, db.message.insertAll? [m] = some message := by
    refine Table.exists_insertAll? (fun m' hm' m'' hm'' => ?_) (List.nodup_singleton _)
    rw [List.mem_singleton.mp hm'']
    exact (h.message m' hm').ne
  obtain ⟨pollEppaction, heppaction⟩ : ∃ pollEppaction,
      db.pollEppaction.insertAll? [⟨db.messageIdSeq, historyId⟩] = some pollEppaction := by
    refine Table.exists_insertAll? (fun pe hpe pe' hpe' => ?_) (List.nodup_singleton _)
    rw [List.mem_singleton.mp hpe']
    exact (h.eppaction pe hpe).ne
  refine ⟨m.id, { db with
    message := message
    messageIdSeq := db.messageIdSeq + 1
    pollEppaction := pollEppaction }, m, ?_, ?_, ?_⟩
  · rw [createPollEppactionMessage, run_bind_of_ok (EStateM.run_get db), typesWithIds_eq h]
    simp only [List.map_singleton]
    have hnew : newMessage db.now r (type, db.messageIdSeq) = m := rfl
    rw [hnew, hmessage, heppaction]
    rfl
  · exact ⟨Table.rows_of_insertAll? hmessage, Table.rows_of_insertAll? heppaction, rfl,
      fun m' hm' => by rw [List.mem_singleton.mp hm']; exact ⟨rfl, rfl, rfl, rfl⟩, rfl, rfl, rfl⟩
  · refine ⟨h.named, fun m' hm' => ?_, fun pe hpe => ?_⟩
    · rcases (Table.mem_of_insertAll? hmessage).mp hm' with hm' | hm'
      · exact (h.message m' hm').trans (Nat.lt_succ_self _)
      · rw [List.mem_singleton.mp hm']
        exact Nat.lt_succ_self _
    · rcases (Table.mem_of_insertAll? heppaction).mp hpe with hpe | hpe
      · exact (h.eppaction pe hpe).trans (Nat.lt_succ_self _)
      · rw [List.mem_singleton.mp hpe]
        exact Nat.lt_succ_self _

theorem run_messages {type : MessageTypeName} (h : MessagesReady db type) (registrars : List Nat) :
    ∃ ids db' messages, (registrars.mapM (createPollEppactionMessage historyId)).run db = .ok ids db' ∧
      Sends historyId type registrars db db' messages := by
  induction registrars generalizing db with
  | nil => exact ⟨[], db, [], rfl, by simp, by simp, rfl, by simp, rfl, rfl, rfl⟩
  | cons r registrars ih =>
    obtain ⟨id, db₁, m, hrun, hsends, hready⟩ := run_createPollEppactionMessage h (r := r)
    obtain ⟨ids, db', messages, hruns, hall⟩ := ih hready
    refine ⟨id :: ids, db', m :: messages, ?_, ?_⟩
    · rw [List.mapM_cons, run_bind_of_ok hrun, run_bind_of_ok hruns]
      rfl
    · exact hsends.trans hall

/-- The set of registrars that the loop of exec goes through. -/
def recipients (tables : VersionTables) (historyId : Nat) (act : ObjectVersion) : List Nat :=
  if act.upid = some act.clid then getAdditionalRecipients tables historyId
  else StdSet.insert (fun a b => decide (a < b)) act.clid (getAdditionalRecipients tables historyId)

theorem run_exec (h : ContactUpdate db historyId period act) :
    (exec historyId).run db =
      ((recipients db.toVersionTables historyId act).mapM (createPollEppactionMessage historyId) >>=
        fun messages => pure (StdSet.ofList (fun a b => decide (a < b)) messages)).run db := by
  rw [exec, run_bind_of_ok (EStateM.run_get db)]
  dsimp only
  rw [run_bind_of_ok (run_wasUpdateDone h), recipients]
  by_cases hdone : act.upid = some act.clid
  · rw [if_pos (decide_eq_true hdone), if_pos hdone]
    rfl
  · rw [if_neg (by simpa using hdone), if_neg hdone, run_bind_of_ok (run_getPrimaryRecipient h)]
    rfl

theorem ascending_recipients : StdSet.Ascending id (recipients tables historyId act) := by
  have hadditional : StdSet.Ascending id (getAdditionalRecipients tables historyId) :=
    StdSet.ascending_ofList (by simp)
  unfold recipients
  split
  · exact hadditional
  · exact StdSet.ascending_insert (by simp) hadditional

theorem mem_recipients (h : ContactUpdate db historyId period act) :
    r ∈ recipients db.toVersionTables historyId act ↔
      (r ≠ act.clid ∧ (IsConcerned db.toVersionTables period.validFrom act.id r ∨
        IsLinkedOtherwise db.toVersionTables period.validFrom act.id r)) ∨
      r = act.clid ∧ act.upid ≠ some act.clid := by
  unfold recipients
  split
  · rename_i hdone
    rw [mem_getAdditionalRecipients h]
    simp [hdone]
  · rename_i hdone
    have hinsert : r ∈ (StdSet.insert (fun a b => decide (a < b)) act.clid
        (getAdditionalRecipients db.toVersionTables historyId)).map id ↔
          r = id act.clid ∨ r ∈ (getAdditionalRecipients db.toVersionTables historyId).map id :=
      StdSet.mem_map_insert (by simp)
    rw [List.map_id, List.map_id] at hinsert
    rw [hinsert, mem_getAdditionalRecipients h, id_eq, or_comm]
    simp [hdone]

theorem exec_sends {type : MessageTypeName} (h : ContactUpdate db historyId period act)
    (hready : MessagesReady db type) :
    ∃ ids db' messages, (exec historyId).run db = .ok ids db' ∧
      Sends historyId type (recipients db.toVersionTables historyId act) db db' messages := by
  obtain ⟨ids, db', messages, hrun, hsends⟩ : ∃ ids db' messages,
      ((recipients db.toVersionTables historyId act).mapM (createPollEppactionMessage historyId)).run db =
        .ok ids db' ∧ Sends historyId type (recipients db.toVersionTables historyId act) db db' messages :=
    run_messages hready _
  exact ⟨_, db', messages, by rw [run_exec h, run_bind_of_ok hrun]; rfl, hsends⟩

end CreateUpdateOperationPollMessage

open CreateUpdateOperationPollMessage

/-- A registrar is told only because of the links that count. -/
theorem InformsRegistrars.concerned {type : MessageTypeName}
    (hinforms : InformsRegistrars db historyId period act type)
    (h : ContactUpdate db historyId period act) (hready : MessagesReady db type) (hr : r ≠ act.clid)
    (hlinked : IsLinkedOtherwise db.toVersionTables period.validFrom act.id r) :
    IsConcerned db.toVersionTables period.validFrom act.id r := by
  obtain ⟨ids, db', messages, registrars, hrun, hsends, -, hshould⟩ := hinforms
  obtain ⟨ids', db'', messages', hrun', hsends'⟩ := exec_sends h hready
  obtain ⟨-, rfl⟩ : ids = ids' ∧ db' = db'' := by
    rw [hrun] at hrun'
    cases hrun'
    exact ⟨rfl, rfl⟩
  have hmessages : messages = messages' :=
    List.append_cancel_left (hsends.message.symm.trans hsends'.message)
  have hregistrars : registrars = recipients db.toVersionTables historyId act := by
    rw [← hsends.clids, ← hsends'.clids, hmessages]
  have hmem : r ∈ registrars := by
    rw [hregistrars, mem_recipients h]
    exact .inl ⟨hr, .inr hlinked⟩
  rcases (hshould r).mp hmem with ⟨-, hconcerned⟩ | ⟨hown, -⟩
  · exact hconcerned
  · exact absurd hown hr

/-- Sponsors of domains that have the contact in another role are told as well. -/
theorem informs_registrars_iff {type : MessageTypeName} (h : ContactUpdate db historyId period act)
    (hready : MessagesReady db type) :
    InformsRegistrars db historyId period act type ↔
      ∀ r, r ≠ act.clid → IsLinkedOtherwise db.toVersionTables period.validFrom act.id r →
        IsConcerned db.toVersionTables period.validFrom act.id r := by
  constructor
  · intro hinforms r hr hlinked
    exact hinforms.concerned h hready hr hlinked
  · intro hlinks
    obtain ⟨ids, db', messages, hrun, hsends⟩ := exec_sends h hready
    refine ⟨ids, db', messages, _, hrun, hsends, ?_, fun r => ?_⟩
    · have hascending : StdSet.Ascending id (recipients db.toVersionTables historyId act) :=
        ascending_recipients
      rw [StdSet.Ascending, List.map_id] at hascending
      exact hascending.imp Nat.ne_of_lt
    · rw [mem_recipients h, ShouldKnow]
      constructor
      · rintro (⟨hr, hconcerned | hlinked⟩ | hown)
        · exact .inl ⟨hr, hconcerned⟩
        · exact .inl ⟨hr, hlinks r hr hlinked⟩
        · exact .inr hown
      · rintro (⟨hr, hconcerned⟩ | hown)
        · exact .inl ⟨hr, .inl hconcerned⟩
        · exact .inr hown

def updateEnums : EnumTables where
  enumObjectStates := ∅
  enumObjectType := ⟨[⟨1, "contact"⟩, ⟨2, "nsset"⟩, ⟨3, "domain"⟩, ⟨4, "keyset"⟩], by decide⟩
  messagetype := ⟨[⟨16, "update_contact"⟩], by decide⟩
  objectState_unique _ ha := absurd ha Table.not_mem_empty
  objectType_unique _ ha _ hb h := List.inj_on_of_nodup_map (by decide) ha hb h
  messagetype_unique _ ha _ hb h := List.inj_on_of_nodup_map (by decide) ha hb h
  objectType_filled
    | .contact => ⟨_, .head _, rfl⟩
    | .nsset => ⟨_, .tail _ (.head _), rfl⟩
    | .domain => ⟨_, .tail _ (.tail _ (.head _)), rfl⟩
    | .keyset => ⟨_, .tail _ (.tail _ (.tail _ (.head _))), rfl⟩

/-- The contact 5 of the registrar 81 is updated; a domain of the registrar 82 has it in a role. -/
def linkedDatabase (role : Nat) : UpdateDatabase where
  objectRegistry := ⟨[⟨5, 1⟩, ⟨6, 3⟩], by decide⟩
  history := ⟨[⟨11, 0, some 100, some 12⟩, ⟨12, 100, none, none⟩, ⟨13, 0, none, none⟩], by decide⟩
  objectHistory := ⟨[⟨11, 5, 81, none⟩, ⟨12, 5, 81, some 81⟩, ⟨13, 6, 82, none⟩], by decide⟩
  domainHistory := ⟨[⟨13, 6, 7⟩], by decide⟩
  domainContactMapHistory := [⟨13, 6, 5, role⟩]
  now := 100
  enums := updateEnums
  message := ∅
  messageIdSeq := 1
  pollEppaction := ∅

theorem linked_update (role : Nat) :
    ContactUpdate (linkedDatabase role) 12 ⟨12, 100, none, none⟩ ⟨12, 5, 81, some 81⟩ where
  begins := ⟨.tail _ (.head _), rfl⟩
  version := ⟨.tail _ (.head _), rfl⟩
  registered := ⟨⟨5, 1⟩, .head _, rfl, ⟨1, "contact"⟩, .head _, rfl, rfl⟩
  previous := by
    refine ⟨⟨11, 0, some 100, some 12⟩, .head _, rfl, ?_, ⟨11, 5, 81, none⟩, .head _, rfl, rfl⟩
    intro h hh hnext
    have hrows : h = ⟨11, 0, some 100, some 12⟩ ∨ h = ⟨12, 100, none, none⟩ ∨
        h = ⟨13, 0, none, none⟩ := by simpa [linkedDatabase] using Table.mem_rows.mpr hh
    rcases hrows with rfl | rfl | rfl
    · rfl
    · cases hnext
    · cases hnext
  updated := ⟨81, rfl⟩

theorem linked_ready (role : Nat) : MessagesReady (linkedDatabase role) ⟨16, "update_contact"⟩ where
  named := ⟨.head _, rfl⟩
  message _ hm := absurd hm Table.not_mem_empty
  eppaction _ hpe := absurd hpe Table.not_mem_empty

/-- The sponsor of the domain is found only through the link. -/
theorem linked_sponsor {role : Nat} (hlinked : SponsorsAt (linkedDatabase role).toVersionTables t
    (HasLink (linkedDatabase role).toVersionTables contact (· ≠ 1)) r) : role ≠ 1 := by
  obtain ⟨-, -, -, ⟨link, hlink, -, -, hrole⟩, -⟩ := hlinked
  cases List.mem_singleton.mp hlink
  exact hrole

theorem administrated_domain_informs :
    InformsRegistrars (linkedDatabase 1) 12 ⟨12, 100, none, none⟩ ⟨12, 5, 81, some 81⟩
      ⟨16, "update_contact"⟩ :=
  (informs_registrars_iff (linked_update 1) (linked_ready 1)).mpr
    fun _ _ hlinked => absurd rfl (linked_sponsor hlinked)

theorem temporary_link_informs :
    ∃ db historyId period act type, ContactUpdate db historyId period act ∧ MessagesReady db type ∧
      ¬ InformsRegistrars db historyId period act type := by
  refine ⟨linkedDatabase 2, 12, _, _, _, linked_update 2, linked_ready 2, fun hinforms => ?_⟩
  have hlinked : IsLinkedOtherwise (linkedDatabase 2).toVersionTables 100 5 82 :=
    ⟨⟨13, 6, 82, none⟩, .tail _ (.tail _ (.head _)), rfl, ⟨⟨13, 6, 5, 2⟩, .head _, rfl, rfl, by decide⟩,
      ⟨13, 0, none, none⟩, .tail _ (.tail _ (.head _)), rfl, by decide, nofun⟩
  obtain ⟨v, -, -, hchosen, -⟩ :=
    hinforms.concerned (linked_update 2) (linked_ready 2) (by decide) hlinked
  rcases hchosen with ⟨dh, hdh, -, hregistrant⟩ | ⟨link, hlink, -, -, hrole⟩
  · cases List.mem_singleton.mp hdh
    cases hregistrant
  · cases List.mem_singleton.mp hlink
    cases hrole

end LibFred.Poll
