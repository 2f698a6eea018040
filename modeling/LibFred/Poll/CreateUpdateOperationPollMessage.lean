import LibFred.Cpp.StdSet
import LibFred.Poll.CreateStateMessages

/-! The poll messages that tell registrars of the update of a contact. -/
namespace LibFred.Poll

open Sql

/-- A row of history. -/
structure HistoryPeriod where
  id : Nat
  validFrom : Timestamp
  validTo : Option Timestamp
  next : Option Nat

/-- A row of object_history. -/
structure ObjectVersion where
  historyid : Nat
  id : Nat
  clid : Nat
  upid : Option Nat

/-- A row of domain_history. -/
structure DomainVersion where
  historyid : Nat
  id : Nat
  registrant : Nat

/-- A row of domain_contact_map_history; administrators have the role 1. -/
structure ContactLink where
  historyid : Nat
  domainid : Nat
  contactid : Nat
  role : Nat

structure PollEppaction where
  msgid : Nat
  objid : Nat

instance : Keyed HistoryPeriod Nat := ⟨HistoryPeriod.id⟩
instance : Keyed ObjectVersion Nat := ⟨ObjectVersion.historyid⟩
instance : Keyed DomainVersion Nat := ⟨DomainVersion.historyid⟩
instance : Keyed PollEppaction Nat := ⟨PollEppaction.msgid⟩

structure VersionTables where
  objectRegistry : Table ObjectRegistry
  history : Table HistoryPeriod
  objectHistory : Table ObjectVersion
  domainHistory : Table DomainVersion
  domainContactMapHistory : List ContactLink

structure UpdateDatabase extends VersionTables where
  now : Timestamp
  enums : EnumTables
  message : Table Message
  messageIdSeq : Nat
  pollEppaction : Table PollEppaction

inductive UpdateException
  | notFound
  | tooManyRows
  | notCorrespondingObjectType
  | notUpdated
  | unexpectedNumberOfRows
  | sqlError
  deriving DecidableEq

abbrev UpdateExec := EStateM UpdateException UpdateDatabase

/-- The only row of a result. -/
def onlyRow {α : Type} : List α → UpdateExec α
  | [] => throw .notFound
  | [row] => return row
  | _ :: _ :: _ => throw .tooManyRows

namespace CreateUpdateOperationPollMessage

variable (tables : VersionTables) (historyId : Nat)

/-- The rows of contact_: the period and the version. -/
def contacts : List (HistoryPeriod × ObjectVersion) :=
  join (fun h (oh : ObjectVersion) => oh.historyid = h.id)
    (tables.history.select (·.id = historyId)) tables.objectHistory.rows

/-- What both parts of the union do with the versions of domains that they choose. -/
def otherSponsors (contact : HistoryPeriod × ObjectVersion) (historyids : List Nat) : List Nat :=
  let versions := join (fun id (oh : ObjectVersion) => oh.historyid = id)
    historyids tables.objectHistory.rows
  let current := join (fun v (h : HistoryPeriod) => h.id = v.1 ∧ h.validFrom ≤ contact.1.validFrom ∧
    ∀ validTo ∈ h.validTo, contact.1.validFrom < validTo) versions tables.history.rows
  (current.filter fun v => v.1.2.clid ≠ contact.2.clid).map (·.1.2.clid)

def registrantVersions (contactId : Nat) : List Nat :=
  (tables.domainHistory.select (·.registrant = contactId)).map (·.historyid)

def linkVersions (contactId : Nat) : List Nat :=
  (tables.domainContactMapHistory.filter fun dcmh => dcmh.contactid = contactId).map (·.historyid)

/-- GetAdditionalRecipients::exec -/
def getAdditionalRecipients : List Nat :=
  StdSet.ofList (fun a b => decide (a < b)) <| (contacts tables historyId).flatMap fun c =>
    otherSponsors tables c (registrantVersions tables c.2.id) ++
      otherSponsors tables c (linkVersions tables c.2.id)

/-- The comparison of the sponsor before the update with the registrar that made it. -/
def updatedBySponsor : List Truth :=
  let actual := tables.objectHistory.select (·.historyid = historyId)
  let previous := leftJoin (fun act (h : HistoryPeriod) => (eq h.next (some act.historyid)).holds)
    actual tables.history.rows
  let sponsors := leftJoin (fun p (oh : ObjectVersion) =>
    (∃ h ∈ p.2, oh.historyid = h.id) ∧ oh.clid = p.1.clid) previous tables.objectHistory.rows
  sponsors.map fun p => eq (p.2.map (·.clid)) p.1.1.upid

def wasUpdateDoneBySponsoringRegistrar : UpdateExec Bool := do
  let db ← get
  match ← onlyRow (updatedBySponsor db.toVersionTables historyId) with
  | none => throw .notUpdated
  | some done => return done

/-- GetPrimaryRecipient::exec for contacts. -/
def getPrimaryRecipient : UpdateExec Nat := do
  let db ← get
  let objects := join (fun oh (obr : ObjectRegistry) => obr.id = oh.id)
    (db.objectHistory.select (·.historyid = historyId)) db.objectRegistry.rows
  let types := leftJoin (fun o (eot : EnumObjectType) => eot.id = o.2.type ∧
    eot.name = ObjectType.contact.toDbHandle) objects db.enums.enumObjectType.rows
  let row ← onlyRow types
  if row.2.isSome then return row.1.1.clid else throw .notCorrespondingObjectType

/-- Every message type of the name, with the value of the sequence that its message takes. -/
def typesWithIds (db : UpdateDatabase) : List (MessageTypeName × Nat) :=
  (db.enums.messagetype.select (·.name = MessageType.updateContact.toDbHandle)).zipIdx db.messageIdSeq

def newMessage (now : Timestamp) (registrarId : Nat) (row : MessageTypeName × Nat) : Message where
  id := row.2
  clid := registrarId
  crdate := now
  exdate := now + CreateStateMessages.expiration
  seen := false
  msgtype := row.1.id

def createPollEppactionMessage (registrarId : Nat) : UpdateExec Nat := do
  let db ← get
  let rows := typesWithIds db
  match db.message.insertAll? (rows.map (newMessage db.now registrarId)),
    db.pollEppaction.insertAll? (rows.map fun row => ⟨row.2, historyId⟩) with
  | some message, some pollEppaction =>
    set { db with
      message := message
      messageIdSeq := db.messageIdSeq + rows.length
      pollEppaction := pollEppaction }
    match rows with
    | [row] => return row.2
    | _ => throw .unexpectedNumberOfRows
  | _, _ => throw .sqlError

def exec : UpdateExec (List Nat) := do
  let db ← get
  let recipients := getAdditionalRecipients db.toVersionTables historyId
  let done ← wasUpdateDoneBySponsoringRegistrar historyId
  let recipients ←
    if done then pure recipients
    else
      let registrar ← getPrimaryRecipient historyId
      pure (StdSet.insert (fun a b => decide (a < b)) registrar recipients)
  let messages ← recipients.mapM (createPollEppactionMessage historyId)
  return StdSet.ofList (fun a b => decide (a < b)) messages

end CreateUpdateOperationPollMessage

end LibFred.Poll
