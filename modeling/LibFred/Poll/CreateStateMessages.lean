import LibFred.ObjectState.ObjectStateRequest
import LibFred.Order.Sorting
import LibFred.Sql.Action
import LibFred.Sql.Join
import Mathlib.Data.Finset.Image

/-! The poll messages that tell registrars of the states of their objects. -/
namespace LibFred.Poll

open Sql
open LibFred.ObjectState (EnumObjectState)

inductive MessageType
  | credit
  | requestFeeInfo
  | techcheck
  | transferContact
  | transferDomain
  | transferNsset
  | transferKeyset
  | idleDeleteContact
  | idleDeleteDomain
  | idleDeleteNsset
  | idleDeleteKeyset
  | impExpiration
  | expiration
  | outzone
  | impValidation
  | validation
  | updateContact
  | updateDomain
  | updateNsset
  | updateKeyset
  | deleteContact
  | deleteDomain
  deriving DecidableEq

def MessageType.toDbHandle : MessageType → String
  | credit => "credit"
  | requestFeeInfo => "request_fee_info"
  | techcheck => "techcheck"
  | transferContact => "transfer_contact"
  | transferDomain => "transfer_domain"
  | transferNsset => "transfer_nsset"
  | transferKeyset => "transfer_keyset"
  | idleDeleteContact => "idle_delete_contact"
  | idleDeleteDomain => "idle_delete_domain"
  | idleDeleteNsset => "idle_delete_nsset"
  | idleDeleteKeyset => "idle_delete_keyset"
  | impExpiration => "imp_expiration"
  | expiration => "expiration"
  | outzone => "outzone"
  | impValidation => "imp_validation"
  | validation => "validation"
  | updateContact => "update_contact"
  | updateDomain => "update_domain"
  | updateNsset => "update_nsset"
  | updateKeyset => "update_keyset"
  | deleteContact => "delete_contact"
  | deleteDomain => "delete_domain"

inductive ObjectType
  | contact
  | nsset
  | domain
  | keyset

def ObjectType.toDbHandle : ObjectType → String
  | contact => "contact"
  | nsset => "nsset"
  | domain => "domain"
  | keyset => "keyset"

structure EnumObjectType where
  id : Nat
  name : String

/-- A row of messagetype. -/
structure MessageTypeName where
  id : Nat
  name : String

instance : Keyed EnumObjectType Nat := ⟨EnumObjectType.id⟩
instance : Keyed MessageTypeName Nat := ⟨MessageTypeName.id⟩

/-- The enumerations of the schema. Names are unique in each, and `Object_Type` is filled in. -/
structure EnumTables where
  enumObjectStates : Table EnumObjectState
  enumObjectType : Table EnumObjectType
  messagetype : Table MessageTypeName
  objectState_unique : ∀ a ∈ enumObjectStates, ∀ b ∈ enumObjectStates, a.name = b.name → a = b
  objectType_unique : ∀ a ∈ enumObjectType, ∀ b ∈ enumObjectType, a.name = b.name → a = b
  messagetype_unique : ∀ a ∈ messagetype, ∀ b ∈ messagetype, a.name = b.name → a = b
  objectType_filled : ∀ type : ObjectType, ∃ eot ∈ enumObjectType, eot.name = type.toDbHandle

/-- Microseconds. -/
abbrev Timestamp := Int

structure ObjectRegistry where
  id : Nat
  type : Nat

structure ObjectState where
  id : Nat
  objectId : Nat
  stateId : Nat
  validTo : Option Timestamp
  ohidFrom : Option Nat

structure ObjectHistory where
  historyid : Nat
  clid : Nat

structure Message where
  id : Nat
  clid : Nat
  crdate : Timestamp
  exdate : Timestamp
  seen : Bool
  msgtype : Nat

structure PollStatechange where
  msgid : Nat
  stateid : Nat

instance : Keyed ObjectRegistry Nat := ⟨ObjectRegistry.id⟩
instance : Keyed ObjectState Nat := ⟨ObjectState.id⟩
instance : Keyed ObjectHistory Nat := ⟨ObjectHistory.historyid⟩
instance : Keyed Message Nat := ⟨Message.id⟩
instance : Keyed PollStatechange Nat := ⟨PollStatechange.msgid⟩

structure ObjectTables where
  objectRegistry : Table ObjectRegistry
  objectState : Table ObjectState
  objectHistory : Table ObjectHistory

/-- `now` is the time of the transaction and `messageIdSeq` the next value of message_id_seq. -/
structure Database extends ObjectTables where
  now : Timestamp
  enums : EnumTables
  message : Table Message
  messageIdSeq : Nat
  pollStatechange : Table PollStatechange

inductive Exception
  | sqlError
  deriving DecidableEq

abbrev Exec := EStateM Exception Database

/-- The messages that name a state or a type of objects by which they are chosen. -/
structure NameFilter where
  stateidname : String
  registrytypename : Option String
  msgtypename : String
  deriving DecidableEq

def pfilter : List NameFilter :=
  [⟨"expirationWarning", none, "imp_expiration"⟩,
    ⟨"expired", none, "expiration"⟩,
    ⟨"validationWarning1", none, "imp_validation"⟩,
    ⟨"notValidated", none, "validation"⟩,
    ⟨"outzoneUnguarded", none, "outzone"⟩,
    ⟨"deleteCandidate", some "contact", "idle_delete_contact"⟩,
    ⟨"deleteCandidate", some "nsset", "idle_delete_nsset"⟩,
    ⟨"deleteCandidate", some "domain", "idle_delete_domain"⟩,
    ⟨"deleteCandidate", some "keyset", "idle_delete_keyset"⟩]

structure CreateStateMessages where
  exceptList : Finset MessageType
  limit : Option Int

namespace CreateStateMessages

/-- Without exceptions the query has no condition here. -/
def sfilter (op : CreateStateMessages) : List NameFilter :=
  if op.exceptList = ∅ then pfilter
  else pfilter.filter fun f => f.msgtypename ∉ op.exceptList.image MessageType.toDbHandle

/-- The rows of tfilter; NULL stands for any type. -/
structure Filter where
  stateid : Nat
  registrytype : Option Nat
  msgtype : Nat

/-- A name of pfilter with its rows in the enumerations. -/
abbrev NamedFilter := ((NameFilter × EnumObjectState) × Option EnumObjectType) × MessageTypeName

def namedFilters (op : CreateStateMessages) (enums : EnumTables) : List NamedFilter :=
  let states := join (fun f (eos : EnumObjectState) => eos.name = f.stateidname)
    op.sfilter enums.enumObjectStates.rows
  let types := leftJoin
    (fun f (eot : EnumObjectType) => (eq (some eot.name) f.1.registrytypename).holds)
    states enums.enumObjectType.rows
  join (fun f (mt : MessageTypeName) => mt.name = f.1.1.msgtypename) types enums.messagetype.rows

def tfilter (op : CreateStateMessages) (enums : EnumTables) : List Filter :=
  (op.namedFilters enums).map fun f => ⟨f.1.1.2.id, f.1.2.map (·.id), f.2.id⟩

/-- The rows of tmp_table but for the ids that they take from the sequence. -/
structure StateChange where
  reg : Nat
  msgtype : Nat
  stateid : Nat

/-- An object with a state, the version in which it began, and the filter that chose it. -/
abbrev ChosenState := ((ObjectRegistry × ObjectState) × ObjectHistory) × Filter

def chosenStates (op : CreateStateMessages) (db : Database) : List ChosenState :=
  let states := join (fun ob (os : ObjectState) => os.objectId = ob.id)
    db.objectRegistry.rows db.objectState.rows
  let versions := join
    (fun s (oh : ObjectHistory) => (eq (some oh.historyid) s.2.ohidFrom).holds)
    states db.objectHistory.rows
  join (fun s f => f.stateid = s.1.2.stateId ∧
    ((isNull f.registrytype).or (eq f.registrytype (some s.1.1.type))).holds)
    versions (op.tfilter db.enums)

/-- Open states that were not announced before, in the order of their ids. -/
def stateChanges (op : CreateStateMessages) (db : Database) : List StateChange :=
  let announced := leftJoin (fun s (ps : PollStatechange) => ps.stateid = s.1.1.2.id)
    (op.chosenStates db) db.pollStatechange.rows
  let fresh := announced.filter fun s => s.1.1.1.2.validTo.isNone ∧ s.2.isNone
  (Sorting.byKey StateChange.stateid).sort
    (fresh.map fun s => ⟨s.1.1.2.clid, s.1.2.msgtype, s.1.1.1.2.id⟩)

def limited (op : CreateStateMessages) (rows : List StateChange) : List StateChange :=
  match op.limit with
  | none => rows
  | some limit => rows.take limit.toNat

/-- The rows with the values of the sequence from `id` on. -/
def tmpTable : Nat → List StateChange → List (Nat × StateChange)
  | _, [] => []
  | id, row :: rows => (id, row) :: tmpTable (id + 1) rows

/-- Seven days in microseconds. -/
def expiration : Timestamp := 7 * 24 * 60 * 60 * 1000000

def newMessage (now : Timestamp) (row : Nat × StateChange) : Message where
  id := row.1
  clid := row.2.reg
  crdate := now
  exdate := now + expiration
  seen := false
  msgtype := row.2.msgtype

def newStatechange (row : Nat × StateChange) : PollStatechange where
  msgid := row.1
  stateid := row.2.stateid

/-- Both INSERTs read the same rows of tmp_table. -/
def exec (op : CreateStateMessages) : Exec Nat := do
  let db ← get
  raiseIf (lt op.limit (some 0)).holds .sqlError
  let rows := tmpTable db.messageIdSeq (op.limited (op.stateChanges db))
  match db.message.insertAll? (rows.map (newMessage db.now)),
    db.pollStatechange.insertAll? (rows.map newStatechange) with
  | some message, some pollStatechange =>
    set { db with
      message := message
      messageIdSeq := db.messageIdSeq + rows.length
      pollStatechange := pollStatechange }
    return rows.length
  | _, _ => throw .sqlError

end CreateStateMessages

end LibFred.Poll
