import LibFred.RegistrableObject.Domain.InfoDomainDiff
import LibFred.RegistrableObject.Keyset.InfoKeysetDiff
import LibFred.RegistrableObject.Nsset.InfoNssetDiff
import LibFred.Sql.Table
import LibFred.Sql.Truth
import Mathlib.Data.Finset.Dedup

/-! The addresses that a notification of an event on an object is sent to. -/
namespace LibFred.Notifier

open RegistrableObject Sql
open RegistrableObject.Domain (InfoDomainData diffDomainData)
open RegistrableObject.Nsset (InfoNssetData)
open RegistrableObject.Keyset (InfoKeysetData)

inductive ObjectType
  | contact
  | nsset
  | domain
  | keyset
  deriving DecidableEq

inductive NotifiedEvent
  | created
  | updated
  | transferred
  | deleted
  | renewed
  deriving DecidableEq

/-- A version of an object. -/
structure History (T : Type) where
  id : Nat
  validFrom : T
  validTo : Option T
  next : Option Nat

structure ContactHistory where
  historyid : Nat
  id : Nat
  notifyemail : Option String

instance {T : Type} : Keyed (History T) Nat := ⟨History.id⟩
instance : Keyed ContactHistory Nat := ⟨ContactHistory.historyid⟩
instance : Keyed InfoDomainData Nat := ⟨InfoDomainData.historyid⟩
instance : Keyed InfoNssetData Nat := ⟨InfoNssetData.historyid⟩
instance : Keyed InfoKeysetData Nat := ⟨InfoKeysetData.historyid⟩

/-- The versions of the objects, those of domains, nssets and keysets as they are read. -/
structure Versions (T : Type) where
  history : Table (History T)
  contactHistory : Table ContactHistory
  domainHistory : Table InfoDomainData
  nssetHistory : Table InfoNssetData
  keysetHistory : Table InfoKeysetData

inductive GatherException
  | unknownHistoryId
  | unknownObjectHistoryid (historyid : Nat)
  | multipleObjectHistories
  | invalidUpdateEvent
  | invalidTime
  | runtimeError (what : String)
  deriving DecidableEq

variable {T : Type}

/-- The version of a history id; there is one at most, as the id is a primary key. -/
def infoHistoryByHistoryid {ρ : Type} [Keyed ρ Nat] (db : Versions T) (table : Table ρ)
    (historyid : Nat) : Except GatherException ρ :=
  match table.lookup historyid, db.history.lookup historyid with
  | some data, some _ => .ok data
  | _, _ => .error (.unknownObjectHistoryid historyid)

def infoDomainHistoryByHistoryid (db : Versions T) (historyid : Nat) :
    Except GatherException InfoDomainData :=
  infoHistoryByHistoryid db db.domainHistory historyid

def infoNssetHistoryByHistoryid (db : Versions T) (historyid : Nat) :
    Except GatherException InfoNssetData :=
  infoHistoryByHistoryid db db.nssetHistory historyid

def infoKeysetHistoryByHistoryid (db : Versions T) (historyid : Nat) :
    Except GatherException InfoKeysetData :=
  infoHistoryByHistoryid db db.keysetHistory historyid

/-- A version with the technical contacts, and when it was valid. -/
structure TechVersion (T : Type) where
  historyValidFrom : T
  historyValidTo : Option T
  techContacts : List ContactReference

def infoNssetHistoryById (db : Versions T) (id : Nat) : List (TechVersion T) :=
  (db.nssetHistory.select (·.id = id)).filterMap fun data =>
    (db.history.lookup data.historyid).map fun h => ⟨h.validFrom, h.validTo, data.techContacts⟩

def infoKeysetHistoryById (db : Versions T) (id : Nat) : List (TechVersion T) :=
  (db.keysetHistory.select (·.id = id)).filterMap fun data =>
    (db.history.lookup data.historyid).map fun h => ⟨h.validFrom, h.validTo, data.techContacts⟩

/-- valid_from or, after a deletion, valid_to. -/
def getUtcTimeOfEvent (db : Versions T) (event : NotifiedEvent) (lastHistoryId : Nat) :
    Except GatherException T :=
  match db.history.lookup lastHistoryId with
  | none => .error .unknownHistoryId
  | some h =>
    match event, h.validTo with
    | .deleted, some validTo => .ok validTo
    | .deleted, none => .error .invalidTime
    | _, _ => .ok h.validFrom

def getPreviousObjectHistoryid (db : Versions T) (historyid : Nat) :
    Except GatherException (Option Nat) :=
  match db.history.select (·.next = some historyid) with
  | [] => .ok none
  | [older] => .ok (some older.id)
  | _ => .error .multipleObjectHistories

/-- get_value_or_throw<ExceptionInvalidUpdateEvent>. -/
def getValueOrThrow {α : Type} : Option α → Except GatherException α
  | some a => .ok a
  | none => .error .invalidUpdateEvent

def ids (references : List RegistrableObjectReference) : Finset Nat :=
  (references.map (·.id)).toFinset

def getIdsOfContactsAcceptingNotifications (data : InfoDomainData) : Finset Nat :=
  insert data.registrant.id (ids data.adminContacts)

section

variable [LinearOrder T]

def TechVersion.validAt (time : T) (version : TechVersion T) : Prop :=
  version.historyValidFrom ≤ time ∧ ∀ validTo ∈ version.historyValidTo, time ≤ validTo

instance (time : T) : DecidablePred (TechVersion.validAt time) := fun version => by
  unfold TechVersion.validAt
  cases version.historyValidTo <;> simp <;> infer_instance

/-- The technical contacts of the versions around the time; there is one at least. -/
def techContactsAt (error : String) (time : T) (versions : List (TechVersion T)) :
    Except GatherException (Finset Nat) :=
  match versions.filter (·.validAt time) with
  | [] => .error (.runtimeError error)
  | valid => .ok (ids (valid.flatMap (·.techContacts)))

variable (db : Versions T) (event : NotifiedEvent) (historyIdAfterChange : Nat)

/-- The technical contacts of the old and the new nsset or keyset, when it was changed. -/
def insertTechContacts (error : String) (history : Nat → List (TechVersion T))
    (diff : DiffMember (Option RegistrableObjectReference)) (contactIds : Finset Nat) :
    Except GatherException (Finset Nat) :=
  match diff with
  | none => .ok contactIds
  | some (first, second) => do
    let time ← getUtcTimeOfEvent db event historyIdAfterChange
    ((first.toList ++ second.toList).map (·.id)).dedup.foldlM (fun contactIds id => do
      let tech ← techContactsAt error time (history id)
      return contactIds ∪ tech) contactIds

def gatherContactIdsToNotifyDomainEvent : Except GatherException (Finset Nat) := do
  let after ← infoDomainHistoryByHistoryid db historyIdAfterChange
  if event = .updated then do
    let historyIdBeforeChange ←
      (getPreviousObjectHistoryid db historyIdAfterChange >>= getValueOrThrow)
    let before ← infoDomainHistoryByHistoryid db historyIdBeforeChange
    let diff := diffDomainData before after
    let contactIds ← insertTechContacts db event historyIdAfterChange
      "inconsistent data - Nsset that was associated before or after event to domain should exist at that time"
      (infoNssetHistoryById db) diff.nsset
      (getIdsOfContactsAcceptingNotifications after ∪ getIdsOfContactsAcceptingNotifications before)
    insertTechContacts db event historyIdAfterChange
      "inconsistent data - Keyset that was associated before or after event to domain should exist at that time"
      (infoKeysetHistoryById db) diff.keyset contactIds
  else return getIdsOfContactsAcceptingNotifications after

def gatherContactIdsToNotifyNssetEvent : Except GatherException (Finset Nat) := do
  let after ← infoNssetHistoryByHistoryid db historyIdAfterChange
  if event = .updated then do
    let historyIdBeforeChange ←
      (getPreviousObjectHistoryid db historyIdAfterChange >>= getValueOrThrow)
    let before ← infoNssetHistoryByHistoryid db historyIdBeforeChange
    return ids after.techContacts ∪ ids before.techContacts
  else return ids after.techContacts

def gatherContactIdsToNotifyKeysetEvent : Except GatherException (Finset Nat) := do
  let after ← infoKeysetHistoryByHistoryid db historyIdAfterChange
  if event = .updated then do
    let historyIdBeforeChange ←
      (getPreviousObjectHistoryid db historyIdAfterChange >>= getValueOrThrow)
    let before ← infoKeysetHistoryByHistoryid db historyIdBeforeChange
    return ids after.techContacts ∪ ids before.techContacts
  else return ids after.techContacts

/-- The old and the new value, unless empty. -/
def getEmailsToNotifyContactEvent : Except GatherException (Finset String) := do
  let after ← infoHistoryByHistoryid db db.contactHistory historyIdAfterChange
  if event = .updated then do
    let historyIdBeforeChange ←
      (getPreviousObjectHistoryid db historyIdAfterChange >>= getValueOrThrow)
    let before ← infoHistoryByHistoryid db db.contactHistory historyIdBeforeChange
    return ([after.notifyemail, before.notifyemail].reduceOption.filter (· ≠ "")).toFinset
  else return ([after.notifyemail].reduceOption.filter (· ≠ "")).toFinset

/-- std::isspace. -/
def isSpace (c : Char) : Bool := c = ' ' || (9 ≤ c.toNat && c.toNat ≤ 13)

/-- boost::algorithm::trim_copy. -/
def trimCopy (s : String) : String :=
  String.ofList ((s.toList.dropWhile isSpace).reverse.dropWhile isSpace).reverse

/-- h.valid_from <= $2 AND $2 < COALESCE( h.valid_to, 'infinity' ). -/
def History.validAt (time : T) (h : History T) : Prop :=
  ((le (some h.validFrom) (some time)).and ((isNull h.validTo).or (lt (some time) h.validTo))).holds

instance (time : T) : DecidablePred (History.validAt time) := fun h => by
  unfold History.validAt
  infer_instance

/-- The trimmed addresses of the contacts at the time. -/
def getEmailAddresses (contactIds : Finset Nat) (timeOfValidity : T) : Finset String :=
  ((((db.contactHistory.select fun c_h => c_h.id ∈ contactIds ∧
    ∃ h ∈ db.history.rows, h.id = c_h.historyid ∧ h.validAt timeOfValidity).filterMap
      (·.notifyemail)).map trimCopy).filter (· ≠ "")).toFinset

def gatherEmailAddresses (type : ObjectType) : Except GatherException (Finset String) :=
  match type with
  | .contact => getEmailsToNotifyContactEvent db event historyIdAfterChange
  | .domain => do
    let contactIds ← gatherContactIdsToNotifyDomainEvent db event historyIdAfterChange
    let time ← getUtcTimeOfEvent db event historyIdAfterChange
    return getEmailAddresses db contactIds time
  | .keyset => do
    let contactIds ← gatherContactIdsToNotifyKeysetEvent db event historyIdAfterChange
    let time ← getUtcTimeOfEvent db event historyIdAfterChange
    return getEmailAddresses db contactIds time
  | .nsset => do
    let contactIds ← gatherContactIdsToNotifyNssetEvent db event historyIdAfterChange
    let time ← getUtcTimeOfEvent db event historyIdAfterChange
    return getEmailAddresses db contactIds time

end

end LibFred.Notifier
