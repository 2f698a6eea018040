import LibFred.Cpp.StdSet
import LibFred.ObjectState.ObjectStateRequest
import LibFred.RegistrableObject.StateHistory
import LibFred.Sql.Text
import Mathlib.Data.String.Basic

/-! Administrative blocking of an object and the restoring of the states that it had before. -/
namespace LibFred.ObjectState

open Sql
open LibFred.RegistrableObject (ObjectState)

/-- A description of a state in some language. -/
structure EnumObjectStatesDesc where
  stateId : Nat
  lang : String
  description : String

structure ObjectStateRequestReason where
  objectStateRequestId : Nat
  reasonCreation : Option String
  reasonCancellation : Option String

/-- The tables that the administrative operations only read. -/
structure Catalog extends Registry where
  enumObjectStatesDesc : List EnumObjectStatesDesc

structure Tables (T : Type) where
  requests : Requests T
  objectState : Table (ObjectState T)
  objectStateRequestReason : List ObjectStateRequestReason

inductive AdminException (T : Type)
  | vectorOfStateNotFound (names : List String)
  | stateNotFound (name : String)
  | serverBlockedPresent (objectId : Nat)
  | serverBlockedAbsent (objectId : Nat)
  | langNotFound (lang : String)
  | logicError (what : String)
  | objectStateRequest (e : Exception T)

variable {T α : Type}

abbrev AdminExec (T : Type) := EStateM (AdminException T) (Tables T)

/-- An operation on the requests only. -/
def onRequests (x : Exec T α) : AdminExec T α := fun s =>
  match x.run s.requests with
  | .ok a requests => .ok a { s with requests := requests }
  | .error e requests => .error (.objectStateRequest e) { s with requests := requests }

theorem ascending_ofList_names (names : List String) :
    (StdSet.ofList (fun a b => decide (a < b)) names).Pairwise (· < ·) := by
  have h : StdSet.Ascending id (StdSet.ofList (fun a b => decide (a < b)) names) :=
    StdSet.ascending_ofList fun a b => decide_eq_true_iff
  simpa [StdSet.Ascending] using h

def StatusList.ofNames (names : List String) : StatusList :=
  ⟨StdSet.ofList (fun a b => decide (a < b)) names, ascending_ofList_names names⟩

def StatusList.insert (statusList : StatusList) (name : String) : StatusList :=
  StatusList.ofNames (name :: statusList.names)

/-- eos.manual AND eos.name LIKE 'server%'. -/
def EnumObjectState.ManualServer (eos : EnumObjectState) : Prop := eos.manual ∧ eos.isServer

instance : DecidablePred EnumObjectState.ManualServer := fun eos => by
  unfold EnumObjectState.ManualServer
  infer_instance

/-- The statuses that GetBlockingStatusDescList describes in a language. -/
def getBlockingStatusDescList (cat : Catalog) (lang : String) : AdminExec T (List String) := do
  let statuses := (cat.enumObjectStates.select fun eos =>
    eos.ManualServer ∧ eos.name ≠ "serverBlocked").flatMap fun eos =>
      (cat.enumObjectStatesDesc.filter fun eosd =>
        eosd.stateId = eos.id ∧ upper eosd.lang = upper lang).map fun _ => eos.name
  raiseIf (statuses = []) (.langNotFound lang)
  return statuses

/-- The id of serverBlocked. -/
def getServerBlockedId (cat : Catalog) (e : AdminException T) : AdminExec T Nat :=
  match cat.enumObjectStates.select (·.name = "serverBlocked") with
  | [eos] => return eos.id
  | _ => throw e

variable [LinearOrder T]

/-- valid_from<=CURRENT_TIMESTAMP AND (valid_to IS NULL OR CURRENT_TIMESTAMP<valid_to). -/
def stateCurrent (now : T) (os : ObjectState T) : Prop :=
  ((le (some os.validFrom) (some now)).and ((isNull os.validTo).or (lt (some now) os.validTo))).holds

instance (now : T) : DecidablePred (stateCurrent now) := fun os => by
  unfold stateCurrent
  infer_instance

/-- The object is in the state. -/
def hasState (now : T) (objectId stateId : Nat) (s : Tables T) : Prop :=
  (s.objectState.select fun os => os.objectId = objectId ∧ os.stateId = stateId ∧
    stateCurrent now os) ≠ []

instance (now : T) (objectId stateId : Nat) (s : Tables T) : Decidable (hasState now objectId stateId s) := by
  unfold hasState
  infer_instance

structure CreateAdminObjectBlockRequestId (T : Type) where
  objectId : Nat
  statusList : StatusList
  validFrom : Option T
  validTo : Option T
  reason : Option String

namespace CreateAdminObjectBlockRequestId

variable (cat : Catalog) (now : T) (op : CreateAdminObjectBlockRequestId T)

def checkAdministrativeBlockStatusOnly : AdminExec T Unit := do
  raiseIf (op.statusList.names = []) (.vectorOfStateNotFound [])
  let statuses ← getBlockingStatusDescList cat "EN"
  let notFound := op.statusList.names.filter (· ∉ statuses)
  raiseIf (notFound ≠ []) (.vectorOfStateNotFound notFound)

def checkServerBlockedStatusAbsent : AdminExec T Unit := do
  let serverBlockedId ← getServerBlockedId cat (.vectorOfStateNotFound ["serverBlocked"])
  let s ← get
  raiseIf (hasState now op.objectId serverBlockedId s) (.serverBlockedPresent op.objectId)

/-- The reason is noted with the newest of the requests for serverBlocked. -/
def insertReason : AdminExec T Unit := fun s =>
  let ids := (s.requests.objectStateRequest.select fun osr =>
    (((le (some osr.validFrom) (some now)).and
        ((isNull osr.validTo).or (le (some now) osr.validTo))).and (isNull osr.canceled)).holds ∧
      osr.objectId = op.objectId ∧
      ∃ eos ∈ cat.enumObjectStates.rows, eos.id = osr.stateId ∧ eos.name = "serverBlocked").map (·.id)
  .ok () { s with objectStateRequestReason := s.objectStateRequestReason ++
    ids.max?.toList.map fun id => ⟨id, op.reason, none⟩ }

/-- The handle of the object. -/
def exec : AdminExec T String := do
  op.checkAdministrativeBlockStatusOnly cat
  op.checkServerBlockedStatusAbsent cat now
  let _ ← onRequests ((⟨op.objectId⟩ : ClearObjectStateRequestId).exec cat.toRegistry now)
  let created ← onRequests ((⟨op.objectId, op.statusList.insert "serverBlocked", op.validFrom,
    op.validTo⟩ : CreateObjectStateRequestId T).exec cat.toRegistry now)
  op.insertReason cat now
  return created.1

end CreateAdminObjectBlockRequestId

structure ClearAdminObjectStateRequestId where
  objectId : Nat
  reason : Option String

namespace ClearAdminObjectStateRequestId

variable (cat : Catalog) (now : T) (op : ClearAdminObjectStateRequestId)

/-- A request for serverBlocked of those with the ids. -/
def serverBlockedRequest (ids : List Nat) (s : Tables T) : Option Nat :=
  ((s.requests.objectStateRequest.select fun osr => osr.id ∈ ids ∧
    ∃ eos ∈ cat.enumObjectStates.rows, eos.id = osr.stateId ∧ eos.name = "serverBlocked").map
      (·.id)).head?

def updateReason (id : Nat) : AdminExec T Unit := fun s =>
  .ok () { s with objectStateRequestReason := s.objectStateRequestReason.map fun r =>
    if r.objectStateRequestId = id then { r with reasonCancellation := op.reason } else r }

def exec : AdminExec T Unit := do
  let requests ← onRequests ((⟨op.objectId⟩ : ClearObjectStateRequestId).exec cat.toRegistry now)
  raiseIf (requests = []) (.serverBlockedAbsent op.objectId)
  let s ← get
  match serverBlockedRequest cat requests s with
  | none => throw (.serverBlockedAbsent op.objectId)
  | some id => op.updateReason id

end ClearAdminObjectStateRequestId

/-- ORDER BY valid_from DESC; rows that began together come in any order. -/
abbrev DescendingOrder (T : Type) [LinearOrder T] :=
  Sorting fun a b : ObjectState T => decide (b.validFrom < a.validFrom)

structure CreateAdminObjectStateRestoreRequestId where
  objectId : Nat
  reason : Option String

namespace CreateAdminObjectStateRestoreRequestId

variable (cat : Catalog) (desc : DescendingOrder T) (now : T)
  (op : CreateAdminObjectStateRestoreRequestId)

def checkServerBlockedStatusPresent : AdminExec T Nat := do
  let serverBlockedId ← getServerBlockedId cat (.stateNotFound "serverBlocked")
  let s ← get
  raiseIf (¬ hasState now op.objectId serverBlockedId s) (.serverBlockedAbsent op.objectId)
  return serverBlockedId

/-- The rows of serverBlocked of the object, the newest first. -/
def blockHistory (serverBlockedId : Nat) (s : Tables T) : List (ObjectState T) :=
  desc.sort (s.objectState.select fun os => os.objectId = op.objectId ∧ os.stateId = serverBlockedId)

/-- CURRENT. -/
def current (os : ObjectState T) : Prop :=
  ((isNull os.validTo).or (le (some now) os.validTo)).holds

instance : DecidablePred (current now) := fun os => by
  unfold current
  infer_instance

/-- FOLLOW_UP: the row before ended when this one began. -/
def followUp (serverBlockedId : Nat) (s : Tables T) (os : ObjectState T) : Prop :=
  match (desc.sort (s.objectState.select fun os' => os'.objectId = op.objectId ∧
      os'.stateId = serverBlockedId ∧ os'.validFrom < os.validFrom)).head? with
  | some os' => (eq os'.validTo (some os.validFrom)).holds
  | none => False

instance (serverBlockedId : Nat) (s : Tables T) : DecidablePred (followUp desc op serverBlockedId s) :=
  fun os => by
    unfold followUp
    split <;> infer_instance

/-- The row that the sequence of the current serverBlocked begins with. -/
def startOfBlock (serverBlockedId : Nat) (s : Tables T) : Option (ObjectState T) :=
  (((blockHistory desc op serverBlockedId s).dropWhile (¬ current now ·)).dropWhile
    (followUp desc op serverBlockedId s ·)).head?

/-- The manual server states of the object that began before the block and had not ended by then. -/
def previousStatusList (start : ObjectState T) (s : Tables T) : List String :=
  (s.objectState.select fun os => os.objectId = start.objectId ∧ os.validFrom < start.validFrom ∧
    ((isNull os.validTo).or (le (some start.validFrom) os.validTo)).holds).flatMap fun os =>
      (cat.enumObjectStates.select fun eos => eos.id = os.stateId ∧ eos.ManualServer).map (·.name)

/-- Optional::get_value. -/
def getReason : AdminExec T String :=
  match op.reason with
  | some reason => return reason
  | none => throw (.logicError "value is not set")

def createPrevious (previous : StatusList) : AdminExec T Unit :=
  if previous.names = [] then return
  else do
    let _ ← onRequests ((⟨op.objectId, previous, none, none⟩ : CreateObjectStateRequestId T).exec
      cat.toRegistry now)

def exec : AdminExec T Unit := do
  let serverBlockedId ← op.checkServerBlockedStatusPresent cat now
  let s ← get
  let previous := StatusList.ofNames
    (((startOfBlock desc now op serverBlockedId s).map (previousStatusList cat · s)).getD [])
  let reason ← op.getReason
  (⟨op.objectId, some reason⟩ : ClearAdminObjectStateRequestId).exec cat now
  createPrevious cat now op previous

end CreateAdminObjectStateRestoreRequestId

/-- A request for the state of the object is active. -/
def Requested (now : T) (objectId stateId : Nat) (s : Tables T) : Prop :=
  ∃ osr ∈ s.requests.objectStateRequest, osr.objectId = objectId ∧ osr.stateId = stateId ∧
    (osr.current now).holds

/-- The rows of a state of the object once its requests are materialised. -/
def materialized (requested : Bool) (now : T) (new : ObjectState T) (rows : List (ObjectState T)) :
    List (ObjectState T) :=
  if requested then if ∃ os ∈ rows, os.validTo = none then rows else new :: rows
  else rows.map fun os => if os.validTo = none then { os with validTo := some now } else os

/-- The procedure update_object_states of the database, as far as manual states are concerned: a
state that is requested begins, and one that is not ends. -/
structure UpdateObjectStates (T : Type) [LinearOrder T] where
  run : Catalog → T → Nat → Tables T → Table (ObjectState T)
  rows : ∀ (cat : Catalog) (now : T) (objectId : Nat) (s : Tables T) (eos : EnumObjectState),
    eos ∈ cat.enumObjectStates → eos.manual → ∃ (id : Nat) (requested : Bool),
      (requested = true ↔ Requested now objectId eos.id s) ∧
      ((run cat now objectId s).select fun os => os.objectId = objectId ∧ os.stateId = eos.id).Perm
        (materialized requested now ⟨id, objectId, eos.id, now, none⟩
          (s.objectState.select fun os => os.objectId = objectId ∧ os.stateId = eos.id))

/-- PerformObjectStateRequest::exec. -/
def UpdateObjectStates.perform (procedure : UpdateObjectStates T) (cat : Catalog) (now : T)
    (objectId : Nat) (s : Tables T) : Tables T :=
  { s with objectState := procedure.run cat now objectId s }

end LibFred.ObjectState
