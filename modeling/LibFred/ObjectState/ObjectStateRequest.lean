import LibFred.Order.Span
import LibFred.Sql.Action
import LibFred.Sql.Table
import LibFred.Sql.Truth
import LibFred.Transition
import Mathlib.Data.Finset.Dedup

/-! Requests for object states: the object_state_request table and the operations that create,
cancel and clear its rows. -/
namespace LibFred.ObjectState

open Sql

structure EnumObjectState where
  id : Nat
  name : String
  types : List Int
  manual : Bool

structure ObjectRegistry where
  id : Nat
  type : Int
  name : String

structure ObjectStateRequest (T : Type) where
  id : Nat
  objectId : Nat
  stateId : Nat
  crdate : T
  validFrom : T
  validTo : Option T
  canceled : Option T

instance : Keyed EnumObjectState Nat := ⟨EnumObjectState.id⟩
instance : Keyed ObjectRegistry Nat := ⟨ObjectRegistry.id⟩
instance {T : Type} : Keyed (ObjectStateRequest T) Nat := ⟨ObjectStateRequest.id⟩

/-- The tables that the operations only read. -/
structure Registry where
  enumObjectStates : Table EnumObjectState
  objectRegistry : Table ObjectRegistry

/-- object_state_request and the sequence that its ids are taken from. -/
structure Requests (T : Type) where
  objectStateRequest : Table (ObjectStateRequest T)
  idSeq : Nat

/-- A set of status names, iterated in ascending order. -/
structure StatusList where
  names : List String
  sorted : names.Pairwise (· < ·)

inductive Exception (T : Type)
  | outOfTurn (validFrom validTo : Option T)
  | objectIdNotFound (objectId : Nat)
  | vectorOfStateNotFound (names : List String)
  | stateNotFound (text : String)
  | overlayedTimeIntervals (objectId : Nat) (objValidFrom : T) (objValidTo : Option T)
      (newValidFrom : T) (newValidTo : Option T)
  | sqlError
  deriving DecidableEq

variable {T : Type}

abbrev Exec (T : Type) := EStateM (Exception T) (Requests T)

/-- The names of the list that exist for the object type, with their ids. Of two states with one
name the later row wins. -/
def stateIdMap (reg : Registry) (statusList : StatusList) (objectType : Int) :
    List (String × Nat) :=
  statusList.names.filterMap fun name =>
    ((reg.enumObjectStates.select fun eos => objectType ∈ eos.types ∧ eos.name = name).getLast?).map
      fun eos => (name, eos.id)

/-- GetObjectStateIdMap::exec. -/
def getObjectStateIdMap (reg : Registry) (statusList : StatusList) (objectType : Int) :
    Exec T (List (String × Nat)) := do
  let found := stateIdMap reg statusList objectType
  let notFound := String.join
    ((statusList.names.filter (· ∉ found.map Prod.fst)).map (" " ++ ·))
  raiseIf (found.length < statusList.names.length ∧ notFound ≠ "") (.stateNotFound notFound)
  return found

/-- Every listed status must be a manual one of the type of the object. -/
def checkValidStatus (reg : Registry) (objectType : Int) (statusList : StatusList) :
    Exec T Unit := do
  let correct := (reg.enumObjectStates.select fun eos =>
    objectType ∈ eos.types ∧ eos.manual ∧ eos.name ∈ statusList.names).map (·.name)
  raiseIf (statusList.names ≠ [] ∧ correct.length ≠ statusList.names.length)
    (.vectorOfStateNotFound (statusList.names.filter (· ∉ correct)))

def ObjectStateRequest.cancel (now : T) (r : ObjectStateRequest T) : ObjectStateRequest T :=
  { r with canceled := some now }

theorem ObjectStateRequest.key_cancel (now : T) (r : ObjectStateRequest T) :
    Keyed.key (r.cancel now) = Keyed.key r := rfl

structure CreateObjectStateRequestId (T : Type) where
  objectId : Nat
  statusList : StatusList
  validFrom : Option T
  validTo : Option T

variable [LinearOrder T]

/-- LEAST(canceled,valid_to). -/
def ObjectStateRequest.objValidTo (r : ObjectStateRequest T) : Option T := least r.canceled r.validTo

/-- The row condition of the query for requests that a new one is not allowed to meet. -/
def invalidState (objValidFrom : T) (objValidTo : Option T) (newValidFrom : T)
    (newValidTo : Option T) : Truth :=
  ((lt objValidTo (some objValidFrom)).or
    ((le (some objValidFrom) (some newValidFrom)).and
      ((lt (some newValidFrom) objValidTo).or (isNull objValidTo)))).or
    (((lt (some objValidFrom) newValidTo).or (isNull newValidTo)).and
      ((le newValidTo objValidTo).or (isNull objValidTo)))

namespace CreateObjectStateRequestId

variable (reg : Registry) (now : T) (op : CreateObjectStateRequestId T)

def newValidFrom : T := op.validFrom.getD now

def checkTime : Exec T Unit :=
  match op.validTo, op.validFrom with
  | some validTo, some validFrom =>
    raiseIf (validTo < validFrom) (.outOfTurn (some validFrom) (some validTo))
  | some validTo, none => raiseIf (validTo < now) (.outOfTurn none (some validTo))
  | none, _ => return

/-- An empty list of states makes the query ill-formed. -/
def checkOverlay (stateIds : List Nat) : Exec T Unit := do
  raiseIf (stateIds = []) .sqlError
  let s ← get
  match s.objectStateRequest.select fun r => r.objectId = op.objectId ∧ r.stateId ∈ stateIds ∧
      (invalidState r.validFrom r.objValidTo (op.newValidFrom now) op.validTo).holds with
  | [] => return
  | r :: _ =>
    if (lt r.objValidTo (some r.validFrom)).holds then
      throw (.outOfTurn (some r.validFrom) r.objValidTo)
    else
      throw (.overlayedTimeIntervals op.objectId r.validFrom r.objValidTo
        (op.newValidFrom now) op.validTo)

def newRequest (id stateId : Nat) : ObjectStateRequest T where
  id := id
  objectId := op.objectId
  stateId := stateId
  crdate := now
  validFrom := op.newValidFrom now
  validTo := op.validTo
  canceled := none

/-- The rows of the INSERT, one for each state. -/
def newRequests (idSeq : Nat) (stateIds : List Nat) : List (ObjectStateRequest T) :=
  stateIds.mapIdx fun i stateId => op.newRequest now (idSeq + i) stateId

def insert (stateIds : List Nat) : Exec T Nat := fun s =>
  match s.objectStateRequest.insertAll? (op.newRequests now s.idSeq stateIds) with
  | some t => .ok s.idSeq ⟨t, s.idSeq + stateIds.length⟩
  | none => .error .sqlError s

/-- The handle of the object and the id of the first request. -/
def exec : Exec T (String × Nat) := do
  op.checkTime now
  match reg.objectRegistry.lookup op.objectId with
  | none => throw (.objectIdNotFound op.objectId)
  | some object => do
    checkValidStatus reg object.type op.statusList
    let found ← getObjectStateIdMap reg op.statusList object.type
    op.checkOverlay now (found.map Prod.snd)
    let id ← op.insert now (found.map Prod.snd)
    return (object.name, id)

end CreateObjectStateRequestId

/-- A request that has begun, has not ended and was not canceled yet. -/
def ObjectStateRequest.current (now : T) (r : ObjectStateRequest T) : Truth :=
  ((isNull r.canceled).and (le (some r.validFrom) (some now))).and
    ((isNull r.validTo).or (lt (some now) r.validTo))


/-- UPDATE ... SET canceled=CURRENT_TIMESTAMP of the current requests that `p` selects. -/
def cancelCurrent (now : T) (p : ObjectStateRequest T → Prop) [DecidablePred p] :
    Exec T (List (ObjectStateRequest T)) := fun s =>
  .ok (s.objectStateRequest.select fun r => (r.current now).holds ∧ p r)
    ⟨s.objectStateRequest.update (fun r => (r.current now).holds ∧ p r)
      (ObjectStateRequest.cancel now) (ObjectStateRequest.key_cancel now), s.idSeq⟩

structure CancelObjectStateRequestId where
  objectId : Nat
  statusList : StatusList

/-- The requests are canceled before the missing ones are reported. -/
def CancelObjectStateRequestId.exec (reg : Registry) (now : T) (op : CancelObjectStateRequestId) :
    Exec T Unit :=
  match reg.objectRegistry.lookup op.objectId with
  | none => throw (.objectIdNotFound op.objectId)
  | some object => do
    let found ← getObjectStateIdMap reg op.statusList object.type
    raiseIf (found = []) .sqlError
    let canceled ← cancelCurrent now fun r =>
      r.objectId = op.objectId ∧ r.stateId ∈ found.map Prod.snd
    let missing := found.filter (·.2 ∉ canceled.map (·.stateId))
    raiseIf (canceled.length < found.length ∨
        (canceled.map (·.stateId)).toFinset ≠ (found.map Prod.snd).toFinset)
      (.stateNotFound (" ".intercalate (missing.map Prod.fst) ++
        " for object_id " ++ toString op.objectId))

structure ClearObjectStateRequestId where
  objectId : Nat

/-- eos.name LIKE 'server%'. -/
def EnumObjectState.isServer (eos : EnumObjectState) : Bool :=
  "server".toList.isPrefixOf eos.name.toList

def ClearObjectStateRequestId.exec (reg : Registry) (now : T) (op : ClearObjectStateRequestId) :
    Exec T (List Nat) := do
  let canceled ← cancelCurrent now fun r => r.objectId = op.objectId ∧
    ∃ eos ∈ reg.enumObjectStates.rows, eos.id = r.stateId ∧ eos.manual ∧ eos.isServer
  return canceled.map (·.id)

inductive Operation (T : Type)
  | create (op : CreateObjectStateRequestId T)
  | cancel (op : CancelObjectStateRequestId)
  | clear (op : ClearObjectStateRequestId)

/-- One operation under the lock of its object, at one moment. `keep` tells what a caller makes
of an exception. -/
structure Call (T : Type) where
  reg : Registry
  now : T
  keep : Bool
  op : Operation T

def Call.next (c : Call T) (s : Requests T) : Requests T :=
  match c.op with
  | .create op => outcome c.keep (op.exec c.reg c.now) s
  | .cancel op => outcome c.keep (op.exec c.reg c.now) s
  | .clear op => outcome c.keep (op.exec c.reg c.now) s

end LibFred.ObjectState
