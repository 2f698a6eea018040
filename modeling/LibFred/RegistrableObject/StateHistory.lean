import LibFred.ObjectState.ObjectStateRequest
import LibFred.Order.Sorting
import LibFred.Order.Sweep
import LibFred.Sql.Text
import LibFred.Values
import Mathlib.Order.BoundedOrder.Basic

/-! The state history of a registrable object in an interval of time. -/
namespace LibFred.RegistrableObject

open Sql Sweep
open LibFred.ObjectState (EnumObjectState)

inductive ObjectType
  | contact
  | nsset
  | domain
  | keyset
  deriving DecidableEq

/-- The names of the flags that a state of the type has. -/
def ObjectType.flags : ObjectType → List String
  | .contact => ["deleteCandidate", "linked", "contactFailedManualVerification",
      "contactInManualVerification", "contactPassedManualVerification",
      "conditionallyIdentifiedContact", "identifiedContact", "validatedContact", "mojeidContact",
      "serverBlocked", "serverDeleteProhibited", "serverTransferProhibited",
      "serverUpdateProhibited", "serverContactNameChangeProhibited",
      "serverContactOrganizationChangeProhibited", "serverContactIdentChangeProhibited",
      "serverContactPermanentAddressChangeProhibited"]
  | .nsset => ["deleteCandidate", "linked", "serverDeleteProhibited", "serverTransferProhibited",
      "serverUpdateProhibited"]
  | .domain => ["nssetMissing", "expirationWarning", "expired", "outzone", "unguarded",
      "outzoneUnguardedWarning", "outzoneUnguarded", "deleteCandidate", "deleteWarning",
      "validationWarning1", "validationWarning2", "notValidated", "serverOutzoneManual",
      "serverInzoneManual", "serverRegistrantChangeProhibited", "serverRenewProhibited",
      "serverBlocked", "serverDeleteProhibited", "serverTransferProhibited",
      "serverUpdateProhibited"]
  | .keyset => ["deleteCandidate", "linked", "serverDeleteProhibited", "serverTransferProhibited",
      "serverUpdateProhibited"]

structure ObjectRegistry (T : Type) where
  id : Nat
  uuid : Uuid
  type : Int
  name : String
  crdate : T
  erdate : Option T

structure ObjectState (T : Type) where
  id : Nat
  objectId : Nat
  stateId : Nat
  validFrom : T
  validTo : Option T

/-- A version of an object. -/
structure History (T : Type) where
  uuid : Uuid
  validFrom : T

instance {T : Type} : Keyed (ObjectRegistry T) Nat := ⟨ObjectRegistry.id⟩
instance {T : Type} : Keyed (ObjectState T) Nat := ⟨ObjectState.id⟩
instance {T : Type} : Keyed (History T) Uuid := ⟨History.uuid⟩

/-- The tables that state histories are read from; `objectTypeId` is get_object_type_id. -/
structure StateTables (T : Type) where
  objectTypeId : ObjectType → Int
  objectRegistry : Table (ObjectRegistry T)
  objectState : Table (ObjectState T)
  enumObjectStates : Table EnumObjectState
  history : Table (History T)

inductive Limit (T : Type)
  | noLimit
  | objectHistoryUuid (uuid : Uuid)
  | timePoint (time : T)

structure HistoryInterval (T : Type) where
  lowerLimit : Limit T
  upperLimit : Limit T

inductive ObjectIdRule
  | byId (id : Nat)
  | byHandle (handle : String)
  | byUuid (uuid : Uuid)

inductive HistoryException
  | objectDoesNotExist
  | invalidHistoryIntervalSpecification
  | sqlError
  | undefinedBehaviour
  deriving DecidableEq

variable {T : Type} [LinearOrder T] [OrderTop T]

/-- The ids that the rule selects; handles are searched among live objects. -/
def ObjectIdRule.ids (tables : StateTables T) (type : ObjectType) : ObjectIdRule → List Nat
  | .byId id => [id]
  | .byHandle handle =>
    (tables.objectRegistry.select fun o =>
      o.name = (if type = .domain then lower handle else upper handle) ∧
        o.type = tables.objectTypeId type ∧ o.erdate = none).map (·.id)
  | .byUuid uuid =>
    (tables.objectRegistry.select fun o =>
      o.uuid = uuid ∧ o.type = tables.objectTypeId type).map (·.id)

def Limit.lower (tables : StateTables T) (o : ObjectRegistry T) : Limit T → Option T
  | .noLimit => some o.crdate
  | .objectHistoryUuid uuid => (tables.history.lookup uuid).map (·.validFrom)
  | .timePoint time => some time

/-- `⊤` is infinity. -/
def Limit.upper (tables : StateTables T) : Limit T → Option T
  | .noLimit => some ⊤
  | .objectHistoryUuid uuid => (tables.history.lookup uuid).map (·.validFrom)
  | .timePoint time => some time

/-- An object and the interval that its states are looked at in. -/
structure Window (T : Type) where
  object : ObjectRegistry T
  lowerLimit : T
  upperLimit : T

def Window.lookingStart (w : Window T) : T :=
  if w.lowerLimit < w.object.crdate then w.object.crdate else w.lowerLimit

def Window.lookingEnd (w : Window T) : T :=
  match w.object.erdate with
  | some erdate => if erdate < w.upperLimit then erdate else w.upperLimit
  | none => w.upperLimit

/-- The object has to exist and the limits must be valid. -/
def window (tables : StateTables T) (type : ObjectType) (rule : ObjectIdRule)
    (range : HistoryInterval T) : Except HistoryException (Window T) :=
  match rule.ids tables type with
  | [] => .error .objectDoesNotExist
  | [id] =>
    match (tables.objectRegistry.lookup id).filter (·.type = tables.objectTypeId type) with
    | none => .error .objectDoesNotExist
    | some o =>
      match range.lowerLimit.lower tables o, range.upperLimit.upper tables with
      | some lowerLimit, some upperLimit =>
        if upperLimit < lowerLimit then .error .invalidHistoryIntervalSpecification
        else .ok ⟨o, lowerLimit, upperLimit⟩
      | _, _ => .error .invalidHistoryIntervalSpecification
  | _ => .error .sqlError

/-- A row of the result, with the name of a state that objects of the type may have. -/
structure StateRow (T : Type) where
  presentsOnBegin : Bool
  validFrom : T
  validTo : Option T
  name : Option String

def stateName (tables : StateTables T) (o : ObjectRegistry T) (os : ObjectState T) :
    Option String :=
  ((tables.enumObjectStates.lookup os.stateId).filter (o.type ∈ ·.types)).map (·.name)

def stateRow (tables : StateTables T) (w : Window T) (os : ObjectState T) : StateRow T where
  presentsOnBegin := os.validFrom ≤ w.lowerLimit
  validFrom := os.validFrom
  validTo := os.validTo
  name := stateName tables w.object os

/-- The states of the object that reach into the interval. -/
def stateRows (tables : StateTables T) (w : Window T) : List (StateRow T) :=
  (tables.objectState.select fun os => os.objectId = w.object.id ∧
    ((le (some w.lowerLimit) os.validTo).or (isNull os.validTo)).holds ∧
    os.validFrom ≤ w.upperLimit).map (stateRow tables w)

/-- StateFlagSetter; a name that is no flag sets none. -/
def setFlag (flags : List String) (name : Option String) : Finset String :=
  if name.getD "" ∈ flags then {name.getD ""} else ∅

structure Collected (T : Type) where
  recordOnBegin : Option (Record T String)
  stateChanges : Changes T String

def collectBegin (flags : List String) (acc : Collected T) (row : StateRow T) : Collected T :=
  let state := setFlag flags row.name
  if row.presentsOnBegin then
    { acc with recordOnBegin := some ⟨row.validFrom, acc.recordOnBegin.elim ∅ (·.state) ∪ state⟩ }
  else
    { acc with stateChanges := gain row.validFrom state acc.stateChanges }

def collectEnd (flags : List String) (lookingEnd : T) (acc : Collected T) (row : StateRow T) :
    Collected T :=
  match row.validTo with
  | some validTo =>
    if validTo ≤ lookingEnd then
      { acc with stateChanges := lose validTo (setFlag flags row.name) acc.stateChanges }
    else acc
  | none => acc

def collect (flags : List String) (lookingEnd : T) (rows : List (StateRow T)) : Collected T :=
  rows.foldl (fun acc row => collectEnd flags lookingEnd (collectBegin flags acc row) row)
    ⟨none, []⟩

structure StateHistory (T : Type) where
  timeline : List (Record T String)
  validTo : T

/-- Without a flag on begin the earliest change is asked for, and there may be none. -/
def timeline (lookingStart : T) (acc : Collected T) :
    Except HistoryException (List (Record T String)) :=
  match acc.recordOnBegin.filter (·.state ≠ ∅) with
  | some record => .ok (record :: run record.state acc.stateChanges)
  | none =>
    match acc.stateChanges with
    | [] => .error .undefinedBehaviour
    | (time, _) :: _ =>
      if lookingStart < time then .ok (⟨lookingStart, ∅⟩ :: run ∅ acc.stateChanges)
      else .ok (run ∅ acc.stateChanges)

def objectHasStateFlags (rows : List (StateRow T)) : Bool :=
  1 < rows.length || rows.any (·.name.isSome)

/-- get_domain_state_history and its siblings; `sort` is ORDER BY os.valid_from. -/
def getStateHistory (sort : Sorting fun a b : StateRow T => decide (a.validFrom < b.validFrom))
    (tables : StateTables T) (type : ObjectType) (rule : ObjectIdRule)
    (range : HistoryInterval T) : Except HistoryException (StateHistory T) := do
  let w ← window tables type rule range
  let rows := sort.sort (stateRows tables w)
  if objectHasStateFlags rows then
    let records ← timeline w.lookingStart (collect type.flags w.lookingEnd rows)
    return ⟨records, w.lookingEnd⟩
  else
    return ⟨[⟨w.lookingStart, ∅⟩], w.lookingEnd⟩

end LibFred.RegistrableObject
