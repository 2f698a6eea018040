import LibFred.Order.Segment
import LibFred.RegistrableObject.StateHistory

/-! The data history of a registrable object: its versions in an interval of time. -/
namespace LibFred.RegistrableObject

open Sql
open LibFred.ObjectState (EnumObjectState)

/-- A row of the history table; `validTo` is NULL in the current version. -/
structure Version (T : Type) where
  id : Nat
  uuid : Uuid
  validFrom : T
  validTo : Option T
  requestId : Option Nat
  deriving DecidableEq

/-- Tells which object a version is of. -/
structure ObjectHistory where
  historyid : Nat
  id : Nat

instance {T : Type} : Keyed (Version T) Uuid := ⟨Version.uuid⟩
instance : Keyed ObjectHistory Nat := ⟨ObjectHistory.historyid⟩

/-- The tables that histories are read from. -/
structure DataTables (T : Type) where
  objectTypeId : ObjectType → Int
  objectRegistry : Table (ObjectRegistry T)
  objectState : Table (ObjectState T)
  enumObjectStates : Table EnumObjectState
  history : Table (Version T)
  objectHistory : Table ObjectHistory

/-- What state histories read of them. -/
def DataTables.stateTables {T : Type} (tables : DataTables T) : StateTables T where
  objectTypeId := tables.objectTypeId
  objectRegistry := tables.objectRegistry
  objectState := tables.objectState
  enumObjectStates := tables.enumObjectStates
  history := ⟨tables.history.rows.map fun h => ⟨h.uuid, h.validFrom⟩, by
    rw [List.map_map]
    exact tables.history.nodup⟩

structure DataHistoryRecord (T : Type) where
  historyUuid : Uuid
  validFrom : T
  logRequestId : Option Nat
  deriving DecidableEq

structure DataHistory (T : Type) where
  objectUuid : Uuid
  timeline : List (DataHistoryRecord T)
  validTo : Option T
  deriving DecidableEq

def Version.record {T : Type} (h : Version T) : DataHistoryRecord T :=
  ⟨h.uuid, h.validFrom, h.requestId⟩

variable {T : Type} [LinearOrder T]

/-- The join of object_history and history. -/
def versionsOf (tables : DataTables T) (o : ObjectRegistry T) : List (Version T) :=
  (tables.objectHistory.select (·.id = o.id)).flatMap fun oh =>
    tables.history.select (·.id = oh.historyid)

/-- The version reaches into the interval; a limit may be NULL. -/
def InRange (lowerLimit upperLimit : Option T) (h : Version T) : Prop :=
  ((le lowerLimit h.validTo).or (isNull h.validTo)).holds ∧ (le (some h.validFrom) upperLimit).holds

instance {lowerLimit upperLimit : Option T} : DecidablePred (InRange lowerLimit upperLimit) :=
  fun _ => inferInstanceAs (Decidable (_ ∧ _))

/-- One row of the result; the end of validity is the last row's. -/
def addRecord (history : DataHistory T) (h : Version T) : DataHistory T :=
  { history with validTo := h.validTo, timeline := history.timeline ++ [h.record] }

variable [OrderTop T]

/-- The object that the rule selects, if it is one of the type. -/
def findObject (tables : StateTables T) (type : ObjectType) (rule : ObjectIdRule) :
    Except HistoryException (ObjectRegistry T) :=
  match rule.ids tables type with
  | [] => .error .objectDoesNotExist
  | [id] =>
    match (tables.objectRegistry.lookup id).filter (·.type = tables.objectTypeId type) with
    | none => .error .objectDoesNotExist
    | some o => .ok o
  | _ => .error .sqlError

/-- The versions of the object in the interval. -/
def dataRows (tables : DataTables T) (o : ObjectRegistry T) (range : HistoryInterval T) :
    List (Version T) :=
  (versionsOf tables o).filter fun h => InRange (range.lowerLimit.lower tables.stateTables o)
    (range.upperLimit.upper tables.stateTables) h

/-- get_domain_data_history and its siblings; `sort` is ORDER BY h.valid_from. -/
def getDataHistory (sort : Sorting fun a b : Version T => decide (a.validFrom < b.validFrom))
    (tables : DataTables T) (type : ObjectType) (rule : ObjectIdRule) (range : HistoryInterval T) :
    Except HistoryException (DataHistory T) := do
  let o ← findObject tables.stateTables type rule
  let rows := sort.sort (dataRows tables o range)
  if rows.isEmpty then
    throw .invalidHistoryIntervalSpecification
  return rows.foldl addRecord ⟨o.uuid, [], none⟩

end LibFred.RegistrableObject
