import LibFred.Sql.Action
import LibFred.Sql.OrderBy
import LibFred.Sql.Table
import LibFred.Sql.Truth

/-! Public requests about objects, and the operations that find opened requests and update them. -/
namespace LibFred.PublicRequest

open Sql

inductive Status
  | opened
  | resolved
  | invalidated
  deriving DecidableEq

inductive OnStatusAction
  | scheduled
  | processed
  | failed
  deriving DecidableEq

/-- A row of enum_public_request_type. -/
structure RequestType where
  id : Nat
  name : String

/-- A row of public_request. -/
structure Request where
  id : Nat
  requestType : Nat
  status : Status
  onStatusAction : OnStatusAction
  resolveTime : Option Int
  reason : Option String
  emailToAnswer : Option String
  answerEmailId : Option Nat
  registrarId : Option Nat
  resolveRequestId : Option Nat

/-- A row of public_request_objects_map, in which a request has one object. -/
structure RequestObject where
  requestId : Nat
  objectId : Nat

inductive SendStatus
  | ready
  | sendFailed
  | noProcessing
  | other
  deriving DecidableEq

/-- A row of message_archive. -/
structure Message where
  id : Nat
  status : SendStatus
  moddate : Option Int

instance : Keyed RequestType Nat := ⟨RequestType.id⟩
instance : Keyed Request Nat := ⟨Request.id⟩
instance : Keyed RequestObject Nat := ⟨RequestObject.requestId⟩
instance : Keyed Message Nat := ⟨Message.id⟩

/-- The tables that the operations only read, and NOW(). -/
structure Session where
  enumPublicRequestType : Table RequestType
  typeOfName : ∀ t ∈ enumPublicRequestType, ∀ t' ∈ enumPublicRequestType, t.name = t'.name → t = t'
  objects : List Nat
  registrars : List Nat
  mailArchive : List Nat
  publicRequestObjectsMap : Table RequestObject
  publicRequestMessagesMap : List (Nat × Nat)
  now : Int

/-- The tables that the operations write. -/
structure Requests where
  publicRequest : Table Request
  messageArchive : Table Message

/-- `UpdatePublicRequest::Exception`. -/
structure UpdateException where
  nothingToDo : Option Nat
  publicRequestDoesntExist : Option Nat
  unknownEmailId : Option Nat
  unknownRegistrarId : Option Nat
  badPublicRequestStatus : Option Status
  deriving DecidableEq

inductive PublicRequestException
  | update (e : UpdateException)
  | lockOfRequest (publicRequestId : Nat)
  | lockOfObject (objectId : Nat)
  | unknownType (name : String)
  | noRequestFound (name : String)
  | unexpectedPublicRequestType
  | unexpectedObjectId
  | sqlError
  /-- The run is longer than its bound. -/
  | outOfFuel
  deriving DecidableEq

abbrev Exec := EStateM PublicRequestException Requests

/-- `PublicRequestTypeIface`: what the types `ι` of requests are called and cancel. -/
structure PublicRequestTypeIface (ι : Type) where
  getPublicRequestType : ι → String
  getPublicRequestTypesToCancelOnUpdate : ι → Status → Status → List ι
  getOnStatusAction : ι → Status → OnStatusAction

/-- `(SELECT id FROM enum_public_request_type WHERE name=...)` -/
def Session.typeId (db : Session) (name : String) : Option Nat :=
  (db.enumPublicRequestType.rows.find? (·.name = name)).map RequestType.id

/-- `(SELECT object_id FROM public_request_objects_map WHERE request_id=...)` -/
def Session.objectOf (db : Session) (requestId : Nat) : Option Nat :=
  (db.publicRequestObjectsMap.lookup requestId).map RequestObject.objectId

/-- An optional field: not given, or given as NULL or a value. -/
abbrev Given (α : Type) := Option (Option α)

structure UpdatePublicRequest where
  status : Option Status
  reason : Given String
  emailToAnswer : Given String
  answerEmailId : Given Nat
  registrarId : Given Nat
  onStatusAction : Option OnStatusAction

/-- `UpdatePublicRequest::Result`. -/
structure Result where
  affectedRequests : List Nat
  publicRequestType : String
  objectId : Nat

/-- Messages of an opened request that were not sent yet are not processed any more. -/
def stopLetterSending (db : Session) (publicRequestId : Nat) : Exec Unit := do
  let s ← get
  let stopped := s.messageArchive.update
    (fun ma => (∃ pr ∈ s.publicRequest.rows, pr.id = publicRequestId ∧ pr.status = .opened) ∧
      (publicRequestId, ma.id) ∈ db.publicRequestMessagesMap ∧
      (ma.status = .ready ∨ ma.status = .sendFailed))
    (fun ma => { ma with status := .noProcessing, moddate := some db.now })
  set { s with messageArchive := stopped }

/-- The request may only be moved to a state that ends it. -/
def settable (status : Status) : Prop := status = .resolved ∨ status = .invalidated

instance (status : Status) : Decidable (settable status) :=
  inferInstanceAs (Decidable (status = .resolved ∨ status = .invalidated))

namespace UpdatePublicRequest

/-- The status that the SET list assigns. -/
def newStatus (op : UpdatePublicRequest) : Option Status := op.status.filter (settable ·)

/-- The SET list is empty. -/
def setsNothing (op : UpdatePublicRequest) (resolveLogRequestId : Option Nat) : Prop :=
  op.newStatus.isNone ∧ op.reason.isNone ∧ op.emailToAnswer.isNone ∧ op.answerEmailId.isNone ∧
    op.registrarId.isNone ∧ op.onStatusAction.isNone ∧ resolveLogRequestId.isNone

instance (op : UpdatePublicRequest) (resolveLogRequestId : Option Nat) :
    Decidable (op.setsNothing resolveLogRequestId) :=
  inferInstanceAs (Decidable (_ ∧ _ ∧ _ ∧ _ ∧ _ ∧ _ ∧ _))

def badParams (op : UpdatePublicRequest) (db : Session) (resolveLogRequestId : Option Nat)
    (publicRequestId : Nat) : UpdateException where
  nothingToDo := if op.setsNothing resolveLogRequestId then some publicRequestId else none
  publicRequestDoesntExist := none
  unknownEmailId := op.answerEmailId.join.filter (· ∉ db.mailArchive)
  unknownRegistrarId := op.registrarId.join.filter (· ∉ db.registrars)
  badPublicRequestStatus := op.status.filter (¬ settable ·)

/-- on_status_action stands in the SET list twice, which the database refuses. -/
def setsTwice (op : UpdatePublicRequest) : Prop :=
  op.newStatus.isSome ∧ op.onStatusAction.isSome

instance (op : UpdatePublicRequest) : Decidable op.setsTwice :=
  inferInstanceAs (Decidable (_ ∧ _))

/-- The SET list. -/
def assign {ι : Type} (op : UpdatePublicRequest) (db : Session) (types : PublicRequestTypeIface ι)
    (resolveLogRequestId : Option Nat) (type : ι) (pr : Request) : Request :=
  { pr with
    status := op.newStatus.getD pr.status
    resolveTime :=
      if op.newStatus.isSome ∧ pr.status = .opened then some db.now else pr.resolveTime
    onStatusAction := (op.onStatusAction.or (op.newStatus.map (types.getOnStatusAction type))).getD
      pr.onStatusAction
    reason := op.reason.getD pr.reason
    emailToAnswer := op.emailToAnswer.getD pr.emailToAnswer
    answerEmailId := op.answerEmailId.getD pr.answerEmailId
    registrarId := op.registrarId.getD pr.registrarId
    resolveRequestId := resolveLogRequestId.or pr.resolveRequestId }

/-- What the requests of the types to cancel are updated by. -/
def invalidation (op : UpdatePublicRequest) (publicRequestType : String) : UpdatePublicRequest where
  status := some .invalidated
  reason := some (some ("due to answering public request of " ++ publicRequestType ++ " type"))
  emailToAnswer := none
  answerEmailId := none
  registrarId := op.registrarId
  onStatusAction := none

end UpdatePublicRequest

/-- Requests of a type about an object. -/
def requestsOf (db : Session) (s : Requests) (objectId : Nat) (name : String) : List Request :=
  s.publicRequest.select fun pr =>
    (eq (db.objectOf pr.id) (some objectId)).holds ∧
      (eq (some pr.requestType) (db.typeId name)).holds

section Update

variable {ι : Type} (db : Session) (types : PublicRequestTypeIface ι)
  (resolveLogRequestId : Option Nat)

/-- The UPDATE with its RETURNING clause; the status is that before the update. -/
def updateRow (op : UpdatePublicRequest) (publicRequestId : Nat) (type : ι) :
    Exec (Result × Status) := do
  raiseIf op.setsTwice .sqlError
  let s ← get
  match s.publicRequest.lookup publicRequestId with
  | none => throw (.update ⟨none, some publicRequestId, none, none, none⟩)
  | some pr =>
    let updated := s.publicRequest.update (·.id = publicRequestId)
      (op.assign db types resolveLogRequestId type)
    set { s with publicRequest := updated }
    let name := ((db.enumPublicRequestType.lookup pr.requestType).map RequestType.name).getD ""
    return (⟨[publicRequestId], name, (db.objectOf publicRequestId).getD 0⟩, pr.status)

/-- The case of the status that is to be set: only invalidating writes another table. -/
def prepareStatus (op : UpdatePublicRequest) (publicRequestId : Nat) : Exec Unit :=
  if op.status = some .invalidated then stopLetterSending db publicRequestId else return ()

/-- The loops over the types to cancel and over their opened requests about the object. -/
def cancelTypes (objectId : Nat) (invalidate : Nat → ι → Exec Result) (typesToCancel : List ι) :
    Exec PUnit :=
  typesToCancel.forM fun typeToCancel => do
    let s ← get
    let opened := (requestsOf db s objectId
      (types.getPublicRequestType typeToCancel)).filter (·.status = .opened)
    opened.forM fun pr => do
      raiseIf (db.objectOf pr.id = none) (.lockOfRequest pr.id)
      let _ ← invalidate pr.id typeToCancel

/-- `fuel` bounds the depth of the calls that invalidate requests of other types. -/
def update : Nat → UpdatePublicRequest → Nat → ι → Exec Result
  | 0, _, _, _ => throw .outOfFuel
  | fuel + 1, op, publicRequestId, type => do
    prepareStatus db op publicRequestId
    let badParams := op.badParams db resolveLogRequestId publicRequestId
    raiseIf (badParams ≠ ⟨none, none, none, none, none⟩) (.update badParams)
    let (result, oldStatus) ← updateRow db types resolveLogRequestId op publicRequestId type
    match op.status with
    | none => return result
    | some status =>
      if status = oldStatus then return result
      let typesToCancel := types.getPublicRequestTypesToCancelOnUpdate type oldStatus status
      if typesToCancel.isEmpty then return result
      raiseIf (result.objectId ∉ db.objects) (.lockOfObject result.objectId)
      cancelTypes db types result.objectId
        (update fuel (op.invalidation result.publicRequestType)) typesToCancel
      return result

end Update

/-- Requests of the type about the object that were not resolved. -/
def openedRequests (db : Session) (s : Requests) (objectId : Nat) (name : String) : List Request :=
  (requestsOf db s objectId name).filter (·.resolveTime = none)

/-- LIMIT 1 without an order: `choice` stands for the database's. -/
def getOpenedPublicRequest (db : Session) (choice objectId : Nat) (name : String)
    (s : Requests) : Except PublicRequestException Nat :=
  match db.typeId name with
  | none => throw (.unknownType name)
  | some _ =>
    match firstBy (fun _ _ => True) choice (openedRequests db s objectId name) with
    | none => throw (.noRequestFound name)
    | some pr => return pr.id

/-- An object of the database whose requests are locked. -/
structure LockedPublicRequestsOfObject (db : Session) where
  id : Nat
  locked : id ∈ db.objects

section Exec

variable {ι : Type} (db : Session) (types : PublicRequestTypeIface ι)
  (resolveLogRequestId : Option Nat) (choices : Nat → Nat)

/-- The loop over opened requests, which ends when none is found. `fuel` bounds the number of its
rounds and `depth` that of the calls in one round; each round has a choice of its own. -/
def UpdatePublicRequest.loop (op : UpdatePublicRequest) (depth : Nat)
    (object : LockedPublicRequestsOfObject db) (type : ι) : Nat → Result → Exec Result
  | 0, _ => throw .outOfFuel
  | fuel + 1, result => do
    let s ← get
    match getOpenedPublicRequest db (choices result.affectedRequests.length) object.id
        (types.getPublicRequestType type) s with
    | .error (.noRequestFound _) => return result
    | .error e => throw e
    | .ok publicRequestId => do
      let updated ← update db types resolveLogRequestId depth op publicRequestId type
      raiseIf (updated.publicRequestType ≠ result.publicRequestType) .unexpectedPublicRequestType
      raiseIf (updated.objectId ≠ result.objectId) .unexpectedObjectId
      loop op depth object type fuel
        { result with affectedRequests := result.affectedRequests ++ updated.affectedRequests }

def UpdatePublicRequest.exec (op : UpdatePublicRequest) (depth fuel : Nat)
    (object : LockedPublicRequestsOfObject db) (type : ι) : Exec Result :=
  op.loop db types resolveLogRequestId choices depth object type fuel
    ⟨[], types.getPublicRequestType type, object.id⟩

end Exec

end LibFred.PublicRequest
