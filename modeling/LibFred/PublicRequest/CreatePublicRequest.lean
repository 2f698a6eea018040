import LibFred.PublicRequest.UpdatePublicRequest

/-! The operations that create public requests, and all operations on them as calls. -/
namespace LibFred.PublicRequest

open Sql

/-- `PublicRequestTypeIface` with the types that are cancelled before one is created. -/
structure PublicRequestTypes (ι : Type) extends PublicRequestTypeIface ι where
  getPublicRequestTypesToCancelOnCreate : ι → List ι

/-- A row of public_request_auth. -/
structure RequestAuth where
  id : Nat
  identification : String
  password : String

instance : Keyed RequestAuth Nat := ⟨RequestAuth.id⟩

/-- The tables of public requests; `nextId` is the sequence of request ids and
`onStatusActionDefault` the default of the column. -/
structure Tables where
  session : Session
  requests : Requests
  publicRequestAuth : Table RequestAuth
  nextId : Nat
  onStatusActionDefault : OnStatusAction

inductive CreateException
  | publicRequest (e : PublicRequestException)
  | unknownType (name : String)
  | wrongEmail (emailAddress : String)
  | unknownRegistrarId (registrarId : Nat)
  | sqlError
  deriving DecidableEq

abbrev Create := EStateM CreateException Tables

/-- Statements that write requests and messages only. -/
def onRequests {α : Type} (x : Session → Exec α) : Create α := fun s =>
  match (x s.session).run s.requests with
  | .ok a requests => .ok a { s with requests := requests }
  | .error e requests => .error (.publicRequest e) { s with requests := requests }

structure CreatePublicRequest where
  reason : Option String
  emailToAnswer : Option String
  registrarId : Option Nat

structure CreatePublicRequestAuth extends CreatePublicRequest

structure CreatePublicRequestAuth.Result where
  publicRequestId : Nat
  identification : String
  password : String

/-- What opened requests are cancelled by. -/
def cancellation (registrarId : Option Nat) : UpdatePublicRequest where
  status := some .invalidated
  reason := none
  emailToAnswer := none
  answerEmailId := none
  registrarId := registrarId.map some
  onStatusAction := none

/-- The email address has at most 255 characters and the format, which `check` tells. -/
def checkEmailAddressFormat (check : String → Bool) (emailAddress : String) : Create Unit := do
  raiseIf (255 < emailAddress.length) (.wrongEmail emailAddress)
  raiseIf (¬ check emailAddress) (.wrongEmail emailAddress)

def checkRegistrar (registrarId : Option Nat) : Create Unit := do
  let s ← get
  match registrarId with
  | none => return ()
  | some registrarId =>
    raiseIf (registrarId ∉ s.session.registrars) (.unknownRegistrarId registrarId)

/-- The request that is inserted, opened and without a resolve time. -/
def CreatePublicRequest.newRequest (op : CreatePublicRequest) (id requestType : Nat)
    (onStatusAction : OnStatusAction) : Request where
  id := id
  requestType := requestType
  status := .opened
  onStatusAction := onStatusAction
  resolveTime := none
  reason := op.reason
  emailToAnswer := op.emailToAnswer
  answerEmailId := none
  registrarId := op.registrarId
  resolveRequestId := none

/-- The INSERT of the request with its object and what `addAuth` adds; it inserts nothing for an
unknown type. -/
def CreatePublicRequest.insert (op : CreatePublicRequest) (objectId : Nat) (publicRequestType : String)
    (onStatusAction : OnStatusAction)
    (addAuth : Nat → Table RequestAuth → Option (Table RequestAuth)) : Create Nat := do
  let s ← get
  match s.session.typeId publicRequestType with
  | none => throw (.unknownType publicRequestType)
  | some requestType =>
    match s.requests.publicRequest.insert? (op.newRequest s.nextId requestType onStatusAction),
      s.session.publicRequestObjectsMap.insert? ⟨s.nextId, objectId⟩,
      addAuth s.nextId s.publicRequestAuth with
    | some publicRequest, some publicRequestObjectsMap, some publicRequestAuth =>
      set { s with
        session := { s.session with publicRequestObjectsMap := publicRequestObjectsMap }
        requests := { s.requests with publicRequest := publicRequest }
        publicRequestAuth := publicRequestAuth
        nextId := s.nextId + 1 }
      return s.nextId
    | _, _, _ => throw .sqlError

section Types

variable {ι : Type} (types : PublicRequestTypes ι) (check : String → Bool)
  (createLogRequestId : Option Nat) (depth : Nat)

/-- `depth` bounds the calls that invalidate requests. -/
def cancelOnCreate (objectId : Nat) (registrarId : Option Nat) (typeToCreate : ι) : Create PUnit :=
  onRequests fun db =>
    cancelTypes db types.toPublicRequestTypeIface objectId
      (update db types.toPublicRequestTypeIface createLogRequestId depth (cancellation registrarId))
      (types.getPublicRequestTypesToCancelOnCreate typeToCreate)

def CreatePublicRequest.exec (op : CreatePublicRequest) (objectId : Nat) (type : ι) : Create Nat := do
  cancelOnCreate types createLogRequestId depth objectId op.registrarId type
  match op.emailToAnswer with
  | none => pure ()
  | some emailAddress => checkEmailAddressFormat check emailAddress
  checkRegistrar op.registrarId
  op.insert objectId (types.getPublicRequestType type) (types.getOnStatusAction type .opened)
    fun _ publicRequestAuth => some publicRequestAuth

/-- The identification is a random text, and the type generates the password. -/
def CreatePublicRequestAuth.exec (op : CreatePublicRequestAuth) (identification password : String)
    (objectId : Nat) (type : ι) : Create Result := do
  cancelOnCreate types createLogRequestId depth objectId op.registrarId type
  checkRegistrar op.registrarId
  let s ← get
  let publicRequestId ← op.insert objectId (types.getPublicRequestType type) s.onStatusActionDefault
    fun id publicRequestAuth => publicRequestAuth.insert? ⟨id, identification, password⟩
  return ⟨publicRequestId, identification, password⟩

end Types

/-- A call of one of the operations, or what others write in the meantime. -/
inductive Call (ι : Type)
  | create (op : CreatePublicRequest) (objectId : Nat) (type : ι)
  | createAuth (op : CreatePublicRequestAuth) (identification password : String) (objectId : Nat)
      (type : ι)
  | update (op : UpdatePublicRequest) (publicRequestId : Nat) (type : ι)
  | updateAll (op : UpdatePublicRequest) (choices : Nat → Nat) (fuel objectId : Nat) (type : ι)
  | others (objects registrars mailArchive : List Nat) (publicRequestMessagesMap : List (Nat × Nat))
      (messageArchive : Table Message) (now : Int)

section Types

variable {ι : Type} (types : PublicRequestTypes ι) (check : String → Bool)

/-- The statements of a call, which starts with locking the request or the requests of the object. -/
def Call.perform (logRequestId : Option Nat) (depth : Nat) : Call ι → Create PUnit
  | .create op objectId type => do
    let s ← get
    raiseIf (objectId ∉ s.session.objects) (.publicRequest (.lockOfObject objectId))
    let _ ← op.exec types check logRequestId depth objectId type
  | .createAuth op identification password objectId type => do
    let s ← get
    raiseIf (objectId ∉ s.session.objects) (.publicRequest (.lockOfObject objectId))
    let _ ← op.exec types logRequestId depth identification password objectId type
  | .update op publicRequestId type =>
    onRequests fun db => do
      raiseIf (db.objectOf publicRequestId = none) (.lockOfRequest publicRequestId)
      let _ ← LibFred.PublicRequest.update db types.toPublicRequestTypeIface logRequestId depth op
        publicRequestId type
  | .updateAll op choices fuel objectId type =>
    onRequests fun db => do
      if locked : objectId ∈ db.objects then
        let _ ← op.exec db types.toPublicRequestTypeIface logRequestId choices depth fuel
          ⟨objectId, locked⟩ type
      else throw (.lockOfObject objectId)
  | .others objects registrars mailArchive publicRequestMessagesMap messageArchive now =>
    modify fun s => { s with
      session := { s.session with
        objects := objects
        registrars := registrars
        mailArchive := mailArchive
        publicRequestMessagesMap := publicRequestMessagesMap
        now := now }
      requests := { s.requests with messageArchive := messageArchive } }

/-- A call in a transaction. After an exception the client may still commit what the call wrote
before, should `keep` say so. -/
structure Transaction (ι : Type) where
  call : Call ι
  logRequestId : Option Nat
  depth : Nat
  keep : Bool

def next (t : Transaction ι) (s : Tables) : Tables :=
  outcome t.keep (t.call.perform types check t.logRequestId t.depth) s

end Types

end LibFred.PublicRequest
