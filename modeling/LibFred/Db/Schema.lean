import LibFred.ObjectState.ObjectStateRequest
import LibFred.RegistrableObject.Contact.InfoContactData
import LibFred.Sql.Text
import LibFred.Values

/-! Tables of the registry that operations on contacts and their objects work with. -/
namespace LibFred.Db

open Sql
open LibFred.ObjectState (EnumObjectState)
open LibFred.RegistrableObject.Contact (ContactAddressType)

/-- Microseconds. -/
abbrev Timestamp := Int

/-- The rows of enum_object_type. -/
inductive ObjectType
  | contact
  | nsset
  | domain
  | keyset
  deriving DecidableEq

structure Registrar where
  id : Nat
  handle : String
  deriving DecidableEq

structure ObjectRegistry where
  id : Nat
  uuid : Uuid
  roid : String
  name : String
  type : ObjectType
  crid : Nat
  crdate : Timestamp
  erdate : Option Timestamp
  crhistoryid : Option Nat
  historyid : Option Nat
  deriving DecidableEq

structure Object where
  id : Nat
  clid : Nat
  upid : Option Nat
  trdate : Option Timestamp
  update : Option Timestamp
  deriving DecidableEq

structure Contact where
  id : Nat
  name : Option String
  organization : Option String
  street1 : Option String
  street2 : Option String
  street3 : Option String
  city : Option String
  stateorprovince : Option String
  postalcode : Option String
  country : Option String
  telephone : Option String
  fax : Option String
  email : Option String
  notifyemail : Option String
  vat : Option String
  ssntype : Option Nat
  ssn : Option String
  disclosename : Option Bool
  discloseorganization : Option Bool
  discloseaddress : Option Bool
  disclosetelephone : Option Bool
  disclosefax : Option Bool
  discloseemail : Option Bool
  disclosevat : Option Bool
  discloseident : Option Bool
  disclosenotifyemail : Option Bool
  warningLetter : Option Bool
  deriving DecidableEq

/-- A contact has one additional address of a type at most. -/
structure ContactAddress where
  contactid : Nat
  type : ContactAddressType
  companyName : Option String
  street1 : Option String
  street2 : Option String
  street3 : Option String
  city : Option String
  stateorprovince : Option String
  postalcode : Option String
  country : Option String
  deriving DecidableEq

/-- A version of an object. -/
structure History where
  id : Nat
  uuid : Uuid
  requestId : Option Nat
  deriving DecidableEq

/-- A row as a version of its object keeps it. -/
structure Historical (ρ : Type) where
  historyid : Nat
  row : ρ
  deriving DecidableEq

structure EnumSsntype where
  id : Nat
  type : String

structure EnumCountry where
  id : String
  country : String
  countryCs : Option String

structure ObjectAuthinfo where
  id : Nat
  objectId : Nat
  registrarId : Nat
  password : Option String
  createdAt : Timestamp
  expiresAt : Timestamp
  canceledAt : Option Timestamp
  useCount : Nat
  deriving DecidableEq

structure ContactIdentity where
  id : Nat
  contactId : Nat
  validTo : Option Timestamp

structure ObjectState where
  id : Nat
  objectId : Nat
  stateId : Nat
  validFrom : Timestamp
  validTo : Option Timestamp

instance : Keyed Registrar Nat := ⟨Registrar.id⟩
instance : Keyed ObjectRegistry Nat := ⟨ObjectRegistry.id⟩
instance : Keyed Object Nat := ⟨Object.id⟩
instance : Keyed Contact Nat := ⟨Contact.id⟩
instance : Keyed ContactAddress (Nat × ContactAddressType) := ⟨fun ca => (ca.contactid, ca.type)⟩
instance : Keyed History Nat := ⟨History.id⟩
instance : Keyed EnumSsntype Nat := ⟨EnumSsntype.id⟩
instance : Keyed EnumCountry String := ⟨EnumCountry.id⟩
instance : Keyed ObjectAuthinfo Nat := ⟨ObjectAuthinfo.id⟩
instance : Keyed ContactIdentity Nat := ⟨ContactIdentity.id⟩
instance : Keyed ObjectState Nat := ⟨ObjectState.id⟩
instance historicalKeyed {ρ κ : Type} [Keyed ρ κ] : Keyed (Historical ρ) (Nat × κ) :=
  ⟨fun h => (h.historyid, Keyed.key h.row)⟩

/-- The tables, the sequences that ids are taken from, the generated uuids of versions, and the
time `now` of the transaction. Rows of object_history refer to rows of history, so that none is there
before its version. -/
structure Database where
  now : Timestamp
  registrar : Table Registrar
  objectRegistry : Table ObjectRegistry
  object : Table Object
  objectHistory : List (Historical Object)
  history : Table History
  historySeq : Nat
  historyUuid : Nat → Uuid
  objectAuthinfo : Table ObjectAuthinfo
  objectAuthinfoSeq : Nat
  contact : Table Contact
  contactAddress : Table ContactAddress
  contactIdentity : Table ContactIdentity
  objectState : Table ObjectState
  enumObjectStates : Table EnumObjectState
  enumSsntype : Table EnumSsntype
  enumCountry : Table EnumCountry
  requests : ObjectState.Requests Timestamp

/-- A database without rows, whose sequences begin with 1. -/
def Database.empty : Database where
  now := 0
  registrar := ∅
  objectRegistry := ∅
  object := ∅
  objectHistory := []
  history := ∅
  historySeq := 1
  historyUuid _ := 0
  objectAuthinfo := ∅
  objectAuthinfoSeq := 1
  contact := ∅
  contactAddress := ∅
  contactIdentity := ∅
  objectState := ∅
  enumObjectStates := ∅
  enumSsntype := ∅
  enumCountry := ∅
  requests := ⟨∅, 1⟩

/-- What CreateContact and UpdateContact report together. -/
structure ContactException where
  unknownRegistrarHandle : Option String := none
  invalidContactHandle : Option String := none
  unknownContactHandle : Option String := none
  unknownContactId : Option Nat := none
  unknownCountry : Option String := none
  unknownSsntype : Option String := none
  forbiddenCompanyNameSetting : Option String := none
  deriving DecidableEq

structure CopyContactException where
  srcContactHandleNotFound : Option String := none
  dstContactHandleAlreadyExist : Option String := none
  createContactFailed : Option String := none
  deriving DecidableEq

inductive Exception
  | unknownRegistrar
  | unknownObjectId
  | newRegistrarIsAlreadySponsoring
  | incorrectAuthInfoPw
  | unknownContactHandle (handle : String)
  | unknownContactId (id : Nat)
  | unknownRegistrarHandle (handle : String)
  | invalidObjectHandle (handle : String)
  | unknownObjectHandle (handle : String)
  | contact (e : ContactException)
  | copyContact (e : CopyContactException)
  | objectState (e : ObjectState.Exception Timestamp)
  | internalError (what : String)
  | runtimeError (what : String)
  | sqlError
  deriving DecidableEq

/-- Statements run in a transaction; what was written before an exception is not undone by it. -/
abbrev Exec := EStateM Exception Database

/-- The names of the states that Object_State knows. -/
def knownObjectStates : List String :=
  ["conditionallyIdentifiedContact", "contactFailedManualVerification",
    "contactInManualVerification", "contactPassedManualVerification", "deleteCandidate",
    "deleteWarning", "expirationWarning", "expired", "identifiedContact", "linked",
    "mojeidContact", "notValidated", "nssetMissing", "outzone", "outzoneUnguarded",
    "serverBlocked", "serverDeleteProhibited", "serverInzoneManual", "serverOutzoneManual",
    "serverRegistrantChangeProhibited", "serverRenewProhibited", "serverTransferProhibited",
    "serverUpdateProhibited", "unguarded", "validatedContact", "validationWarning1",
    "validationWarning2", "outzoneUnguardedWarning", "serverContactNameChangeProhibited",
    "serverContactOrganizationChangeProhibited", "serverContactIdentChangeProhibited",
    "serverContactPermanentAddressChangeProhibited"]

/-- The names of the states that GetObjectStates finds on an object. -/
def getObjectStates (db : Database) (objectId : Nat) : List String :=
  (db.objectState.select fun os => os.objectId = objectId ∧ os.validFrom ≤ db.now ∧
    ((isNull os.validTo).or (lt (some db.now) os.validTo)).holds).filterMap fun os =>
      (db.enumObjectStates.lookup os.stateId).map (·.name)

end LibFred.Db
