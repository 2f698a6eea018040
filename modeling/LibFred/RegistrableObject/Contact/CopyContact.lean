import LibFred.RegistrableObject.Contact.CreateContact
import LibFred.RegistrableObject.Contact.InfoContact

/-! Copying a contact. -/
namespace LibFred.RegistrableObject.Contact

open Sql
open LibFred.Db (CopyContactException ObjectRegistry Timestamp Exec)
open LibFred.Object (CreateObjectProcedure liveObjects copyAuthinfos)

/-- A subselect used as a value: whether it is not NULL. -/
def scalar {α : Type} : List α → Exec Bool
  | [] => return false
  | [_] => return true
  | _ => throw .sqlError

/-- Optional::print_quoted. -/
def printQuoted : Option String → String
  | some value => "'" ++ value ++ "'"
  | none => "[N/A]"

/-- to_optional of a number, which a flag is converted to. -/
def flagToOptional (flag : Bool) : Option Bool := if flag then some true else none

/-- to_optional of a map. -/
def addressesToOptional (addresses : ContactAddressList) : Option ContactAddressList :=
  if ∀ type, addresses type = none then none else some addresses

structure CopyContact where
  srcContactHandle : String
  dstContactHandle : String
  dstRegistrarHandle : Option String
  requestId : Nat

namespace CopyContact

variable (procedure : CreateObjectProcedure) (op : CopyContact)

def checkArgs : Exec Unit := do
  let db ← get
  let src ← scalar (liveObjects db .contact op.srcContactHandle)
  let dst ← scalar (liveObjects db .contact op.dstContactHandle)
  let registrar ← scalar
    (db.registrar.select (·.handle = upper (op.dstRegistrarHandle.getD "")))
  let e : CopyContactException :=
    { srcContactHandleNotFound := if src then none else some op.srcContactHandle
      dstContactHandleAlreadyExist := if dst then some op.dstContactHandle else none
      createContactFailed := if registrar then none else
        some ("dst_registrar_handle " ++ printQuoted op.dstRegistrarHandle ++ " doesn't exist") }
  raiseIf (e ≠ {}) (.copyContact e)

/-- The arguments that the data of the source become. -/
def createContact (registrar : String) (old : InfoContactData) : CreateContact where
  handle := op.dstContactHandle
  registrar := registrar
  name := old.name
  organization := old.organization
  place := old.place
  telephone := old.telephone
  fax := old.fax
  email := old.email
  notifyemail := old.notifyemail
  vat := old.vat
  ssntype := old.ssntype
  ssn := old.ssn
  addresses := addressesToOptional old.addresses
  disclosename := flagToOptional old.disclosename
  discloseorganization := flagToOptional old.discloseorganization
  discloseaddress := flagToOptional old.discloseaddress
  disclosetelephone := flagToOptional old.disclosetelephone
  disclosefax := flagToOptional old.disclosefax
  discloseemail := flagToOptional old.discloseemail
  disclosevat := flagToOptional old.disclosevat
  discloseident := flagToOptional old.discloseident
  disclosenotifyemail := flagToOptional old.disclosenotifyemail
  domainExpirationWarningLetterEnabled := old.warningLetter.map some
  logdRequestId := if op.requestId = 0 then none else some op.requestId

/-- The creation; an invalid handle is taken for one that exists. -/
def create (registrar : String) (old : InfoContactData) : Exec CreateContactResult :=
  tryCatch ((op.createContact registrar old).exec procedure utc) fun
  | .contact e =>
    if e.invalidContactHandle.isSome then
      throw (.copyContact { dstContactHandleAlreadyExist := some op.dstContactHandle })
    else throw (.contact e)
  | e => throw e

def getRegistrar : Exec String :=
  match op.dstRegistrarHandle with
  | some registrar => return registrar
  | none => throw (.runtimeError "value is not set")

/-- The active authinfos of the source become authinfos of the copy, whose id is returned. -/
def copyPasswords : Exec Nat := do
  let db ← get
  let dst := liveObjects db .contact op.dstContactHandle
  let src := liveObjects db .contact op.srcContactHandle
  let _ ← dst.mapM fun d => src.mapM fun s => copyAuthinfos s.id d.id
  match dst with
  | [d] => return d.id
  | _ => throw (.copyContact
      { createContactFailed := some ("dst_contact " ++ op.dstContactHandle ++ " not found") })

def exec : Exec Nat := do
  op.checkArgs
  let old ← infoContactByHandle utc op.srcContactHandle
  let registrar ← op.getRegistrar
  let _ ← op.create procedure registrar old
  op.copyPasswords

end CopyContact

end LibFred.RegistrableObject.Contact
