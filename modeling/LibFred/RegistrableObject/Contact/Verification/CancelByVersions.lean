import LibFred.RegistrableObject.Contact.CancelStates
import LibFred.Sql.Join

/-! The final states of the manual verification of a contact, which are cancelled when its last
version differs from the one before. -/
namespace LibFred.RegistrableObject.Contact

open Sql
open LibFred.Db (Database Exec)
open LibFred.ObjectState (CancelObjectStateRequestId StatusList)

/-- A row of history. -/
structure VersionRow where
  id : Nat
  next : Option Nat

/-- A row of contact_history. -/
structure ContactVersion where
  historyid : Nat
  contact : Db.Contact

instance : Keyed VersionRow Nat := ⟨VersionRow.id⟩
instance : Keyed ContactVersion Nat := ⟨ContactVersion.historyid⟩

/-- The versions of contacts; the database itself fills in the next ones. -/
structure ContactVersions where
  history : Table VersionRow
  contactHistory : Table ContactVersion

/-- Whether a column IS DISTINCT FROM that of the version before. -/
def isDistinctFrom (c cHBefore : Db.Contact) : Bool :=
  c.name ≠ cHBefore.name ||
  c.organization ≠ cHBefore.organization ||
  c.street1 ≠ cHBefore.street1 ||
  c.street2 ≠ cHBefore.street2 ||
  c.street3 ≠ cHBefore.street3 ||
  c.city ≠ cHBefore.city ||
  c.stateorprovince ≠ cHBefore.stateorprovince ||
  c.postalcode ≠ cHBefore.postalcode ||
  c.country ≠ cHBefore.country ||
  c.telephone ≠ cHBefore.telephone ||
  c.fax ≠ cHBefore.fax ||
  c.email ≠ cHBefore.email ||
  c.notifyemail ≠ cHBefore.notifyemail ||
  c.vat ≠ cHBefore.vat ||
  c.ssn ≠ cHBefore.ssn ||
  c.ssntype ≠ cHBefore.ssntype

/-- The rows of the query; h_before.next may be NULL, which joins with nothing. -/
def selectChanges (versions : ContactVersions) (contactId : Nat) (db : Database) : List Bool :=
  (join (fun row cHBefore => cHBefore.historyid = row.2.id)
    (join (fun row hBefore => hBefore.next.isSome ∧ hBefore.next = row.1.historyid)
      (join (fun oR c => c.id = oR.id) (db.objectRegistry.select (·.id = contactId)) db.contact.rows)
      versions.history.rows)
    versions.contactHistory.rows).map fun row => isDistinctFrom row.1.1.2 row.2.contact

/-- get_final, by the names of the states. -/
def finalStates : StatusList where
  names := ["contactFailedManualVerification", "contactPassedManualVerification"]
  sorted := by decide

/-- Both states at once; what was cancelled stays so when one of them was not requested. -/
def cancelFinalStatesAtOnce (contactId : Nat) : Exec Bool := fun db =>
  match (CancelObjectStateRequestId.exec (stateRegistry db) db.now ⟨contactId, finalStates⟩).run
    db.requests with
  | .ok _ requests => .ok true { db with requests := requests }
  | .error (.stateNotFound _) requests => .ok true { db with requests := requests }
  | .error e requests => .error (.objectState e) { db with requests := requests }

/-- conditionally_cancel_final_states of the flags of what is set, with what it returns. -/
def conditionallyCancelFinalStatesOfFlags (contactId : Nat) (changed : Bool) : Exec Bool := do
  conditionallyCancelFinalStates contactId changed
  return changed

/-- conditionally_cancel_final_states of the difference of the versions. -/
def conditionallyCancelFinalStatesOfVersions (versions : ContactVersions) (contactId : Nat) :
    Exec Bool := do
  let db ← get
  match selectChanges versions contactId db with
  | [] => throw (.runtimeError "Out of range: field column 0 is out of range [0..0)")
  | changed :: _ => if ¬ changed then return false else cancelFinalStatesAtOnce contactId

end LibFred.RegistrableObject.Contact
