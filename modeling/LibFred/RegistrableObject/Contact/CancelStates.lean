import LibFred.Db.Schema

/-! Final states of the manual verification of a contact, which its changes cancel. -/
namespace LibFred.RegistrableObject.Contact

open Sql
open LibFred.Db (Database ObjectType Exec)
open LibFred.ObjectState (CancelObjectStateRequestId)

/-- The ids of enum_object_type. -/
def objectTypeId : ObjectType → Int
  | .contact => 1
  | .nsset => 2
  | .domain => 3
  | .keyset => 4

/-- The tables that requests for states only read. -/
def stateRegistry (db : Database) : ObjectState.Registry where
  enumObjectStates := db.enumObjectStates
  objectRegistry :=
    ⟨db.objectRegistry.rows.map fun o => ⟨o.id, objectTypeId o.type, o.name⟩, by
      rw [List.map_map]
      exact db.objectRegistry.nodup⟩

/-- A state that was not requested is passed over; its savepoint undoes what was done. -/
def cancelState (contactId : Nat) (state : String) : Exec Unit := fun db =>
  match (CancelObjectStateRequestId.exec (stateRegistry db) db.now
    ⟨contactId, ⟨[state], List.pairwise_singleton _ _⟩⟩).run db.requests with
  | .ok _ requests => .ok () { db with requests := requests }
  | .error (.stateNotFound _) _ => .ok () db
  | .error e requests => .error (.objectState e) { db with requests := requests }

def cancelFinalStates (contactId : Nat) : Exec Unit := do
  cancelState contactId "contactFailedManualVerification"
  cancelState contactId "contactPassedManualVerification"

def conditionallyCancelFinalStates (contactId : Nat) (changed : Bool) : Exec Unit :=
  if changed then cancelFinalStates contactId else return

end LibFred.RegistrableObject.Contact
