import LibFred.Db.Schema

/-! Countries and types of identification that a contact names. -/
namespace LibFred.RegistrableObject.Contact

open Sql
open LibFred.Db (EnumCountry EnumSsntype Exec)

/-- A country is named by its code or in one of two languages. -/
def EnumCountry.Named (country : String) (c : EnumCountry) : Prop :=
  c.id = country ∨ c.country = country ∨ c.countryCs = some country

def EnumSsntype.Named (ssntype : String) (t : EnumSsntype) : Prop := upper t.type = upper ssntype

instance (country : String) : DecidablePred (EnumCountry.Named country) :=
  fun c => inferInstanceAs (Decidable (c.id = country ∨ c.country = country ∨ c.countryCs = some country))

instance (ssntype : String) : DecidablePred (EnumSsntype.Named ssntype) :=
  fun t => inferInstanceAs (Decidable (upper t.type = upper ssntype))

/-- The code of the country; none when the country is unknown. -/
def getCountryCode (country : String) : Exec (Option String) := do
  let db ← get
  match db.enumCountry.select (EnumCountry.Named country) with
  | [] => return none
  | [c] => return some c.id
  | _ => throw (.internalError "failed to get country")

/-- The id of the type; none when the type is unknown. -/
def getSsntypeId (ssntype : String) : Exec (Option Nat) := do
  let db ← get
  match db.enumSsntype.select (EnumSsntype.Named ssntype) with
  | [] => return none
  | [t] => return some t.id
  | _ => throw (.internalError "failed to get ssntype")

/-- What `find` makes of a text that is given, and the text that it does not know. -/
def resolve {α : Type} (find : String → Exec (Option α)) : Option String → Exec (Option α × Option String)
  | none => return (none, none)
  | some text => do
    let found ← find text
    return (found, if found.isNone then some text else none)

end LibFred.RegistrableObject.Contact
