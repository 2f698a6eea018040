import LibFred.Values
import Mathlib.Data.Fintype.Defs

/-! Data of contacts. -/
namespace LibFred.RegistrableObject.Contact

structure PlaceAddress where
  street1 : String
  street2 : Option String
  street3 : Option String
  city : String
  stateorprovince : Option String
  postalcode : String
  country : String
  deriving DecidableEq

structure ContactAddress extends PlaceAddress where
  companyName : Option String
  deriving DecidableEq

inductive ContactAddressType
  | mailing
  | billing
  | shipping
  | shipping2
  | shipping3
  deriving DecidableEq

instance : Fintype ContactAddressType where
  elems := {.mailing, .billing, .shipping, .shipping2, .shipping3}
  complete := by intro type; cases type <;> decide

/-- All types, ascending. -/
def contactAddressTypes : List ContactAddressType :=
  [.mailing, .billing, .shipping, .shipping2, .shipping3]

theorem mem_contactAddressTypes (type : ContactAddressType) : type ∈ contactAddressTypes := by
  cases type <;> decide

def ContactAddressType.text : ContactAddressType → String
  | .mailing => "MAILING"
  | .billing => "BILLING"
  | .shipping => "SHIPPING"
  | .shipping2 => "SHIPPING_2"
  | .shipping3 => "SHIPPING_3"

/-- A std::map of addresses by their type. -/
abbrev ContactAddressList := ContactAddressType → Option ContactAddress

structure PersonalIdUnion where
  type : String
  id : String
  deriving DecidableEq

structure InfoContactData where
  crhistoryid : Nat
  historyid : Nat
  deleteTime : Option Ptime
  handle : String
  roid : String
  sponsoringRegistrarHandle : String
  createRegistrarHandle : String
  updateRegistrarHandle : Option String
  creationTime : Ptime
  updateTime : Option Ptime
  transferTime : Option Ptime
  name : Option String
  organization : Option String
  place : Option PlaceAddress
  telephone : Option String
  fax : Option String
  email : Option String
  notifyemail : Option String
  vat : Option String
  ssntype : Option String
  ssn : Option String
  disclosename : Bool
  discloseorganization : Bool
  discloseaddress : Bool
  disclosetelephone : Bool
  disclosefax : Bool
  discloseemail : Bool
  disclosevat : Bool
  discloseident : Bool
  disclosenotifyemail : Bool
  id : Nat
  uuid : Uuid
  historyUuid : Uuid
  addresses : ContactAddressList
  warningLetter : Option Bool

end LibFred.RegistrableObject.Contact
