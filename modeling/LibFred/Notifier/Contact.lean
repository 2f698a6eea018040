import LibFred.Notifier.ChangePairs
import LibFred.RegistrableObject.Contact.InfoContactDiff

/-! What the notification of a contact update tells. -/
namespace LibFred.Notifier.Contact

open RegistrableObject RegistrableObject.Contact

def aggregateNonempty (target : List String) (rawInput : String) : List String :=
  if rawInput.isEmpty then target else target ++ [rawInput]

/-- The parts of an address that are not empty, in the order of the text. -/
def nonEmptyParts (parts : List String) : List String := parts.foldl aggregateNonempty []

/-- `Convert::to_string` of a place address. -/
def placeAddressToString (address : PlaceAddress) : String :=
  ", ".intercalate (nonEmptyParts [address.street1, address.street2.getD "", address.street3.getD "",
    address.stateorprovince.getD "", address.postalcode, address.city, address.country])

/-- `Convert::to_string` of an additional address. -/
def contactAddressToString (address : ContactAddress) : String :=
  ", ".intercalate (nonEmptyParts [address.companyName.getD "",
    placeAddressToString address.toPlaceAddress])

def translateSsntypes (personalId : Option PersonalIdUnion) : String :=
  match personalId with
  | none => ""
  | some personalId =>
    if personalId.type.isEmpty then ""
    else if personalId.type = "PASS" then "PASSPORT"
    else if personalId.type = "RC" ∨ personalId.type = "OP" ∨ personalId.type = "ICO" ∨
      personalId.type = "MPSV" ∨ personalId.type = "BIRTHDAY" then personalId.type
    else "UNKNOWN"

def toTemplateHandle : ContactAddressType → String
  | .mailing => "mailing"
  | .billing => "billing"
  | .shipping => "shipping"
  | .shipping2 => "shipping_2"
  | .shipping3 => "shipping_3"

def boolToString (input : Bool) : String := if input then "1" else "0"

/-- `PlaceAddress()`, all of whose parts are empty. -/
def noPlaceAddress : PlaceAddress := ⟨"", none, none, "", none, "", ""⟩

def placeText (place : Option PlaceAddress) : String :=
  placeAddressToString (place.getD noPlaceAddress)

/-- The text of an address of the list, which may not be there. -/
def addressText (address : Option ContactAddress) : String :=
  match address with
  | some address => contactAddressToString address
  | none => ""

/-- `get_value_or_default().get()` -/
def personalIdText (personalId : Option PersonalIdUnion) : String :=
  match personalId with
  | some personalId => personalId.id
  | none => ""

/-- What most members of a difference do when they are set. -/
def addMember {α : Type} (target : Parameters) (key : String) (text : α → String)
    (member : DiffMember α) : Except Exception Parameters :=
  match member with
  | some (first, second) => addOldNewChangesPairIfDifferent target key (text first) (text second)
  | none => .ok target

/-- A loop over all types of addresses. -/
def addAddresses (target : Parameters) (addresses : DiffMember ContactAddressList) :
    Except Exception Parameters :=
  match addresses with
  | some (oldAddresses, newAddresses) =>
    contactAddressTypes.foldlM (fun target type =>
      addOldNewChangesPairIfDifferent target ("contact.address." ++ toTemplateHandle type)
        (addressText (oldAddresses type)) (addressText (newAddresses type))) target
  | none => .ok target

/-- The type and the number are told apart. -/
def addPersonalId (target : Parameters) (personalId : DiffMember (Option PersonalIdUnion)) :
    Except Exception Parameters :=
  match personalId with
  | some (first, second) => do
    let target ← addOldNewChangesPairIfDifferent target "contact.ident_type" (translateSsntypes first)
      (translateSsntypes second)
    addOldNewChangesPairIfDifferent target "contact.ident" (personalIdText first)
      (personalIdText second)
  | none => .ok target

def gatherContactUpdateDataChange (before after : InfoContactData) : Except Exception Parameters := do
  let diff := diffContactData before after
  let result ← addMember ∅ "contact.name" (·.getD "") diff.name
  let result ← addMember result "contact.org" (·.getD "") diff.organization
  let result ← addMember result "contact.address.permanent" placeText diff.place
  let result ← addAddresses result diff.addresses
  let result ← addMember result "contact.telephone" (·.getD "") diff.telephone
  let result ← addMember result "contact.fax" (·.getD "") diff.fax
  let result ← addMember result "contact.email" (·.getD "") diff.email
  let result ← addMember result "contact.notify_email" (·.getD "") diff.notifyemail
  let result ← addPersonalId result diff.personalId
  let result ← addMember result "contact.vat" (·.getD "") diff.vat
  let result ← addMember result "contact.disclose.name" boolToString diff.disclosename
  let result ← addMember result "contact.disclose.org" boolToString diff.discloseorganization
  let result ← addMember result "contact.disclose.email" boolToString diff.discloseemail
  let result ← addMember result "contact.disclose.address" boolToString diff.discloseaddress
  let result ← addMember result "contact.disclose.notify_email" boolToString diff.disclosenotifyemail
  let result ← addMember result "contact.disclose.ident" boolToString diff.discloseident
  let result ← addMember result "contact.disclose.vat" boolToString diff.disclosevat
  let result ← addMember result "contact.disclose.telephone" boolToString diff.disclosetelephone
  let result ← addMember result "contact.disclose.fax" boolToString diff.disclosefax
  return setChanges result

section Pairs

variable {α : Type} {target : Parameters}

def memberPairs (key : String) (text : α → String) (member : DiffMember α) : List TextPair :=
  member.toList.map fun pair => ⟨key, text pair.1, text pair.2⟩

def addressPairs (addresses : DiffMember ContactAddressList) : List TextPair :=
  match addresses with
  | some (oldAddresses, newAddresses) => contactAddressTypes.map fun type =>
    ⟨"contact.address." ++ toTemplateHandle type, addressText (oldAddresses type),
      addressText (newAddresses type)⟩
  | none => []

def personalIdPairs (personalId : DiffMember (Option PersonalIdUnion)) : List TextPair :=
  match personalId with
  | some (first, second) =>
    [⟨"contact.ident_type", translateSsntypes first, translateSsntypes second⟩,
      ⟨"contact.ident", personalIdText first, personalIdText second⟩]
  | none => []

/-- All pairs of texts that a difference compares. -/
def pairsOf (diff : InfoContactDiff) : List TextPair :=
  memberPairs "contact.name" (·.getD "") diff.name ++
  (memberPairs "contact.org" (·.getD "") diff.organization ++
  (memberPairs "contact.address.permanent" placeText diff.place ++
  (addressPairs diff.addresses ++
  (memberPairs "contact.telephone" (·.getD "") diff.telephone ++
  (memberPairs "contact.fax" (·.getD "") diff.fax ++
  (memberPairs "contact.email" (·.getD "") diff.email ++
  (memberPairs "contact.notify_email" (·.getD "") diff.notifyemail ++
  (personalIdPairs diff.personalId ++
  (memberPairs "contact.vat" (·.getD "") diff.vat ++
  (memberPairs "contact.disclose.name" boolToString diff.disclosename ++
  (memberPairs "contact.disclose.org" boolToString diff.discloseorganization ++
  (memberPairs "contact.disclose.email" boolToString diff.discloseemail ++
  (memberPairs "contact.disclose.address" boolToString diff.discloseaddress ++
  (memberPairs "contact.disclose.notify_email" boolToString diff.disclosenotifyemail ++
  (memberPairs "contact.disclose.ident" boolToString diff.discloseident ++
  (memberPairs "contact.disclose.vat" boolToString diff.disclosevat ++
  (memberPairs "contact.disclose.telephone" boolToString diff.disclosetelephone ++
  memberPairs "contact.disclose.fax" boolToString diff.disclosefax)))))))))))))))))

theorem addMember_eq {key : String} {text : α → String} {member : DiffMember α} :
    addMember target key text member = addPairs target (memberPairs key text member) := by
  cases member with
  | none => rfl
  | some pair => simp [addMember, addPairs, memberPairs]

theorem addAddresses_eq {addresses : DiffMember ContactAddressList} :
    addAddresses target addresses = addPairs target (addressPairs addresses) := by
  cases addresses with
  | none => rfl
  | some pair => simp [addAddresses, addPairs, addressPairs, List.foldlM_map]

theorem addPersonalId_eq {personalId : DiffMember (Option PersonalIdUnion)} :
    addPersonalId target personalId = addPairs target (personalIdPairs personalId) := by
  cases personalId with
  | none => rfl
  | some pair => simp [addPersonalId, addPairs, personalIdPairs]

/-- The update is told by its pairs, one after the other. -/
theorem gatherContactUpdateDataChange_eq (before after : InfoContactData) :
    gatherContactUpdateDataChange before after =
      (do return setChanges (← addPairs ∅ (pairsOf (diffContactData before after)))) := by
  simp only [gatherContactUpdateDataChange, addMember_eq, addAddresses_eq, addPersonalId_eq, pairsOf,
    addPairs_append, bind_assoc]

end Pairs

end LibFred.Notifier.Contact
