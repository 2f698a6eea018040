import LibFred.Cpp.OrderedMap
import LibFred.RegistrableObject.Contact.MergeContactOutput
import Mathlib.Data.Finset.Sort
import Mathlib.Data.String.Basic

/-! The e-mails that tell of merges of contacts. -/
namespace LibFred.RegistrableObject.Contact

structure MergeContactEmailNotificationInput where
  srcContactHandle : String
  dstContactHandle : String
  mergeOutput : MergeContactOutput

/-- The e-mail while it is collected. -/
structure SortedContactNotificationEmail where
  dstContactHandle : String
  domainRegistrantList : Finset String
  domainAdminList : Finset String
  nssetTechList : Finset String
  keysetTechList : Finset String
  removedList : Finset String
  removedRoidList : Finset String

structure MergeContactNotificationEmail where
  dstContactHandle : String
  dstContactRoid : String
  domainRegistrantList : List String
  domainAdminList : List String
  nssetTechList : List String
  keysetTechList : List String
  removedList : List String
  removedRoidList : List String
  deriving DecidableEq

namespace MergeContactEmailNotificationData

inductive Exception
  | invalidContactHandle (handle : String)
  | invalidRegistryObjectIdentifier (roid : String)
  deriving DecidableEq

/-- The objects that the merge updated. -/
def updateEmail (i : MergeContactEmailNotificationInput) (email : SortedContactNotificationEmail) :
    SortedContactNotificationEmail :=
  { email with
    domainRegistrantList := email.domainRegistrantList ∪
      (i.mergeOutput.updateDomainRegistrant.map (·.fqdn)).toFinset
    domainAdminList := email.domainAdminList ∪
      (i.mergeOutput.updateDomainAdminContact.map (·.fqdn)).toFinset
    nssetTechList := email.nssetTechList ∪
      (i.mergeOutput.updateNssetTechContact.map (·.handle)).toFinset
    keysetTechList := email.keysetTechList ∪
      (i.mergeOutput.updateKeysetTechContact.map (·.handle)).toFinset }

/-- The source of the merge was removed. -/
def removeSource (i : MergeContactEmailNotificationInput) (email : SortedContactNotificationEmail) :
    SortedContactNotificationEmail :=
  { email with
    removedList := insert i.srcContactHandle email.removedList
    removedRoidList := insert i.mergeOutput.contactid.srcContactRoid email.removedRoidList }

/-- What was collected for the source goes to the destination. -/
def addPrevious (srcEmail : SortedContactNotificationEmail) (email : SortedContactNotificationEmail) :
    SortedContactNotificationEmail :=
  { email with
    domainRegistrantList := email.domainRegistrantList ∪ srcEmail.domainRegistrantList
    domainAdminList := email.domainAdminList ∪ srcEmail.domainAdminList
    nssetTechList := email.nssetTechList ∪ srcEmail.nssetTechList
    keysetTechList := email.keysetTechList ∪ srcEmail.keysetTechList
    removedList := email.removedList ∪ srcEmail.removedList
    removedRoidList := email.removedRoidList ∪ srcEmail.removedRoidList }

/-- The keys are the roids of destinations. -/
abbrev EmailMap := List (String × SortedContactNotificationEmail)

/-- The e-mail of the destination with the merge, and the map without that of the source. -/
def collect (i : MergeContactEmailNotificationInput) (email : SortedContactNotificationEmail)
    (emailByDstContact : EmailMap) : SortedContactNotificationEmail × EmailMap :=
  let email := updateEmail i (removeSource i email)
  match OrderedMap.find i.mergeOutput.contactid.srcContactRoid emailByDstContact with
  | some srcEmail => (addPrevious srcEmail email,
      OrderedMap.erase i.mergeOutput.contactid.srcContactRoid emailByDstContact)
  | none => (email, emailByDstContact)

/-- One round of the loop. -/
def addMerge (emailByDstContact : EmailMap) (i : MergeContactEmailNotificationInput) :
    Except Exception EmailMap := do
  let contactid := i.mergeOutput.contactid
  if contactid.dstContactRoid = contactid.srcContactRoid then
    throw (.invalidRegistryObjectIdentifier contactid.dstContactRoid)
  match OrderedMap.find contactid.dstContactRoid emailByDstContact with
  | none =>
    let (email, emailByDstContact) := collect i ⟨i.dstContactHandle, ∅, ∅, ∅, ∅, ∅, ∅⟩ emailByDstContact
    return OrderedMap.set contactid.dstContactRoid email emailByDstContact
  | some email =>
    if email.dstContactHandle ≠ i.dstContactHandle then
      throw (.invalidContactHandle i.dstContactHandle)
    let (email, emailByDstContact) := collect i email emailByDstContact
    return OrderedMap.set contactid.dstContactRoid email emailByDstContact

def notifemail (dstContactRoid : String) (email : SortedContactNotificationEmail) :
    MergeContactNotificationEmail where
  dstContactHandle := email.dstContactHandle
  dstContactRoid := dstContactRoid
  domainRegistrantList := email.domainRegistrantList.sort
  domainAdminList := email.domainAdminList.sort
  nssetTechList := email.nssetTechList.sort
  keysetTechList := email.keysetTechList.sort
  removedList := email.removedList.sort
  removedRoidList := email.removedRoidList.sort

def exec (mergeContactData : List MergeContactEmailNotificationInput) :
    Except Exception (List MergeContactNotificationEmail) := do
  let emailByDstContact ← mergeContactData.foldlM addMerge []
  return emailByDstContact.map fun e => notifemail e.1 e.2

end MergeContactEmailNotificationData

end LibFred.RegistrableObject.Contact
