/-! What a merge of two contacts tells about itself. -/
namespace LibFred.RegistrableObject.Contact

structure MergeContactUpdateDomainRegistrant where
  fqdn : String
  domainId : Nat
  sponsoringRegistrar : String
  setRegistrant : String
  historyId : Option Nat
  deriving DecidableEq

structure MergeContactUpdateDomainAdminContact where
  fqdn : String
  domainId : Nat
  sponsoringRegistrar : String
  remAdminContact : String
  addAdminContact : String
  historyId : Option Nat
  deriving DecidableEq

structure MergeContactUpdateNssetTechContact where
  handle : String
  nssetId : Nat
  sponsoringRegistrar : String
  remTechContact : String
  addTechContact : String
  historyId : Option Nat
  deriving DecidableEq

structure MergeContactUpdateKeysetTechContact where
  handle : String
  keysetId : Nat
  sponsoringRegistrar : String
  remTechContact : String
  addTechContact : String
  historyId : Option Nat
  deriving DecidableEq

structure MergeContactLockedContactId where
  srcContactId : Nat
  srcContactHistoryid : Nat
  srcContactRoid : String
  srcContactSponsoringRegistrar : String
  dstContactId : Nat
  dstContactHistoryid : Nat
  dstContactRoid : String
  dstContactSponsoringRegistrar : String
  deriving DecidableEq

structure MergeContactOutput where
  contactid : MergeContactLockedContactId
  updateDomainRegistrant : List MergeContactUpdateDomainRegistrant
  updateDomainAdminContact : List MergeContactUpdateDomainAdminContact
  updateNssetTechContact : List MergeContactUpdateNssetTechContact
  updateKeysetTechContact : List MergeContactUpdateKeysetTechContact
  deriving DecidableEq

end LibFred.RegistrableObject.Contact
