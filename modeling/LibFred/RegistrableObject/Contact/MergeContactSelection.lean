import LibFred.Db.ObjectDatabase
import LibFred.Order.Sorting
import LibFred.Sql.OrderBy

/-! Choosing the contact that duplicates are merged into. -/
namespace LibFred.RegistrableObject.Contact

open Sql
open LibFred.Db

structure MergeContactSelectionOutput where
  handle : String
  filter : String
  deriving DecidableEq

inductive MergeContactSelectionException
  | noContactHandles
  | noContactHandlesLeft
  | tooManyContactHandlesLeft
  deriving DecidableEq

/-- The orders in which the database returns rows that a query does not order among themselves. -/
structure SelectionOrder where
  descending : Sorting fun a b : String × Int => decide (b.2 < a.2)
  unordered : Sorting fun _ _ : String => false

/-- FROM contact c JOIN object_registry oreg ON c.id = oreg.id AND oreg.erdate IS NULL -/
def IsCurrent (db : ObjectDatabase) (oreg : Db.ObjectRegistry) : Prop :=
  oreg.erdate = none ∧ (db.contact.lookup oreg.id).isSome

instance (db : ObjectDatabase) : DecidablePred (IsCurrent db) := fun _ =>
  inferInstanceAs (Decidable (_ ∧ _))

/-- WHERE oreg.name = UPPER($1::text) OR oreg.name = UPPER($2::text) OR ...; without handles there
is no condition. -/
def IsNamed (handles : List String) (oreg : Db.ObjectRegistry) : Prop :=
  handles = [] ∨ ∃ handle ∈ handles, oreg.name = upper handle

instance (handles : List String) : DecidablePred (IsNamed handles) := fun _ =>
  inferInstanceAs (Decidable (_ ∨ _))

/-- The current contacts of the given handles. -/
def currentContacts (db : ObjectDatabase) (handles : List String) : List Db.ObjectRegistry :=
  db.objectRegistry.select fun oreg => IsCurrent db oreg ∧ IsNamed handles oreg

/-- The states of that name which the contact of exactly this handle has. -/
def stateRows (db : ObjectDatabase) (state handle : String) : List Db.ObjectState :=
  (db.objectRegistry.select fun oreg => IsCurrent db oreg ∧ oreg.name = handle).flatMap fun oreg =>
    db.objectState.select fun os => os.objectId = oreg.id ∧ os.validTo = none ∧
      ∃ eos ∈ db.enumObjectStates.lookup os.stateId, eos.name = state

def identityRows (db : ObjectDatabase) (handle : String) : List ContactIdentity :=
  (db.objectRegistry.select fun obr =>
      obr.erdate = none ∧ obr.name = upper handle ∧ obr.type = .contact).flatMap fun obr =>
    db.contactIdentity.select fun ci => ci.contactId = obr.id ∧ ci.validTo = none

def filterIdentifiedContact (db : ObjectDatabase) (handles : List String) : List String :=
  handles.filter fun handle => (stateRows db "identifiedContact" handle).length = 1

def filterIdentityAttached (db : ObjectDatabase) (handles : List String) : List String :=
  handles.filter fun handle => (identityRows db handle).length = 1

def filterConditionallyIdentifiedContact (db : ObjectDatabase) (handles : List String) :
    List String :=
  handles.filter fun handle => (stateRows db "conditionallyIdentifiedContact" handle).length = 1

/-- [a-z0-9] -/
def isMojeIDChar (c : Char) : Bool := ('a' ≤ c ∧ c ≤ 'z') ∨ ('0' ≤ c ∧ c ≤ '9')

/-- (-?[a-z0-9])* -/
def matchesMojeIDRest : List Char → Bool
  | [] => true
  | '-' :: c :: cs => isMojeIDChar c && matchesMojeIDRest cs
  | c :: cs => isMojeIDChar c && matchesMojeIDRest cs

/-- ^[a-z0-9](-?[a-z0-9])*$ -/
def matchesMojeIDSyntax (handle : String) : Bool :=
  match handle.toList with
  | [] => false
  | c :: cs => isMojeIDChar c && matchesMojeIDRest cs

def filterHandleMojeIDSyntax (handles : List String) : List String :=
  handles.filter fun handle => matchesMojeIDSyntax (lower handle) ∧ handle.utf8ByteSize ≤ 30

def domainRegistrantCount (db : ObjectDatabase) (contactId : Nat) : Nat :=
  (db.domain.select fun d =>
    d.registrant = contactId ∧ (db.objectRegistry.lookup d.id).isSome).length

def domainAdminCount (db : ObjectDatabase) (contactId : Nat) : Nat :=
  (db.domainContactMap.select fun dcm => dcm.role = 1 ∧ dcm.contactid = contactId ∧
    (db.domain.lookup dcm.domainid).isSome ∧ (db.objectRegistry.lookup dcm.domainid).isSome).length

def nssetTechCount (db : ObjectDatabase) (contactId : Nat) : Nat :=
  (db.nssetContactMap.select fun ncm => ncm.contactid = contactId ∧
    (db.nsset.lookup ncm.nssetid).isSome ∧ (db.objectRegistry.lookup ncm.nssetid).isSome).length

def keysetTechCount (db : ObjectDatabase) (contactId : Nat) : Nat :=
  (db.keysetContactMap.select fun kcm => kcm.contactid = contactId ∧
    (db.keyset.lookup kcm.keysetid).isSome ∧ (db.objectRegistry.lookup kcm.keysetid).isSome).length

def domainsBound (db : ObjectDatabase) (contactId : Nat) : Int :=
  domainRegistrantCount db contactId + domainAdminCount db contactId

def objectsBound (db : ObjectDatabase) (contactId : Nat) : Int :=
  domainRegistrantCount db contactId + domainAdminCount db contactId +
    nssetTechCount db contactId + keysetTechCount db contactId

/-- ORDER BY the second column DESC, of which the rows are kept that agree with the first one. -/
def firstRows (order : SelectionOrder) (rows : List (String × Int)) : List String :=
  match order.descending.sort rows with
  | [] => []
  | first :: rest => ((first :: rest).takeWhile fun row => row.2 = first.2).map (·.1)

def filterMaxDomainsBound (order : SelectionOrder) (db : ObjectDatabase) (handles : List String) :
    List String :=
  if handles = [] then [] else
    firstRows order ((currentContacts db handles).map fun oreg =>
      (oreg.name, domainsBound db oreg.id))

def filterMaxObjectsBound (order : SelectionOrder) (db : ObjectDatabase) (handles : List String) :
    List String :=
  if handles = [] then [] else
    firstRows order ((currentContacts db handles).map fun oreg =>
      (oreg.name, objectsBound db oreg.id))

/-- The time of the last update; NULL without one. -/
def lastUpdate (db : ObjectDatabase) (id : Nat) : Option Timestamp :=
  (db.object.lookup id).bind (·.update)

def filterRecentlyUpdated (order : SelectionOrder) (db : ObjectDatabase) (handles : List String) :
    List String :=
  if handles = [] then [] else
    firstRows order ((currentContacts db handles).filterMap fun oreg =>
      (lastUpdate db oreg.id).map fun update => (oreg.name, update))

/-- Whether the object has a sponsoring registrar other than REG-CZNIC. -/
def IsNotRegCzNic (db : ObjectDatabase) (id : Nat) : Prop :=
  ∃ o ∈ db.object.lookup id, ∃ r ∈ db.registrar.lookup o.clid, r.handle ≠ "REG-CZNIC"

instance (db : ObjectDatabase) : DecidablePred (IsNotRegCzNic db) := fun _ =>
  inferInstanceAs (Decidable (∃ o ∈ _, ∃ r ∈ _, _))

def filterNotRegCzNic (order : SelectionOrder) (db : ObjectDatabase) (handles : List String) :
    List String :=
  order.unordered.sort
    (((currentContacts db handles).filter fun oreg => IsNotRegCzNic db oreg.id).map (·.name))

/-- The order of `oreg.crdate DESC, oreg.id DESC`. -/
def createdDesc (a b : Db.ObjectRegistry) : Prop :=
  b.crdate < a.crdate ∨ b.crdate = a.crdate ∧ b.id ≤ a.id

instance : DecidableRel createdDesc := fun _ _ => inferInstanceAs (Decidable (_ ∨ _ ∧ _))

def filterRecentlyCreated (db : ObjectDatabase) (handles : List String) : List String :=
  if handles = [] then [] else
    ((firstBy createdDesc 0 (currentContacts db handles)).map (·.name)).toList

inductive ContactSelectionFilter
  | identifiedContact
  | identityAttached
  | conditionallyIdentifiedContact
  | handleMojeIDSyntax
  | maxDomainsBound
  | maxObjectsBound
  | recentlyUpdated
  | notRegCzNic
  | recentlyCreated
  deriving DecidableEq

namespace ContactSelectionFilter

def key : ContactSelectionFilter → String
  | identifiedContact => "mcs_filter_identified_contact"
  | identityAttached => "mcs_filter_identity_attached"
  | conditionallyIdentifiedContact => "mcs_filter_conditionally_identified_contact"
  | handleMojeIDSyntax => "mcs_filter_handle_mojeid_syntax"
  | maxDomainsBound => "mcs_filter_max_domains_bound"
  | maxObjectsBound => "mcs_filter_max_objects_bound"
  | recentlyUpdated => "mcs_filter_recently_updated"
  | notRegCzNic => "mcs_filter_not_regcznic"
  | recentlyCreated => "mcs_filter_recently_created"

def apply (order : SelectionOrder) (db : ObjectDatabase) (handles : List String) :
    ContactSelectionFilter → List String
  | identifiedContact => filterIdentifiedContact db handles
  | identityAttached => filterIdentityAttached db handles
  | conditionallyIdentifiedContact => filterConditionallyIdentifiedContact db handles
  | handleMojeIDSyntax => filterHandleMojeIDSyntax handles
  | maxDomainsBound => filterMaxDomainsBound order db handles
  | maxObjectsBound => filterMaxObjectsBound order db handles
  | recentlyUpdated => filterRecentlyUpdated order db handles
  | notRegCzNic => filterNotRegCzNic order db handles
  | recentlyCreated => filterRecentlyCreated db handles

/-- The producers of the default factory. -/
def all : List ContactSelectionFilter :=
  [identifiedContact, identityAttached, conditionallyIdentifiedContact, handleMojeIDSyntax,
    maxDomainsBound, maxObjectsBound, recentlyUpdated, notRegCzNic, recentlyCreated]

/-- The filter that the default factory has under a name. -/
def ofKey (name : String) : Option ContactSelectionFilter := all.find? (·.key = name)

end ContactSelectionFilter

structure MergeContactSelection where
  contactHandles : List String
  filters : List String

namespace MergeContactSelection

/-- The loop over the filters, on the handles that are left. An unknown filter is skipped, and so
is one that leaves none. -/
def loop (order : SelectionOrder) (db : ObjectDatabase) :
    List String → List String → Except MergeContactSelectionException MergeContactSelectionOutput
  | handles, [] =>
    if handles = [] then .error .noContactHandlesLeft else .error .tooManyContactHandlesLeft
  | handles, filterName :: filters =>
    match ContactSelectionFilter.ofKey filterName with
    | none => loop order db handles filters
    | some filter =>
      match filter.apply order db handles with
      | [] => loop order db handles filters
      | [handle] => .ok ⟨handle, filterName⟩
      | result => loop order db result filters

def exec (order : SelectionOrder) (db : ObjectDatabase) (op : MergeContactSelection) :
    Except MergeContactSelectionException MergeContactSelectionOutput :=
  if op.contactHandles = [] then .error .noContactHandles
  else loop order db op.contactHandles op.filters

end MergeContactSelection

end LibFred.RegistrableObject.Contact
