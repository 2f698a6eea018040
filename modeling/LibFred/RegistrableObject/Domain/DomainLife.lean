import LibFred.RegistrableObject.Domain.LetterCase
import LibFred.RegistrableObject.RegistryConsistency
import LibFred.RegistrableObject.RegistrySteps
import LibFred.Zone.ZoneSearch

/-! Creating, renewing, transferring and deleting a domain, all of which is recorded. -/
namespace LibFred.RegistrableObject.Domain

open Sql
open LibFred.Db
open LibFred.Object (CreateObject PasswordStorage TransferObject getObjectIdByHandleAndType
  insertHistory nameOf newVersion_of_run readOnly_getObjectIdByHandleAndType setHistoryId)
open LibFred.RegistrableObject.Contact (foundName readOnly_resolveHandle readOnly_resolveOptional)

structure CreateDomain where
  fqdn : String
  registrar : String
  registrant : String
  nsset : Option (Option String) := none
  keyset : Option (Option String) := none
  adminContacts : List String := []
  expirationDate : Option Date := none
  enumValidationExpiration : Option Date := none
  enumPublishFlag : Option Bool := none
  logdRequestId : Option Nat := none

/-- What the creation of a domain depends on besides: the checkers of zones, the orders of queries,
the system flags of registrars, the day in the zone of time asked for that is some months after an
instant, and the default of the column publish. -/
structure CreateDomainSettings extends CreateSettings where
  nameCheckers : List NameChecker
  zoneCheckers : List ZoneChecker
  longestFirst : Zone.LongestFirst
  rowOrder : RowOrder String
  isSystemRegistrar : Nat → Bool
  addMonths : Timestamp → Nat → Int
  defaultPublish : Bool

namespace CreateDomain

variable (settings : CreateDomainSettings) (op : CreateDomain)

/-- The tables that the checks of the syntax of a name read. -/
def tables (db : ObjectDatabase) : Tables where
  zones := db.zone.rows
  nameCheckers := settings.nameCheckers
  zoneCheckers := settings.zoneCheckers

def noRootDotFqdn : String := remTrailingDot op.fqdn

/-- find_zone_in_fqdn; a name that is in no zone is reported. -/
def findZone : RegistryExec Zone.Data := do
  let db ← get
  match Zone.findZoneInFqdn settings.longestFirst db.zone.rows op.noRootDotFqdn.toList with
  | .ok zone => return zone
  | .error (.unknownZoneInFqdn fqdn) =>
    if fqdn = op.noRootDotFqdn.toList then
      throw (.createDomain { unknownZoneFqdn := some op.fqdn })
    else throw (.checkDomain (.zone (.unknownZoneInFqdn fqdn)))
  | .error e => throw (.checkDomain (.zone e))

/-- CheckDomain::is_invalid_syntax. -/
def checkSyntax (registrarId : Nat) : RegistryExec Unit := do
  let db ← get
  let check : CheckDomain := ⟨op.fqdn.toList, settings.isSystemRegistrar registrarId⟩
  match check.isInvalidSyntax settings.longestFirst settings.rowOrder (tables settings db) with
  | .ok invalid => raiseIf (invalid = true) (.createDomain { invalidFqdnSyntax := some op.fqdn })
  | .error e => throw (.checkDomain e)

/-- The checks of the name, and its zone; whether there is a zone is checked before the syntax. -/
def checkFqdn (registrarId : Nat) : RegistryExec Zone.Data := do
  raiseIf (isRfc1123CompliantHostName op.fqdn.toList = false)
    (.createDomain { invalidFqdnSyntax := some op.fqdn })
  let _ ← op.findZone settings
  op.checkSyntax settings registrarId
  op.findZone settings

def checkEnumParameters (zone : Zone.Data) : RegistryExec Unit := do
  raiseIf (zone.isEnum = true ∧ op.enumValidationExpiration = none)
    (.internalError "enum_validation_expiration not set for ENUM domain")
  raiseIf (zone.isEnum = false ∧ op.enumValidationExpiration.isSome)
    (.internalError "enum_validation_expiration set for non-ENUM domain")
  raiseIf (zone.isEnum = false ∧ op.enumPublishFlag.isSome)
    (.internalError "enum_publish_flag set for not-ENUM domain")

/-- The date that is given or else the one that the zone provides for. -/
def expiration (zone : Zone.Data) (objectId : Nat) : RegistryExec Date := do
  let db ← get
  match db.objectRegistry.lookup objectId with
  | some oreg =>
    return op.expirationDate.getD (.day (settings.addMonths oreg.crdate zone.exPeriodMin))
  | none => throw (.internalError "timestamp of the domain creation was not found")

def insertDomain (row : Db.Domain) : RegistryExec Unit := fun db =>
  match db.domain.insert? row with
  | some t => .ok () (settings.procedures.fire { db with domain := t })
  | none => .error (.object (.database .sqlError)) db

/-- Administrators of a domain that is not inserted are only looked for and compared. -/
def checkAdminContact (found : ContactErrors × List Nat) (handle : String) :
    RegistryExec (ContactErrors × List Nat) := do
  match ← onDatabase (getObjectIdByHandleAndType handle .contact) with
  | none => return ({ found.1 with unknown := found.1.unknown ++ [handle] }, found.2)
  | some contactId =>
    if contactId ∈ found.2 then
      return ({ found.1 with alreadySet := found.1.alreadySet ++ [handle] }, found.2)
    else return (found.1, contactId :: found.2)

/-- INSERT INTO domain of the row when its columns are right, and the administrators. -/
def insertWithContacts (objectId : Nat) : Option Db.Domain → RegistryExec ContactErrors
  | some row => do
    insertDomain settings row
    domainContactMap.addContacts settings.procedures objectId op.adminContacts
  | none => do
    let found ← op.adminContacts.foldlM checkAdminContact ({}, [])
    return found.1

/-- The domain without its validation, and what is wrong with the arguments. -/
def createDomain (objectId : Nat) (zone : Zone.Data) (exdate : Date) :
    RegistryExec CreateDomainException := do
  let registrant ← onObjects (resolveHandle .contact op.registrant)
  let nsset ← onObjects (resolveOptional .nsset op.nsset)
  let keyset ← onObjects (resolveOptional .keyset op.keyset)
  let e : CreateDomainException := {
    unknownRegistrantHandle := registrant.2
    unknownNssetHandle := nsset.2
    unknownKeysetHandle := keyset.2
    invalidExpirationDate := if exdate.day? = none then some exdate else none }
  let row := exdate.day?.map fun day =>
    ⟨objectId, zone.id, registrant.1, nsset.1.join, day, keyset.1.join⟩
  let contacts ← op.insertWithContacts settings objectId (if e = {} then row else none)
  return { e with
    unknownAdminContactHandle := contacts.unknown
    alreadySetAdminContactHandle := contacts.alreadySet }

/-- INSERT INTO enumval. -/
def insertEnumvalRow (objectId : Nat) : RegistryExec Unit := fun db =>
  match op.enumValidationExpiration.bind (·.day?) with
  | some exdate =>
    match db.enumval.insert? ⟨objectId, exdate, op.enumPublishFlag.getD settings.defaultPublish⟩ with
    | some t => .ok () (settings.procedures.fire { db with enumval := t })
    | none => .error (.object (.database .sqlError)) db
  | none => .error (.object (.database .sqlError)) db

/-- The validation of a domain of an ENUM zone. -/
def insertEnumval (objectId : Nat) (zone : Zone.Data) : RegistryExec Unit :=
  if zone.isEnum then op.insertEnumvalRow settings objectId else return

/-- CreateDomain::exec. -/
def exec : RegistryExec CreateResult := do
  let registrarId ← requireRegistrar
    (fun handle => .createDomain { unknownRegistrarHandle := some handle }) op.registrar
  let zone ← op.checkFqdn settings registrarId
  op.checkEnumParameters zone
  let created ← onDatabase
    (CreateObject.exec settings.procedure ⟨.domain, op.noRootDotFqdn, op.registrar, op.logdRequestId⟩)
  let creationTime ← creationTime settings.toCreateSettings
    "timestamp of the domain creation was not found" created.1
  let exdate ← op.expiration settings zone created.1
  let e ← op.createDomain settings created.1 zone exdate
  let e := { e with
    invalidEnumValidationExpirationDate := op.enumValidationExpiration.filter (·.day? = none) }
  raiseIf (e ≠ {}) (.createDomain e)
  op.insertEnumval settings created.1 zone
  onObjects (copyDomainDataToDomainHistory created.1 created.2)
  return ⟨created.1, created.2, creationTime⟩

end CreateDomain

structure RenewDomain where
  fqdn : String
  registrar : String
  expirationDate : Date
  enumValidationExpiration : Option Date := none
  enumPublishFlag : Option Bool := none
  logdRequestId : Option Nat := none

namespace RenewDomain

variable (settings : UpdateSettings) (op : RenewDomain)

/-- The query of the domain and the UPDATE of its validation are those of UpdateDomain. -/
def toUpdateDomain : UpdateDomain where
  fqdn := op.fqdn
  registrar := op.registrar
  enumValidationExpiration := op.enumValidationExpiration
  enumPublishFlag := op.enumPublishFlag

/-- UPDATE domain SET exdate. -/
def setExdate (domainId : Nat) : ObjectExec Unit :=
  match op.expirationDate.day? with
  | some exdate => DomainColumns.write settings.procedures ⟨none, none, none, some exdate⟩ domainId
  | none => throw (.domain { invalidExpirationDate := some op.expirationDate })

/-- RenewDomain::exec; the new version is made before the dates are checked. -/
def exec : ObjectExec Nat := do
  checkRegistrar (fun handle => .domain { unknownRegistrarHandle := some handle }) op.registrar
  let found ← op.toUpdateDomain.getDomain
  raiseIf (found.2 = false ∧ op.enumValidationExpiration.isSome)
    (.database (.internalError "enum_validation_expiration set for non-ENUM domain"))
  raiseIf (found.2 = false ∧ op.enumPublishFlag.isSome)
    (.database (.internalError "enum_publish_flag set for non-ENUM domain"))
  let historyId ← lift (insertHistory op.logdRequestId found.1)
  lift (setHistoryId "historyid update failed" found.1 historyId)
  op.setExdate settings found.1
  raiseIf (∃ date ∈ op.enumValidationExpiration, date.day? = none)
    (.domain { invalidEnumValidationExpirationDate := op.enumValidationExpiration })
  op.toUpdateDomain.updateEnumval settings found.1
  copyDomainDataToDomainHistory found.1 historyId
  return historyId

end RenewDomain

structure TransferDomain where
  domainId : Nat
  newRegistrarHandle : String
  authinfopw : String
  logdRequestId : Option Nat

namespace TransferDomain

variable (order : InfoOrder) (storage : PasswordStorage) (localTime : Timestamp → Ptime)
  (op : TransferDomain)

/-- The contacts whose passwords authorise the transfer. -/
def getJoinedContacts : RegistryExec (List String) := do
  let db ← get
  match infoDomainById order db op.domainId with
  | some data =>
    return StdSet.ofList (· < ·) (data.registrant.handle :: data.adminContacts.map (·.handle))
  | none => throw (.unknownObject .domain)

/-- TransferDomain::exec. -/
def exec : RegistryExec Nat := do
  let contacts ← op.getJoinedContacts order
  let historyId ← transferObject .domain storage localTime
    ⟨op.domainId, op.newRegistrarHandle, op.authinfopw, contacts, op.logdRequestId⟩
  onObjects (copyDomainDataToDomainHistory op.domainId historyId)
  return historyId

end TransferDomain

/-- DELETE FROM domain. -/
def deleteDomainRow (procedures : StateProcedures) (id : Nat) : RegistryExec Unit := fun db =>
  if (db.domain.lookup id).isSome then
    .ok () (procedures.fire { db with domain := db.domain.delete (·.id = id) })
  else .error (.internalError "delete domain failed") db

/-- delete_domain_impl. -/
def deleteDomainImpl (procedures : StateProcedures) (id : Nat) : RegistryExec Unit := do
  domainContactMap.deleteContacts procedures id
  modify fun db => procedures.fire { db with enumval := db.enumval.delete (·.domainid = id) }
  deleteDomainRow procedures id

/-- DeleteDomainByFqdn::exec. -/
def deleteDomainByFqdn (procedures : StateProcedures) (fqdn : String) : RegistryExec Unit := do
  let noRootDotFqdn := remTrailingDot fqdn
  let domainId ← requireObject
    (fun handle => .object (.domain { unknownDomainFqdn := some handle })) noRootDotFqdn .domain
  deleteDomainImpl procedures domainId
  deleteObjectByHandle noRootDotFqdn .domain

/-- DeleteDomainById::exec. -/
def deleteDomainById (procedures : StateProcedures) (id : Nat) : RegistryExec Unit := do
  let _ ← requireObjectId .unknownDomainId id
  deleteDomainImpl procedures id
  deleteObjectById id

open UpdateDomain (exists_liveObject_of_selectDomain getDomain_ok)

variable {procedures : StateProcedures} {historyId id : Nat} {s s' db db' : ObjectDatabase} {u : Unit}

section Renew

variable {settings : UpdateSettings} {op : RenewDomain}

theorem commits_setExdate :
    Commits (Writes settings.procedures .domain id) (op.setExdate settings id) := by
  unfold RenewDomain.setExdate
  split
  · refine fun s => commits_write ⟨?_, ?_, ?_⟩ <;>
    · intro objectId hid
      cases hid
  · intro s u s' h
    cases h

theorem renewDomain_change (h : (op.exec settings).run db = .ok historyId db') :
    Change settings.procedures db db' := by
  obtain ⟨_, _, hregistrar, h₁⟩ := run_bind_eq_ok.mp h
  obtain rfl := checkRegistrar_ok hregistrar
  obtain ⟨found, _, hfound, h₂⟩ := run_bind_eq_ok.mp h₁
  obtain ⟨rfl, hselect⟩ := getDomain_ok hfound
  obtain ⟨_, _, hraise, h₃⟩ := run_bind_eq_ok.mp h₂
  obtain ⟨-, rfl⟩ := run_raiseIf_eq_ok.mp hraise
  obtain ⟨_, _, hraise, h₄⟩ := run_bind_eq_ok.mp h₃
  obtain ⟨-, rfl⟩ := run_raiseIf_eq_ok.mp hraise
  obtain ⟨v, s₁, hv, h₅⟩ := run_bind_eq_ok.mp h₄
  obtain ⟨d₁, hinsert, rfl⟩ := run_lift_eq_ok.mp hv
  obtain ⟨_, s₂, hhistoryid, h₆⟩ := run_bind_eq_ok.mp h₅
  obtain ⟨d₂, hset, rfl⟩ := run_lift_eq_ok.mp hhistoryid
  obtain ⟨_, s₃, hexdate, h₇⟩ := run_bind_eq_ok.mp h₆
  obtain ⟨_, _, hraise, h₈⟩ := run_bind_eq_ok.mp h₇
  obtain ⟨-, rfl⟩ := run_raiseIf_eq_ok.mp hraise
  obtain ⟨_, s₄, henumval, h₉⟩ := run_bind_eq_ok.mp h₈
  obtain ⟨_, s₅, hcopy, hend⟩ := run_bind_eq_ok.mp h₉
  obtain ⟨rfl, rfl⟩ := run_pure_eq_ok.mp hend
  obtain ⟨hrow, o, ho, hid⟩ := exists_liveObject_of_selectDomain (hselect ▸ List.mem_singleton_self found)
  have hlive := hid ▸ live_of_mem_liveObjects ho
  refine .object (.renewed hlive (newVersion_of_run (refl_of _ _) hinsert hset)) ?_ (fun _ => .inl hrow)
    (copyDomainDataToDomainHistory_copies hcopy)
  exact trans_of _ (commits_setExdate _ _ _ hexdate) (commits_updateEnumval _ _ _ henumval)

end Renew

section Create

variable {settings : CreateDomainSettings} {op : CreateDomain}

theorem commits_addAdmins {handles : List String} : Commits (Writes procedures .domain id)
    (domainContactMap.addContacts procedures id handles) :=
  commits_onObjects (commits_foldlM fun _ _ => ContactMap.commits_addContact
    fun _ _ _ hcontact ht => (Write.linkAdmin hcontact ht).writes)

theorem readOnly_checkAdminContact {found : ContactErrors × List Nat} {handle : String} :
    ReadOnly (CreateDomain.checkAdminContact found handle) := by
  refine readOnly_bind (readOnly_onDatabase readOnly_getObjectIdByHandleAndType) fun id => ?_
  cases id with
  | none => exact readOnly_pure
  | some contactId =>
    by_cases hid : contactId ∈ found.2
    · simp only [if_pos hid]
      exact readOnly_pure
    · simp only [if_neg hid]
      exact readOnly_pure

theorem commits_insertDomain {row : Db.Domain} (hid : row.id = id)
    (hrefers : RefersToLive s.toDatabase (some row.registrant) row.nsset row.keyset) :
    CommitsFrom (Writes settings.procedures .domain id) s (CreateDomain.insertDomain settings row) := by
  intro u s' h
  simp only [CreateDomain.insertDomain, EStateM.run] at h
  split at h <;> cases h
  rename_i t ht
  exact (Write.insertDomain row hid hrefers ht).writes

theorem commits_insertWithContacts {row : Option Db.Domain}
    (hrow : ∀ d ∈ row, d.id = id ∧ RefersToLive s.toDatabase (some d.registrant) d.nsset d.keyset) :
    CommitsFrom (Writes settings.procedures .domain id) s (op.insertWithContacts settings id row) := by
  cases row with
  | some d =>
    obtain ⟨hid, hrefers⟩ := hrow d rfl
    exact commitsFrom_bind (commits_insertDomain hid hrefers) fun _ s' _ => commits_addAdmins s'
  | none =>
    exact commits_bind (commits_foldlM fun _ _ => readOnly_checkAdminContact.commits)
      (fun _ => readOnly_pure.commits) s

/-- The row is inserted once the registrant, the nsset and the keyset have been found. -/
theorem commits_createDomain {zone : Zone.Data} {exdate : Date} :
    Commits (Writes settings.procedures .domain id) (op.createDomain settings id zone exdate) := by
  refine fun s => (readOnly_onObjects readOnly_resolveHandle).commitsFrom_bind fun registrant hregistrant =>
    (readOnly_onObjects readOnly_resolveOptional).commitsFrom_bind fun nsset hnsset =>
    (readOnly_onObjects readOnly_resolveOptional).commitsFrom_bind fun keyset hkeyset => ?_
  refine commitsFrom_bind (commits_insertWithContacts fun d hd => ?_) fun _ s' _ => readOnly_pure.commits s'
  obtain ⟨he, hd⟩ := Option.ite_none_right_eq_some.mp hd
  obtain ⟨day, -, rfl⟩ := Option.map_eq_some_iff.mp hd
  refine ⟨rfl, ?_, ?_, ?_⟩
  · rintro _ ⟨⟩
    exact live_of_resolveHandle (run_onObjects_eq_ok.mp hregistrant)
      (congrArg CreateDomainException.unknownRegistrantHandle he)
  · exact live_of_resolveOptional (run_onObjects_eq_ok.mp hnsset)
      (congrArg CreateDomainException.unknownNssetHandle he)
  · exact live_of_resolveOptional (run_onObjects_eq_ok.mp hkeyset)
      (congrArg CreateDomainException.unknownKeysetHandle he)

theorem commits_insertEnumval {zone : Zone.Data} :
    Commits (Writes settings.procedures .domain id) (op.insertEnumval settings id zone) := by
  unfold CreateDomain.insertEnumval
  split
  · intro s u s' h
    simp only [CreateDomain.insertEnumvalRow, EStateM.run] at h
    split at h
    · split at h <;> cases h
      rename_i t ht
      exact (Write.insertEnumval _ rfl ht).writes
    · cases h
  · exact readOnly_pure.commits

theorem readOnly_findZone : ReadOnly (op.findZone settings) := by
  refine readOnly_bind readOnly_get fun db => ?_
  split
  · exact readOnly_pure
  · split <;> exact readOnly_throw
  · exact readOnly_throw

theorem readOnly_checkFqdn {registrarId : Nat} : ReadOnly (op.checkFqdn settings registrarId) := by
  have hsyntax : ReadOnly (op.checkSyntax settings registrarId) := by
    refine readOnly_bind readOnly_get fun db => ?_
    dsimp only
    split
    · exact readOnly_raiseIf
    · exact readOnly_throw
  exact readOnly_bind readOnly_raiseIf fun _ => readOnly_bind readOnly_findZone fun _ =>
    readOnly_bind hsyntax fun _ => readOnly_findZone

theorem readOnly_expiration {zone : Zone.Data} : ReadOnly (op.expiration settings zone id) := by
  refine readOnly_bind readOnly_get fun db => ?_
  split
  · exact readOnly_pure
  · exact readOnly_throw

/-- A name that was checked has no dot at its end but the one of the root. -/
theorem foundName_noRootDotFqdn (h : isRfc1123CompliantHostName op.fqdn.toList = true) :
    foundName .domain (nameOf .domain op.noRootDotFqdn) = nameOf .domain op.noRootDotFqdn := by
  have hname : op.noRootDotFqdn.toList = Zone.remTrailingDot op.fqdn.toList := by
    unfold CreateDomain.noRootDotFqdn remTrailingDot Zone.remTrailingDot
    split <;> simp
  have hlast : (lower op.noRootDotFqdn).toList.getLast? ≠ some '.' := by
    rw [lower, String.toList_ofList, hname]
    have hlabels := dottedLabels_toLowerCopy.mpr (isRfc1123_iff.mp h).1
    exact hlabels.last
  have hsame : remTrailingDot (lower op.noRootDotFqdn) = lower op.noRootDotFqdn := if_neg hlast
  rw [foundName, if_pos rfl, nameOf, if_pos rfl, nameOf, if_pos rfl, hsame, lower_lower]

section Zone

variable {zone : Zone.Data}

theorem findZone_ok (h : (op.findZone settings).run s = .ok zone s') : zone ∈ s.zone := by
  obtain ⟨_, _, hget, h⟩ := run_bind_eq_ok.mp h
  obtain ⟨rfl, rfl⟩ := run_get_eq_ok.mp hget
  split at h
  · rename_i found hfound
    obtain ⟨rfl, -⟩ := run_pure_eq_ok.mp h
    exact Zone.mem_of_findZoneInFqdn hfound
  · split at h <;> cases h
  · cases h

theorem checkFqdn_ok {registrarId : Nat} (h : (op.checkFqdn settings registrarId).run s = .ok zone s') :
    zone ∈ s.zone ∧ isRfc1123CompliantHostName op.fqdn.toList = true := by
  have hs := readOnly_checkFqdn.ok h
  obtain ⟨_, _, hraise, h₁⟩ := run_bind_eq_ok.mp h
  obtain ⟨hcompliant, rfl⟩ := run_raiseIf_eq_ok.mp hraise
  obtain ⟨_, _, hfind, h₂⟩ := run_bind_eq_ok.mp h₁
  obtain ⟨_, t, hsyntax, h₃⟩ := run_bind_eq_ok.mp h₂
  have ht : s' = t := (readOnly_findZone.ok h₃).symm
  refine ⟨?_, (Bool.not_eq_false _).mp hcompliant⟩
  rw [hs, ht]
  exact findZone_ok h₃

/-- The row that is inserted is in the zone, and it stays there. -/
theorem createDomain_zone {exdate : Date} {e : CreateDomainException} {invalid : Option Date}
    (h : (op.createDomain settings id zone exdate).run s = .ok e s')
    (he : { e with invalidEnumValidationExpirationDate := invalid } = ({} : CreateDomainException)) :
    ∀ d ∈ s'.domain.lookup id, d.zone = zone.id := by
  obtain ⟨registrant, _, hregistrant, h₁⟩ := run_bind_eq_ok.mp h
  obtain ⟨nsset, _, hnsset, h₂⟩ := run_bind_eq_ok.mp h₁
  obtain ⟨keyset, s₁, hkeyset, h₃⟩ := run_bind_eq_ok.mp h₂
  obtain ⟨contacts, t, hinsert, h₄⟩ := run_bind_eq_ok.mp h₃
  obtain ⟨rfl, rfl⟩ := run_pure_eq_ok.mp h₄
  have hknown : registrant.2 = none := congrArg CreateDomainException.unknownRegistrantHandle he
  have hknownNsset : nsset.2 = none := congrArg CreateDomainException.unknownNssetHandle he
  have hknownKeyset : keyset.2 = none := congrArg CreateDomainException.unknownKeysetHandle he
  have hvalid : (if exdate.day? = none then some exdate else none) = none :=
    congrArg CreateDomainException.invalidExpirationDate he
  obtain ⟨day, hday⟩ : ∃ day, exdate.day? = some day := by
    refine Option.ne_none_iff_exists'.mp fun hnone => ?_
    rw [if_pos hnone] at hvalid
    cases hvalid
  simp only [hknown, hknownNsset, hknownKeyset, hday, Option.map_some] at hinsert
  obtain ⟨_, s₂, hrow, hadmins⟩ := run_bind_eq_ok.mp hinsert
  simp only [CreateDomain.insertDomain, EStateM.run] at hrow
  split at hrow <;> cases hrow
  rename_i table htable
  intro d hd
  have hthere : table.lookup id = some ⟨id, zone.id, registrant.1, nsset.1.join, day, keyset.1.join⟩ :=
    (Table.lookup_of_insert? htable).trans (if_pos rfl)
  have hwrites : Writes settings.procedures .domain id _ t := commits_addAdmins _ _ _ hadmins
  obtain ⟨d₀, hd₀, heq⟩ := hwrites.domain_zone (Option.isSome_of_eq_some hthere) d hd
  obtain rfl := Option.some.inj (hthere.symm.trans hd₀)
  exact heq

theorem insertEnumval_ok (h : (op.insertEnumval settings id zone).run s = .ok u s') :
    s'.domain = s.domain ∧ s'.zone = s.zone ∧ (zone.isEnum = true → (s'.enumval.lookup id).isSome) := by
  unfold CreateDomain.insertEnumval at h
  split at h
  · simp only [CreateDomain.insertEnumvalRow, EStateM.run] at h
    split at h
    · split at h <;> cases h
      rename_i t ht
      exact ⟨rfl, rfl, fun _ => (isSome_lookup_of_insert ht rfl).mpr (.inr rfl)⟩
    · cases h
  · rename_i hnot
    obtain ⟨-, rfl⟩ := run_pure_eq_ok.mp h
    exact ⟨rfl, rfl, fun henum => absurd henum hnot⟩

end Zone

theorem createDomain_change {result : CreateResult} (h : (op.exec settings).run db = .ok result db') :
    Change settings.procedures db db' := by
  obtain ⟨registrarId, _, hregistrar, h₁⟩ := run_bind_eq_ok.mp h
  obtain rfl := requireRegistrar_ok hregistrar
  obtain ⟨zone, _, hzone, h₂⟩ := run_bind_eq_ok.mp h₁
  obtain rfl := readOnly_checkFqdn.ok hzone
  obtain ⟨hmem, hcompliant⟩ := checkFqdn_ok hzone
  obtain ⟨_, _, henum, h₃⟩ := run_bind_eq_ok.mp h₂
  obtain rfl := (readOnly_bind readOnly_raiseIf fun _ => readOnly_bind readOnly_raiseIf fun _ =>
    readOnly_raiseIf).ok henum
  obtain ⟨created, s₁, hcreated, h₄⟩ := run_bind_eq_ok.mp h₃
  obtain ⟨d, hopening, rfl⟩ := createObject_opening hcreated (foundName_noRootDotFqdn hcompliant)
  obtain ⟨creationTime, _, htime, h₅⟩ := run_bind_eq_ok.mp h₄
  obtain rfl := readOnly_creationTime.ok htime
  obtain ⟨exdate, _, hexdate, h₆⟩ := run_bind_eq_ok.mp h₅
  obtain rfl := readOnly_expiration.ok hexdate
  obtain ⟨e, s₂, hdomain, h₇⟩ := run_bind_eq_ok.mp h₆
  obtain ⟨_, _, hraise, h₈⟩ := run_bind_eq_ok.mp h₇
  obtain ⟨he, rfl⟩ := run_raiseIf_eq_ok.mp hraise
  obtain ⟨_, s₃, henumval, h₉⟩ := run_bind_eq_ok.mp h₈
  obtain ⟨_, s₄, hcopy, hend⟩ := run_bind_eq_ok.mp h₉
  obtain ⟨rfl, rfl⟩ := run_pure_eq_ok.mp hend
  have hwrites : Writes settings.procedures .domain created.1 _ s₃ :=
    trans_of _ (commits_createDomain _ _ _ hdomain) (commits_insertEnumval _ _ _ henumval)
  refine .object hopening hwrites (fun _ => .inr fun row hrow => ?_)
    (copyDomainDataToDomainHistory_copies (run_onObjects_eq_ok.mp hcopy))
  obtain ⟨hdomains, -, hvalidated⟩ := insertEnumval_ok henumval
  have hinzone : row.zone = zone.id := createDomain_zone hdomain (not_not.mp he) row (hdomains ▸ hrow)
  refine ⟨zone, ?_, hvalidated⟩
  rw [hwrites.zone, hinzone]
  exact Table.lookup_eq_some.mpr ⟨hmem, rfl⟩

end Create

section Transfer

variable {order : InfoOrder} {storage : PasswordStorage} {localTime : Timestamp → Ptime}
  {op : TransferDomain}

theorem getJoinedContacts_ok {contacts : List String}
    (h : (op.getJoinedContacts order).run s = .ok contacts s') :
    Live s.toDatabase .domain op.domainId ∧ s' = s := by
  obtain ⟨_, _, hget, h⟩ := run_bind_eq_ok.mp h
  obtain ⟨rfl, rfl⟩ := run_get_eq_ok.mp hget
  split at h
  · rename_i data hdata
    obtain ⟨-, rfl⟩ := run_pure_eq_ok.mp h
    obtain ⟨o, ho, -⟩ := Option.bind_eq_some_iff.mp hdata
    exact ⟨live_of_registered ho, rfl⟩
  · cases h

theorem transferDomain_change (h : (op.exec order storage localTime).run db = .ok historyId db') :
    Change procedures db db' := by
  obtain ⟨contacts, _, hcontacts, h₁⟩ := run_bind_eq_ok.mp h
  obtain ⟨hlive, rfl⟩ := getJoinedContacts_ok hcontacts
  obtain ⟨v, s₁, htransfer, h₂⟩ := run_bind_eq_ok.mp h₁
  obtain ⟨d, hopening, rfl⟩ := transferObject_opening hlive htransfer
  obtain ⟨_, s₂, hcopy, hend⟩ := run_bind_eq_ok.mp h₂
  obtain ⟨rfl, rfl⟩ := run_pure_eq_ok.mp hend
  have hcopies := copyDomainDataToDomainHistory_copies (run_onObjects_eq_ok.mp hcopy)
  exact .object hopening (refl_of _ _) (fun _ => .inl hcopies.row) hcopies

end Transfer

section Delete

theorem deleteDomainImpl_ok (h : (deleteDomainImpl procedures id).run s = .ok u s') :
    HasRow s .domain id ∧ s' = erased procedures s id .domain := by
  obtain ⟨_, _, hcontacts, h₁⟩ := run_bind_eq_ok.mp h
  obtain ⟨-, rfl⟩ := EStateM.Result.ok.inj hcontacts
  obtain ⟨_, _, henumval, h₂⟩ := run_bind_eq_ok.mp h₁
  obtain ⟨-, rfl⟩ := EStateM.Result.ok.inj henumval
  simp only [deleteDomainRow, EStateM.run] at h₂
  split at h₂ <;> cases h₂
  rename_i hrow
  exact ⟨hrow, rfl⟩

theorem deleteDomainByFqdn_change {fqdn : String}
    (h : (deleteDomainByFqdn procedures fqdn).run db = .ok u db') : Change procedures db db' := by
  obtain ⟨id, _, hobject, h₁⟩ := run_bind_eq_ok.mp h
  obtain ⟨hid, rfl⟩ := requireObject_ok hobject
  obtain ⟨_, s₁, hdomain, h₂⟩ := run_bind_eq_ok.mp h₁
  obtain ⟨hrow, rfl⟩ := deleteDomainImpl_ok hdomain
  obtain rfl := deleteObjectByHandle_ok (objectIdOf_erased.trans hid) h₂
  exact .delete .domain (isRegistered_of_objectIdOf hid) hrow fun hne => absurd rfl hne

theorem deleteDomainById_change (h : (deleteDomainById procedures id).run db = .ok u db') :
    Change procedures db db' := by
  obtain ⟨_, _, hobject, h₁⟩ := run_bind_eq_ok.mp h
  obtain ⟨hlive, rfl⟩ := requireObjectId_ok hobject
  obtain ⟨_, s₁, hdomain, h₂⟩ := run_bind_eq_ok.mp h₁
  obtain ⟨hrow, rfl⟩ := deleteDomainImpl_ok hdomain
  obtain rfl := deleteObjectById_ok h₂
  exact .delete .domain hlive hrow fun hne => absurd rfl hne

end Delete

end LibFred.RegistrableObject.Domain
