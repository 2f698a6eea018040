import LibFred.Object.AuthinfoRevocation
import LibFred.RegistrableObject.Contact.MergeChecks

/-! The dry run of a merge beside the merge. -/
namespace LibFred.RegistrableObject.Contact

open Sql
open LibFred.Db
open LibFred.Object (plaintextStorage)

def MergeContactUpdateDomainRegistrant.withoutHistoryId (u : MergeContactUpdateDomainRegistrant) :
    MergeContactUpdateDomainRegistrant := { u with historyId := none }

def MergeContactUpdateDomainAdminContact.withoutHistoryId
    (u : MergeContactUpdateDomainAdminContact) : MergeContactUpdateDomainAdminContact :=
  { u with historyId := none }

def MergeContactUpdateNssetTechContact.withoutHistoryId (u : MergeContactUpdateNssetTechContact) :
    MergeContactUpdateNssetTechContact := { u with historyId := none }

def MergeContactUpdateKeysetTechContact.withoutHistoryId (u : MergeContactUpdateKeysetTechContact) :
    MergeContactUpdateKeysetTechContact := { u with historyId := none }

/-- The output apart from what only a real merge knows. -/
def MergeContactOutput.withoutHistoryIds (out : MergeContactOutput) : MergeContactOutput where
  contactid := out.contactid
  updateDomainRegistrant := out.updateDomainRegistrant.map (·.withoutHistoryId)
  updateDomainAdminContact := out.updateDomainAdminContact.map (·.withoutHistoryId)
  updateNssetTechContact := out.updateNssetTechContact.map (·.withoutHistoryId)
  updateKeysetTechContact := out.updateKeysetTechContact.map (·.withoutHistoryId)

/-- The same updates, each kind in any order. -/
structure MergeContactOutput.SameUpdates (out out' : MergeContactOutput) : Prop where
  contactid : out.contactid = out'.contactid
  registrant : out.updateDomainRegistrant.Perm out'.updateDomainRegistrant
  admin : out.updateDomainAdminContact.Perm out'.updateDomainAdminContact
  nssetTech : out.updateNssetTechContact.Perm out'.updateNssetTechContact
  keysetTech : out.updateKeysetTechContact.Perm out'.updateKeysetTechContact

/-- The exceptions that the checks of a merge raise. -/
def IsCheck (e : MergeError) : Prop := ∃ c, e = .check c

variable {ρ : Type} {links : List Link} {settings : MergeSettings} {order : RowOrder}
  {op : MergeContact} {blocking : List String} {handle : String}

theorem not_isCheck_of_operation {α : Type} {x : ObjectExec α} {db db' : ObjectDatabase}
    {e : MergeError} (h : (operation x).run db = .error e db') : ¬ IsCheck e := by
  simp only [operation, EStateM.run] at h
  split at h
  · cases h
  · obtain ⟨rfl, rfl⟩ := EStateM.Result.error.inj h
    rintro ⟨c, hc⟩
    cases hc

theorem operation_ok {α : Type} {x : ObjectExec α} {db db' : ObjectDatabase} {a : α}
    (h : (operation x).run db = .ok a db') : x.run db = .ok a db' := by
  simp only [operation, EStateM.run] at h
  split at h
  · rename_i hx
    obtain ⟨rfl, rfl⟩ := EStateM.Result.ok.inj h
    exact hx
  · cases h

theorem checks_lockContact {unknown : MergeContactException} {failed : String} :
    Checks IsCheck (lockContact handle unknown failed) := by
  refine checks_bind checks_get fun db => ?_
  split
  · exact checks_throw ⟨_, rfl⟩
  · exact checks_pure
  · exact checks_throw ⟨_, rfl⟩

theorem checks_checkContacts : Checks IsCheck op.checkContacts := by
  refine checks_bind (checks_bind checks_lockContact fun src => checks_bind checks_lockContact fun dst =>
    checks_bind (checks_raiseIf ⟨_, rfl⟩) fun _ => checks_pure) fun locked =>
    checks_bind (checks_bind checks_get fun db => ?_) fun _ => checks_pure
  split
  · split
    · exact checks_raiseIf ⟨_, rfl⟩
    · exact checks_throw ⟨_, rfl⟩
  · exact checks_throw ⟨_, rfl⟩

/-- Both runs begin in one state. -/
theorem dryRun_checkContacts :
    DryRun IsCheck Eq (SameChecks links) (· = ·) op.checkContacts op.checkContacts := by
  refine dryRun_check checks_checkContacts (fun db _ h => h ▸ refl_of _ db) fun db _ h => ?_
  subst h
  rcases checks_checkContacts db with ⟨a, ha⟩ | ⟨e, he, hr⟩
  · exact .inl ⟨a, ha, ha⟩
  · exact .inr ⟨e, he, hr, hr⟩

theorem dryRun_selectLinked {link : Link} :
    DryRun IsCheck (SameChecks (link :: links)) (SameChecks links) (· = ·)
      (op.selectLinked order link) (op.selectLinked order link) := by
  refine dryRun_check (checks_bind checks_get fun _ => checks_pure)
    (fun _ _ h => h.mono (List.subset_cons_self _ _)) fun db₀ db h => .inl ⟨_, rfl, ?_⟩
  rw [h.linked link List.mem_cons_self op.srcContactHandle]
  rfl

/-- Lists of states that agree about those that requests set. -/
def SameStates (states states' : List String) : Prop :=
  ∀ state ∉ derivedStates, state ∈ states ↔ state ∈ states'

theorem derivedStates_subset : derivedStates ⊆ knownObjectStates := by decide

theorem checks_getStates {objectId : Nat} : Checks IsCheck (getStates objectId) := by
  refine checks_bind checks_get fun db => ?_
  split
  · exact checks_pure
  · exact checks_throw ⟨_, rfl⟩

theorem known_congr {db₀ db : ObjectDatabase} {objectId : Nat} (h : SameChecks links db₀ db)
    (hknown : ∀ state ∈ getObjectStates db₀.toDatabase objectId, state ∈ knownObjectStates) :
    ∀ state ∈ getObjectStates db.toDatabase objectId, state ∈ knownObjectStates := by
  intro state hs
  by_cases hd : state ∈ derivedStates
  · exact derivedStates_subset hd
  · exact hknown state ((h.states objectId state hd).mp hs)

theorem SameChecks.symm {db₀ db : ObjectDatabase} (h : SameChecks links db₀ db) :
    SameChecks links db db₀ :=
  ⟨fun link hl handle => (h.linked link hl handle).symm, fun id s hs => (h.states id s hs).symm⟩

theorem run_getStates {db : ObjectDatabase} {objectId : Nat} :
    (getStates objectId).run db =
      if ∀ state ∈ getObjectStates db.toDatabase objectId, state ∈ knownObjectStates then
        .ok (getObjectStates db.toDatabase objectId) db
      else .error (.check (.diffContacts .invalidArgument)) db := by
  unfold getStates objectStatesInfo
  rw [EStateM.run_bind, EStateM.run_get]
  by_cases hknown : ∀ state ∈ getObjectStates db.toDatabase objectId, state ∈ knownObjectStates
  · simp only [if_pos hknown]
    rfl
  · simp only [if_neg hknown]
    rfl

theorem dryRun_getStates {objectId : Nat} :
    DryRun IsCheck (SameChecks links) (SameChecks links) SameStates (getStates objectId)
      (getStates objectId) := by
  refine ⟨checks_getStates, fun db₀ db h => ?_⟩
  rw [run_getStates, run_getStates]
  by_cases hknown : ∀ state ∈ getObjectStates db₀.toDatabase objectId, state ∈ knownObjectStates
  · rw [if_pos hknown, if_pos (known_congr h hknown)]
    exact .done (h.states objectId) h
  · rw [if_neg hknown, if_neg fun hk => hknown (known_congr h.symm hk)]
    exact .refused ⟨_, rfl⟩

theorem dryRun_checkBlocked {o : LinkedObject} (hb : ∀ state ∈ blocking, state ∉ derivedStates) :
    DryRun IsCheck (SameChecks links) (SameChecks links) (· = ·) (checkBlocked blocking o)
      (checkBlocked blocking o) := by
  refine dryRun_getStates.bind (fun _ => checks_raiseIf ⟨_, rfl⟩) fun states states' hs => ?_
  refine dryRun_raiseIf ⟨_, rfl⟩ ?_
  exact exists_congr fun state => and_congr_right fun hm => hs state (hb state hm)

theorem dryRun_unlessDry {α : Type} {x : ObjectExec α} {S S' : ObjectDatabase → ObjectDatabase → Prop}
    (hx : ∀ db₀ db a db', S db₀ db → x.run db = .ok a db' → S' db₀ db') :
    DryRun IsCheck S S' (fun _ b => b = none) (unlessDry false x) (unlessDry true x) := by
  refine dryRun_write (fun db e db' h => ?_) fun db₀ db a db' hS h => ?_
  · rcases run_bind_eq_error.mp h with h | ⟨_, _, -, h⟩
    · exact not_isCheck_of_operation h
    · cases h
  · obtain ⟨a, db₁, ha, h⟩ := run_bind_eq_ok.mp h
    obtain ⟨-, rfl⟩ := run_pure_eq_ok.mp h
    exact ⟨hx db₀ db a _ hS (operation_ok ha), rfl⟩

/-- The updates of one role make the checks that the dry run makes, as long as they leave what
the checks read. -/
theorem dryRun_mergeLinked {link : Link} {update : LinkedObject → ObjectExec Nat}
    {record : LinkedObject → Option Nat → ρ} {withoutHistoryId : ρ → ρ}
    (hb : ∀ state ∈ blocking, state ∉ derivedStates)
    (hupdate : ∀ o db a db', (update o).run db = .ok a db' → SameChecks links db db')
    (hrecord : ∀ o historyId, withoutHistoryId (record o historyId) = record o none) :
    DryRun IsCheck (SameChecks (link :: links)) (SameChecks links)
      (fun records records' => records.map withoutHistoryId = records')
      (op.mergeLinked order false link blocking update record)
      (op.mergeLinked order true link blocking update record) := by
  have hobject (o : LinkedObject) : DryRun IsCheck (SameChecks links) (SameChecks links)
      (fun r r' => withoutHistoryId r = r') (mergeObject false blocking update record o)
      (mergeObject true blocking update record o) := by
    refine (dryRun_checkBlocked hb).bind (fun _ => checks_bind checks_pure fun _ => checks_pure)
      fun _ _ _ => (dryRun_unlessDry fun db₀ db a db' hS h => ?_).bind (fun _ => checks_pure)
      fun historyId _ hnone => dryRun_pure ?_
    · exact trans_of _ hS (hupdate o db a db' h)
    · rw [hnone]
      exact hrecord o historyId
  refine dryRun_selectLinked.bind (fun objects => checks_mapM (fun o => (hobject o).checks) objects)
    fun objects _ he => ?_
  subst he
  refine (dryRun_mapM hobject objects).mono (fun records records' h => ?_) fun _ _ h => h
  induction h with
  | nil => rfl
  | cons hr _ ih => rw [List.map_cons, hr, ih]

theorem orElseRollback_ok {α : Type} {ignored : ObjectException → Bool} {x y : ObjectExec α}
    {db db' : ObjectDatabase} {a : α} (hx : Moves (KeepsLinks links) x)
    (hy : Moves (KeepsLinks links) y) (h : (orElseRollback ignored x y).run db = .ok a db') :
    KeepsLinks links db db' := by
  obtain ⟨saved, _, hget, h⟩ := run_bind_eq_ok.mp h
  obtain ⟨rfl, rfl⟩ := run_get_eq_ok.mp hget
  rcases run_tryCatch_eq_ok.mp h with h | ⟨e, db₁, -, h⟩
  · exact hx.ok h
  · split at h
    · obtain ⟨_, db₂, hmodify, h⟩ := run_bind_eq_ok.mp h
      obtain ⟨-, rfl⟩ := EStateM.Result.ok.inj hmodify
      exact trans_of _ keepsLinks_rollbackTo (hy.ok h)
    · cases h

theorem dryRun_mergeDomainRegistrants :
    DryRun IsCheck (SameChecks [.registrant, .admin, .nssetTech, .keysetTech])
      (SameChecks [.admin, .nssetTech, .keysetTech]) (fun l l' => l.map (·.withoutHistoryId) = l')
      (op.mergeDomainRegistrants settings order false)
      (op.mergeDomainRegistrants settings order true) :=
  dryRun_mergeLinked (by decide)
    (fun o _ _ _ h => ((moves_updateDomain (by decide) fun _ => ⟨rfl, rfl⟩).ok h).sameChecks) fun _ _ => rfl

theorem dryRun_mergeDomainAdmins :
    DryRun IsCheck (SameChecks [.admin, .nssetTech, .keysetTech])
      (SameChecks [.nssetTech, .keysetTech]) (fun l l' => l.map (·.withoutHistoryId) = l')
      (op.mergeDomainAdmins settings order false) (op.mergeDomainAdmins settings order true) :=
  dryRun_mergeLinked (by decide)
    (fun o _ _ _ h =>
      (orElseRollback_ok (moves_updateDomain (by decide) fun hmem => absurd hmem (by decide))
        (moves_updateDomain (by decide) fun hmem => absurd hmem (by decide)) h).sameChecks)
    fun _ _ => rfl

theorem dryRun_mergeNssetTechs :
    DryRun IsCheck (SameChecks [.nssetTech, .keysetTech]) (SameChecks [.keysetTech])
      (fun l l' => l.map (·.withoutHistoryId) = l') (op.mergeNssetTechs settings order false)
      (op.mergeNssetTechs settings order true) :=
  dryRun_mergeLinked (by decide)
    (fun o _ _ _ h => (orElseRollback_ok (moves_updateNsset (by decide))
      (moves_updateNsset (by decide)) h).sameChecks) fun _ _ => rfl

theorem dryRun_mergeKeysetTechs :
    DryRun IsCheck (SameChecks [.keysetTech]) (SameChecks [])
      (fun l l' => l.map (·.withoutHistoryId) = l') (op.mergeKeysetTechs settings order false)
      (op.mergeKeysetTechs settings order true) :=
  dryRun_mergeLinked (by decide)
    (fun o _ _ _ h => (orElseRollback_ok (moves_updateKeyset (by decide))
      (moves_updateKeyset (by decide)) h).sameChecks) fun _ _ => rfl

theorem dryRun_transferStates {locked : MergeContactLockedContactId} :
    DryRun IsCheck (SameChecks links) (fun _ _ => True) (fun _ _ => True)
      (MergeContact.transferStates settings false locked)
      (MergeContact.transferStates settings true locked) := by
  have hnot : "contactPassedManualVerification" ∉ derivedStates := by decide
  have hrest (src dst : List String) : Checks IsCheck
      (if "contactPassedManualVerification" ∈ src ∧ "contactPassedManualVerification" ∉ dst then do
        let _ ← unlessDry true (MergeContact.requestState settings locked.dstContactId)
        pure PUnit.unit
      else pure PUnit.unit) := by
    split
    · exact checks_bind checks_pure fun _ => checks_pure
    · exact checks_pure
  refine dryRun_getStates.bind (fun src => checks_bind checks_getStates fun dst => hrest src dst)
    fun src src₀ hsrc => dryRun_getStates.bind (fun dst => hrest _ dst) fun dst dst₀ hdst => ?_
  have hiff := and_congr (hsrc _ hnot) (not_congr (hdst _ hnot))
  by_cases hc : "contactPassedManualVerification" ∈ src ∧ "contactPassedManualVerification" ∉ dst
  · rw [if_pos hc, if_pos (hiff.mp hc)]
    have hrequest : DryRun IsCheck (SameChecks links) (fun _ _ => True) (fun _ b => b = none)
        (unlessDry false (MergeContact.requestState settings locked.dstContactId))
        (unlessDry true (MergeContact.requestState settings locked.dstContactId)) :=
      dryRun_unlessDry fun _ _ _ _ _ _ => trivial
    exact hrequest.bind (fun _ => checks_pure) fun _ _ _ => dryRun_pure trivial
  · rw [if_neg hc, if_neg fun h => hc (hiff.mpr h)]
    exact (dryRun_pure rfl).mono (fun _ _ _ => trivial) fun _ _ _ => trivial

/-- The whole merge beside its dry run, from one state. -/
theorem dryRun_mergeContactImpl :
    DryRun IsCheck Eq (fun _ _ => True) (fun out out' => out.withoutHistoryIds = out')
      (op.mergeContactImpl settings order false) (op.mergeContactImpl settings order true) := by
  have hcontacts : DryRun IsCheck Eq (SameChecks [.registrant, .admin, .nssetTech, .keysetTech])
      (· = ·) op.checkContacts op.checkContacts := dryRun_checkContacts
  have htransfer (locked : MergeContactLockedContactId) :
      DryRun IsCheck (SameChecks []) (fun _ _ => True) (fun _ _ => True)
        (MergeContact.transferStates settings false locked)
        (MergeContact.transferStates settings true locked) := dryRun_transferStates
  have hdelete : DryRun IsCheck (fun _ _ => True) (fun _ _ => True) (fun _ b => b = none)
      (unlessDry false (op.deleteSource settings)) (unlessDry true (op.deleteSource settings)) :=
    dryRun_unlessDry fun _ _ _ _ _ _ => trivial
  have rest₅ (locked : MergeContactLockedContactId) (out : MergeContactOutput) : Checks IsCheck (do
      MergeContact.transferStates settings true locked
      let _ ← unlessDry true (op.deleteSource settings)
      pure out) :=
    checks_bind (htransfer locked).checks fun _ =>
      checks_bind hdelete.checks fun _ => checks_pure
  refine hcontacts.bind (fun locked => checks_bind dryRun_mergeDomainRegistrants.checks
    fun _ => checks_bind dryRun_mergeDomainAdmins.checks fun _ =>
    checks_bind dryRun_mergeNssetTechs.checks fun _ =>
    checks_bind dryRun_mergeKeysetTechs.checks fun _ => rest₅ locked _) fun locked _ he => ?_
  subst he
  refine dryRun_mergeDomainRegistrants.bind (fun _ => checks_bind dryRun_mergeDomainAdmins.checks
    fun _ => checks_bind dryRun_mergeNssetTechs.checks fun _ =>
    checks_bind dryRun_mergeKeysetTechs.checks fun _ => rest₅ locked _) fun registrants _ hr => ?_
  refine dryRun_mergeDomainAdmins.bind (fun _ => checks_bind dryRun_mergeNssetTechs.checks fun _ =>
    checks_bind dryRun_mergeKeysetTechs.checks fun _ => rest₅ locked _) fun admins _ ha => ?_
  refine dryRun_mergeNssetTechs.bind (fun _ => checks_bind dryRun_mergeKeysetTechs.checks fun _ =>
    rest₅ locked _) fun nssets _ hn => ?_
  refine dryRun_mergeKeysetTechs.bind (fun _ => rest₅ locked _) fun keysets _ hk => ?_
  refine (htransfer locked).bind (fun _ => checks_bind hdelete.checks fun _ => checks_pure)
    fun _ _ _ => hdelete.bind (fun _ => checks_pure) fun _ _ _ => dryRun_pure ?_
  rw [← hr, ← ha, ← hn, ← hk]
  rfl

theorem checks_mergeObject {update : LinkedObject → ObjectExec Nat}
    {record : LinkedObject → Option Nat → ρ} {o : LinkedObject} :
    Checks IsCheck (mergeObject true blocking update record o) :=
  checks_bind (checks_bind checks_getStates fun _ => checks_raiseIf ⟨_, rfl⟩) fun _ =>
    checks_bind checks_pure fun _ => checks_pure

/-- The order in which the database returns the objects does not decide whether a dry run
refuses them. -/
theorem mergeLinked_reorder {order' : RowOrder} {link : Link} {update : LinkedObject → ObjectExec Nat}
    {record : LinkedObject → Option Nat → ρ} {db : ObjectDatabase} {records : List ρ}
    (h : (op.mergeLinked order true link blocking update record).run db = .ok records db) :
    ∃ records', (op.mergeLinked order' true link blocking update record).run db = .ok records' db ∧
      records.Perm records' := by
  obtain ⟨objects, _, hselect, h⟩ := run_bind_eq_ok.mp h
  obtain ⟨rfl, rfl⟩ := EStateM.Result.ok.inj hselect
  have hperm := ((order link).perm (linkedObjects db op.srcContactHandle link)).trans
    ((order' link).perm (linkedObjects db op.srcContactHandle link)).symm
  obtain ⟨records', hrun, hrecords⟩ := run_mapM_perm (fun _ => checks_mergeObject) hperm h
  exact ⟨records', run_bind_eq_ok.mpr ⟨_, db, rfl, hrun⟩, hrecords⟩

theorem execDryRun_readOnly : ReadOnly (op.execDryRun settings order) :=
  dryRun_mergeContactImpl.checks.readOnly

theorem execDryRun_reorder {order' : RowOrder} {db db' : ObjectDatabase} {out : MergeContactOutput}
    (h : (op.execDryRun settings order).run db = .ok out db') :
    ∃ out', (op.execDryRun settings order').run db = .ok out' db ∧ out.SameUpdates out' := by
  obtain ⟨locked, db₁, hlocked, h⟩ := run_bind_eq_ok.mp h
  obtain rfl := checks_checkContacts.readOnly.ok hlocked
  obtain ⟨registrants, db₂, hr, h⟩ := run_bind_eq_ok.mp h
  obtain rfl := dryRun_mergeDomainRegistrants.checks.readOnly.ok hr
  obtain ⟨admins, db₃, ha, h⟩ := run_bind_eq_ok.mp h
  obtain rfl := dryRun_mergeDomainAdmins.checks.readOnly.ok ha
  obtain ⟨nssets, db₄, hn, h⟩ := run_bind_eq_ok.mp h
  obtain rfl := dryRun_mergeNssetTechs.checks.readOnly.ok hn
  obtain ⟨keysets, db₅, hk, h⟩ := run_bind_eq_ok.mp h
  obtain rfl := dryRun_mergeKeysetTechs.checks.readOnly.ok hk
  obtain ⟨u, db₆, ht, h⟩ := run_bind_eq_ok.mp h
  have htransfer : DryRun IsCheck (SameChecks []) (fun _ _ => True) (fun _ _ => True)
      (MergeContact.transferStates settings false locked)
      (MergeContact.transferStates settings true locked) := dryRun_transferStates
  obtain rfl := htransfer.checks.readOnly.ok ht
  obtain ⟨_, db₇, hd, h⟩ := run_bind_eq_ok.mp h
  obtain ⟨-, rfl⟩ := run_pure_eq_ok.mp hd
  obtain ⟨rfl, -⟩ := run_pure_eq_ok.mp h
  obtain ⟨registrants', hr', hpr⟩ := mergeLinked_reorder hr
  obtain ⟨admins', ha', hpa⟩ := mergeLinked_reorder ha
  obtain ⟨nssets', hn', hpn⟩ := mergeLinked_reorder hn
  obtain ⟨keysets', hk', hpk⟩ := mergeLinked_reorder hk
  refine ⟨⟨locked, registrants', admins', nssets', keysets'⟩, ?_, ⟨rfl, hpr, hpa, hpn, hpk⟩⟩
  exact run_bind_eq_ok.mpr ⟨locked, db, hlocked, run_bind_eq_ok.mpr ⟨registrants', db, hr',
    run_bind_eq_ok.mpr ⟨admins', db, ha', run_bind_eq_ok.mpr ⟨nssets', db, hn',
    run_bind_eq_ok.mpr ⟨keysets', db, hk', run_bind_eq_ok.mpr ⟨u, db, ht, rfl⟩⟩⟩⟩⟩⟩

/-- What the checks of the two contacts raise is raised before anything is written. -/
theorem mergeContactImpl_error {dryRun : Bool} {db db' : ObjectDatabase} {e : MergeError}
    (h : op.checkContacts.run db = .error e db') :
    (op.mergeContactImpl settings order dryRun).run db = .error e db := by
  obtain rfl := checks_checkContacts.readOnly.atomic db e db' h
  exact run_bind_of_error h

/-- A dry run writes nothing and foretells the merge: which of its checks fails, unless an
operation of the merge fails before, and the updates that it makes, in the same order when the
database returns the linked objects so. The checks of linked objects come between the updates
of others, so that the merge may have to be rolled back. -/
theorem dry_run_foretells (op : MergeContact) (settings : MergeSettings) (order order' : RowOrder)
    (db : ObjectDatabase) :
    ((∃ out, (op.execDryRun settings order').run db = .ok out db) ∨
      ∃ e, (op.execDryRun settings order').run db = .error (.check e) db) ∧
    (∀ e db', op.checkContacts.run db = .error e db' →
      (op.execDryRun settings order').run db = .error e db ∧
        (op.exec settings order).run db = .error e db) ∧
    (∀ e, (op.execDryRun settings order').run db = .error (.check e) db →
      ∃ e' db', (op.exec settings order).run db = .error e' db' ∧
        (order = order' → e' = .check e ∨ ∃ e₁, e' = .operation e₁)) ∧
    (∀ e db', (op.exec settings order).run db = .error (.check e) db' →
      ∃ e', (op.execDryRun settings order').run db = .error (.check e') db ∧
        (order = order' → e' = e)) ∧
    ∀ out db', (op.exec settings order).run db = .ok out db' →
      ∃ out', (op.execDryRun settings order').run db = .ok out' db ∧
        out.withoutHistoryIds.SameUpdates out' ∧ (order = order' → out.withoutHistoryIds = out') := by
  have hdry (order : RowOrder) : (∃ out, (op.execDryRun settings order).run db = .ok out db) ∨
      ∃ e, (op.execDryRun settings order).run db = .error (.check e) db := by
    rcases dryRun_mergeContactImpl.checks db with h | ⟨_, ⟨e, rfl⟩, h⟩
    · exact .inl h
    · exact .inr ⟨e, h⟩
  refine ⟨hdry order', fun e db' h => ⟨mergeContactImpl_error h, mergeContactImpl_error h⟩,
    fun e h => ?_, fun e db' h => ?_, fun out db' h => ?_⟩
  · rcases hdry order with ⟨out, hout⟩ | ⟨e₀, he₀⟩
    · obtain ⟨out', hout', -⟩ := execDryRun_reorder hout
      rw [hout'] at h
      cases h
    · obtain ⟨e', db', hexec, he'⟩ := dryRun_mergeContactImpl.error_of_error rfl he₀
      refine ⟨e', db', hexec, fun horder => ?_⟩
      subst horder
      rw [he₀] at h
      cases h
      rcases he' with rfl | hne
      · exact .inl rfl
      · cases e' with
        | check c => exact (hne ⟨c, rfl⟩).elim
        | operation e₁ => exact .inr ⟨e₁, rfl⟩
  · have he := dryRun_mergeContactImpl.error rfl h ⟨e, rfl⟩
    rcases hdry order' with ⟨out, hout⟩ | ⟨e', he'⟩
    · obtain ⟨out', hout', -⟩ := execDryRun_reorder hout
      rw [MergeContact.execDryRun, he] at hout'
      cases hout'
    · refine ⟨e', he', fun horder => ?_⟩
      subst horder
      obtain ⟨heq, -⟩ := EStateM.Result.error.inj (he.symm.trans he')
      exact (MergeError.check.inj heq).symm
  · obtain ⟨out₀, hout₀, hupdates⟩ := dryRun_mergeContactImpl.ok rfl h
    obtain ⟨out', hout', hsame⟩ := execDryRun_reorder hout₀
    refine ⟨out', hout', hupdates ▸ hsame, fun horder => ?_⟩
    subst horder
    obtain ⟨heq, -⟩ := EStateM.Result.ok.inj (hout₀.symm.trans hout')
    exact hupdates.trans heq

/-- The rows in the order of the tables. -/
def tableOrder : RowOrder := fun _ => ⟨id, List.Perm.refl, fun _ => List.pairwise_of_forall (by simp)⟩

/-- States that nothing changes. -/
def idleProcedures : StateProcedures := ⟨fun db => db.objectState, fun db _ => db.objectState,
  fun _ _ _ _ => Iff.rfl⟩

def mergeSettings : MergeSettings :=
  ⟨⟨⟨plaintextStorage, "", 14⟩, idleProcedures⟩, "changed"⟩

def emptyContact (id : Nat) : Db.Contact :=
  ⟨id, none, none, none, none, none, none, none, none, none, none, none, none, none, none, none, none,
    none, none, none, none, none, none, none, none, none, none⟩

/-- The contact SRC is the registrant of one domain and an administrator of another one, whose
registrant is DST and which is blocked. -/
def blockedDatabase : Database :=
  { Database.empty with
    now := 50
    registrar := ⟨[⟨1, "REG-MERGE"⟩], by decide⟩
    objectRegistry := ⟨[⟨1, 0, "C1-CZ", "SRC", .contact, 1, 0, none, some 1, some 1⟩,
      ⟨2, 0, "C2-CZ", "DST", .contact, 1, 0, none, some 2, some 2⟩,
      ⟨3, 0, "D3-CZ", "free.cz", .domain, 1, 0, none, some 3, some 3⟩,
      ⟨4, 0, "D4-CZ", "blocked.cz", .domain, 1, 0, none, some 4, some 4⟩], by decide⟩
    object := ⟨[⟨1, 1, none, none, none⟩, ⟨2, 1, none, none, none⟩, ⟨3, 1, none, none, none⟩,
      ⟨4, 1, none, none, none⟩], by decide⟩
    history := ⟨[⟨1, 0, none⟩, ⟨2, 0, none⟩, ⟨3, 0, none⟩, ⟨4, 0, none⟩], by decide⟩
    historySeq := 5
    contact := ⟨[emptyContact 1, emptyContact 2], by decide⟩
    objectState := ⟨[⟨1, 1, 16, 0, none⟩, ⟨2, 2, 16, 0, none⟩, ⟨3, 4, 7, 0, none⟩], by decide⟩
    enumObjectStates := ⟨[⟨7, "serverBlocked", [3], true⟩, ⟨16, "linked", [1], false⟩], by decide⟩ }

def blockedDb : ObjectDatabase :=
  { ObjectDatabase.ofDatabase blockedDatabase with
    zone := ⟨[⟨1, false, ['c', 'z'], 1, 12, 120, 0⟩], by decide⟩
    domain := ⟨[⟨3, 1, 1, none, 100, none⟩, ⟨4, 1, 2, none, 100, none⟩], by decide⟩
    domainContactMap := ⟨[⟨4, 1, 1⟩], by decide⟩ }

def mergeBy (registrar : String) : MergeContact :=
  ⟨"SRC", "DST", registrar, none, some defaultDiffContacts, by decide⟩

/-- The domain that is not blocked has a new registrant when the merge finds the other one. -/
theorem not_dry_run_foretells :
    ¬ ∀ (op : MergeContact) (settings : MergeSettings) (order : RowOrder) (db : ObjectDatabase),
      (∃ e, (op.execDryRun settings order).run db = .error e db) ↔
        ∃ e, (op.exec settings order).run db = .error e db := by
  intro h
  have hwritten : (outcome true ((mergeBy "REG-MERGE").exec mergeSettings tableOrder)
      blockedDb).domain.rows.map (·.registrant) = [2, 2] := by decide +kernel
  have hrefused : (match ((mergeBy "REG-MERGE").execDryRun mergeSettings tableOrder).run blockedDb with
      | .ok _ _ => true
      | .error _ _ => false) = false := by decide +kernel
  obtain ⟨e, he⟩ : ∃ e, ((mergeBy "REG-MERGE").execDryRun mergeSettings tableOrder).run blockedDb =
      .error e blockedDb := by
    rcases execDryRun_readOnly blockedDb with ⟨out, hout⟩ | he
    · rw [hout] at hrefused
      cases hrefused
    · exact he
  obtain ⟨e', he'⟩ := (h (mergeBy "REG-MERGE") mergeSettings tableOrder blockedDb).mp ⟨e, he⟩
  have hkept : outcome true ((mergeBy "REG-MERGE").exec mergeSettings tableOrder) blockedDb =
      blockedDb := by simp [outcome, he']
  rw [hkept] at hwritten
  exact absurd hwritten (by decide)

end LibFred.RegistrableObject.Contact
