import LibFred.RegistrableObject.Contact.ContactLife
import LibFred.RegistrableObject.Contact.MergedLinks

/-! A merge is a run of changes that are recorded. -/
namespace LibFred.RegistrableObject.Contact

open Sql
open LibFred.Db
open Relation (ReflTransGen)
open LibFred.Object (Prepares insertHistory moves_prepares_touch moves_prepares_update
  readOnly_getObjectIdByHandleAndType readOnly_getRegistrarIdByHandle setHistoryId)
open LibFred.RegistrableObject.Domain
open LibFred.RegistrableObject.Keyset
open LibFred.RegistrableObject.Nsset

variable {procedures : StateProcedures} {settings : UpdateSettings} {objectId : Nat}
  {s s' db db' : ObjectDatabase}

section Sequence

/-- Whether statements succeed or not, a version that was given out is not given out again. -/
def KeepsVersions (db db' : ObjectDatabase) : Prop := db.historySeq ≤ db'.historySeq

instance : Std.Refl KeepsVersions := ⟨fun db => le_refl db.historySeq⟩

instance : IsTrans ObjectDatabase KeepsVersions := ⟨fun _ _ _ h h' => h.trans h'⟩

theorem keepsVersions_of_eq (h : db'.historySeq = db.historySeq) : KeepsVersions db db' := h.ge

theorem keepsVersions_of_prepares {objects : Set Nat} {d d' : Database} (h : Prepares objects d d') : d.historySeq ≤ d'.historySeq := by
  rw [h.rest]

theorem keepsVersions_insertHistory {requestId : Option Nat} :
    Moves (fun d d' => d.historySeq ≤ d'.historySeq) (insertHistory requestId objectId) := by
  refine moves_of_run (fun d v d' h => ?_) (fun d e d' h => ?_)
  all_goals
    simp only [insertHistory] at h
    split at h <;> cases h
  · exact Nat.le_succ _
  · exact le_rfl

theorem keepsVersions_setHistoryId {what : String} {historyId : Nat} :
    Moves (fun d d' => d.historySeq ≤ d'.historySeq) (setHistoryId what objectId historyId) := by
  refine moves_of_run (fun d u d' h => ?_) (fun d e d' h => ?_)
  all_goals
    simp only [setHistoryId] at h
    split at h <;> cases h
    exact le_rfl

instance : Std.Refl fun d d' : Database => d.historySeq ≤ d'.historySeq := ⟨fun _ => le_rfl⟩

instance : IsTrans Database fun d d' => d.historySeq ≤ d'.historySeq := ⟨fun _ _ _ h h' => h.trans h'⟩

theorem keepsVersions_updateObject {op : LibFred.Object.UpdateObject} :
    Moves KeepsVersions (updateObject settings.authinfo op) := by
  have hkeeps {objects : Set Nat} (d d' : Database) (h : Prepares objects d d') :
      d.historySeq ≤ d'.historySeq := keepsVersions_of_prepares h
  have hauthinfo (id registrarId : Nat) :
      Moves (Prepares ∅) (op.storeAuthinfo settings.authinfo id registrarId) := moves_prepares_update
  have hexec : Moves (fun d d' => d.historySeq ≤ d'.historySeq) (op.exec settings.authinfo) :=
    moves_bind readOnly_getRegistrarIdByHandle.moves fun _ =>
      moves_bind readOnly_getObjectIdByHandleAndType.moves fun _ =>
      moves_bind ((hauthinfo _ _).mono hkeeps) fun _ =>
      moves_bind readOnly_raiseIf.moves fun _ =>
      moves_bind (moves_prepares_touch.mono hkeeps) fun _ =>
      moves_bind keepsVersions_insertHistory fun _ =>
      moves_bind keepsVersions_setHistoryId fun _ => readOnly_pure.moves
  refine moves_tryCatch (moves_bind (moves_lift hexec fun _ _ h => h) fun _ => readOnly_pure.moves)
    fun e => ?_
  split
  · exact readOnly_pure.moves
  · exact readOnly_pure.moves
  · exact readOnly_throw.moves

theorem keepsVersions_checkRegistrar {unknown : String → ObjectException} {handle : String} :
    Moves KeepsVersions (checkRegistrar unknown handle) := by
  refine moves_tryCatch (moves_bind (readOnly_lift readOnly_getRegistrarIdByHandle).moves fun _ =>
    readOnly_pure.moves) fun e => ?_
  split <;> exact readOnly_throw.moves

theorem keepsVersions_copyToHistory {ρ κ : Type} [Keyed ρ κ] [DecidableEq κ]
    {history : ObjectDatabase → Table (Historical ρ)}
    {setHistory : ObjectDatabase → Table (Historical ρ) → ObjectDatabase}
    {rows : ObjectDatabase → List ρ} {historyId : Nat}
    (hset : ∀ db t, (setHistory db t).historySeq = db.historySeq) :
    Moves KeepsVersions (copyToHistory history setHistory rows historyId) := by
  refine moves_of_run (fun db n db' h => ?_) (fun db e db' h => ?_)
  all_goals
    simp only [copyToHistory] at h
    split at h <;> cases h
  · exact keepsVersions_of_eq (hset db _)
  · exact refl_of _ db

section ContactMap

variable {ρ : Type} [Keyed ρ (Nat × Nat)] {map : ContactMap ρ} {e : ContactErrors} {handle : String}
  (hmap : ∀ db t, (map.setTable db t).historySeq = db.historySeq)

include hmap

theorem keepsVersions_addContact :
    Moves KeepsVersions (map.addContact procedures objectId e handle) := by
  refine moves_bind (readOnly_lift readOnly_getObjectIdByHandleAndType).moves fun id => ?_
  cases id with
  | none => exact readOnly_pure.moves
  | some contactId =>
    refine moves_bind (moves_of_run (fun db inserted db' h => ?_) fun db e db' h => ?_) fun inserted => ?_
    · simp only [ContactMap.insertContact] at h
      split at h <;> cases h
      · exact keepsVersions_of_eq (hmap db _)
      · exact refl_of _ db
    · simp only [ContactMap.insertContact] at h
      split at h <;> cases h
    · split <;> exact readOnly_pure.moves

theorem keepsVersions_remContact :
    Moves KeepsVersions (map.remContact procedures objectId e handle) := by
  refine moves_bind (readOnly_lift readOnly_getObjectIdByHandleAndType).moves fun id => ?_
  cases id with
  | none => exact readOnly_pure.moves
  | some contactId =>
    refine moves_bind (moves_of_run (fun db n db' h => ?_) fun db e db' h => by cases h) fun n =>
      moves_bind readOnly_raiseIf.moves fun _ => ?_
    · obtain ⟨-, rfl⟩ := EStateM.Result.ok.inj h
      exact keepsVersions_of_eq (hmap db _)
    · split <;> exact readOnly_pure.moves

theorem keepsVersions_updateContacts {add rem : List String} :
    Moves KeepsVersions (map.updateContacts procedures objectId add rem) :=
  moves_bind (moves_foldlM fun _ _ => keepsVersions_addContact hmap) fun _ =>
    moves_foldlM fun _ _ => keepsVersions_remContact hmap

end ContactMap

theorem keepsVersions_updateColumns {op : UpdateDomain} {e : DomainException} :
    Moves KeepsVersions (op.updateColumns settings objectId e) := by
  unfold UpdateDomain.updateColumns
  split
  · refine moves_bind readOnly_resolveOptional.moves fun _ =>
      moves_bind readOnly_resolveOptional.moves fun _ =>
      moves_bind readOnly_resolveRegistrant.moves fun _ =>
      moves_bind readOnly_raiseIf.moves fun _ =>
      moves_of_run (fun db u db' h => ?_) fun db e db' h => ?_
    all_goals
      simp only [DomainColumns.write] at h
      split at h <;> cases h
      exact le_refl db.historySeq
  · exact readOnly_pure.moves

theorem keepsVersions_updateEnumval {op : UpdateDomain} :
    Moves KeepsVersions (op.updateEnumval settings objectId) := by
  unfold UpdateDomain.updateEnumval
  split
  · refine moves_of_run (fun db u db' h => ?_) (fun db e db' h => ?_)
    all_goals
      simp only [UpdateDomain.setEnumval] at h
      split at h <;> cases h
      exact le_refl db.historySeq
  · exact readOnly_pure.moves

theorem keepsVersions_updateDomain {op : UpdateDomain} :
    Moves KeepsVersions (op.exec settings) := by
  have hcopy (domainId historyId : Nat) :
      Moves KeepsVersions (copyDomainDataToDomainHistory domainId historyId) :=
    moves_bind (keepsVersions_copyToHistory fun _ _ => rfl) fun _ =>
      moves_bind readOnly_raiseIf.moves fun _ =>
      moves_bind (keepsVersions_copyToHistory fun _ _ => rfl) fun _ =>
      moves_bind (keepsVersions_copyToHistory fun _ _ => rfl) fun _ => readOnly_pure.moves
  exact moves_bind keepsVersions_checkRegistrar fun _ => moves_bind readOnly_getDomain.moves fun _ =>
    moves_bind readOnly_raiseIf.moves fun _ => moves_bind readOnly_raiseIf.moves fun _ =>
    moves_bind keepsVersions_updateObject fun _ => moves_bind keepsVersions_updateColumns fun _ =>
    moves_bind (keepsVersions_updateContacts fun _ _ => rfl) fun _ =>
    moves_bind readOnly_raiseIf.moves fun _ => moves_bind keepsVersions_updateEnumval fun _ =>
    moves_bind (hcopy _ _) fun _ => readOnly_pure.moves

theorem keepsVersions_updateChecklevel {level : Option Int} :
    Moves KeepsVersions (updateChecklevel objectId level) := by
  unfold updateChecklevel
  split
  · refine moves_of_run (fun db u db' h => ?_) (fun db e db' h => ?_)
    all_goals
      simp only [setChecklevel] at h
      split at h <;> cases h
      exact le_refl db.historySeq
  · exact readOnly_pure.moves

theorem keepsVersions_remDnsHost {unassigned : List String} {fqdn : String} :
    Moves KeepsVersions (remDnsHost objectId unassigned fqdn) := by
  refine moves_bind (moves_of_run (fun db ids db' h => ?_) fun db e db' h => by cases h) fun ids => ?_
  · obtain ⟨-, rfl⟩ := EStateM.Result.ok.inj h
    exact le_refl db.historySeq
  · split
    · exact readOnly_pure.moves
    · refine moves_bind (moves_of_run (fun db u db' h => ?_) fun db e db' h => by cases h) fun _ =>
        readOnly_pure.moves
      obtain ⟨-, rfl⟩ := EStateM.Result.ok.inj h
      exact le_refl db.historySeq
    · exact readOnly_throw.moves

theorem keepsVersions_addIpaddr {hostId : Nat} {e : HostErrors} {ipaddr : IpAddress} :
    Moves KeepsVersions (addIpaddr hostId objectId e ipaddr) := by
  refine moves_bind (moves_of_run (fun db b db' h => ?_) fun db e db' h => ?_) fun b => ?_
  · simp only [insertIpaddr] at h
    split at h
    · split at h <;> cases h
      exact le_refl db.historySeq
    · cases h
      exact refl_of _ db
  · simp only [insertIpaddr] at h
    split at h
    · split at h <;> cases h
      exact le_refl db.historySeq
    · cases h
  · split <;> exact readOnly_pure.moves

theorem keepsVersions_addDnsHost {e : HostErrors} {host : DnsHost} :
    Moves KeepsVersions (addDnsHost objectId e host) := by
  refine moves_bind (moves_of_run (fun db id db' h => ?_) fun db e db' h => ?_) fun id => ?_
  · simp only [insertHost] at h
    split at h
    · cases h
      exact le_refl db.historySeq
    · split at h <;> cases h
      exact le_refl db.historySeq
  · simp only [insertHost] at h
    split at h
    · cases h
    · split at h <;> cases h
      exact le_refl db.historySeq
  · cases id with
    | none => exact readOnly_pure.moves
    | some hostId => exact moves_foldlM fun _ _ => keepsVersions_addIpaddr

theorem keepsVersions_updateNsset {op : UpdateNsset} : Moves KeepsVersions (op.exec settings) := by
  have hcopy (nssetId historyId : Nat) :
      Moves KeepsVersions (copyNssetDataToNssetHistory nssetId historyId) :=
    moves_bind (keepsVersions_copyToHistory fun _ _ => rfl) fun _ =>
      moves_bind readOnly_raiseIf.moves fun _ =>
      moves_bind (keepsVersions_copyToHistory fun _ _ => rfl) fun _ =>
      moves_bind (keepsVersions_copyToHistory fun _ _ => rfl) fun _ =>
      moves_bind (keepsVersions_copyToHistory fun _ _ => rfl) fun _ => readOnly_pure.moves
  exact moves_bind keepsVersions_checkRegistrar fun _ => moves_bind readOnly_getObjectId.moves fun _ =>
    moves_bind keepsVersions_updateObject fun _ => moves_bind keepsVersions_updateChecklevel fun _ =>
    moves_bind (keepsVersions_updateContacts fun _ _ => rfl) fun _ =>
    moves_bind (moves_foldlM fun _ _ => keepsVersions_remDnsHost) fun _ =>
    moves_bind (moves_foldlM fun _ _ => keepsVersions_addDnsHost) fun _ =>
    moves_bind readOnly_raiseIf.moves fun _ => moves_bind (hcopy _ _) fun _ => readOnly_pure.moves

theorem keepsVersions_remDnsKey {unassigned : List DnsKey} {key : DnsKey} :
    Moves KeepsVersions (remDnsKey objectId unassigned key) := by
  refine moves_bind (moves_of_run (fun db n db' h => ?_) fun db e db' h => by cases h) fun n =>
    moves_bind readOnly_raiseIf.moves fun _ => readOnly_pure.moves
  obtain ⟨-, rfl⟩ := EStateM.Result.ok.inj h
  exact le_refl db.historySeq

theorem keepsVersions_addDnsKey {alreadySet : List DnsKey} {key : DnsKey} :
    Moves KeepsVersions (addDnsKey objectId alreadySet key) := by
  refine moves_bind (moves_of_run (fun db b db' h => ?_) fun db e db' h => ?_) fun b => ?_
  · simp only [insertDnsKey] at h
    split at h
    · cases h
      exact le_refl db.historySeq
    · split at h <;> cases h
      exact le_refl db.historySeq
  · simp only [insertDnsKey] at h
    split at h
    · cases h
    · split at h <;> cases h
      exact le_refl db.historySeq
  · split <;> exact readOnly_pure.moves

theorem keepsVersions_updateKeyset {op : UpdateKeyset} : Moves KeepsVersions (op.exec settings) := by
  have hcopy (keysetId historyId : Nat) :
      Moves KeepsVersions (copyKeysetDataToKeysetHistory keysetId historyId) :=
    moves_bind (keepsVersions_copyToHistory fun _ _ => rfl) fun _ =>
      moves_bind readOnly_raiseIf.moves fun _ =>
      moves_bind (keepsVersions_copyToHistory fun _ _ => rfl) fun _ =>
      moves_bind (keepsVersions_copyToHistory fun _ _ => rfl) fun _ =>
      moves_bind (keepsVersions_copyToHistory fun _ _ => rfl) fun _ => readOnly_pure.moves
  exact moves_bind keepsVersions_checkRegistrar fun _ => moves_bind readOnly_getObjectId.moves fun _ =>
    moves_bind keepsVersions_updateObject fun _ =>
    moves_bind (keepsVersions_updateContacts fun _ _ => rfl) fun _ =>
    moves_bind (moves_foldlM fun _ _ => keepsVersions_remDnsKey) fun _ =>
    moves_bind (moves_foldlM fun _ _ => keepsVersions_addDnsKey) fun _ =>
    moves_bind readOnly_raiseIf.moves fun _ => moves_bind (hcopy _ _) fun _ => readOnly_pure.moves

end Sequence

section Merge

variable {op : MergeContact} {settings : MergeSettings} {order : RowOrder} {o : LinkedObject} {u : Unit}

/-- A savepoint takes an update back, and another one is run from where it began. -/
theorem commits_orElseRollback {ignored : ObjectException → Bool} {x y : ObjectExec Nat}
    (hx : Commits (Changes procedures) x) (hkeeps : Moves KeepsVersions x)
    (hy : Commits (Changes procedures) y) : Commits (Changes procedures) (orElseRollback ignored x y) := by
  intro s historyId s' h
  rcases run_orElseRollback_eq_ok h with h | ⟨e, t, herror, -, h⟩
  · exact hx s historyId s' h
  · exact trans_of _ (Change.rollback (hkeeps.error herror)).changes (hy _ historyId s' h)

theorem commits_updateRegistrant : Commits (Changes settings.procedures) (op.updateRegistrant settings o) :=
  fun _ _ _ h => (updateDomain_change h).changes

theorem commits_updateAdmin : Commits (Changes settings.procedures) (op.updateAdmin settings o) :=
  commits_orElseRollback (fun _ _ _ h => (updateDomain_change h).changes) keepsVersions_updateDomain
    fun _ _ _ h => (updateDomain_change h).changes

theorem commits_updateNssetTech : Commits (Changes settings.procedures) (op.updateNssetTech settings o) :=
  commits_orElseRollback (fun _ _ _ h => (updateNsset_change h).changes) keepsVersions_updateNsset
    fun _ _ _ h => (updateNsset_change h).changes

theorem commits_updateKeysetTech : Commits (Changes settings.procedures) (op.updateKeysetTech settings o) :=
  commits_orElseRollback (fun _ _ _ h => (updateKeyset_change h).changes) keepsVersions_updateKeyset
    fun _ _ _ h => (updateKeyset_change h).changes

theorem commits_mergeLinked {ρ : Type} {link : Link} {blocking : List String}
    {update : LinkedObject → ObjectExec Nat} {record : LinkedObject → Option Nat → ρ}
    (hupdate : ∀ o, Commits (Changes procedures) (update o)) :
    Commits (Changes procedures) (op.mergeLinked order false link blocking update record) :=
  fun s _ _ h => mergeLinked_ok (P := fun _ t => Changes procedures s t)
    (fun _ o _ t t' historyId ht h => trans_of _ ht (hupdate o t historyId t' h)) (refl_of _ s) h

theorem transferStates_change {locked : MergeContactLockedContactId}
    (h : (MergeContact.transferStates settings false locked).run s = .ok u s') :
    Changes settings.procedures s s' := by
  obtain ⟨src, t, hsrc, h₁⟩ := run_bind_eq_ok.mp h
  obtain rfl := checks_getStates.readOnly.ok hsrc
  obtain ⟨dst, t, hdst, h₂⟩ := run_bind_eq_ok.mp h₁
  obtain rfl := checks_getStates.readOnly.ok hdst
  split at h₂
  · obtain ⟨_, t, hunless, h₃⟩ := run_bind_eq_ok.mp h₂
    obtain ⟨-, rfl⟩ := run_pure_eq_ok.mp h₃
    obtain ⟨_, t, hoperation, h₄⟩ := run_bind_eq_ok.mp hunless
    obtain ⟨-, rfl⟩ := run_pure_eq_ok.mp h₄
    obtain ⟨_, t, hrequest, hperform⟩ := run_bind_eq_ok.mp (operation_ok hoperation)
    obtain ⟨-, rfl⟩ := EStateM.Result.ok.inj hperform
    obtain ⟨d, hd, rfl⟩ := run_lift_eq_ok.mp hrequest
    simp only [createObjectStateRequest, EStateM.run] at hd
    split at hd <;> cases hd
    rename_i requests _
    exact (Change.states requests (.inr ⟨locked.dstContactId, rfl⟩)).changes
  · obtain ⟨-, rfl⟩ := run_pure_eq_ok.mp h₂
    exact refl_of _ s

theorem deleteSource_changes (h : (op.deleteSource settings).run s = .ok u s') :
    Changes settings.procedures s s' := by
  obtain ⟨_, t, hdelete, h₁⟩ := run_bind_eq_ok.mp h
  obtain ⟨_, t', hupdate, h₂⟩ := run_bind_eq_ok.mp h₁
  obtain ⟨-, rfl⟩ := run_pure_eq_ok.mp h₂
  obtain ⟨d, hd, rfl⟩ := run_lift_eq_ok.mp hupdate
  exact trans_of _ (deleteContactByHandle_change hdelete).changes (updateContactByHandle_change hd).changes

theorem mergeContact_changes {out : MergeContactOutput}
    (h : (op.exec settings order).run db = .ok out db') : Changes settings.procedures db db' := by
  obtain ⟨locked, _, hlocked, h₁⟩ := run_bind_eq_ok.mp h
  obtain rfl := checks_checkContacts.readOnly.ok hlocked
  obtain ⟨registrants, s₁, hregistrants, h₂⟩ := run_bind_eq_ok.mp h₁
  obtain ⟨admins, s₂, hadmins, h₃⟩ := run_bind_eq_ok.mp h₂
  obtain ⟨nssets, s₃, hnssets, h₄⟩ := run_bind_eq_ok.mp h₃
  obtain ⟨keysets, s₄, hkeysets, h₅⟩ := run_bind_eq_ok.mp h₄
  obtain ⟨_, s₅, hstates, h₆⟩ := run_bind_eq_ok.mp h₅
  obtain ⟨_, s₆, hunless, h₇⟩ := run_bind_eq_ok.mp h₆
  obtain ⟨rfl, rfl⟩ := run_pure_eq_ok.mp h₇
  obtain ⟨_, t, hoperation, h₈⟩ := run_bind_eq_ok.mp hunless
  obtain ⟨-, rfl⟩ := run_pure_eq_ok.mp h₈
  calc
    Changes settings.procedures db s₁ := commits_mergeLinked (fun _ => commits_updateRegistrant) _ _ _ hregistrants
    Changes settings.procedures s₁ s₂ := commits_mergeLinked (fun _ => commits_updateAdmin) _ _ _ hadmins
    Changes settings.procedures s₂ s₃ := commits_mergeLinked (fun _ => commits_updateNssetTech) _ _ _ hnssets
    Changes settings.procedures s₃ s₄ := commits_mergeLinked (fun _ => commits_updateKeysetTech) _ _ _ hkeysets
    Changes settings.procedures s₄ s₅ := transferStates_change hstates
    Changes settings.procedures s₅ _ := deleteSource_changes (operation_ok hoperation)

end Merge

end LibFred.RegistrableObject.Contact
