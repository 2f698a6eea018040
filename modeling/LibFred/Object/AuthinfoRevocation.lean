import LibFred.Object.AuthinfoProgress
import LibFred.Transition

/-! A transfer revokes the authinfos of an object unless its password fits some of them only. -/
namespace LibFred.Object

open Sql Transition
open LibFred.Db (Database ObjectAuthinfo Timestamp Exec)

variable {storage : PasswordStorage} {localTime : Timestamp → Ptime} {db db' : Database}
  {a : ObjectAuthinfo} {objectId n : Nat} {plaintext : String} {rows : List ObjectAuthinfo}
  {op : TransferObject} {historyId : Nat}

/-- What a successful transfer has done, step by step. -/
theorem transfer_ok (h : (op.exec storage localTime).run db = .ok historyId db') :
    ∃ own authorized registrarId db₁ db₂ db₃,
      (checkAuthinfo storage op.objectId op.authinfopw incrementUsageAndCancel).run db = .ok own db₁ ∧
      (getAuthorizedContacts storage localTime op.authinfopw op.enabledContacts).run db₁ =
        .ok authorized db₂ ∧
      (cleanUnlessUsed op.objectId own).run db₂ = .ok () db₃ ∧
      (recordTransfer op.objectId registrarId op.logdRequestId).run db₃ = .ok historyId db' := by
  obtain ⟨registrarId, s₁, h₁, h⟩ := run_bind_eq_ok.mp h
  obtain rfl := readOnly_newRegistrarId.ok h₁
  obtain ⟨_, s₂, h₂, h⟩ := run_bind_eq_ok.mp h
  obtain rfl := readOnly_getLockedSponsoringRegistrar.ok h₂
  obtain ⟨_, s₃, h₃, h⟩ := run_bind_eq_ok.mp h
  obtain ⟨-, rfl⟩ := run_raiseIf_eq_ok.mp h₃
  obtain ⟨own, db₁, hown, h⟩ := run_bind_eq_ok.mp h
  obtain ⟨authorized, db₂, hauth, h⟩ := run_bind_eq_ok.mp h
  obtain ⟨_, s₆, h₆, h⟩ := run_bind_eq_ok.mp h
  obtain ⟨-, rfl⟩ := run_raiseIf_eq_ok.mp h₆
  obtain ⟨_, db₃, hclean, h⟩ := run_bind_eq_ok.mp h
  exact ⟨own, authorized, registrarId, db₁, db₂, db₃, hown, hauth, hclean, h⟩

/-- No usable authinfo has this id any more, and none will get it. -/
def Revoked (authinfoId : Nat) (db : Database) : Prop :=
  authinfoId < db.objectAuthinfoSeq ∧ ∀ a ∈ db.objectAuthinfo, a.id = authinfoId → ¬ Usable a

theorem Revoked.evolves {authinfoId : Nat} (h : Revoked authinfoId db) (he : Evolves db db') :
    Revoked authinfoId db' := by
  refine ⟨h.1.trans_le he.seq, fun a' ha' hid hu => ?_⟩
  rcases he.rows a' ha' with ⟨a, ha, hage⟩ | hnew
  · exact h.2 a ha (hage.id ▸ hid) (hage.usable hu).1
  · exact absurd (hid ▸ h.1) (not_lt.mpr hnew)

/-- The password fits the authinfo. -/
def Fits (storage : PasswordStorage) (plaintext : String) (a : ObjectAuthinfo) : Prop :=
  storage.check plaintext (a.password.getD "") = some true

instance : DecidablePred (Fits storage plaintext) := fun _ => by unfold Fits; infer_instance

theorem incrementUsageAndCancel_ok {authinfoId : Nat} {u : Unit}
    (h : (incrementUsageAndCancel authinfoId).run db = .ok u db') :
    (∀ a' ∈ db'.objectAuthinfo, a'.id = authinfoId → ¬ Usable a') ∧
      ∀ a ∈ db.objectAuthinfo, a.id ≠ authinfoId → a ∈ db'.objectAuthinfo := by
  obtain ⟨rows, s, hupdate, h⟩ := run_bind_eq_ok.mp h
  obtain ⟨hlength, rfl⟩ := run_raiseIf_eq_ok.mp h
  obtain ⟨rfl, -, -, hmem⟩ := updateAuthinfo_ok hupdate
  have hone : (db.objectAuthinfo.select (ActiveWithId authinfoId db)).length = 1 := by
    simpa using hlength
  obtain ⟨a, ha⟩ := List.length_eq_one_iff.mp hone
  have hactive : a ∈ db.objectAuthinfo ∧ ActiveWithId authinfoId db a :=
    Table.mem_select.mp (ha ▸ List.mem_singleton_self a)
  constructor
  · intro a' ha' hid hu
    obtain ⟨a₀, ha₀, rfl⟩ := (hmem a').mp ha'
    by_cases hp : ActiveWithId authinfoId db a₀
    · rw [if_pos hp] at hu
      exact not_usable_cancel hu
    · rw [if_neg hp] at hid
      have hsame : a₀ = a := Table.eq_of_key_eq ha₀ hactive.1 (hid.trans hactive.2.1.symm)
      exact hp (hsame ▸ hactive.2)
  · intro a₀ ha₀ hid
    exact (hmem a₀).mpr ⟨a₀, ha₀, if_neg fun hp => hid hp.1⟩

/-- Every authinfo that the password fits is visited. -/
theorem visitAuthinfos_count {onMatch : Nat → Exec Unit}
    (h : (visitAuthinfos storage plaintext onMatch rows).run db = .ok n db') :
    n = (rows.filter (Fits storage plaintext ·)).length := by
  induction rows generalizing db db' n with
  | nil =>
    obtain ⟨rfl, -⟩ := run_pure_eq_ok.mp h
    rfl
  | cons a rows ih =>
    rw [visitAuthinfos] at h
    split at h
    · rename_i hfit
      obtain ⟨_, s, -, h⟩ := run_bind_eq_ok.mp h
      obtain ⟨m, s', hrest, h⟩ := run_bind_eq_ok.mp h
      obtain ⟨rfl, -⟩ := run_pure_eq_ok.mp h
      have hfits : Fits storage plaintext a := hfit
      simp [hfits, ih hrest]
    · rename_i hfit
      have hfits : ¬ Fits storage plaintext a := by simp [Fits, hfit]
      simp [hfits, ih h]
    · cases h

/-- The authinfos that the password fits are revoked, and the others stay. -/
theorem visitAuthinfos_revokes (hw : WellStored storage db)
    (h : (visitAuthinfos storage plaintext incrementUsageAndCancel rows).run db = .ok n db') :
    (∀ a ∈ rows, a.id < db.objectAuthinfoSeq → Fits storage plaintext a → Revoked a.id db') ∧
      ∀ a ∈ db.objectAuthinfo, (∀ b ∈ rows, Fits storage plaintext b → a.id ≠ b.id) →
        a ∈ db'.objectAuthinfo := by
  induction rows generalizing db n with
  | nil =>
    obtain ⟨-, rfl⟩ := run_pure_eq_ok.mp h
    exact ⟨by simp, fun a ha _ => ha⟩
  | cons b rows ih =>
    rw [visitAuthinfos] at h
    split at h
    · obtain ⟨_, s, hcancel, h⟩ := run_bind_eq_ok.mp h
      obtain ⟨m, s', hrest, h⟩ := run_bind_eq_ok.mp h
      obtain ⟨-, rfl⟩ := run_pure_eq_ok.mp h
      obtain ⟨hrevoked, hkept⟩ := incrementUsageAndCancel_ok hcancel
      have hstep : Progress storage db s := (moves_incrementUsageAndCancel _).ok hcancel
      have hlater : Progress storage s s' :=
        (moves_visitAuthinfos moves_incrementUsageAndCancel).ok hrest
      obtain ⟨hrevokes, hkeeps⟩ := ih (hstep.wellStored hw) hrest
      constructor
      · intro a ha hseq hfits
        rcases List.mem_cons.mp ha with rfl | ha
        · have hnow : Revoked a.id s := ⟨hseq.trans_le hstep.evolves.seq, hrevoked⟩
          exact hnow.evolves hlater.evolves
        · exact hrevokes a ha (hseq.trans_le hstep.evolves.seq) hfits
      · intro a ha hne
        have hfits : Fits storage plaintext b := ‹_›
        exact hkeeps a (hkept a ha (hne b (by simp) hfits))
          fun c hc => hne c (List.mem_cons_of_mem _ hc)
    · rename_i hfit
      have hfits : ¬ Fits storage plaintext b := by simp [Fits, hfit]
      obtain ⟨hrevokes, hkeeps⟩ := ih hw h
      constructor
      · intro a ha hseq hfitsA
        rcases List.mem_cons.mp ha with rfl | ha
        · exact (hfits hfitsA).elim
        · exact hrevokes a ha hseq hfitsA
      · intro a ha hne
        exact hkeeps a ha fun c hc => hne c (List.mem_cons_of_mem _ hc)
    · cases h

/-- The same secret, used more often perhaps. -/
structure SameSecret (a a' : ObjectAuthinfo) : Prop where
  id : a'.id = a.id
  objectId : a'.objectId = a.objectId
  password : a'.password = a.password
  canceledAt : a'.canceledAt = a.canceledAt
  expiresAt : a'.expiresAt = a.expiresAt

/-- Every authinfo is kept. -/
def Keeps (db db' : Database) : Prop :=
  ∀ a ∈ db.objectAuthinfo, ∃ a' ∈ db'.objectAuthinfo, SameSecret a a'

theorem sameSecret_refl (a : ObjectAuthinfo) : SameSecret a a := ⟨rfl, rfl, rfl, rfl, rfl⟩

theorem keeps_of_same (h : db'.objectAuthinfo = db.objectAuthinfo) : Keeps db db' :=
  fun a ha => ⟨a, h ▸ ha, sameSecret_refl a⟩

instance : Std.Refl Keeps := ⟨fun _ => keeps_of_same rfl⟩

instance : IsTrans Database Keeps := ⟨fun _ _ _ h h' a ha => by
  obtain ⟨a', ha', hs⟩ := h a ha
  obtain ⟨a'', ha'', hs'⟩ := h' a' ha'
  exact ⟨a'', ha'', hs'.id.trans hs.id, hs'.objectId.trans hs.objectId,
    hs'.password.trans hs.password, hs'.canceledAt.trans hs.canceledAt,
    hs'.expiresAt.trans hs.expiresAt⟩⟩

theorem incrementUsage_keeps (authinfoId : Nat) : Moves Keeps (incrementUsage authinfoId) := by
  refine moves_bind (moves_of_run (fun db rows db' h => ?_) (fun db e db' h => by cases h))
    fun _ => readOnly_pure.moves
  intro a ha
  obtain ⟨-, -, -, hmem⟩ := updateAuthinfo_ok h
  refine ⟨_, (hmem _).mpr ⟨a, ha, rfl⟩, ?_⟩
  split
  · exact ⟨rfl, rfl, rfl, rfl, rfl⟩
  · exact sameSecret_refl a

theorem recordTransfer_keeps {registrarId : Nat} {requestId : Option Nat} :
    Moves Keeps (recordTransfer objectId registrarId requestId) := by
  refine moves_bind ?_ fun _ => moves_bind ?_ fun _ => moves_bind ?_ fun _ => readOnly_pure.moves
  all_goals refine moves_of_run (fun db u db' h => ?_) (fun db e db' h => ?_)
  all_goals
    simp only [setNewSponsoringRegistrar, insertHistory, setHistoryId] at h
    split at h <;> cases h
    exact keeps_of_same rfl

/-- CleanAuthinfo leaves no active authinfo of the object. -/
theorem cleanAuthinfo_revokes (h : (cleanAuthinfo objectId).run db = .ok n db') :
    ∀ a' ∈ db'.objectAuthinfo, a'.objectId = objectId → db.now < a'.expiresAt → ¬ Usable a' := by
  obtain ⟨rows, s, hupdate, h⟩ := run_bind_eq_ok.mp h
  obtain ⟨-, rfl⟩ := run_pure_eq_ok.mp h
  obtain ⟨-, -, -, hmem⟩ := updateAuthinfo_ok hupdate
  intro a' ha' hobject hexpires hu
  obtain ⟨a, ha, rfl⟩ := (hmem a').mp ha'
  split at hu
  · exact not_usable_cancel hu
  · rename_i hp
    rw [if_neg hp] at hobject hexpires
    exact hp ⟨hobject, hu, hexpires⟩

/-- CheckAuthinfo of the object runs and visits the authinfo. -/
def Accepts (storage : PasswordStorage) (db : Database) (objectId : Nat) (a : ObjectAuthinfo)
    (plaintext : String) : Prop :=
  (∃ n db', (checkAuthinfo storage objectId plaintext incrementUsage).run db = .ok n db') ∧
    ∃ a' ∈ activeAuthinfos db objectId, a'.id = a.id ∧ Fits storage plaintext a'

theorem not_accepts_of_revoked (h : Revoked a.id db) : ¬ Accepts storage db objectId a plaintext := by
  rintro ⟨-, a', ha', hid, -⟩
  obtain ⟨ha', -, hu, -⟩ := mem_activeAuthinfos.mp ha'
  exact h.2 a' ha' hid hu

theorem visitAuthinfos_runs
    (h : ∀ a ∈ rows, (storage.check plaintext (a.password.getD "")).isSome) (db : Database) :
    ∃ n db', (visitAuthinfos storage plaintext incrementUsage rows).run db = .ok n db' := by
  induction rows generalizing db with
  | nil => exact ⟨0, db, rfl⟩
  | cons a rows ih =>
    have hrest := ih fun b hb => h b (List.mem_cons_of_mem _ hb)
    rw [visitAuthinfos]
    split
    · obtain ⟨u, s, hs⟩ : ∃ u s, (incrementUsage a.id).run db = .ok u s := ⟨_, _, rfl⟩
      obtain ⟨m, s', hs'⟩ := hrest s
      exact ⟨m + 1, s', run_bind_eq_ok.mpr ⟨u, s, hs, run_bind_eq_ok.mpr ⟨m, s', hs', rfl⟩⟩⟩
    · exact hrest db
    · rename_i hnone
      have hsome := h a (by simp)
      simp [hnone] at hsome

/-- An active authinfo is accepted with the password that it was stored with. -/
theorem exists_accepts (hw : WellStored storage db) (hr : isRegistered db objectId)
    (ha : a ∈ activeAuthinfos db objectId) : ∃ plaintext, Accepts storage db objectId a plaintext := by
  obtain ⟨hmem, -, hu, -⟩ := mem_activeAuthinfos.mp ha
  obtain ⟨salt, plaintext, hpassword⟩ := (hw a hmem).2 hu
  have hreadable : ∀ b ∈ activeAuthinfos db objectId,
      (storage.check plaintext (b.password.getD "")).isSome := by
    intro b hb
    obtain ⟨hb, -, hub, -⟩ := mem_activeAuthinfos.mp hb
    obtain ⟨salt', plaintext', hb'⟩ := (hw b hb).2 hub
    rw [hb']
    exact storage.check_readable salt' plaintext' plaintext
  obtain ⟨n, db', hrun⟩ := visitAuthinfos_runs hreadable db
  refine ⟨plaintext, ⟨n, db', ?_⟩, a, ha, rfl, ?_⟩
  · refine run_bind_eq_ok.mpr ⟨db, db, rfl, run_bind_eq_ok.mpr ⟨(), db, ?_, hrun⟩⟩
    exact run_raiseIf_eq_ok.mpr ⟨not_not.mpr hr, rfl⟩
  · rw [Fits, hpassword]
    exact storage.check_encrypt salt plaintext

theorem checkAuthinfo_ok {onMatch : Nat → Exec Unit}
    (h : (checkAuthinfo storage objectId plaintext onMatch).run db = .ok n db') :
    isRegistered db objectId ∧
      (visitAuthinfos storage plaintext onMatch (activeAuthinfos db objectId)).run db =
        .ok n db' := by
  obtain ⟨_, s, hget, h⟩ := run_bind_eq_ok.mp h
  obtain ⟨rfl, rfl⟩ := run_get_eq_ok.mp hget
  obtain ⟨_, s, hraise, h⟩ := run_bind_eq_ok.mp h
  obtain ⟨hr, rfl⟩ := run_raiseIf_eq_ok.mp hraise
  exact ⟨not_not.mp hr, h⟩

/-- A transfer with a password that fits some of the active authinfos leaves the others active. -/
theorem transfer_keeps_others (hw : WellStored storage db)
    (hok : (op.exec storage localTime).run db = .ok historyId db') {b : ObjectAuthinfo}
    (hb : b ∈ activeAuthinfos db op.objectId) (hfits : Fits storage op.authinfopw b)
    (ha : a ∈ activeAuthinfos db op.objectId) (hnot : ¬ Fits storage op.authinfopw a) :
    ∃ a' ∈ activeAuthinfos db' op.objectId, a'.id = a.id := by
  have hprogress : Progress storage db db' := moves_transfer.ok hok
  have hnow : db'.now = db.now := hprogress.now
  obtain ⟨own, authorized, registrarId, db₁, db₂, db₃, hown, hauth, hclean, hrecord⟩ :=
    transfer_ok hok
  obtain ⟨-, hvisit⟩ := checkAuthinfo_ok hown
  obtain ⟨ha, hobject, hu, hexpires⟩ := mem_activeAuthinfos.mp ha
  have hused : own ≠ 0 := by
    rw [visitAuthinfos_count hvisit]
    have hmem : b ∈ (activeAuthinfos db op.objectId).filter (Fits storage op.authinfopw ·) := by
      simp [hb, hfits]
    exact List.length_pos_of_mem hmem |>.ne'
  obtain rfl : db₂ = db₃ := by
    rw [cleanUnlessUsed, if_neg hused] at hclean
    exact (run_pure_eq_ok.mp hclean).2
  have ha₁ : a ∈ db₁.objectAuthinfo := by
    refine (visitAuthinfos_revokes hw hvisit).2 a ha fun c hc hfitsC hid => hnot ?_
    rwa [Table.eq_of_key_eq ha (mem_activeAuthinfos.mp hc).1 hid]
  obtain ⟨a₂, ha₂, hs⟩ := (moves_getAuthorizedContacts incrementUsage_keeps).ok hauth a ha₁
  obtain ⟨a₃, ha₃, hs'⟩ := recordTransfer_keeps.ok hrecord a₂ ha₂
  refine ⟨a₃, mem_activeAuthinfos.mpr ⟨ha₃, ?_, ?_, ?_⟩, hs'.id.trans hs.id⟩
  · rw [hs'.objectId, hs.objectId, hobject]
  · rwa [Usable, hs'.canceledAt, hs.canceledAt, hs'.password, hs.password]
  · rwa [hnow, hs'.expiresAt, hs.expiresAt]

/-- A transfer with a password that fits all of the active authinfos or none revokes them. -/
theorem transfer_revokes (hw : WellStored storage db)
    (hok : (op.exec storage localTime).run db = .ok historyId db')
    (hall : (∀ a ∈ activeAuthinfos db op.objectId, ¬ Fits storage op.authinfopw a) ∨
      ∀ a ∈ activeAuthinfos db op.objectId, Fits storage op.authinfopw a)
    (ha : a ∈ activeAuthinfos db op.objectId) : Revoked a.id db' := by
  obtain ⟨own, authorized, registrarId, db₁, db₂, db₃, hown, hauth, hclean, hrecord⟩ :=
    transfer_ok hok
  obtain ⟨-, hvisit⟩ := checkAuthinfo_ok hown
  obtain ⟨hmem, hobject, hu, hexpires⟩ := mem_activeAuthinfos.mp ha
  have h₁ : Progress storage db db₁ := (moves_checkAuthinfo moves_incrementUsageAndCancel).ok hown
  have h₂ : Progress storage db₁ db₂ :=
    (moves_getAuthorizedContacts moves_incrementUsage).ok hauth
  have h₃ : Progress storage db₂ db₃ := moves_cleanUnlessUsed.ok hclean
  have h₄ : Progress storage db₃ db' := moves_recordTransfer.ok hrecord
  rcases hall with hnone | hevery
  · have hunused : own = 0 := by
      rw [visitAuthinfos_count hvisit, List.length_eq_zero_iff, List.filter_eq_nil_iff]
      simpa using hnone
    rw [cleanUnlessUsed, if_pos hunused] at hclean
    obtain ⟨_, s, hcleaned, hclean⟩ := run_bind_eq_ok.mp hclean
    obtain ⟨-, rfl⟩ := run_pure_eq_ok.mp hclean
    have hevolves : Evolves db s := (h₁.evolves.trans h₂.evolves).trans h₃.evolves
    refine Revoked.evolves ⟨(hw a hmem).1.trans_le hevolves.seq, fun a' ha' hid => ?_⟩ h₄.evolves
    have hage : Ages a a' := by
      rcases hevolves.rows a' ha' with ⟨a₀, ha₀, hage⟩ | hnew
      · rwa [Table.eq_of_key_eq hmem ha₀ (hid.symm.trans hage.id)]
      · exact absurd (hid ▸ (hw a hmem).1) (not_lt.mpr hnew)
    refine cleanAuthinfo_revokes hcleaned a' ha' (hage.objectId.trans hobject) ?_
    rwa [h₂.now, h₁.now, hage.expiresAt]
  · have hrevoked := (visitAuthinfos_revokes hw hvisit).1 a ha (hw a hmem).1 (hevery a ha)
    exact hrevoked.evolves ((h₂.evolves.trans h₃.evolves).trans h₄.evolves)

/-- What may be done between and after transfers; `other` writes to other tables, and time passes. -/
inductive Operation
  | store (op : StoreAuthinfo) (salt plaintext : String)
  | check (objectId : Nat) (plaintext : String) (cancel : Bool)
  | clean (objectId : Nat)
  | cleanExpired
  | copy (srcId dstId : Nat)
  | transfer (op : TransferObject)
  | other (db : Database)

/-- `keep` tells what a caller makes of an exception. -/
structure Call where
  keep : Bool
  operation : Operation

def Call.next (storage : PasswordStorage) (localTime : Timestamp → Ptime) (c : Call)
    (db : Database) : Database :=
  match c.operation with
  | .store op salt plaintext => outcome c.keep (op.exec storage salt plaintext) db
  | .check objectId plaintext cancel =>
    outcome c.keep (checkAuthinfo storage objectId plaintext
      (if cancel then incrementUsageAndCancel else incrementUsage)) db
  | .clean objectId => outcome c.keep (cleanAuthinfo objectId) db
  | .cleanExpired => outcome c.keep cleanExpiredAuthinfos db
  | .copy srcId dstId => outcome c.keep (copyAuthinfos srcId dstId) db
  | .transfer op => outcome c.keep (op.exec storage localTime) db
  | .other db' => { db' with
      objectAuthinfo := db.objectAuthinfo, objectAuthinfoSeq := db.objectAuthinfoSeq }

/-- The states of a run from an empty object_authinfo table. -/
def Reached (storage : PasswordStorage) (localTime : Timestamp → Ptime) : Database → Prop :=
  Reachable (Call.next storage localTime) (fun _ _ => True) fun db => db.objectAuthinfo = ∅

/-- The states of a run that goes on from `db`. -/
def Later (storage : PasswordStorage) (localTime : Timestamp → Ptime) (db : Database) :
    Database → Prop :=
  Reachable (Call.next storage localTime) (fun _ _ => True) (· = db)

theorem next_evolves (c : Call) (db : Database) :
    Evolves db (c.next storage localTime db) ∧
      (WellStored storage db → WellStored storage (c.next storage localTime db)) := by
  obtain ⟨keep, operation⟩ := c
  have hmoves : ∀ {α : Type} {x : Exec α}, Moves (Progress storage) x →
      Evolves db (outcome keep x db) ∧
        (WellStored storage db → WellStored storage (outcome keep x db)) :=
    fun h => ⟨(h.outcome keep).evolves, (h.outcome keep).wellStored⟩
  cases operation with
  | store op salt plaintext => exact hmoves moves_storeAuthinfo
  | check objectId plaintext cancel =>
    cases cancel with
    | true => exact hmoves (moves_checkAuthinfo moves_incrementUsageAndCancel)
    | false => exact hmoves (moves_checkAuthinfo moves_incrementUsage)
  | clean objectId => exact hmoves moves_cleanAuthinfo
  | cleanExpired => exact hmoves moves_cleanExpiredAuthinfos
  | copy srcId dstId => exact hmoves moves_copyAuthinfos
  | transfer op => exact hmoves moves_transfer
  | other db' => exact ⟨⟨le_rfl, fun a ha => .inl ⟨a, ha, ages_refl a⟩⟩, fun hw => hw⟩

theorem reached_wellStored (h : Reached storage localTime db) : WellStored storage db := by
  refine h.invariant (fun db hempty a ha => ?_) fun c db _ hw => (next_evolves c db).2 hw
  rw [hempty] at ha
  exact (Table.not_mem_empty ha).elim

theorem Revoked.later {authinfoId : Nat} (hr : Revoked authinfoId db)
    (h : Later storage localTime db db') : Revoked authinfoId db' := by
  refine h.invariant (I := Revoked authinfoId) (fun db' heq => heq ▸ hr) fun c db' _ hr => ?_
  have hnext : Evolves db' (c.next storage localTime db') := (next_evolves c db').1
  exact hr.evolves hnext

/-- After a successful transfer no authinfo that was active before it is accepted any more exactly
when its password fitted none of the active authinfos of the object or all of them. -/
theorem transfer_revokes_iff (hreached : Reached storage localTime db)
    (hok : (op.exec storage localTime).run db = .ok historyId db') :
    (∀ later, Later storage localTime db' later → ∀ a ∈ activeAuthinfos db op.objectId,
        ∀ plaintext, ¬ Accepts storage later op.objectId a plaintext) ↔
      (∀ a ∈ activeAuthinfos db op.objectId, ¬ Fits storage op.authinfopw a) ∨
        ∀ a ∈ activeAuthinfos db op.objectId, Fits storage op.authinfopw a := by
  have hw := reached_wellStored hreached
  have hprogress : Progress storage db db' := moves_transfer.ok hok
  constructor
  · intro hnever
    by_contra hmixed
    simp only [not_or, not_forall, not_not] at hmixed
    obtain ⟨⟨b, hb, hfits⟩, a, ha, hnot⟩ := hmixed
    obtain ⟨a', ha', hid⟩ := transfer_keeps_others hw hok hb hfits ha hnot
    obtain ⟨own, _, _, _, _, _, hown, -⟩ := transfer_ok hok
    have hregistered := hprogress.registered _ (checkAuthinfo_ok hown).1
    obtain ⟨plaintext, hruns, b', hb', hid', hfits'⟩ :=
      exists_accepts (hprogress.wellStored hw) hregistered ha'
    exact hnever db' (.init rfl) a ha plaintext ⟨hruns, b', hb', hid'.trans hid, hfits'⟩
  · intro hall later hlater a ha plaintext
    exact not_accepts_of_revoked ((transfer_revokes hw hok hall ha).later hlater)

/-- The Plaintext algorithm of PasswordStorage. -/
def plaintextStorage : PasswordStorage where
  encrypt _ plaintext := "$plaintext$" ++ plaintext
  check plaintext encrypted := some (encrypted = "$plaintext$" ++ plaintext)
  encrypt_ne_empty _ plaintext h := by simpa using congrArg String.toList h
  check_encrypt _ plaintext := by simp
  check_readable _ _ _ := rfl

/-- A contact of the first registrar, and no authinfos. -/
def unprotectedDb : Database :=
  { Database.empty with
    registrar := ⟨[⟨1, "REG-A"⟩, ⟨2, "REG-B"⟩], by decide⟩
    objectRegistry := ⟨[⟨5, 0, "C5-CZ", "FIRST", .contact, 1, 0, none, some 1, some 1⟩], by decide⟩
    object := ⟨[⟨5, 1, none, none, none⟩], by decide⟩
    history := ⟨[⟨1, 0, none⟩], by decide⟩
    historySeq := 2 }

def storeOf (registrarId : Nat) (plaintext : String) : Call :=
  ⟨false, .store ⟨5, registrarId, 100⟩ "" plaintext⟩

/-- Both registrars have stored an authinfo of the contact. -/
def protectedDb : Database :=
  (storeOf 2 "second").next plaintextStorage (fun n => .time n)
    ((storeOf 1 "first").next plaintextStorage (fun n => .time n) unprotectedDb)

theorem reached_protectedDb : Reached plaintextStorage (fun n => .time n) protectedDb :=
  .step _ (.step _ (.init rfl) trivial) trivial

def secondTransfer : TransferObject := ⟨5, "REG-B", "second", [], none⟩

def transferredDb : Database :=
  (⟨false, .transfer secondTransfer⟩ : Call).next plaintextStorage (fun n => .time n) protectedDb

theorem transfer_revokes_iff_second :
    (∀ later, Later plaintextStorage (fun n => .time n) transferredDb later →
        ∀ a ∈ activeAuthinfos protectedDb 5, ∀ plaintext,
          ¬ Accepts plaintextStorage later 5 a plaintext) ↔
      (∀ a ∈ activeAuthinfos protectedDb 5, ¬ Fits plaintextStorage "second" a) ∨
        ∀ a ∈ activeAuthinfos protectedDb 5, Fits plaintextStorage "second" a :=
  transfer_revokes_iff reached_protectedDb
    (show (secondTransfer.exec plaintextStorage fun n => .time n).run protectedDb = .ok 2 transferredDb
      from rfl)

/-- The authinfo that the first registrar stored survives a transfer with that of the second. -/
theorem not_transfer_revokes :
    ¬ ∀ (storage : PasswordStorage) (localTime : Timestamp → Ptime) (op : TransferObject)
      (db db' later : Database) (historyId : Nat), Reached storage localTime db →
        (op.exec storage localTime).run db = .ok historyId db' →
        Later storage localTime db' later → ∀ a ∈ activeAuthinfos db op.objectId, ∀ plaintext,
          ¬ Accepts storage later op.objectId a plaintext := by
  intro h
  refine h plaintextStorage (fun n => .time n) secondTransfer protectedDb transferredDb
    transferredDb 2 reached_protectedDb rfl (.init rfl)
    ⟨1, 5, 1, some "$plaintext$first", 0, 100, none, 0⟩ (by decide) "first" ⟨⟨1, _, rfl⟩, ?_⟩
  exact ⟨⟨1, 5, 1, some "$plaintext$first", 0, 100, none, 0⟩, by decide, rfl, by decide⟩

end LibFred.Object
