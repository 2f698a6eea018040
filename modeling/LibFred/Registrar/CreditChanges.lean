import LibFred.Registrar.CreditTransaction
import LibFred.Registrar.ZoneAccessAgreement
import Mathlib.Data.Multiset.AddSub

/-! No change of a credit is lost, and every account has one credit, however its transactions are
interleaved. -/
namespace LibFred.Credit

open Sql

variable {D : Type} {s s' start : Server D} {t t' : ℕ} {c c' : Client D} {account : Account}
  {control : Control} {call : Call D} {mode : LockMode}

/-- The call has not asked for the lock of the table, or has raised before that. -/
def Control.Unlocked : Control → Prop
  | check | selectCredit _ | lockTable _ | returned (.error _) => True
  | _ => False

namespace Server

/-- What a call has done and seen by the time it has come so far. -/
def Progress (s : Server D) (t : ℕ) (call : Call D) : Control → Prop
  | .check => True
  | .selectCredit account => call.check s.registries = .ok account
  | .lockTable account => call.check s.registries = .ok account
  | .initCredit account => call.check s.registries = .ok account ∧ (t, .exclusive) ∈ s.locks
  | .insertOrSelect account snapshot =>
    call.check s.registries = .ok account ∧ (t, .exclusive) ∈ s.locks ∧
      snapshot = creditIds (Inserted.view s.registrarCredit t) account
  | .insertTransaction account registrarCreditId =>
    call.check s.registries = .ok account ∧ ∃ rc ∈ s.registrarCredit, rc.Visible t ∧
      rc.row.account = account ∧ rc.row.id = registrarCreditId
  | .returned (.ok _) =>
    ∃ account, call.check s.registries = .ok account ∧ ∃ rc ∈ s.registrarCredit, rc.Visible t ∧
      rc.row.account = account ∧ ∃ id, Inserted.pending s.registrarCreditTransaction t =
        [⟨id, call.creditChange, rc.row.id⟩]
  | .returned (.error _) => ∀ account, call.check s.registries ≠ .ok account

/-- An account has one credit at most, and credits that are not committed are of the transaction
that holds the exclusive lock. -/
structure Consistent (s : Server D) : Prop where
  accounts : (s.registrarCredit.map (·.row.account)).Nodup
  ids : (s.registrarCredit.map (·.row.id)).Nodup
  sequence : ∀ rc ∈ s.registrarCredit, rc.row.id < s.registrarCreditSeq
  references : ∀ rct ∈ s.registrarCreditTransaction, ∃ rc ∈ s.registrarCredit,
    rc.row.id = rct.row.registrarCreditId
  holder : ∀ l ∈ s.locks, ∀ l' ∈ s.locks, l.1 = l'.1
  written : ∀ rc ∈ s.registrarCredit, ∀ t ∈ rc.writer, (t, .exclusive) ∈ s.locks

structure Sound (s : Server D) : Prop extends s.Consistent where
  locked : ∀ l ∈ s.locks, ∃ c, s.clients l.1 = some c ∧ ¬ c.control.Unlocked
  progress : ∀ t c, s.clients t = some c → s.Progress t c.call c.control
  unrecorded : ∀ t, (∀ c, s.clients t = some c → ∀ id, c.control ≠ .returned (.ok id)) →
    Inserted.pending s.registrarCreditTransaction t = []

/-- Transactions see each other's committed credits only, and none when the lock is held. -/
theorem Progress.frame (h : s.Progress t call control) (hreg : s'.registries = s.registries)
    (hlocks : (t, .exclusive) ∈ s.locks → (t, .exclusive) ∈ s'.locks)
    (hcredits : ∀ rc ∈ s.registrarCredit, rc.Visible t →
      ∃ rc' ∈ s'.registrarCredit, rc'.Visible t ∧ rc'.row = rc.row)
    (hsnapshot : (t, .exclusive) ∈ s.locks →
      Inserted.view s'.registrarCredit t = Inserted.view s.registrarCredit t)
    (hpending : Inserted.pending s'.registrarCreditTransaction t =
      Inserted.pending s.registrarCreditTransaction t) : s'.Progress t call control := by
  cases control with
  | check => trivial
  | selectCredit account =>
    rw [Progress, hreg]
    exact h
  | lockTable account =>
    rw [Progress, hreg]
    exact h
  | initCredit account => exact ⟨hreg ▸ h.1, hlocks h.2⟩
  | insertOrSelect account snapshot =>
    obtain ⟨hcheck, hlock, rfl⟩ := h
    exact ⟨hreg ▸ hcheck, hlocks hlock, by rw [hsnapshot hlock]⟩
  | insertTransaction account registrarCreditId =>
    obtain ⟨hcheck, rc, hrc, hvisible, hrow⟩ := h
    obtain ⟨rc', hrc', hvisible', heq⟩ := hcredits rc hrc hvisible
    exact ⟨hreg ▸ hcheck, rc', hrc', hvisible', heq ▸ hrow⟩
  | returned result =>
    cases result with
    | error e => exact fun account => hreg ▸ h account
    | ok id =>
      obtain ⟨account, hcheck, rc, hrc, hvisible, haccount, id, hid⟩ := h
      obtain ⟨rc', hrc', hvisible', heq⟩ := hcredits rc hrc hvisible
      exact ⟨account, hreg ▸ hcheck, rc', hrc', hvisible', heq ▸ haccount, id, by rw [hpending, hid, heq]⟩

theorem Sound.account_unique (h : s.Sound) {rc rc' : Inserted (RegistrarCredit D)}
    (hrc : rc ∈ s.registrarCredit) (hrc' : rc' ∈ s.registrarCredit)
    (heq : rc.row.account = rc'.row.account) : rc = rc' :=
  List.inj_on_of_nodup_map h.accounts hrc hrc' heq

theorem Sound.id_unique (h : s.Sound) {rc rc' : Inserted (RegistrarCredit D)}
    (hrc : rc ∈ s.registrarCredit) (hrc' : rc' ∈ s.registrarCredit)
    (heq : rc.row.id = rc'.row.id) : rc = rc' :=
  List.inj_on_of_nodup_map h.ids hrc hrc' heq

theorem creditIds_view {rows : List (Inserted (RegistrarCredit D))} :
    creditIds (Inserted.view rows t) account = rows.filterMap fun rc =>
      if rc.Visible t ∧ rc.row.account = account then some rc.row.id else none := by
  induction rows with
  | nil => rfl
  | cons rc rows ih =>
    simp only [creditIds, Inserted.view] at ih ⊢
    by_cases hv : rc.Visible t <;> by_cases ha : rc.row.account = account <;>
      simp [hv, ha, ih]

/-- The SELECT returns the credit of the account. -/
theorem Sound.creditIds_of_mem (h : s.Sound) {rc : Inserted (RegistrarCredit D)}
    (hrc : rc ∈ s.registrarCredit) (hvisible : rc.Visible t) :
    creditIds (Inserted.view s.registrarCredit t) rc.row.account = [rc.row.id] := by
  have hnodup : s.registrarCredit.Nodup := List.Nodup.of_map _ h.accounts
  rw [creditIds_view, filterMap_eq_singleton hnodup]
  refine ⟨rc, hrc, if_pos ⟨hvisible, rfl⟩, fun rc' hrc' hsome => ?_⟩
  by_contra hne
  have hif : ¬ (rc'.Visible t ∧ rc'.row.account = rc.row.account) :=
    fun hif => hne (h.account_unique hrc' hrc hif.2)
  rw [if_neg hif] at hsome
  cases hsome

theorem exists_of_creditIds {id : Nat} {ids : List Nat}
    (h : creditIds (Inserted.view s.registrarCredit t) account = id :: ids) :
    ∃ rc ∈ s.registrarCredit, rc.Visible t ∧ rc.row.account = account ∧ rc.row.id = id := by
  have hmem : id ∈ creditIds (Inserted.view s.registrarCredit t) account := h ▸ List.mem_cons_self
  rw [creditIds_view] at hmem
  obtain ⟨rc, hrc, hid⟩ := List.mem_filterMap.mp hmem
  by_cases hif : rc.Visible t ∧ rc.row.account = account
  · rw [if_pos hif] at hid
    exact ⟨rc, hrc, hif.1, hif.2, Option.some.inj hid⟩
  · rw [if_neg hif] at hid
    cases hid

/-- A step of one transaction is checked for that transaction, and for what the others see of it. -/
theorem Sound.update (h : s.Sound) (hs' : s'.Consistent)
    (hclients : ∀ t', t' ≠ t → s'.clients t' = s.clients t')
    (hprogress : ∀ t' call control, t' ≠ t → s.Progress t' call control → s'.Progress t' call control)
    (hlocks : ∀ l ∈ s'.locks, l.1 ≠ t → l ∈ s.locks)
    (hpending : ∀ t', t' ≠ t → Inserted.pending s'.registrarCreditTransaction t' =
      Inserted.pending s.registrarCreditTransaction t')
    (hlocked : ∀ l ∈ s'.locks, l.1 = t → ∃ c, s'.clients t = some c ∧ ¬ c.control.Unlocked)
    (hown : ∀ c, s'.clients t = some c → s'.Progress t c.call c.control)
    (hunrecorded : (∀ c, s'.clients t = some c → ∀ id, c.control ≠ .returned (.ok id)) →
      Inserted.pending s'.registrarCreditTransaction t = []) : s'.Sound where
  toConsistent := hs'
  locked l hl := by
    by_cases ht : l.1 = t
    · exact ht ▸ hlocked l hl ht
    · rw [hclients l.1 ht]
      exact h.locked l (hlocks l hl ht)
  progress t' c' hc' := by
    by_cases ht : t' = t
    · subst ht
      exact hown c' hc'
    · exact hprogress t' _ _ ht (h.progress t' c' (hclients t' ht ▸ hc'))
  unrecorded t' hreturned := by
    by_cases ht : t' = t
    · subst ht
      exact hunrecorded hreturned
    · rw [hpending t' ht]
      exact h.unrecorded t' fun c' hc' => hreturned c' ((hclients t' ht).trans hc')

theorem clients_setControl_self : (s.setControl t c control).clients t = some { c with control := control } := by
  simp [Server.setControl]

theorem clients_setControl_of_ne (ht : t' ≠ t) : (s.setControl t c control).clients t' = s.clients t' := by
  simp [Server.setControl, ht]

theorem Sound.setControl (h : s.Sound) (hlocked : ∀ l ∈ s.locks, l.1 = t → ¬ control.Unlocked)
    (hprogress : s.Progress t c.call control)
    (hunrecorded : (∀ id, control ≠ .returned (.ok id)) →
      Inserted.pending s.registrarCreditTransaction t = []) : (s.setControl t c control).Sound := by
  refine h.update (t := t) { h.toConsistent with } (fun _ => clients_setControl_of_ne) ?_
    (fun _ hl _ => hl) (fun _ _ => rfl) (fun l hl ht => ⟨_, clients_setControl_self, hlocked l hl ht⟩) ?_ ?_
  · intro t' call control ht hp
    exact hp.frame rfl id (fun rc hrc hv => ⟨rc, hrc, hv, rfl⟩) (fun _ => rfl) rfl
  · intro c' hc'
    obtain rfl := Option.some.inj (clients_setControl_self.symm.trans hc')
    exact hprogress.frame rfl id (fun rc hrc hv => ⟨rc, hrc, hv, rfl⟩) (fun _ => rfl) rfl
  · intro hreturned
    exact hunrecorded (hreturned _ clients_setControl_self)

/-- A value of the sequence that is not used. -/
theorem Sound.skipId (h : s.Sound) :
    { s with registrarCreditSeq := s.registrarCreditSeq + 1 }.Sound where
  accounts := h.accounts
  ids := h.ids
  sequence rc hrc := Nat.lt_succ_of_lt (h.sequence rc hrc)
  references := h.references
  holder := h.holder
  written := h.written
  locked := h.locked
  progress t c hc := (h.progress t c hc).frame rfl id (fun rc hrc hv => ⟨rc, hrc, hv, rfl⟩)
    (fun _ => rfl) rfl
  unrecorded := h.unrecorded

/-- A lock is granted while no other transaction holds one. -/
theorem Sound.lockTable (h : s.Sound) (hall : ∀ l ∈ s.locks, l.1 = t) (hcontrol : ¬ control.Unlocked)
    (hprogress : (s.lockTable t mode).Progress t c.call control)
    (hunrecorded : Inserted.pending s.registrarCreditTransaction t = []) :
    ((s.setControl t c control).lockTable t mode).Sound := by
  refine h.update (t := t) ?_ (fun _ => clients_setControl_of_ne) ?_ ?_ (fun _ _ => rfl)
    (fun l _ _ => ⟨_, clients_setControl_self, hcontrol⟩) ?_ (fun _ => hunrecorded)
  · have hall' : ∀ l ∈ (t, mode) :: s.locks, l.1 = t := List.forall_mem_cons.mpr ⟨rfl, hall⟩
    exact { h.toConsistent with
      holder := fun l hl l' hl' => (hall' l hl).trans (hall' l' hl').symm
      written := fun rc hrc t ht => List.mem_cons_of_mem _ (h.written rc hrc t ht) }
  · intro t' call control ht hp
    exact hp.frame rfl (List.mem_cons_of_mem _) (fun rc hrc hv => ⟨rc, hrc, hv, rfl⟩) (fun _ => rfl) rfl
  · intro l hl ht
    rcases List.mem_cons.mp hl with rfl | hl
    · exact absurd rfl ht
    · exact hl
  · intro c' hc'
    obtain rfl := Option.some.inj (clients_setControl_self.symm.trans hc')
    exact hprogress.frame rfl id (fun rc hrc hv => ⟨rc, hrc, hv, rfl⟩) (fun _ => rfl) rfl

/-- Nobody else writes a credit while a transaction holds the exclusive lock. -/
theorem Consistent.writer_eq (h : s.Consistent) {rc : Inserted (RegistrarCredit D)}
    (hlock : (t, mode) ∈ s.locks) (hrc : rc ∈ s.registrarCredit) : rc.Visible t :=
  fun t' ht' => h.holder _ (h.written rc hrc t' ht') _ hlock

theorem Sound.insertCredit (h : s.Sound) [Zero D] (hlock : (t, .exclusive) ∈ s.locks)
    (hcheck : c.call.check s.registries = .ok account) (hfree : ¬ s.KeyTaken account)
    (hunrecorded : Inserted.pending s.registrarCreditTransaction t = []) :
    { s.setControl t c (.insertTransaction account s.registrarCreditSeq) with
      registrarCredit := Inserted.insert s.registrarCredit t ⟨s.registrarCreditSeq, 0, account⟩
      registrarCreditSeq := s.registrarCreditSeq + 1 : Server D }.Sound := by
  refine h.update (t := t) ?_ (fun _ => clients_setControl_of_ne) ?_ (fun _ hl _ => hl)
    (fun _ _ => rfl) (fun l _ _ => ⟨_, clients_setControl_self, nofun⟩) ?_ (fun _ => hunrecorded)
  · refine ⟨?_, ?_, ?_, ?_, h.holder, ?_⟩
    · simp only [Inserted.insert, List.map_append, List.map_cons, List.map_nil]
      refine h.accounts.append (List.nodup_singleton _) (List.disjoint_singleton.mpr fun hmem => ?_)
      obtain ⟨rc, hrc, hrow⟩ := List.mem_map.mp hmem
      exact hfree ⟨rc, hrc, hrow⟩
    · simp only [Inserted.insert, List.map_append, List.map_cons, List.map_nil]
      refine h.ids.append (List.nodup_singleton _) (List.disjoint_singleton.mpr fun hmem => ?_)
      obtain ⟨rc, hrc, hrow⟩ := List.mem_map.mp hmem
      exact (h.sequence rc hrc).ne hrow
    · intro rc hrc
      rcases Inserted.mem_insert.mp hrc with hrc | rfl
      · exact Nat.lt_succ_of_lt (h.sequence rc hrc)
      · exact Nat.lt_succ_self _
    · intro rct hrct
      obtain ⟨rc, hrc, hid⟩ := h.references rct hrct
      exact ⟨rc, Inserted.mem_insert.mpr (.inl hrc), hid⟩
    · intro rc hrc t' ht'
      rcases Inserted.mem_insert.mp hrc with hrc | rfl
      · exact h.written rc hrc t' ht'
      · obtain rfl := Option.some.inj ht'
        exact hlock
  · intro t' call control ht hp
    refine hp.frame rfl id (fun rc hrc hv => ⟨rc, Inserted.mem_insert.mpr (.inl hrc), hv, rfl⟩)
      (fun hlock' => ?_) rfl
    exact absurd (h.holder _ hlock' _ hlock) ht
  · intro c' hc'
    obtain rfl := Option.some.inj (clients_setControl_self.symm.trans hc')
    exact ⟨hcheck, _, Inserted.mem_insert.mpr (.inr rfl), fun _ ht' => (Option.some.inj ht').symm, rfl, rfl⟩

theorem Sound.insertTransaction (h : s.Sound) {registrarCreditId : Nat}
    (hprogress : s.Progress t c.call (.insertTransaction account registrarCreditId))
    (hunrecorded : Inserted.pending s.registrarCreditTransaction t = []) :
    (s.insertTransaction t c registrarCreditId).Sound := by
  obtain ⟨hcheck, rc, hrc, hvisible, haccount, rfl⟩ := hprogress
  refine h.update (t := t) ?_ (fun _ => clients_setControl_of_ne) ?_ (fun _ hl _ => hl) ?_
    (fun l _ _ => ⟨_, clients_setControl_self, nofun⟩) ?_ ?_
  · refine { h.toConsistent with references := fun rct hrct => ?_ }
    rcases Inserted.mem_insert.mp hrct with hrct | rfl
    · exact h.references rct hrct
    · exact ⟨rc, hrc, rfl⟩
  · intro t' call control ht hp
    exact hp.frame rfl id (fun rc hrc hv => ⟨rc, hrc, hv, rfl⟩) (fun _ => rfl)
      (Inserted.pending_insert_of_ne ht)
  · intro t' ht
    exact Inserted.pending_insert_of_ne ht
  · intro c' hc'
    obtain rfl := Option.some.inj (clients_setControl_self.symm.trans hc')
    refine ⟨account, hcheck, rc, hrc, hvisible, haccount, s.registrarCreditTransactionSeq, ?_⟩
    change Inserted.pending (Inserted.insert _ t _) t = _
    rw [Inserted.pending_insert, hunrecorded]
    rfl
  · intro hreturned
    exact absurd rfl (hreturned _ clients_setControl_self _)

theorem Sound.step [Zero D] (h : s.Sound) (hc : s.clients t = some c) : (s.step t c).Sound := by
  have hprogress := h.progress t c hc
  have hlocks : ∀ l ∈ s.locks, l.1 = t → ¬ c.control.Unlocked := by
    intro l hl ht
    obtain ⟨c', hc', hunlocked⟩ := h.locked l hl
    obtain rfl := Option.some.inj (hc.symm.trans (ht ▸ hc'))
    exact hunlocked
  have hunrecorded : (∀ id, c.control ≠ .returned (.ok id)) →
      Inserted.pending s.registrarCreditTransaction t = [] := by
    intro hreturned
    refine h.unrecorded t fun c' hc' => ?_
    obtain rfl := Option.some.inj (hc.symm.trans hc')
    exact hreturned
  obtain ⟨call, control⟩ := c
  unfold Server.step
  cases control with
  | returned result => exact h
  | check =>
    have hnone : ∀ l ∈ s.locks, l.1 = t → False := fun l hl ht => hlocks l hl ht trivial
    cases hcheck : call.check s.registries with
    | error e =>
      exact h.setControl (fun l hl ht => (hnone l hl ht).elim) (fun account => by simp [hcheck])
        (fun _ => hunrecorded nofun)
    | ok account =>
      exact h.setControl (fun l hl ht => (hnone l hl ht).elim) hcheck (fun _ => hunrecorded nofun)
  | selectCredit account =>
    have hnone : ∀ l ∈ s.locks, l.1 = t → False := fun l hl ht => hlocks l hl ht trivial
    simp only
    split
    · rename_i id hids
      exact h.setControl (fun l hl ht => (hnone l hl ht).elim)
        ⟨hprogress, exists_of_creditIds hids⟩ (fun _ => hunrecorded nofun)
    · exact h.setControl (fun l hl ht => (hnone l hl ht).elim) hprogress (fun _ => hunrecorded nofun)
  | lockTable account =>
    simp only
    split
    · rename_i hgrants
      exact h.lockTable (Locks.grants_exclusive.mp hgrants) id
        ⟨hprogress, List.mem_cons_self⟩ (hunrecorded nofun)
    · exact h
  | initCredit account =>
    obtain ⟨hcheck, hlock⟩ := hprogress
    simp only
    split
    · exact h.lockTable (fun l hl => h.holder l hl _ hlock) id
        ⟨hcheck, List.mem_cons_of_mem _ hlock, rfl⟩ (hunrecorded nofun)
    · exact h
  | insertOrSelect account snapshot =>
    obtain ⟨hcheck, hlock, rfl⟩ := hprogress
    unfold Server.insertOrSelect
    simp only
    split_ifs with hpending htaken
    · exact h
    · obtain ⟨rc, hrc, rfl⟩ := htaken
      have hvisible : rc.Visible t := h.writer_eq hlock hrc
      rw [h.creditIds_of_mem hrc hvisible]
      have hset : (s.setControl t _ (.insertTransaction rc.row.account rc.row.id)).Sound :=
        h.setControl (c := ⟨call, _⟩) (fun l _ _ => id) ⟨hcheck, rc, hrc, hvisible, rfl, rfl⟩
          (fun _ => hunrecorded nofun)
      exact hset.skipId
    · exact h.insertCredit hlock hcheck htaken (hunrecorded nofun)
  | insertTransaction account registrarCreditId =>
    exact h.insertTransaction hprogress (hunrecorded nofun)

theorem Sound.close (h : s.Sound) (hs' : s'.Consistent)
    (hreg : s'.registries = s.registries) (hlocks : s'.locks = s.locks.release t)
    (hclients : s'.clients = Function.update s.clients t none)
    (hcredits : ∀ t', t' ≠ t → ∀ rc ∈ s.registrarCredit, rc.Visible t' →
      ∃ rc' ∈ s'.registrarCredit, rc'.Visible t' ∧ rc'.row = rc.row)
    (hsnapshot : ∀ t', t' ≠ t → (t', .exclusive) ∈ s.locks →
      Inserted.view s'.registrarCredit t' = Inserted.view s.registrarCredit t')
    (hpending : ∀ t', t' ≠ t → Inserted.pending s'.registrarCreditTransaction t' =
      Inserted.pending s.registrarCreditTransaction t')
    (hown : Inserted.pending s'.registrarCreditTransaction t = []) : s'.Sound := by
  refine h.update (t := t) hs' (fun t' ht => by simp [hclients, ht]) ?_ ?_ hpending ?_ ?_ (fun _ => hown)
  · intro t' call control ht hp
    refine hp.frame hreg (fun hlock => ?_) (hcredits t' ht) (hsnapshot t' ht) (hpending t' ht)
    rw [hlocks, Locks.mem_release]
    exact ⟨hlock, ht⟩
  · intro l hl _
    rw [hlocks, Locks.mem_release] at hl
    exact hl.1
  · intro l hl ht
    rw [hlocks, Locks.mem_release] at hl
    exact absurd ht hl.2
  · intro c hc
    simp [hclients] at hc

/-- What was written without a lock is nothing. -/
theorem Sound.pending_of_unlocked (h : s.Sound) (hc : s.clients t = some c)
    (hunlocked : c.control.Unlocked) : Inserted.pending s.registrarCredit t = [] := by
  refine List.eq_nil_iff_forall_not_mem.mpr fun r hr => ?_
  obtain ⟨c', hc', hlocked⟩ := h.locked _ (h.written _ (Inserted.mem_pending.mp hr) t rfl)
  obtain rfl := Option.some.inj (hc.symm.trans hc')
  exact hlocked hunlocked

/-- The credits that are seen outside of a transaction are no different when another one holds the
lock. -/
theorem Sound.pending_of_locked (h : s.Sound) (ht : t' ≠ t) (hlock : (t', .exclusive) ∈ s.locks) :
    Inserted.pending s.registrarCredit t = [] := by
  refine List.eq_nil_iff_forall_not_mem.mpr fun r hr => ?_
  exact ht (h.writer_eq hlock (Inserted.mem_pending.mp hr) t rfl).symm

theorem Sound.commit (h : s.Sound) {id : Nat} : Sound
    { s.close t c (.ok id) with
      registrarCredit := Inserted.commit s.registrarCredit t
      registrarCreditTransaction := Inserted.commit s.registrarCreditTransaction t } := by
  refine h.close ?_ rfl rfl rfl ?_ ?_ ?_ Inserted.pending_commit_self
  · refine ⟨?_, ?_, ?_, ?_, ?_, ?_⟩
    · change (List.map (fun i => i.row.account) (Inserted.commit s.registrarCredit t)).Nodup
      rw [Inserted.map_commit (f := RegistrarCredit.account)]
      exact h.accounts
    · change (List.map (fun i => i.row.id) (Inserted.commit s.registrarCredit t)).Nodup
      rw [Inserted.map_commit (f := RegistrarCredit.id)]
      exact h.ids
    · intro rc hrc
      obtain ⟨rc', hrc', hrow, -⟩ := Inserted.exists_of_mem_commit hrc
      exact hrow ▸ h.sequence rc' hrc'
    · intro rct hrct
      obtain ⟨rct', hrct', hrow, -⟩ := Inserted.exists_of_mem_commit hrct
      obtain ⟨rc, hrc, hid⟩ := h.references rct' hrct'
      have hmap : (Inserted.commit s.registrarCredit t).map (fun i => i.row.id) =
          s.registrarCredit.map fun i => i.row.id := Inserted.map_commit (f := RegistrarCredit.id)
      have hmem : rc.row.id ∈ (Inserted.commit s.registrarCredit t).map (fun i => i.row.id) :=
        hmap ▸ List.mem_map_of_mem hrc
      obtain ⟨rc', hrc', hid'⟩ := List.mem_map.mp hmem
      exact ⟨rc', hrc', by rw [hid', hid, hrow]⟩
    · intro l hl l' hl'
      exact h.holder l (Locks.mem_release.mp hl).1 l' (Locks.mem_release.mp hl').1
    · intro rc hrc t' ht'
      obtain ⟨rc', hrc', -, hwriter⟩ := Inserted.exists_of_mem_commit hrc
      obtain ⟨hne, rfl⟩ := hwriter t' ht'
      exact Locks.mem_release.mpr ⟨h.written rc' hrc' t' ht', hne⟩
  · exact fun t' _ rc hrc hv => Inserted.exists_mem_commit hrc hv
  · intro t' ht hlock
    change Inserted.view (Inserted.commit s.registrarCredit t) t' = _
    rw [Inserted.commit_of_pending_eq_nil (h.pending_of_locked ht hlock)]
  · exact fun t' ht => Inserted.pending_commit_of_ne ht

theorem Sound.rollback (h : s.Sound) {e : CreditException}
    (hnil : Inserted.pending s.registrarCredit t = []) : Sound
    { s.close t c (.error e) with
      registrarCredit := Inserted.rollback s.registrarCredit t
      registrarCreditTransaction := Inserted.rollback s.registrarCreditTransaction t } := by
  rw [Inserted.rollback_of_pending_eq_nil hnil]
  refine h.close ?_ rfl rfl rfl ?_ ?_ ?_ Inserted.pending_rollback_self
  · refine { h.toConsistent with references := ?_, holder := ?_, written := ?_ }
    · exact fun rct hrct => h.references rct (Inserted.mem_rollback.mp hrct).1
    · intro l hl l' hl'
      exact h.holder l (Locks.mem_release.mp hl).1 l' (Locks.mem_release.mp hl').1
    · intro rc hrc t' ht'
      refine Locks.mem_release.mpr ⟨h.written rc hrc t' ht', fun he => ?_⟩
      obtain rfl : t' = t := he
      have hmem : rc.row ∈ Inserted.pending s.registrarCredit t' := by
        rw [Inserted.mem_pending, ← Option.mem_def.mp ht']
        exact hrc
      rw [hnil] at hmem
      cases hmem
  · exact fun t' _ rc hrc hv => ⟨rc, hrc, hv, rfl⟩
  · exact fun t' _ _ => rfl
  · exact fun t' ht => Inserted.pending_rollback_of_ne ht

theorem Sound.finish (h : s.Sound) (hc : s.clients t = some c) : (s.finish t c).Sound := by
  obtain ⟨call, control⟩ := c
  unfold Server.finish
  cases control with
  | returned result =>
    cases result with
    | ok id => exact h.commit
    | error e => exact h.rollback (h.pending_of_unlocked hc trivial)
  | _ => exact h

theorem Sound.begin (h : s.Sound) (hc : s.clients t = none) :
    Sound { s with clients := Function.update s.clients t (some ⟨call, .check⟩) } := by
  have hnil : Inserted.pending s.registrarCreditTransaction t = [] :=
    h.unrecorded t fun c hc' => absurd (hc.symm.trans hc') nofun
  refine h.update (t := t) { h.toConsistent with } (fun t' ht => by simp [ht]) ?_ (fun _ hl _ => hl)
    (fun _ _ => rfl) (fun l hl ht => ?_) ?_ (fun _ => hnil)
  · intro t' call control ht hp
    exact hp.frame rfl id (fun rc hrc hv => ⟨rc, hrc, hv, rfl⟩) (fun _ => rfl) rfl
  · obtain ⟨c, hc', -⟩ := h.locked l hl
    rw [ht, hc] at hc'
    cases hc'
  · intro c hc'
    obtain rfl : ⟨call, .check⟩ = c := by simpa using hc'
    trivial

theorem Sound.next [Zero D] (h : s.Sound) (e : Event D) : (next e s).Sound := by
  obtain ⟨t, action⟩ := e
  unfold Server.next
  cases hc : s.clients t with
  | none =>
    cases action with
    | start call => exact h.begin hc
    | _ => exact h
  | some c =>
    cases action with
    | start call => exact h
    | step => exact h.step hc
    | finish => exact h.finish hc

/-- The balance changes that are recorded against a credit. -/
def recorded (s : Server D) (registrarCreditId : Nat) : Multiset D :=
  (Inserted.committed s.registrarCreditTransaction).filterMap fun rct =>
    if rct.registrarCreditId = registrarCreditId then some rct.balanceChange else none

/-- The change that a call has made to the account. -/
def changeOf (reg : Registries) (account : Account) (r : Call D × Except CreditException Nat) : Option D :=
  match r.1.check reg, r.2 with
  | .ok a, .ok _ => if a = account then some r.1.creditChange else none
  | _, _ => none

/-- The changes of the calls for the account that have succeeded. -/
def succeeded (s : Server D) (account : Account) : Multiset D :=
  s.results.filterMap (changeOf s.registries account)

/-- Tables without open transactions, in which an account has one credit at most. -/
structure Initial (s : Server D) : Prop where
  clients : ∀ t, s.clients t = none
  locks : s.locks = []
  results : s.results = []
  registrarCredit : ∀ rc ∈ s.registrarCredit, rc.writer = none
  registrarCreditTransaction : ∀ rct ∈ s.registrarCreditTransaction, rct.writer = none
  accounts : (s.registrarCredit.map (·.row.account)).Nodup
  ids : (s.registrarCredit.map (·.row.id)).Nodup
  sequence : ∀ rc ∈ s.registrarCredit, rc.row.id < s.registrarCreditSeq
  references : ∀ rct ∈ s.registrarCreditTransaction, ∃ rc ∈ s.registrarCredit,
    rc.row.id = rct.row.registrarCreditId

/-- What the calls that are over have changed since `start`. -/
structure Accounted (start s : Server D) : Prop where
  registries : s.registries = start.registries
  sequence : start.registrarCreditSeq ≤ s.registrarCreditSeq
  kept : ∀ row ∈ Inserted.committed start.registrarCredit, row ∈ Inserted.committed s.registrarCredit
  changes : ∀ rc ∈ s.registrarCredit,
    s.recorded rc.row.id = start.recorded rc.row.id + s.succeeded rc.row.account
  valid : ∀ r ∈ s.results, ∀ account, r.1.check s.registries = .ok account →
    (∃ id, r.2 = .ok id) ∧ ∃ row ∈ Inserted.committed s.registrarCredit, row.account = account

theorem Initial.sound (h : start.Initial) : start.Sound where
  accounts := h.accounts
  ids := h.ids
  sequence := h.sequence
  references := h.references
  holder l hl := by simp [h.locks] at hl
  written rc hrc t ht := by simp [h.registrarCredit rc hrc] at ht
  locked l hl := by simp [h.locks] at hl
  progress t c hc := by simp [h.clients t] at hc
  unrecorded t _ := by
    refine List.eq_nil_iff_forall_not_mem.mpr fun r hr => ?_
    exact absurd (h.registrarCreditTransaction _ (Inserted.mem_pending.mp hr)) nofun

theorem Initial.accounted (h : start.Initial) : Accounted start start where
  registries := rfl
  sequence := le_rfl
  kept _ hrow := hrow
  changes rc hrc := by simp [succeeded, h.results]
  valid r hr := by simp [h.results] at hr

/-- Nothing is recorded against an id that the sequence has not reached. -/
theorem recorded_of_le (h : s.Consistent) {id : Nat} (hid : s.registrarCreditSeq ≤ id) :
    s.recorded id = 0 := by
  have hnil : (Inserted.committed s.registrarCreditTransaction).filterMap (fun rct =>
      if rct.registrarCreditId = id then some rct.balanceChange else none) = [] := by
    refine List.filterMap_eq_nil_iff.mpr fun rct hrct => if_neg fun he => ?_
    obtain ⟨rc, hrc, hrow⟩ := h.references _ (Inserted.mem_committed.mp hrct)
    exact absurd (h.sequence rc hrc) (not_lt.mpr (hid.trans_eq (he.symm.trans hrow.symm)))
  rw [recorded, hnil]
  rfl

theorem succeeded_of_free (h : Accounted start s) (hfree : ∀ row ∈ Inserted.committed s.registrarCredit,
    row.account ≠ account) : s.succeeded account = 0 := by
  have hnil : s.results.filterMap (changeOf s.registries account) = [] := by
    refine List.filterMap_eq_nil_iff.mpr fun r hr => ?_
    unfold changeOf
    split
    · rename_i a id hcheck hresult
      obtain ⟨-, row, hrow, haccount⟩ := h.valid r hr a hcheck
      exact if_neg fun he => hfree row hrow (haccount.trans he)
    · rfl
  rw [succeeded, hnil]
  rfl

/-- What a step of a call may write: a credit for an account without one, and records that are not
committed. -/
theorem step_tables [Zero D] :
    (s.step t c).registries = s.registries ∧ (s.step t c).results = s.results ∧
      s.registrarCreditSeq ≤ (s.step t c).registrarCreditSeq ∧
      Inserted.committed (s.step t c).registrarCreditTransaction =
        Inserted.committed s.registrarCreditTransaction ∧
      ((s.step t c).registrarCredit = s.registrarCredit ∨ ∃ account, ¬ s.KeyTaken account ∧
        (s.step t c).registrarCredit =
          Inserted.insert s.registrarCredit t ⟨s.registrarCreditSeq, 0, account⟩) := by
  obtain ⟨call, control⟩ := c
  unfold Server.step
  cases control with
  | check =>
    simp only
    split <;> exact ⟨rfl, rfl, le_rfl, rfl, .inl rfl⟩
  | selectCredit account =>
    simp only
    split <;> exact ⟨rfl, rfl, le_rfl, rfl, .inl rfl⟩
  | lockTable account =>
    simp only
    split <;> exact ⟨rfl, rfl, le_rfl, rfl, .inl rfl⟩
  | initCredit account =>
    simp only
    split <;> exact ⟨rfl, rfl, le_rfl, rfl, .inl rfl⟩
  | insertOrSelect account snapshot =>
    unfold Server.insertOrSelect
    simp only
    split_ifs with hpending htaken
    · exact ⟨rfl, rfl, le_rfl, rfl, .inl rfl⟩
    · exact ⟨rfl, rfl, Nat.le_succ _, rfl, .inl rfl⟩
    · exact ⟨rfl, rfl, Nat.le_succ _, rfl, .inr ⟨account, htaken, rfl⟩⟩
  | insertTransaction account registrarCreditId =>
    exact ⟨rfl, rfl, le_rfl, Inserted.committed_insert, .inl rfl⟩
  | returned result => exact ⟨rfl, rfl, le_rfl, rfl, .inl rfl⟩

theorem Accounted.step [Zero D] (h : Accounted start s) (hs : s.Sound) (hstart : start.Consistent) :
    Accounted start (s.step t c) := by
  obtain ⟨hreg, hresults, hseq, htransactions, hcredits⟩ := step_tables (s := s) (t := t) (c := c)
  have hcommitted : Inserted.committed (s.step t c).registrarCredit =
      Inserted.committed s.registrarCredit := by
    rcases hcredits with heq | ⟨account, -, heq⟩
    · rw [heq]
    · rw [heq, Inserted.committed_insert]
  have hrecorded : ∀ id, (s.step t c).recorded id = s.recorded id := by
    intro id
    rw [recorded, htransactions, recorded]
  have hsucceeded : ∀ account, (s.step t c).succeeded account = s.succeeded account := by
    intro account
    rw [succeeded, hresults, hreg, succeeded]
  refine ⟨hreg.trans h.registries, h.sequence.trans hseq, ?_, ?_, ?_⟩
  · rw [hcommitted]
    exact h.kept
  · intro rc hrc
    rw [hrecorded, hsucceeded]
    rcases hcredits with heq | ⟨account, hfree, heq⟩
    · exact h.changes rc (heq ▸ hrc)
    · rw [heq] at hrc
      rcases Inserted.mem_insert.mp hrc with hrc | rfl
      · exact h.changes rc hrc
      · rw [recorded_of_le hs.toConsistent le_rfl, recorded_of_le hstart h.sequence,
          succeeded_of_free h fun row hrow he => hfree ⟨_, Inserted.mem_committed.mp hrow, he⟩]
        rfl
  · rw [hresults, hreg, hcommitted]
    exact h.valid

theorem committed_subset_commit {ρ : Type} {rows : List (Inserted ρ)} {r : ρ}
    (h : r ∈ Inserted.committed rows) : r ∈ Inserted.committed (Inserted.commit rows t) :=
  Inserted.mem_committed.mpr (Inserted.mem_commit.mpr (.inl ⟨Inserted.mem_committed.mp h, nofun⟩))

/-- The change that a call has recorded counts once it is committed. -/
theorem Accounted.commit (h : Accounted start s) (hs : s.Sound) {id : Nat}
    (hprogress : s.Progress t c.call (.returned (.ok id))) : Accounted start
    { s.close t c (.ok id) with
      registrarCredit := Inserted.commit s.registrarCredit t
      registrarCreditTransaction := Inserted.commit s.registrarCreditTransaction t } := by
  obtain ⟨account, hcheck, rc, hrc, hvisible, haccount, transactionId, hpending⟩ := hprogress
  refine ⟨h.registries, h.sequence, fun row hrow => committed_subset_commit (h.kept row hrow), ?_, ?_⟩
  · intro rc' hrc'
    obtain ⟨rc₀, hrc₀, hrow, -⟩ := Inserted.exists_of_mem_commit hrc'
    have hsame : rc.row.id = rc'.row.id ↔ account = rc'.row.account := by
      rw [← hrow, ← haccount]
      constructor
      · exact fun hid => congrArg (·.row.account) (hs.id_unique hrc hrc₀ hid)
      · exact fun ha => congrArg (·.row.id) (hs.account_unique hrc hrc₀ ha)
    have hcommitted : (Inserted.committed (Inserted.commit s.registrarCreditTransaction t)).Perm
        (Inserted.committed s.registrarCreditTransaction ++
          Inserted.pending s.registrarCreditTransaction t) := Inserted.committed_commit_perm
    have hperm := hcommitted.filterMap fun rct =>
      if rct.registrarCreditId = rc'.row.id then some rct.balanceChange else none
    rw [hpending, List.filterMap_append] at hperm
    have hrecorded := Multiset.coe_eq_coe.mpr hperm
    have hbefore := h.changes rc₀ hrc₀
    rw [hrow] at hbefore
    simp only [recorded, succeeded, Server.close, List.filterMap_append] at hrecorded hbefore ⊢
    rw [hrecorded, ← Multiset.coe_add, ← Multiset.coe_add, hbefore, Multiset.add_assoc]
    congr 2
    by_cases ha : account = rc'.row.account
    · simp [changeOf, hcheck, ha, hsame.mpr ha]
    · simp [changeOf, hcheck, ha, mt hsame.mp ha]
  · intro r hr a ha
    rcases List.mem_append.mp hr with hr | hr
    · obtain ⟨hok, row, hrow, hrowAccount⟩ := h.valid r hr a ha
      exact ⟨hok, row, committed_subset_commit hrow, hrowAccount⟩
    · obtain rfl : r = (c.call, .ok id) := List.mem_singleton.mp hr
      obtain rfl := Except.ok.inj (hcheck.symm.trans ha)
      refine ⟨⟨id, rfl⟩, rc.row, Inserted.mem_committed.mpr (Inserted.mem_commit.mpr ?_), haccount⟩
      obtain ⟨row, writer⟩ := rc
      cases writer with
      | none => exact .inl ⟨hrc, nofun⟩
      | some t' =>
        obtain rfl := hvisible t' rfl
        exact .inr ⟨rfl, hrc⟩

/-- A call raises only when its registrar, its zone or the access is not valid. -/
theorem Accounted.rollback (h : Accounted start s) {e : CreditException}
    (hnil : Inserted.pending s.registrarCredit t = [])
    (hinvalid : ∀ account, c.call.check s.registries ≠ .ok account) : Accounted start
    { s.close t c (.error e) with
      registrarCredit := Inserted.rollback s.registrarCredit t
      registrarCreditTransaction := Inserted.rollback s.registrarCreditTransaction t } := by
  rw [Inserted.rollback_of_pending_eq_nil hnil]
  refine ⟨h.registries, h.sequence, h.kept, fun rc hrc => ?_, ?_⟩
  · have hbefore := h.changes rc hrc
    simp only [recorded, succeeded, Server.close, Inserted.committed_rollback,
      List.filterMap_append] at hbefore ⊢
    rw [hbefore]
    simp [changeOf]
  · intro r hr a ha
    rcases List.mem_append.mp hr with hr | hr
    · exact h.valid r hr a ha
    · obtain rfl : r = (c.call, .error e) := List.mem_singleton.mp hr
      exact absurd ha (hinvalid a)

theorem Accounted.finish (h : Accounted start s) (hs : s.Sound) (hc : s.clients t = some c) :
    Accounted start (s.finish t c) := by
  have hprogress := hs.progress t c hc
  obtain ⟨call, control⟩ := c
  unfold Server.finish
  cases control with
  | returned result =>
    cases result with
    | ok id => exact h.commit hs hprogress
    | error e => exact h.rollback (hs.pending_of_unlocked hc trivial) hprogress
  | _ => exact h

theorem Accounted.next [Zero D] (h : Accounted start s) (hs : s.Sound) (hstart : start.Consistent)
    (e : Event D) : Accounted start (next e s) := by
  obtain ⟨t, action⟩ := e
  unfold Server.next
  cases hc : s.clients t with
  | none =>
    cases action with
    | start call => exact { h with }
    | _ => exact h
  | some c =>
    cases action with
    | start call => exact h
    | step => exact h.step hs hstart
    | finish => exact h.finish hs hc

/-- The next statement of the transaction waits for another one to end. -/
def Waits (s : Server D) (t : ℕ) (c : Client D) : Prop :=
  match c.control with
  | .lockTable _ => ¬ s.locks.Grants t .exclusive
  | .initCredit _ => ¬ s.locks.Grants t .rowExclusive
  | .insertOrSelect account _ => s.KeyPending t account
  | _ => False

theorem Sound.not_waits_of_lock (h : s.Sound) (hc : s.clients t = some c) (hlock : (t, mode) ∈ s.locks) :
    ¬ s.Waits t c := by
  obtain ⟨c', hc', hlocked⟩ := h.locked _ hlock
  obtain rfl := Option.some.inj (hc.symm.trans hc')
  have hgrants : ∀ mode, s.locks.Grants t mode :=
    fun mode l hl hne => absurd (h.holder l hl _ hlock) hne
  obtain ⟨call, control⟩ := c
  cases control with
  | lockTable account => exact absurd trivial hlocked
  | initCredit account => exact fun hwaits => hwaits (hgrants .rowExclusive)
  | insertOrSelect account snapshot =>
    rintro ⟨rc, hrc, -, hinvisible⟩
    exact hinvisible (h.writer_eq hlock hrc)
  | _ => exact id

/-- There is no deadlock. -/
theorem Sound.exists_not_waits (h : s.Sound) (hc : s.clients t = some c) :
    ∃ t' c', s.clients t' = some c' ∧ ¬ s.Waits t' c' := by
  by_cases hwaits : s.Waits t c
  · have hlock : ∃ l, l ∈ s.locks := by
      have hprogress := h.progress t c hc
      obtain ⟨call, control⟩ := c
      cases control with
      | lockTable account =>
        by_contra hnone
        push Not at hnone
        exact hwaits fun l hl => absurd hl (hnone l)
      | initCredit account => exact ⟨_, hprogress.2⟩
      | insertOrSelect account snapshot => exact ⟨_, hprogress.2.1⟩
      | _ => exact hwaits.elim
    obtain ⟨l, hl⟩ := hlock
    obtain ⟨c', hc', -⟩ := h.locked l hl
    exact ⟨l.1, c', hc', h.not_waits_of_lock hc' hl⟩
  · exact ⟨t, c, hc, hwaits⟩

theorem run_accounted [Zero D] (hstart : start.Initial)
    (h : Transition.Reachable next Admits (· = start) s) : s.Sound ∧ Accounted start s := by
  refine h.invariant (I := fun s => s.Sound ∧ Accounted start s) ?_ ?_
  · rintro _ rfl
    exact ⟨hstart.sound, hstart.accounted⟩
  · rintro e s - ⟨hs, ha⟩
    exact ⟨hs.next e, ha.next hs hstart.sound.toConsistent e⟩

theorem Sound.nodup_committed (h : s.Sound) :
    ((Inserted.committed s.registrarCredit).map (·.account)).Nodup := by
  rw [Inserted.committed, List.map_map]
  exact h.accounts.sublist (List.filter_sublist.map _)

/-- No change of a credit is lost: whatever the order in which transactions take their steps, an
account has one credit, a call with a valid registrar, zone and access succeeds, and what is recorded
against the credit are the changes of the calls that have succeeded. Some open transaction can always
go on. -/
theorem no_change_lost [Zero D] (hstart : start.Initial)
    (h : Transition.Reachable next Admits (· = start) s) :
    ((Inserted.committed s.registrarCredit).map (·.account)).Nodup ∧
      (∀ rc ∈ Inserted.committed start.registrarCredit, rc ∈ Inserted.committed s.registrarCredit) ∧
      (∀ r ∈ s.results, ∀ account, r.1.check start.registries = .ok account →
        (∃ id, r.2 = .ok id) ∧ ∃ rc ∈ Inserted.committed s.registrarCredit, rc.account = account) ∧
      (∀ rc ∈ Inserted.committed s.registrarCredit,
        s.recorded rc.id = start.recorded rc.id + s.succeeded rc.account) ∧
      ((∃ t c, s.clients t = some c) → ∃ t c, s.clients t = some c ∧ ¬ s.Waits t c) := by
  obtain ⟨hs, ha⟩ := run_accounted hstart h
  refine ⟨hs.nodup_committed, ha.kept, ?_, ?_, ?_⟩
  · exact ha.registries ▸ ha.valid
  · exact fun rc hrc => ha.changes _ (Inserted.mem_committed.mp hrc)
  · rintro ⟨t, c, hc⟩
    exact hs.exists_not_waits hc

def sampleServer : Server Int where
  registries := ⟨ZoneAccess.sampleDirectory, (ZoneAccess.sampleAdd 5 10).next ⟨∅, 1⟩,
    ZoneAccess.sampleBalance⟩
  registrarCredit := []
  registrarCreditSeq := 1
  registrarCreditTransaction := []
  registrarCreditTransactionSeq := 1
  locks := []
  clients _ := none
  results := []

def sampleCall (creditChange : Int) : Call Int where
  registrar := "reg-test"
  zone := "cz"
  creditChange := creditChange
  localDay := 7
  historyRows := ZoneAccess.historyRows sampleServer.registries.dir sampleServer.registries.accesses
    "reg-test"

/-- Two transactions look for the credit before there is one; the second has to wait for the first. -/
def sampleEvents : List (Event Int) :=
  [⟨1, .start (sampleCall 30)⟩, ⟨2, .start (sampleCall (-5))⟩] ++
    [1, 2, 1, 2, 1, 2, 1, 1, 1].map (fun t => ⟨t, .step⟩) ++ [⟨1, .finish⟩] ++
      [2, 2, 2, 2].map (fun t => ⟨t, .step⟩) ++ [⟨2, .finish⟩]

def sampleRun : Server Int := sampleEvents.foldl (fun s e => next e s) sampleServer

theorem registries_next [Zero D] {e : Event D} : (next e s).registries = s.registries := by
  obtain ⟨t, action⟩ := e
  unfold Server.next
  cases s.clients t with
  | none => cases action <;> rfl
  | some c =>
    cases action with
    | start call => rfl
    | step => exact step_tables.1
    | finish =>
      simp only [Server.finish]
      split <;> rfl

theorem no_change_lost_sampleRun : ∃ rc ∈ Inserted.committed sampleRun.registrarCredit,
    rc.account = ⟨1, 1⟩ ∧ sampleRun.recorded rc.id = {30, -5} := by
  have hstart : sampleServer.Initial :=
    ⟨fun _ => rfl, rfl, rfl, nofun, nofun, List.nodup_nil, List.nodup_nil, nofun, nofun⟩
  have hcalls : ∀ e ∈ sampleEvents, ∀ call, e.action = .start call →
      call.historyRows = (sampleCall 0).historyRows ∧ call.registrar = "reg-test" := by
    intro e he call hcall
    simp only [sampleEvents, List.mem_append, List.mem_cons, List.mem_map, List.not_mem_nil,
      or_false] at he
    rcases he with ((((rfl | rfl) | ⟨_, _, rfl⟩) | rfl) | ⟨_, _, rfl⟩) | rfl <;> cases hcall
    · exact ⟨rfl, rfl⟩
    · exact ⟨rfl, rfl⟩
  have hreach : Transition.Reachable next Admits (· = sampleServer) sampleRun := by
    refine Transition.Reachable.run (.init rfl) (I := fun s => s.registries = sampleServer.registries)
      rfl fun e he s hs => ⟨fun call hcall => ?_, registries_next.trans hs⟩
    obtain ⟨hrows, hregistrar⟩ := hcalls e he call hcall
    rw [hrows, hregistrar, hs]
    exact List.Perm.refl _
  obtain ⟨-, -, -, hchanges, -⟩ := no_change_lost hstart hreach
  have haccounts : (Inserted.committed sampleRun.registrarCredit).map (·.account) = [⟨1, 1⟩] := by
    decide +kernel
  have hsucceeded : sampleRun.succeeded ⟨1, 1⟩ = {30, -5} := by decide +kernel
  have hmem : (⟨1, 1⟩ : Account) ∈ (Inserted.committed sampleRun.registrarCredit).map (·.account) := by
    rw [haccounts]
    exact List.mem_singleton.mpr rfl
  obtain ⟨rc, hrc, haccount⟩ := List.mem_map.mp hmem
  refine ⟨rc, hrc, haccount, ?_⟩
  rw [hchanges rc hrc, haccount, hsucceeded]
  rfl

end Server

end LibFred.Credit
