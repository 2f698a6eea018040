import LibFred.Registrar.ConcurrentZoneAccess
import LibFred.Registrar.ZoneAccessPeriods

/-! When concurrent transactions keep the accesses of a registrar to a zone apart. -/
namespace LibFred.ZoneAccess.Concurrent

open Sql

variable {s s' start : Server} {t t' id : ℕ} {control : Control} {ri : RegistrarInvoice}
  {mode : LockMode}

/-- The transaction has not asked for a lock. -/
def Control.Unlocked : Control → Prop
  | begin _ | lockTable _ _ | update _ => True
  | _ => False

namespace Server

/-- Committed accesses of one registrar to one zone share no day. -/
def Disjunct (s : Server) : Prop :=
  ∀ id id' a b, id ≠ id' → s.committed id = some a → s.committed id' = some b → Apart a b

/-- No transaction is open, ids are ahead of the sequence, and the accesses are disjunct. -/
structure Initial (s : Server) : Prop where
  clients : ∀ t, s.clients t = none
  locks : s.locks = []
  pending : ∀ id, (s.rows id).pending = none
  sequence : ∀ id, s.seq ≤ id → s.committed id = none
  ids : ∀ id ri, s.committed id = some ri → ri.id = id
  disjunct : s.Disjunct

/-- The transaction is open and has written the row. -/
def Wrote (s : Server) (t id : ℕ) (ri : RegistrarInvoice) : Prop := (s.rows id).pending = some (t, ri)

theorem view_eq_some (h : s.view t id = some ri) : s.Wrote t id ri ∨ s.committed id = some ri :=
  (Slot.view_eq_some h).imp_right And.right

theorem view_of_not_wrote (h : ∀ ri, ¬ s.Wrote t id ri) : s.view t id = s.committed id := by
  refine Slot.view_of_not_writtenBy ?_
  rintro ⟨⟨t₀, ri⟩, hp, rfl⟩
  exact h ri hp

theorem mem_invoices (h : ∀ id, s.seq ≤ id → s.rows id = Slot.empty) :
    ri ∈ s.invoices t ↔ ∃ id, s.view t id = some ri := by
  rw [invoices, List.mem_filterMap]
  constructor
  · rintro ⟨id, -, hid⟩
    exact ⟨id, hid⟩
  · rintro ⟨id, hid⟩
    refine ⟨id, List.mem_range.mpr ?_, hid⟩
    by_contra hle
    simp [view, h id (not_lt.mp hle)] at hid

/-- What a transaction has found and written by the time it has come so far. -/
def Progress (s : Server) (t : ℕ) : Control → Prop
  | .begin _ | .lockTable _ _ | .update _ | .raised _ => True
  | .selectOverlapping _ _ => (t, .accessExclusive) ∈ s.locks ∧ ∀ id ri, ¬ s.Wrote t id ri
  | .insert op fromDate => (t, .accessExclusive) ∈ s.locks ∧ (∀ id ri, ¬ s.Wrote t id ri) ∧
      ∀ id ri, s.committed id = some ri → ∀ r ∈ registrarsByHandle s.registry op.registrarHandle,
        ∀ z ∈ zonesByFqdn s.registry op.zoneFqdn, r.id = ri.registrarid → z.id = ri.zone →
          ¬ (overlapping ri fromDate (op.toDate.bind Date.day?)).holds
  | .added newId => (t, .accessExclusive) ∈ s.locks ∧ ∀ id ri, s.Wrote t id ri → id = newId ∧
      ∀ id' b, s.committed id' = some b → Apart ri b
  | .updateRow _ _ => (t, .rowExclusive) ∈ s.locks ∧ ∀ id ri, ¬ s.Wrote t id ri
  | .updated op snapshot => ∀ id ri, s.Wrote t id ri → id = op.id ∧
      ∀ rhs ∈ snapshot, rhs.id ≠ ri.id → Apart ri rhs

/-- Whoever has written a row holds a lock, and the lock of Add excludes all others. -/
structure Consistent (s : Server) : Prop where
  sequence : ∀ id, s.seq ≤ id → s.rows id = Slot.empty
  ids : ∀ id ri, s.committed id = some ri → ri.id = id
  written : ∀ t id ri, s.Wrote t id ri → ri.id = id ∧ ∃ mode, (t, mode) ∈ s.locks
  exclusive : ∀ t, (t, .accessExclusive) ∈ s.locks → ∀ l ∈ s.locks, l.1 = t
  disjunct : s.Disjunct

structure Sound (s : Server) : Prop extends s.Consistent where
  locked : ∀ l ∈ s.locks, ∃ control, s.clients l.1 = some control ∧ ¬ control.Unlocked
  progress : ∀ t control, s.clients t = some control → s.Progress t control

theorem Progress.frame (h : s.Progress t control) (hreg : s'.registry = s.registry)
    (hlocks : ∀ mode, (t, mode) ∈ s.locks → (t, mode) ∈ s'.locks)
    (hwrote : ∀ id ri, s'.Wrote t id ri → s.Wrote t id ri)
    (hcommitted : (t, .accessExclusive) ∈ s.locks → ∀ id, s'.committed id = s.committed id) :
    s'.Progress t control := by
  cases control with
  | begin call => trivial
  | lockTable op fromDate => trivial
  | update op => trivial
  | raised e => trivial
  | selectOverlapping op fromDate =>
    exact ⟨hlocks _ h.1, fun id ri hw => h.2 id ri (hwrote id ri hw)⟩
  | insert op fromDate =>
    obtain ⟨hlock, hnone, hfree⟩ := h
    refine ⟨hlocks _ hlock, fun id ri hw => hnone id ri (hwrote id ri hw), fun id ri hri => ?_⟩
    rw [hcommitted hlock] at hri
    rw [hreg]
    exact hfree id ri hri
  | added newId =>
    obtain ⟨hlock, hnew⟩ := h
    refine ⟨hlocks _ hlock, fun id ri hw => ?_⟩
    obtain ⟨hid, hapart⟩ := hnew id ri (hwrote id ri hw)
    exact ⟨hid, fun id' b hb => hapart id' b (hcommitted hlock id' ▸ hb)⟩
  | updateRow op snapshot =>
    exact ⟨hlocks _ h.1, fun id ri hw => h.2 id ri (hwrote id ri hw)⟩
  | updated op snapshot => exact fun id ri hw => h id ri (hwrote id ri hw)

theorem Sound.not_wrote (h : s.Sound) (hc : s.clients t = some control) (hu : control.Unlocked) :
    ¬ s.Wrote t id ri := by
  intro hw
  obtain ⟨-, mode, hmode⟩ := h.written t id ri hw
  obtain ⟨control', hc', hlocked⟩ := h.locked _ hmode
  obtain rfl := Option.some.inj (hc.symm.trans hc')
  exact hlocked hu

/-- A step of one transaction is checked for that transaction, and for what the others see of it. -/
theorem Sound.update (h : s.Sound) (hs' : s'.Consistent)
    (hclients : ∀ t', t' ≠ t → s'.clients t' = s.clients t')
    (hprogress : ∀ t' control, t' ≠ t → s.Progress t' control → s'.Progress t' control)
    (hlocks : ∀ l ∈ s'.locks, l.1 ≠ t → l ∈ s.locks)
    (hlocked : ∀ l ∈ s'.locks, l.1 = t → ∃ control, s'.clients t = some control ∧ ¬ control.Unlocked)
    (hown : ∀ control, s'.clients t = some control → s'.Progress t control) : s'.Sound where
  toConsistent := hs'
  locked l hl := by
    by_cases ht : l.1 = t
    · exact ht ▸ hlocked l hl ht
    · rw [hclients l.1 ht]
      exact h.locked l (hlocks l hl ht)
  progress t' control hc' := by
    by_cases ht : t' = t
    · subst ht
      exact hown control hc'
    · exact hprogress t' control ht (h.progress t' control (hclients t' ht ▸ hc'))

theorem clients_setControl_self : (s.setControl t control).clients t = some control := by
  simp [setControl]

theorem clients_setControl_of_ne (ht : t' ≠ t) : (s.setControl t control).clients t' = s.clients t' := by
  simp [setControl, ht]

theorem Sound.setControl (h : s.Sound) (hlocked : ∀ l ∈ s.locks, l.1 = t → ¬ control.Unlocked)
    (hprogress : s.Progress t control) : (s.setControl t control).Sound := by
  refine h.update (t := t) { h.toConsistent with } (fun _ => clients_setControl_of_ne) ?_
    (fun _ hl _ => hl) (fun l hl ht => ⟨_, clients_setControl_self, hlocked l hl ht⟩) ?_
  · intro t' control ht hp
    exact hp.frame rfl (fun _ hl => hl) (fun _ _ hw => hw) (fun _ _ => rfl)
  · intro control' hc'
    obtain rfl := Option.some.inj (clients_setControl_self.symm.trans hc')
    exact hprogress.frame rfl (fun _ hl => hl) (fun _ _ hw => hw) (fun _ _ => rfl)

theorem Sound.lockTable (h : s.Sound) (hgrants : s.locks.Grants t mode) (hcontrol : ¬ control.Unlocked)
    (hprogress : (s.lockTable t mode).Progress t control) :
    ((s.setControl t control).lockTable t mode).Sound := by
  refine h.update (t := t) ?_ (fun _ => clients_setControl_of_ne) ?_ ?_
    (fun l _ _ => ⟨_, clients_setControl_self, hcontrol⟩) ?_
  · refine { h.toConsistent with written := ?_, exclusive := ?_ }
    · intro t' id ri hw
      obtain ⟨hid, mode', hmode'⟩ := h.written t' id ri hw
      exact ⟨hid, mode', List.mem_cons_of_mem _ hmode'⟩
    · intro t' hlock
      have hall : ∀ l ∈ s.locks, l.1 = t' := by
        rcases List.mem_cons.mp hlock with heq | hlock
        · obtain ⟨rfl, rfl⟩ := Prod.mk.inj heq
          exact Locks.grants_accessExclusive.mp hgrants
        · exact h.exclusive t' hlock
      refine List.forall_mem_cons.mpr ⟨?_, hall⟩
      rcases List.mem_cons.mp hlock with heq | hlock
      · exact (Prod.mk.inj heq).1.symm
      · by_contra hne
        exact hgrants _ hlock (Ne.symm hne) (by simp [LockMode.Conflicts])
  · intro t' control ht hp
    exact hp.frame rfl (fun _ => List.mem_cons_of_mem _) (fun _ _ hw => hw) (fun _ _ => rfl)
  · intro l hl ht
    rcases List.mem_cons.mp hl with rfl | hl
    · exact absurd rfl ht
    · exact hl
  · intro control' hc'
    obtain rfl := Option.some.inj (clients_setControl_self.symm.trans hc')
    exact hprogress.frame rfl (fun _ hl => hl) (fun _ _ hw => hw) (fun _ _ => rfl)

theorem wrote_write {id' : ℕ} {ri' : RegistrarInvoice} :
    (s.write t id ri).Wrote t' id' ri' ↔
      id' = id ∧ t' = t ∧ ri' = ri ∨ id' ≠ id ∧ s.Wrote t' id' ri' := by
  by_cases hid : id' = id
  · subst hid
    simp only [Wrote, write, Function.update_self, Slot.write, Option.some.injEq, Prod.mk.injEq,
      true_and, ne_eq, not_true_eq_false, false_and, or_false]
    exact and_congr eq_comm eq_comm
  · simp [Wrote, write, hid]

theorem committed_write {id' : ℕ} : (s.write t id ri).committed id' = s.committed id' := by
  by_cases hid : id' = id
  · subst hid
    simp [committed, write, Slot.write]
  · simp [committed, write, hid]

/-- Nothing but rows of the transaction was written. -/
structure Writes (t : ℕ) (s s' : Server) : Prop where
  registry : s'.registry = s.registry
  locks : s'.locks = s.locks
  clients : s'.clients = s.clients
  committed : ∀ id, s'.committed id = s.committed id
  wrote : ∀ t' id ri, t' ≠ t → s'.Wrote t' id ri → s.Wrote t' id ri
  consistent : s'.Consistent

theorem Writes.refl (h : s.Consistent) : Writes t s s :=
  ⟨rfl, rfl, rfl, fun _ => rfl, fun _ _ _ _ hw => hw, h⟩

theorem Writes.trans {s'' : Server} (h : Writes t s s') (h' : Writes t s' s'') : Writes t s s'' where
  registry := h'.registry.trans h.registry
  locks := h'.locks.trans h.locks
  clients := h'.clients.trans h.clients
  committed id := (h'.committed id).trans (h.committed id)
  wrote t' id ri ht hw := h.wrote t' id ri ht (h'.wrote t' id ri ht hw)
  consistent := h'.consistent

/-- A row is written whose lock no other transaction holds; the sequence may go on. -/
theorem writes_write {n : ℕ} (h : s.Consistent) (hlock : (t, mode) ∈ s.locks) (hid : ri.id = id)
    (hseq : ∀ id', n ≤ id' → s.rows id' = Slot.empty ∧ id' ≠ id) :
    Writes t s { s.write t id ri with seq := n } := by
  refine ⟨rfl, rfl, rfl, fun id => committed_write, fun t' id' ri' ht hw => ?_, ?_⟩
  · rcases wrote_write.mp hw with ⟨-, ht', -⟩ | ⟨-, hw⟩
    · exact absurd ht' ht
    · exact hw
  · refine ⟨fun id' hn => ?_, fun id' ri' hri => ?_, fun t' id' ri' hw => ?_, h.exclusive, ?_⟩
    · obtain ⟨hempty, hne⟩ := hseq id' hn
      simpa [write, hne] using hempty
    · exact h.ids id' ri' (committed_write.symm.trans hri)
    · rcases wrote_write.mp hw with ⟨rfl, rfl, rfl⟩ | ⟨-, hw⟩
      · exact ⟨hid, mode, hlock⟩
      · exact h.written t' id' ri' hw
    · intro i i' a b hne ha hb
      exact h.disjunct i i' a b hne (committed_write.symm.trans ha) (committed_write.symm.trans hb)

theorem writes_insertInvoice {registrarid zone : ℕ} {fromDate : Int} {toDate : Option Int}
    (h : s.Consistent) (hlock : (t, mode) ∈ s.locks) :
    Writes t s (s.insertInvoice t registrarid zone fromDate toDate) := by
  refine writes_write h hlock rfl fun id' hn => ⟨h.sequence id' ?_, ?_⟩
  · exact (Nat.le_succ _).trans hn
  · exact (Nat.lt_of_succ_le hn).ne'

theorem writes_foldl {zone : ℕ} {fromDate : Int} {toDate : Option Int} {rs : List Registrar}
    (h : s.Consistent) (hlock : (t, mode) ∈ s.locks) :
    Writes t s (rs.foldl (fun s r => s.insertInvoice t r.id zone fromDate toDate) s) := by
  induction rs generalizing s with
  | nil => exact .refl h
  | cons r rs ih =>
    have hfirst : Writes t s (s.insertInvoice t r.id zone fromDate toDate) :=
      writes_insertInvoice h hlock
    exact hfirst.trans (ih hfirst.consistent (hfirst.locks ▸ hlock))

/-- The end of a statement that writes. -/
theorem Sound.write (h : s.Sound) (hw : Writes t s s')
    (hcontrol : ¬ control.Unlocked) (hprogress : s'.Progress t control) :
    (s'.setControl t control).Sound := by
  refine h.update (t := t) { hw.consistent with } (fun t' ht => ?_) ?_ (fun l hl _ => hw.locks ▸ hl)
    (fun l _ _ => ⟨_, clients_setControl_self, hcontrol⟩) ?_
  · rw [clients_setControl_of_ne ht, hw.clients]
  · intro t' control ht hp
    exact hp.frame hw.registry (fun mode hl => hw.locks.symm ▸ hl)
      (fun id ri hwrote => hw.wrote t' id ri ht hwrote) (fun _ => hw.committed)
  · intro control' hc'
    obtain rfl := Option.some.inj (clients_setControl_self.symm.trans hc')
    exact hprogress.frame rfl (fun _ hl => hl) (fun _ _ hwrote => hwrote) (fun _ _ => rfl)

theorem Sound.insert (h : s.Sound) {op : AddRegistrarZoneAccess} {fromDate : Int}
    (hprogress : s.Progress t (.insert op fromDate)) : (s.insert t op fromDate).Sound := by
  obtain ⟨hlock, hnone, hfree⟩ := hprogress
  unfold Server.insert
  split
  · exact h.setControl (fun _ _ _ => id) trivial
  · rename_i r z hr hz
    refine h.write (writes_insertInvoice h.toConsistent hlock) id ⟨hlock, fun id ri hw => ?_⟩
    rcases wrote_write.mp hw with ⟨rfl, -, rfl⟩ | ⟨-, hw⟩
    · refine ⟨rfl, fun id' b hb => ?_⟩
      rw [(writes_insertInvoice h.toConsistent hlock).committed] at hb
      refine Apart.of_before fun hreg hzone => ?_
      exact (not_overlapping_iff.mp (hfree id' b hb r (by simp [hr]) z (by simp [hz]) hreg hzone)).symm
    · exact absurd hw (hnone id ri)
  · exact h.write (writes_foldl h.toConsistent hlock) id trivial
  · exact h.setControl (fun _ _ _ => id) trivial

theorem Sound.updateRow (h : s.Sound) {op : UpdateRegistrarZoneAccess} {snapshot : List RegistrarInvoice}
    (hprogress : s.Progress t (.updateRow op snapshot)) :
    (s.updateRow t op snapshot).Sound := by
  obtain ⟨hlock, hnone⟩ := hprogress
  unfold Server.updateRow
  split
  · exact h.setControl (fun _ _ _ => id) trivial
  split_ifs with hlocked
  · exact h
  split
  · exact h.setControl (fun _ _ _ => id) trivial
  rename_i ri hri
  rw [view_of_not_wrote (hnone op.id)] at hri
  have hid : ri.id = op.id := h.ids op.id ri hri
  have hwrites : Writes t s (s.write t op.id (op.assign ri)) := by
    refine writes_write h.toConsistent hlock hid fun id' hn => ⟨h.sequence id' hn, ?_⟩
    rintro rfl
    simp [committed, h.sequence _ hn, Slot.empty] at hri
  refine h.write hwrites ?_ ?_
  · unfold updateResult
    split_ifs <;> exact id
  · unfold updateResult
    split_ifs with hover hperiod
    · trivial
    · trivial
    · intro id ri' hw
      rcases wrote_write.mp hw with ⟨rfl, -, rfl⟩ | ⟨-, hw⟩
      · refine ⟨rfl, fun rhs hrhs hne => Apart.of_before fun hreg hzone => ?_⟩
        refine (not_overlapped_iff.mp fun hoverlapped => hover ?_).symm
        exact ⟨rhs, hrhs, hreg.symm, hzone.symm, hne, hoverlapped⟩
      · exact absurd hw (hnone id ri')

theorem Sound.step (h : s.Sound) (hc : s.clients t = some control) : (s.step t control).Sound := by
  have hprogress := h.progress t control hc
  have hlocks : ∀ l ∈ s.locks, l.1 = t → ¬ control.Unlocked := by
    intro l hl ht
    obtain ⟨control', hc', hlocked⟩ := h.locked l hl
    obtain rfl := Option.some.inj (hc.symm.trans (ht ▸ hc'))
    exact hlocked
  unfold Server.step
  cases control with
  | begin call =>
    refine h.setControl (fun l hl ht => (hlocks l hl ht trivial).elim) ?_
    cases call with
    | add op =>
      simp only [begin]
      split <;> trivial
    | update op =>
      simp only [begin]
      split_ifs <;> trivial
  | lockTable op fromDate =>
    simp only
    split_ifs with hgrants
    · exact h.lockTable hgrants id ⟨List.mem_cons_self, fun id ri => h.not_wrote hc trivial⟩
    · exact h
  | selectOverlapping op fromDate =>
    obtain ⟨hlock, hnone⟩ := hprogress
    simp only
    split_ifs with hover
    · exact h.setControl (fun _ _ _ => id) trivial
    · refine h.setControl (fun _ _ _ => id) ⟨hlock, hnone, fun id ri hri r hr z hz hreg hzone hoverlapping => ?_⟩
      refine hover ⟨ri, ?_, r, hr, z, hz, hreg, hzone, hoverlapping⟩
      exact (mem_invoices h.sequence).mpr ⟨id, (view_of_not_wrote (hnone id)).trans hri⟩
  | insert op fromDate => exact h.insert hprogress
  | update op =>
    simp only
    split_ifs with hgrants
    · exact h.lockTable hgrants id ⟨List.mem_cons_self, fun id ri => h.not_wrote hc trivial⟩
    · exact h
  | updateRow op snapshot => exact h.updateRow hprogress
  | added id => exact h
  | updated op snapshot => exact h
  | raised e => exact h

/-- What the transaction has written is apart from the other committed accesses. -/
structure Commits (s : Server) (t : ℕ) : Prop where
  once : ∀ id id' a b, s.Wrote t id a → s.Wrote t id' b → id = id'
  apart : ∀ id a, s.Wrote t id a → ∀ id' b, id' ≠ id → s.committed id' = some b → Apart a b

theorem wrote_of_commit {id' : ℕ} (h : ((s.rows id').commit t).pending = some (t', ri)) :
    s.Wrote t' id' ri :=
  (Slot.pending_commit h).1

theorem Sound.commit (h : s.Sound) (hcommits : s.Commits t) :
    Sound { s with
      rows := fun id => (s.rows id).commit t
      locks := s.locks.release t
      clients := Function.update s.clients t none } := by
  refine h.update (t := t) ?_ (fun t' ht => by simp [ht]) ?_ (fun l hl _ => (Locks.mem_release.mp hl).1)
    (fun l hl ht => absurd ht (Locks.mem_release.mp hl).2) (fun control hc => by simp at hc)
  · refine ⟨fun id hid => ?_, fun id ri hri => ?_, fun t' id ri hw => ?_, fun t' hlock l hl => ?_, ?_⟩
    · change (s.rows id).commit t = Slot.empty
      rw [h.sequence id hid]
      exact Slot.commit_of_not_writtenBy Slot.not_writtenBy_none
    · rcases view_eq_some (t := t) hri with hw | hri
      · exact (h.written t id ri hw).1
      · exact h.ids id ri hri
    · obtain ⟨hw, -, ht⟩ := Slot.pending_commit hw
      obtain ⟨hid, mode, hmode⟩ := h.written t' id ri hw
      exact ⟨hid, mode, Locks.mem_release.mpr ⟨hmode, ht⟩⟩
    · exact h.exclusive t' (Locks.mem_release.mp hlock).1 l (Locks.mem_release.mp hl).1
    · intro i i' a b hne ha hb
      rcases view_eq_some (t := t) ha with hwa | ha <;> rcases view_eq_some (t := t) hb with hwb | hb
      · exact absurd (hcommits.once i i' a b hwa hwb) hne
      · exact hcommits.apart i a hwa i' b hne.symm hb
      · exact (hcommits.apart i' b hwb i a hne ha).symm
      · exact h.disjunct i i' a b hne ha hb
  · intro t' control ht hp
    refine hp.frame rfl (fun mode hl => Locks.mem_release.mpr ⟨hl, ht⟩)
      (fun id ri hw => wrote_of_commit hw) (fun hlock id => ?_)
    refine view_of_not_wrote fun ri hw => ?_
    obtain ⟨-, mode, hmode⟩ := h.written t id ri hw
    exact ht (h.exclusive t' hlock _ hmode).symm

theorem Sound.rollback (h : s.Sound) :
    Sound { s with
      rows := fun id => (s.rows id).rollback t
      locks := s.locks.release t
      clients := Function.update s.clients t none } := by
  refine h.update (t := t) ?_ (fun t' ht => by simp [ht]) ?_ (fun l hl _ => (Locks.mem_release.mp hl).1)
    (fun l hl ht => absurd ht (Locks.mem_release.mp hl).2) (fun control hc => by simp at hc)
  · refine ⟨fun id hid => ?_, h.ids, fun t' id ri hw => ?_, fun t' hlock l hl => ?_, h.disjunct⟩
    · change (s.rows id).rollback t = Slot.empty
      rw [h.sequence id hid]
      simp [Slot.rollback, Slot.empty]
    · obtain ⟨hw, ht⟩ := Slot.pending_rollback hw
      obtain ⟨hid, mode, hmode⟩ := h.written t' id ri hw
      exact ⟨hid, mode, Locks.mem_release.mpr ⟨hmode, ht⟩⟩
    · exact h.exclusive t' (Locks.mem_release.mp hlock).1 l (Locks.mem_release.mp hl).1
  · intro t' control ht hp
    exact hp.frame rfl (fun mode hl => Locks.mem_release.mpr ⟨hl, ht⟩)
      (fun id ri hw => (Slot.pending_rollback hw).1) (fun _ _ => rfl)

/-- When an UPDATE is committed, the other accesses of the registrar to the zone are the ones that it
saw: nobody has committed a change of them since it began. -/
def Undisturbed (e : Event) (s : Server) : Prop :=
  ∀ op snapshot, e.action = .finish → s.clients e.client = some (.updated op snapshot) →
    ∀ ri, s.view e.client op.id = some ri → ∀ id rhs, id ≠ op.id → s.committed id = some rhs →
      rhs.registrarid = ri.registrarid → rhs.zone = ri.zone → rhs ∈ snapshot

theorem commits_added (h : s.Sound) {newId : ℕ} (hc : s.clients t = some (.added newId)) :
    s.Commits t := by
  obtain ⟨-, hnew⟩ := h.progress t _ hc
  refine ⟨fun id id' a b ha hb => ?_, fun id a ha id' b _ hb => (hnew id a ha).2 id' b hb⟩
  exact (hnew id a ha).1.trans (hnew id' b hb).1.symm

theorem commits_updated (h : s.Sound) {op : UpdateRegistrarZoneAccess} {snapshot : List RegistrarInvoice}
    (hc : s.clients t = some (.updated op snapshot)) (hu : Undisturbed ⟨t, .finish⟩ s) : s.Commits t := by
  have hwrote := h.progress t _ hc
  refine ⟨fun id id' a b ha hb => ?_, fun id a ha id' b hne hb hreg hzone => ?_⟩
  · exact (hwrote id a ha).1.trans (hwrote id' b hb).1.symm
  · obtain ⟨rfl, hapart⟩ := hwrote id a ha
    have hview : s.view t op.id = some a := by
      simp [view, Slot.view, Slot.WrittenBy, show (s.rows op.id).pending = some (t, a) from ha]
    have hmem := hu op snapshot rfl hc a hview id' b hne hb hreg.symm hzone.symm
    refine hapart b hmem ?_ hreg hzone
    rw [h.ids id' b hb, (h.written t op.id a ha).1]
    exact hne

theorem Sound.finish (h : s.Sound) (hc : s.clients t = some control)
    (hu : Undisturbed ⟨t, .finish⟩ s) : (s.finish t control).Sound := by
  unfold Server.finish
  cases control with
  | added newId => exact h.commit (commits_added h hc)
  | updated op snapshot => exact h.commit (commits_updated h hc hu)
  | raised e => exact h.rollback
  | _ => exact h

theorem Sound.next (h : s.Sound) {e : Event} (hu : Undisturbed e s) : (next e s).Sound := by
  obtain ⟨t, action⟩ := e
  unfold Server.next
  cases hc : s.clients t with
  | none =>
    cases action with
    | start call =>
      refine h.setControl (fun l hl ht => ?_) trivial
      obtain ⟨control, hc', -⟩ := h.locked l hl
      rw [ht, hc] at hc'
      cases hc'
    | _ => exact h
  | some control =>
    cases action with
    | start call => exact h
    | step => exact h.step hc
    | finish => exact h.finish hc hu

theorem Initial.sound (h : start.Initial) : start.Sound where
  sequence id hid := by
    have hcommitted : (start.rows id).committed = none := h.sequence id hid
    have hpending := h.pending id
    cases hrow : start.rows id with
    | mk committed pending =>
      rw [hrow] at hcommitted hpending
      obtain rfl : committed = none := hcommitted
      obtain rfl : pending = none := hpending
      rfl
  ids := h.ids
  written t id ri hw := absurd ((h.pending id).symm.trans hw) nofun
  exclusive t hl := by simp [h.locks] at hl
  disjunct := h.disjunct
  locked l hl := by simp [h.locks] at hl
  progress t control hc := by simp [h.clients t] at hc

/-- However transactions that add and update accesses are interleaved, the accesses of one registrar
to one zone stay disjunct as long as no UPDATE is committed over a change that it did not see. -/
theorem accesses_stay_disjunct (hstart : start.Initial)
    (h : Transition.Reachable next Undisturbed (· = start) s) : s.Disjunct := by
  have hsound : s.Sound := by
    refine h.invariant (I := Sound) ?_ fun e s hu hs => hs.next hu
    rintro _ rfl
    exact hstart.sound
  exact hsound.disjunct

/-- Two accesses, on the days 1 to 10 and 21 to 30. -/
def sampleServer : Server where
  registry := ⟨∅, ∅⟩
  rows
    | 1 => ⟨some ⟨1, 24, 42, 1, some 10⟩, none⟩
    | 2 => ⟨some ⟨2, 24, 42, 21, some 30⟩, none⟩
    | _ => Slot.empty
  seq := 3
  locks := []
  clients _ := none

theorem initial_sampleServer : sampleServer.Initial where
  clients _ := rfl
  locks := rfl
  pending
    | 0 | 1 | 2 | _ + 3 => rfl
  sequence
    | _ + 3, _ => rfl
  ids
    | 1, _, rfl | 2, _, rfl => rfl
  disjunct
    | 1, 2, _, _, _, rfl, rfl => Apart.of_before fun _ _ => .inl ⟨10, rfl, by decide⟩
    | 2, 1, _, _, _, rfl, rfl => Apart.of_before fun _ _ => .inr ⟨10, rfl, by decide⟩
    | 1, 1, _, _, hne, _, _ | 2, 2, _, _, hne, _, _ => absurd rfl hne

def run (events : List Event) (s : Server) : Server := events.foldl (fun s e => next e s) s

/-- The first access is prolonged to day 18. -/
def prolong : AccessCall := .update ⟨1, none, some (.day 18)⟩

theorem reachable_run {events : List Event}
    (h : Transition.Reachable next Undisturbed (· = start) s)
    (hevents : ∀ e ∈ events, e.action ≠ .finish) :
    Transition.Reachable next Undisturbed (· = start) (run events s) :=
  h.run (I := fun _ => True) trivial fun e he _ _ =>
    ⟨fun _ _ hfinish => absurd hfinish (hevents e he), trivial⟩

/-- An UPDATE of one of two accesses is undisturbed when it saw the other one as it is. -/
theorem undisturbed_of_saw {e : Event} (op : UpdateRegistrarZoneAccess)
    (snapshot : List RegistrarInvoice) (hc : s.clients e.client = some (.updated op snapshot))
    (hsaw : ∀ id rhs, id ≠ op.id → s.committed id = some rhs → rhs ∈ snapshot) : Undisturbed e s := by
  intro op' snapshot' _ hc' ri _ id rhs hne hrhs _ _
  obtain ⟨rfl, rfl⟩ := Control.updated.inj (Option.some.inj (hc.symm.trans hc'))
  exact hsaw id rhs hne hrhs

/-- The same access is made to begin on day 3. -/
def shorten : AccessCall := .update ⟨1, some (.day 3), none⟩

/-- The second access is made to begin on day 20. -/
def extend : AccessCall := .update ⟨2, some (.day 20), none⟩

/-- Three transactions are open; the second one waits for the row that the first one has updated. -/
def waiting : Server :=
  run ([⟨1, .start prolong⟩, ⟨2, .start shorten⟩, ⟨3, .start extend⟩] ++
    [1, 2, 3, 1, 2, 1, 2].map fun t => ⟨t, .step⟩) sampleServer

def prolonged : Server := next ⟨1, .finish⟩ waiting

/-- The second one has updated the row that the first one has committed. -/
def shortening : Server := run [⟨2, .step⟩] prolonged

/-- The third one takes its snapshot when the other two are committed. -/
def extending : Server := run [⟨3, .step⟩, ⟨3, .step⟩] (next ⟨2, .finish⟩ shortening)

/-- An UPDATE of the first access has seen the second one, which nobody has changed. -/
theorem undisturbed_of_first {e : Event} (op : UpdateRegistrarZoneAccess) (hid : op.id = 1)
    (hc : s.clients e.client =
      some (.updated op [⟨1, 24, 42, 1, some 10⟩, ⟨2, 24, 42, 21, some 30⟩]))
    (hkept : ∀ id, id ≠ 1 → s.committed id = sampleServer.committed id) : Undisturbed e s := by
  refine undisturbed_of_saw op _ hc ?_
  intro id rhs hne hrhs
  rw [hid] at hne
  rw [hkept id hne] at hrhs
  match id, hne, hrhs with
  | 1, hne, _ => exact absurd rfl hne
  | 2, _, rfl => exact List.mem_cons_of_mem _ List.mem_cons_self

theorem reachable_extending : Transition.Reachable next Undisturbed (· = sampleServer) extending := by
  have hwaiting : Transition.Reachable next Undisturbed (· = sampleServer) waiting := by
    refine reachable_run (.init rfl) ?_
    simp
  have hprolonged : Undisturbed ⟨1, .finish⟩ waiting :=
    undisturbed_of_first ⟨1, none, some (.day 18)⟩ rfl rfl fun
      | 1, hne => absurd rfl hne
      | 0, _ | 2, _ | _ + 3, _ => rfl
  have hshortening : Undisturbed ⟨2, .finish⟩ shortening :=
    undisturbed_of_first ⟨1, some (.day 3), none⟩ rfl rfl fun
      | 1, hne => absurd rfl hne
      | 0, _ | 2, _ | _ + 3, _ => rfl
  refine reachable_run (.step _ (reachable_run (.step _ hwaiting hprolonged) ?_) hshortening) ?_
  · simp
  · simp

theorem extending_disjunct :
    (next ⟨3, .finish⟩ extending).committed 1 = some ⟨1, 24, 42, 3, some 18⟩ ∧
      (next ⟨3, .finish⟩ extending).committed 2 = some ⟨2, 24, 42, 20, some 30⟩ ∧
      (next ⟨3, .finish⟩ extending).Disjunct := by
  refine ⟨rfl, rfl, accesses_stay_disjunct initial_sampleServer (.step _ reachable_extending ?_)⟩
  refine undisturbed_of_saw ⟨2, some (.day 20), none⟩
    [⟨1, 24, 42, 3, some 18⟩, ⟨2, 24, 42, 21, some 30⟩] rfl ?_
  intro id rhs hne hrhs
  match id, hne, hrhs with
  | 1, _, rfl => exact List.mem_cons_self
  | 2, hne, _ => exact absurd rfl hne

/-- At the same time the second access is made to begin on day 15. -/
def precede : AccessCall := .update ⟨2, some (.day 15), none⟩

def concurrently : List Event :=
  [⟨1, .start prolong⟩, ⟨2, .start precede⟩] ++ [1, 2, 1, 2, 1, 2].map (fun t => ⟨t, .step⟩) ++
    [⟨1, .finish⟩, ⟨2, .finish⟩]

theorem not_accesses_stay_disjunct : ¬ ∀ start s : Server, start.Initial →
    Transition.Reachable next (fun _ _ => True) (· = start) s → (∀ t, s.clients t = none) →
      s.Disjunct := by
  intro h
  have hreach : Transition.Reachable next (fun _ _ => True) (· = sampleServer)
      (run concurrently sampleServer) :=
    Transition.Reachable.run (I := fun _ => True) (.init rfl) trivial fun _ _ _ _ => ⟨trivial, trivial⟩
  have hended : ∀ t, (run concurrently sampleServer).clients t = none
    | 0 | 1 | 2 | _ + 3 => rfl
  have hdisjoint := h sampleServer _ initial_sampleServer hreach hended 1 2
    ⟨1, 24, 42, 1, some 18⟩ ⟨2, 24, 42, 15, some 30⟩ (by decide) rfl rfl rfl rfl
  refine Span.not_disjoint_icc_iff.mpr ?_ hdisjoint
  simp

end Server

end LibFred.ZoneAccess.Concurrent
