import LibFred.Registrar.GroupMembership
import LibFred.Transition

/-! Registrar groups: the registrar_group table, the operations that write it, and the calls that
write it or registrar_group_map as days pass. -/
namespace LibFred.RegistrarGroups

open Sql
open GroupMembership (Now Memberships RegistrarGroupMap MembershipException
  CreateRegistrarGroupMembership EndRegistrarGroupMembership)

structure RegistrarGroup where
  id : Nat
  shortName : String
  cancelled : Option Now

instance : Keyed RegistrarGroup Nat := ⟨RegistrarGroup.id⟩

/-- registrar_group, the sequence that its ids are taken from, and registrar_group_map. -/
structure Groups where
  registrarGroup : Table RegistrarGroup
  idSeq : Nat
  memberships : Memberships

inductive GroupException
  | emptyGroupName
  | groupExists
  | alreadyCancelled
  | nonemptyGroupDelete
  | membership (e : MembershipException)
  | sqlError
  deriving DecidableEq

abbrev Exec := EStateM GroupException Groups

structure CreateRegistrarGroup where
  groupName : String

/-- INSERT of the group. -/
def CreateRegistrarGroup.insert (op : CreateRegistrarGroup) : Exec Nat := fun s =>
  match s.registrarGroup.insert? ⟨s.idSeq, op.groupName, none⟩ with
  | some t => .ok s.idSeq { s with registrarGroup := t, idSeq := s.idSeq + 1 }
  | none => .error .sqlError s

def CreateRegistrarGroup.exec (op : CreateRegistrarGroup) : Exec Nat := do
  raiseIf (op.groupName = "") .emptyGroupName
  let s ← get
  raiseIf (s.registrarGroup.select (·.shortName = op.groupName) ≠ []) .groupExists
  op.insert

/-- A group of its own name is added and memberships are left alone. -/
theorem CreateRegistrarGroup.exec_ok {op : CreateRegistrarGroup} {s s' : Groups} {id : Nat}
    (h : op.exec.run s = .ok id s') :
    s'.memberships = s.memberships ∧
      ∀ g, g ∈ s'.registrarGroup ↔ g ∈ s.registrarGroup ∨ g = ⟨s.idSeq, op.groupName, none⟩ := by
  unfold CreateRegistrarGroup.exec at h
  obtain ⟨_, t, hraise, h⟩ := run_bind_eq_ok.mp h
  obtain ⟨-, rfl⟩ := run_raiseIf_eq_ok.mp hraise
  obtain ⟨s₁, t, hget, h⟩ := run_bind_eq_ok.mp h
  obtain ⟨rfl, rfl⟩ := run_get_eq_ok.mp hget
  obtain ⟨_, t, hraise, h⟩ := run_bind_eq_ok.mp h
  obtain ⟨-, rfl⟩ := run_raiseIf_eq_ok.mp hraise
  simp only [CreateRegistrarGroup.insert, EStateM.run] at h
  split at h
  · rename_i t ht
    cases h
    exact ⟨rfl, fun _ => Table.mem_of_insert? ht⟩
  · cases h

/-- The membership has begun by the day and, unless it ends where it begins, not ended before. -/
def InForce (day : Int) (m : RegistrarGroupMap) : Prop :=
  m.memberFrom ≤ day ∧ ∀ last ∈ m.memberUntil, day ≤ last ∧ m.memberFrom ≠ last

instance (day : Int) : DecidablePred (InForce day) := fun m =>
  inferInstanceAs (Decidable (m.memberFrom ≤ day ∧
    ∀ last ∈ m.memberUntil, day ≤ last ∧ m.memberFrom ≠ last))

/-- SET cancelled=now(). -/
def cancel (now : Now) (g : RegistrarGroup) : RegistrarGroup := { g with cancelled := some now }

theorem key_cancel (now : Now) (g : RegistrarGroup) : Keyed.key (cancel now g) = Keyed.key g := rfl

structure CancelRegistrarGroup where
  groupId : Nat

def CancelRegistrarGroup.exec (op : CancelRegistrarGroup) (now : Now) : Exec Unit := do
  let s ← get
  raiseIf (s.registrarGroup.select (fun g => g.id = op.groupId ∧ g.cancelled ≠ none) ≠ [])
    .alreadyCancelled
  raiseIf (s.memberships.registrarGroupMap.select
      (fun m => m.registrarGroupId = op.groupId ∧ InForce now.date m) ≠ [])
    .nonemptyGroupDelete
  set { s with
    registrarGroup := s.registrarGroup.update (·.id = op.groupId) (cancel now) (key_cancel now) }

/-- The group was not cancelled before and nobody is its member on the day. -/
theorem CancelRegistrarGroup.exec_ok {op : CancelRegistrarGroup} {now : Now} {s s' : Groups}
    (h : (op.exec now).run s = .ok () s') :
    (∀ g ∈ s.registrarGroup, g.id = op.groupId → g.cancelled = none) ∧
      (∀ m ∈ s.memberships.registrarGroupMap, m.registrarGroupId = op.groupId →
        ¬ InForce now.date m) ∧
      s' = { s with
        registrarGroup := s.registrarGroup.update (·.id = op.groupId) (cancel now)
          (key_cancel now) } := by
  unfold CancelRegistrarGroup.exec at h
  obtain ⟨s₁, t, hget, h⟩ := run_bind_eq_ok.mp h
  obtain ⟨rfl, rfl⟩ := run_get_eq_ok.mp hget
  obtain ⟨_, t, hraise, h⟩ := run_bind_eq_ok.mp h
  obtain ⟨hactive, rfl⟩ := run_raiseIf_eq_ok.mp hraise
  obtain ⟨_, t, hraise, h⟩ := run_bind_eq_ok.mp h
  obtain ⟨hempty, rfl⟩ := run_raiseIf_eq_ok.mp hraise
  obtain rfl := run_set_eq_ok.mp h
  refine ⟨fun g hg hid => ?_, fun m hm hgroup hin => hempty ?_, rfl⟩
  · by_contra hne
    exact hactive (List.ne_nil_of_mem (Table.mem_select.mpr ⟨hg, hid, hne⟩))
  · exact List.ne_nil_of_mem (Table.mem_select.mpr ⟨hm, hgroup, hin⟩)

/-- An operation on registrar_group_map. -/
def onMemberships {α : Type} (x : GroupMembership.Exec α) : Exec α := fun s =>
  match x.run s.memberships with
  | .ok a t => .ok a { s with memberships := t }
  | .error e t => .error (.membership e) { s with memberships := t }

theorem run_discard_eq_ok {α : Type} {x : Exec α} {s s' : Groups} :
    (discard x).run s = .ok () s' ↔ ∃ a, x.run s = .ok a s' := by
  have hdiscard : discard x = x >>= fun _ => pure () := rfl
  rw [hdiscard, run_bind_eq_ok]
  constructor
  · rintro ⟨a, t, hx, hp⟩
    obtain ⟨-, rfl⟩ := run_pure_eq_ok.mp hp
    exact ⟨a, hx⟩
  · rintro ⟨a, hx⟩
    exact ⟨a, s', hx, rfl⟩

theorem run_onMemberships_eq_ok {α : Type} {x : GroupMembership.Exec α} {s s' : Groups} :
    (discard (onMemberships x)).run s = .ok () s' ↔
      ∃ a t, x.run s.memberships = .ok a t ∧ s' = { s with memberships := t } := by
  rw [run_discard_eq_ok]
  simp only [EStateM.run, onMemberships]
  cases x s.memberships with
  | ok a t =>
    constructor
    · rintro ⟨_, h⟩
      cases h
      exact ⟨a, t, rfl, rfl⟩
    · rintro ⟨_, _, h, rfl⟩
      cases h
      exact ⟨a, rfl⟩
  | error e t => simp

/-- One operation, run in a transaction of its own. -/
inductive Call
  | createGroup (op : CreateRegistrarGroup)
  | cancelGroup (op : CancelRegistrarGroup)
  | createMembership (op : CreateRegistrarGroupMembership) (choice : Nat)
  | endMembership (op : EndRegistrarGroupMembership)

def Call.exec (now : Now) : Call → Exec Unit
  | .createGroup op => discard op.exec
  | .cancelGroup op => op.exec now
  | .createMembership op choice => discard (onMemberships (op.exec choice))
  | .endMembership op => discard (onMemberships (op.exec now))

/-- The tables and the present day. -/
structure Registry extends Groups where
  today : Int

/-- A call and the time that it is made at. -/
structure TimedCall where
  now : Now
  call : Call

def TimedCall.next (c : TimedCall) (s : Registry) : Registry where
  toGroups := transaction (c.call.exec c.now) s.toGroups
  today := c.now.date

/-- The call does not raise. -/
def TimedCall.Succeeds (c : TimedCall) (s : Groups) : Prop :=
  ∃ s', (c.call.exec c.now).run s = .ok () s'

/-- States of runs from empty tables in which the day never decreases. -/
def Reached (admits : TimedCall → Registry → Prop) (s : Registry) : Prop :=
  Transition.Reachable TimedCall.next (fun c s => s.today ≤ c.now.date ∧ admits c s)
    (fun s => s.registrarGroup = ∅ ∧ s.memberships.registrarGroupMap = ∅) s

/-- Nothing is stored and it is day 0. -/
def emptyRegistry : Registry := ⟨⟨∅, 1, ⟨∅, 1⟩⟩, 0⟩

end LibFred.RegistrarGroups
