import LibFred.Order.Span
import LibFred.Sql.Action
import LibFred.Sql.OrderBy
import LibFred.Sql.Table
import LibFred.Sql.Truth
import LibFred.Values

/-! Memberships of registrars in groups: the registrar_group_map table and the operations that
write it. -/
namespace LibFred.GroupMembership

open Sql

structure RegistrarGroupMap where
  id : Nat
  registrarId : Nat
  registrarGroupId : Nat
  memberFrom : Int
  memberUntil : Option Int

instance : Keyed RegistrarGroupMap Nat := ⟨RegistrarGroupMap.id⟩

/-- registrar_group_map and the sequence that its ids are taken from. -/
structure Memberships where
  registrarGroupMap : Table RegistrarGroupMap
  idSeq : Nat

inductive MembershipException
  | wrongIntervalOrder
  | intervalIntersection
  | membershipNotFound
  /-- A `throw` without an exception to rethrow ends the program. -/
  | terminate
  | sqlError
  deriving DecidableEq

abbrev Exec := EStateM MembershipException Memberships

/-- The memberships of a registrar in a group. -/
def membershipsOf (s : Memberships) (registrarId groupId : Nat) : List RegistrarGroupMap :=
  s.registrarGroupMap.select fun m => m.registrarId = registrarId ∧ m.registrarGroupId = groupId

/-- The order of `member_until DESC`. -/
def untilDesc (a b : RegistrarGroupMap) : Prop := nullsLast b.memberUntil ≤ nullsLast a.memberUntil

instance : DecidableRel untilDesc := fun a b =>
  (nullsLast b.memberUntil).decidableLE (nullsLast a.memberUntil)

/-- Ends the membership on a day, which is not part of it any more. -/
def endAt (day : Int) (m : RegistrarGroupMap) : RegistrarGroupMap :=
  { m with memberUntil := some day }

theorem key_endAt (day : Int) (m : RegistrarGroupMap) :
    Keyed.key (endAt day m) = Keyed.key m := rfl

structure CreateRegistrarGroupMembership where
  registrarId : Nat
  groupId : Nat
  memberFrom : Int
  memberUntil : Date

/-- The end precedes the day. It does not when it is no date. -/
def precedes : Date → Int → Prop
  | .day memberUntil, memberFrom => memberUntil < memberFrom
  | .negInfin, _ => True
  | .posInfin, _ => False
  | .notADateTime, _ => False

instance : ∀ memberUntil memberFrom, Decidable (precedes memberUntil memberFrom)
  | .day memberUntil, memberFrom => inferInstanceAs (Decidable (memberUntil < memberFrom))
  | .negInfin, _ => .isTrue trivial
  | .posInfin, _ => .isFalse id
  | .notADateTime, _ => .isFalse id

/-- INSERT of the membership. An end that is no day is stored as NULL. -/
def CreateRegistrarGroupMembership.insert (op : CreateRegistrarGroupMembership) : Exec Nat :=
  fun s =>
  match s.registrarGroupMap.insert?
      ⟨s.idSeq, op.registrarId, op.groupId, op.memberFrom, op.memberUntil.day?⟩ with
  | some t => .ok s.idSeq ⟨t, s.idSeq + 1⟩
  | none => .error .sqlError s

/-- An open membership found last is ended on the day that the new one begins. `choice` stands for
the database's among memberships that end last. -/
def CreateRegistrarGroupMembership.exec (op : CreateRegistrarGroupMembership) (choice : Nat) :
    Exec Nat := do
  raiseIf (precedes op.memberUntil op.memberFrom) .wrongIntervalOrder
  let s ← get
  match firstBy untilDesc choice (membershipsOf s op.registrarId op.groupId) with
  | none => op.insert
  | some last =>
    match last.memberUntil with
    | none => do
      let ended := s.registrarGroupMap.update (·.id = last.id) (endAt op.memberFrom)
        (key_endAt op.memberFrom)
      set { s with registrarGroupMap := ended }
      op.insert
    | some lastUntil => do
      raiseIf (op.memberFrom < lastUntil) .intervalIntersection
      op.insert

/-- NOW(): its date, and whether it is the midnight that the date begins with. -/
structure Now where
  date : Int
  midnight : Bool

/-- member_until >= NOW(), where the date stands for its midnight. -/
def notOver (now : Now) (memberUntil : Option Int) : Truth :=
  (isNull memberUntil).or
    (memberUntil.map fun day => decide (now.date < day ∨ now.midnight ∧ day = now.date))

structure EndRegistrarGroupMembership where
  registrarId : Nat
  groupId : Nat

def EndRegistrarGroupMembership.exec (op : EndRegistrarGroupMembership) (now : Now) : Exec Nat := do
  let s ← get
  match (membershipsOf s op.registrarId op.groupId).filter (notOver now ·.memberUntil |>.holds) with
  | [] => throw .membershipNotFound
  | [m] => do
    let ended := s.registrarGroupMap.update (·.id = m.id) (endAt now.date) (key_endAt now.date)
    set { s with registrarGroupMap := ended }
    return m.id
  | _ => throw .terminate

/-- One operation, run in a transaction of its own. -/
inductive Call
  | createMembership (op : CreateRegistrarGroupMembership) (choice : Nat)
  | endMembership (op : EndRegistrarGroupMembership) (now : Now)

def Call.exec : Call → Exec Nat
  | .createMembership op choice => op.exec choice
  | .endMembership op now => op.exec now

def Call.next (c : Call) (s : Memberships) : Memberships := transaction c.exec s

end LibFred.GroupMembership
