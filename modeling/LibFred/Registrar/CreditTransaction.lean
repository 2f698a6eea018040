import LibFred.Registrar.ZoneAccessHistory
import LibFred.Sql.Inserted
import LibFred.Sql.TableLock

/-! Changes of the credit of a registrar in a zone, made by concurrent transactions under READ
COMMITTED. -/
namespace LibFred.Credit

open Sql
open LibFred.ZoneAccess (Directory Accesses HistoryRow registrarsByHandle zonesByFqdn hasAccess)

/-- A registrar and a zone, which have one credit. -/
structure Account where
  registrarId : Nat
  zoneId : Nat
  deriving DecidableEq

structure RegistrarCredit (D : Type) where
  id : Nat
  credit : D
  account : Account

structure RegistrarCreditTransaction (D : Type) where
  id : Nat
  balanceChange : D
  registrarCreditId : Nat

inductive CreditException
  | createTransactionException
  | nonexistentRegistrar
  | nonexistentZoneAccess
  | zoneAccessException
  | nonExistentZone
  deriving DecidableEq

structure CreateRegistrarCreditTransaction (D : Type) where
  registrar : String
  zone : String
  creditChange : D

/-- An operation, the day that it runs on, and the rows of the zone access history in the order that
they are returned in. -/
structure Call (D : Type) extends CreateRegistrarCreditTransaction D where
  localDay : Int
  historyRows : List HistoryRow

/-- The tables that the operation only reads. -/
structure Registries where
  dir : Directory
  accesses : Accesses
  balance : StdMap.Balance

/-- The account of the registrar and the zone, provided that the registrar has access. -/
def Call.check {D : Type} (reg : Registries) (call : Call D) : Except CreditException Account :=
  match registrarsByHandle reg.dir.toRegistry call.registrar with
  | [] => .error .nonexistentRegistrar
  | [r] =>
    match zonesByFqdn reg.dir.toRegistry call.zone with
    | [z] =>
      match ZoneAccess.GetZoneAccessHistory.exec reg.balance call.registrar call.historyRows with
      | .error .nonexistentRegistrar => .error .nonexistentRegistrar
      | .error _ => .error .zoneAccessException
      | .ok history =>
        if hasAccess history call.zone call.localDay then .ok ⟨r.id, z.id⟩
        else .error .nonexistentZoneAccess
    | _ => .error .nonExistentZone
  | _ => .error .createTransactionException

/-- The next statement of a call, or the one that runs, with what it sees in its snapshot. -/
inductive Control
  | check
  | selectCredit (account : Account)
  | lockTable (account : Account)
  | initCredit (account : Account)
  | insertOrSelect (account : Account) (snapshot : List Nat)
  | insertTransaction (account : Account) (registrarCreditId : Nat)
  | returned (result : Except CreditException Nat)

/-- An open transaction. -/
structure Client (D : Type) where
  call : Call D
  control : Control

/-- `locks` are those of registrar_credit, and `results` what the calls of the transactions that are
over have returned. -/
structure Server (D : Type) where
  registries : Registries
  registrarCredit : List (Inserted (RegistrarCredit D))
  registrarCreditSeq : Nat
  registrarCreditTransaction : List (Inserted (RegistrarCreditTransaction D))
  registrarCreditTransactionSeq : Nat
  locks : Locks
  clients : ℕ → Option (Client D)
  results : List (Call D × Except CreditException Nat)

/-- A client starts a transaction with a call, goes on with it, and ends the transaction. -/
inductive Action (D : Type)
  | start (call : Call D)
  | step
  | finish

structure Event (D : Type) where
  client : ℕ
  action : Action D

/-- SELECT id FROM registrar_credit. -/
def creditIds {D : Type} (rows : List (RegistrarCredit D)) (account : Account) : List Nat :=
  (rows.filter (·.account = account)).map (·.id)

namespace Server

variable {D : Type} [Zero D]

def setControl (s : Server D) (t : ℕ) (c : Client D) (control : Control) : Server D :=
  { s with clients := Function.update s.clients t (some { c with control := control }) }

/-- A statement waits for a lock of the table until it is granted. -/
def lockTable (s : Server D) (t : ℕ) (mode : LockMode) : Server D :=
  { s with locks := (t, mode) :: s.locks }

/-- A transaction that is open has inserted the same key. -/
def KeyPending (s : Server D) (t : ℕ) (account : Account) : Prop :=
  ∃ rc ∈ s.registrarCredit, rc.row.account = account ∧ ¬ rc.Visible t

def KeyTaken (s : Server D) (account : Account) : Prop :=
  ∃ rc ∈ s.registrarCredit, rc.row.account = account

instance (s : Server D) (t : ℕ) (account : Account) : Decidable (s.KeyPending t account) :=
  inferInstanceAs (Decidable (∃ rc ∈ s.registrarCredit, rc.row.account = account ∧ ¬ rc.Visible t))

instance (s : Server D) (account : Account) : Decidable (s.KeyTaken account) :=
  inferInstanceAs (Decidable (∃ rc ∈ s.registrarCredit, rc.row.account = account))

/-- What follows the INSERT that returned these ids, or the SELECT in its place. -/
def initiated (account : Account) : List Nat → Control
  | [registrarCreditId] => .insertTransaction account registrarCreditId
  | _ => .returned (.error .createTransactionException)

/-- INSERT ... ON CONFLICT DO NOTHING, which takes a value of the sequence in any case. It waits for
the end of a transaction that has inserted the key. Rows that are committed since then are a conflict
too, but the other SELECT of the statement reads the snapshot. -/
def insertOrSelect (s : Server D) (t : ℕ) (c : Client D) (account : Account) (snapshot : List Nat) :
    Server D :=
  if s.KeyPending t account then s
  else if s.KeyTaken account then
    { s.setControl t c (initiated account snapshot) with
      registrarCreditSeq := s.registrarCreditSeq + 1 }
  else
    { s.setControl t c (initiated account [s.registrarCreditSeq]) with
      registrarCredit := Inserted.insert s.registrarCredit t ⟨s.registrarCreditSeq, 0, account⟩
      registrarCreditSeq := s.registrarCreditSeq + 1 }

def insertTransaction (s : Server D) (t : ℕ) (c : Client D) (registrarCreditId : Nat) : Server D :=
  { s.setControl t c (.returned (.ok s.registrarCreditTransactionSeq)) with
    registrarCreditTransaction := Inserted.insert s.registrarCreditTransaction t
      ⟨s.registrarCreditTransactionSeq, c.call.creditChange, registrarCreditId⟩
    registrarCreditTransactionSeq := s.registrarCreditTransactionSeq + 1 }

/-- A step of a call; one that has to wait changes nothing. -/
def step (s : Server D) (t : ℕ) (c : Client D) : Server D :=
  match c.control with
  | .check =>
    match c.call.check s.registries with
    | .error e => s.setControl t c (.returned (.error e))
    | .ok account => s.setControl t c (.selectCredit account)
  | .selectCredit account =>
    match creditIds (Inserted.view s.registrarCredit t) account with
    | [registrarCreditId] => s.setControl t c (.insertTransaction account registrarCreditId)
    | _ => s.setControl t c (.lockTable account)
  | .lockTable account =>
    if s.locks.Grants t .exclusive then (s.setControl t c (.initCredit account)).lockTable t .exclusive
    else s
  | .initCredit account =>
    if s.locks.Grants t .rowExclusive then
      (s.setControl t c (.insertOrSelect account
        (creditIds (Inserted.view s.registrarCredit t) account))).lockTable t .rowExclusive
    else s
  | .insertOrSelect account snapshot => s.insertOrSelect t c account snapshot
  | .insertTransaction _ registrarCreditId => s.insertTransaction t c registrarCreditId
  | .returned _ => s

/-- The end of a transaction, which gives its locks back. -/
def close (s : Server D) (t : ℕ) (c : Client D) (result : Except CreditException Nat) : Server D :=
  { s with
    locks := s.locks.release t
    clients := Function.update s.clients t none
    results := s.results ++ [(c.call, result)] }

/-- A call that has returned is committed, and one that has raised is rolled back. -/
def finish (s : Server D) (t : ℕ) (c : Client D) : Server D :=
  match c.control with
  | .returned (.ok id) =>
    { s.close t c (.ok id) with
      registrarCredit := Inserted.commit s.registrarCredit t
      registrarCreditTransaction := Inserted.commit s.registrarCreditTransaction t }
  | .returned (.error e) =>
    { s.close t c (.error e) with
      registrarCredit := Inserted.rollback s.registrarCredit t
      registrarCreditTransaction := Inserted.rollback s.registrarCreditTransaction t }
  | _ => s

def next (e : Event D) (s : Server D) : Server D :=
  match s.clients e.client, e.action with
  | none, .start call =>
    { s with clients := Function.update s.clients e.client (some ⟨call, .check⟩) }
  | some c, .step => s.step e.client c
  | some c, .finish => s.finish e.client c
  | _, _ => s

/-- The history of zone accesses is read in whatever order. -/
def Admits (e : Event D) (s : Server D) : Prop :=
  ∀ call, e.action = .start call → call.historyRows.Perm
    (ZoneAccess.historyRows s.registries.dir s.registries.accesses call.registrar)

end Server

end LibFred.Credit
