import LibFred.Registrar.ZoneAccess
import LibFred.Sql.ReadCommitted
import LibFred.Sql.TableLock

/-! Concurrent transactions that add and update zone accesses under READ COMMITTED, statement by
statement. -/
namespace LibFred.ZoneAccess.Concurrent

open Sql

/-- The operation of a transaction. -/
inductive AccessCall
  | add (op : AddRegistrarZoneAccess)
  | update (op : UpdateRegistrarZoneAccess)

/-- The next statement of an open transaction, or the UPDATE that runs, with what it saw when it
began; a transaction that is done has its result. -/
inductive Control
  | begin (call : AccessCall)
  | lockTable (op : AddRegistrarZoneAccess) (fromDate : Int)
  | selectOverlapping (op : AddRegistrarZoneAccess) (fromDate : Int)
  | insert (op : AddRegistrarZoneAccess) (fromDate : Int)
  | added (id : Nat)
  | update (op : UpdateRegistrarZoneAccess)
  | updateRow (op : UpdateRegistrarZoneAccess) (snapshot : List RegistrarInvoice)
  | updated (op : UpdateRegistrarZoneAccess) (snapshot : List RegistrarInvoice)
  | raised (e : ZoneAccessException)

/-- The rows of registrarinvoice, the sequence of their ids, the locks of the table, and the open
transactions. -/
structure Server where
  registry : Registry
  rows : ℕ → Slot RegistrarInvoice
  seq : ℕ
  locks : Locks
  clients : ℕ → Option Control

inductive Action
  | start (call : AccessCall)
  | step
  | finish

structure Event where
  client : ℕ
  action : Action

namespace Server

def view (s : Server) (t id : ℕ) : Option RegistrarInvoice := (s.rows id).view t

def committed (s : Server) (id : ℕ) : Option RegistrarInvoice := (s.rows id).committed

/-- The rows that a statement of the transaction reads. -/
def invoices (s : Server) (t : ℕ) : List RegistrarInvoice := (List.range s.seq).filterMap (s.view t)

def setControl (s : Server) (t : ℕ) (control : Control) : Server :=
  { s with clients := Function.update s.clients t (some control) }

def lockTable (s : Server) (t : ℕ) (mode : LockMode) : Server :=
  { s with locks := (t, mode) :: s.locks }

def write (s : Server) (t id : ℕ) (ri : RegistrarInvoice) : Server :=
  { s with rows := Function.update s.rows id ((s.rows id).write t ri) }

/-- The checks of the dates that precede any statement. -/
def begin : AccessCall → Control
  | .add op =>
    match op.fromDate.day? with
    | none => .raised .invalidDateFrom
    | some fromDate => .lockTable op fromDate
  | .update op =>
    if (op.fromDate.bind Date.day?).isNone ∧ (op.toDate.bind Date.day?).isNone then .raised .noUpdateData
    else .update op

/-- Add finds an access of the registrar to the zone that meets the new one. -/
def Overlapping (s : Server) (t : ℕ) (op : AddRegistrarZoneAccess) (fromDate : Int) : Prop :=
  ∃ ri ∈ s.invoices t, ∃ r ∈ registrarsByHandle s.registry op.registrarHandle,
    ∃ z ∈ zonesByFqdn s.registry op.zoneFqdn, r.id = ri.registrarid ∧ z.id = ri.zone ∧
      (overlapping ri fromDate (op.toDate.bind Date.day?)).holds

instance (s : Server) (t : ℕ) (op : AddRegistrarZoneAccess) (fromDate : Int) :
    Decidable (s.Overlapping t op fromDate) := by
  unfold Overlapping
  infer_instance

def insertInvoice (s : Server) (t registrarid zone : ℕ) (fromDate : Int) (toDate : Option Int) :
    Server :=
  { s.write t s.seq ⟨s.seq, registrarid, zone, fromDate, toDate⟩ with seq := s.seq + 1 }

/-- INSERT ... SELECT with one row for each registrar of the handle. -/
def insert (s : Server) (t : ℕ) (op : AddRegistrarZoneAccess) (fromDate : Int) : Server :=
  match registrarsByHandle s.registry op.registrarHandle, zonesByFqdn s.registry op.zoneFqdn with
  | [], _ => s.setControl t (.raised .nonexistentRegistrar)
  | [r], [z] =>
    (s.insertInvoice t r.id z.id fromDate (op.toDate.bind Date.day?)).setControl t (.added s.seq)
  | rs, [z] =>
    (rs.foldl (fun s r => s.insertInvoice t r.id z.id fromDate (op.toDate.bind Date.day?)) s).setControl t
      (.raised .addRegistrarZoneAccessException)
  | _, _ => s.setControl t (.raised .nonexistentZone)

/-- What follows the UPDATE that has made `lhs` of a row. -/
def updateResult (op : UpdateRegistrarZoneAccess) (snapshot : List RegistrarInvoice)
    (lhs : RegistrarInvoice) : Control :=
  if ∃ rhs ∈ snapshot, rhs.registrarid = lhs.registrarid ∧ rhs.zone = lhs.zone ∧ rhs.id ≠ lhs.id ∧
      (overlapped lhs rhs).holds then .raised .overlappingZoneAccessRange
  else if (lt lhs.todate (some lhs.fromdate)).holds then .raised .invalidZoneAccessPeriod
  else .updated op snapshot

/-- A row that the snapshot has is locked when no other transaction holds it, and its latest version
is updated. RETURNING compares it with the rows of the snapshot. -/
def updateRow (s : Server) (t : ℕ) (op : UpdateRegistrarZoneAccess) (snapshot : List RegistrarInvoice) :
    Server :=
  match snapshot.find? (·.id = op.id) with
  | none => s.setControl t (.raised .nonexistentZoneAccess)
  | some _ =>
    if (s.rows op.id).LockedFor t then s
    else
      match s.view t op.id with
      | none => s.setControl t (.raised .nonexistentZoneAccess)
      | some ri => (s.write t op.id (op.assign ri)).setControl t (updateResult op snapshot (op.assign ri))

/-- A step of an open transaction; one that has to wait changes nothing. -/
def step (s : Server) (t : ℕ) : Control → Server
  | .begin call => s.setControl t (begin call)
  | .lockTable op fromDate =>
    if s.locks.Grants t .accessExclusive then
      (s.setControl t (.selectOverlapping op fromDate)).lockTable t .accessExclusive
    else s
  | .selectOverlapping op fromDate =>
    if s.Overlapping t op fromDate then s.setControl t (.raised .overlappingZoneAccessRange)
    else s.setControl t (.insert op fromDate)
  | .insert op fromDate => s.insert t op fromDate
  | .update op =>
    if s.locks.Grants t .rowExclusive then
      (s.setControl t (.updateRow op (s.invoices t))).lockTable t .rowExclusive
    else s
  | .updateRow op snapshot => s.updateRow t op snapshot
  | .added _ | .updated _ _ | .raised _ => s

/-- A transaction that has returned is committed, and one that has raised is rolled back. -/
def finish (s : Server) (t : ℕ) : Control → Server
  | .added _ | .updated _ _ =>
    { s with
      rows := fun id => (s.rows id).commit t
      locks := s.locks.release t
      clients := Function.update s.clients t none }
  | .raised _ =>
    { s with
      rows := fun id => (s.rows id).rollback t
      locks := s.locks.release t
      clients := Function.update s.clients t none }
  | _ => s

def next (e : Event) (s : Server) : Server :=
  match s.clients e.client, e.action with
  | none, .start call => s.setControl e.client (.begin call)
  | some control, .step => s.step e.client control
  | some control, .finish => s.finish e.client control
  | _, _ => s

end Server

end LibFred.ZoneAccess.Concurrent
