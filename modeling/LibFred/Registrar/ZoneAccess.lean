import LibFred.Order.Span
import LibFred.Sql.Action
import LibFred.Sql.Table
import LibFred.Sql.Text
import LibFred.Sql.Truth
import LibFred.Transition
import LibFred.Values

/-! Periods in which a registrar may work in a zone: the registrarinvoice table and the
operations that write it. -/
namespace LibFred.ZoneAccess

open Sql

structure Registrar where
  id : Nat
  handle : String

structure Zone where
  id : Nat
  fqdn : String

structure RegistrarInvoice where
  id : Nat
  registrarid : Nat
  zone : Nat
  fromdate : Int
  todate : Option Int

instance : Keyed Registrar Nat := ⟨Registrar.id⟩
instance : Keyed Zone Nat := ⟨Zone.id⟩
instance : Keyed RegistrarInvoice Nat := ⟨RegistrarInvoice.id⟩

/-- The tables that the operations only read. -/
structure Registry where
  registrar : Table Registrar
  zone : Table Zone

/-- registrarinvoice and the sequence that its ids are taken from. -/
structure Accesses where
  registrarinvoice : Table RegistrarInvoice
  idSeq : Nat

inductive ZoneAccessException
  | invalidDateFrom
  | overlappingZoneAccessRange
  | nonexistentRegistrar
  | nonexistentZone
  | addRegistrarZoneAccessException
  | noUpdateData
  | invalidZoneAccessPeriod
  | nonexistentZoneAccess
  deriving DecidableEq

abbrev Exec := EStateM ZoneAccessException Accesses

variable {reg : Registry} {s s' : Accesses} {id : Nat}

/-- The row condition of the query that Add makes before its insert. -/
def overlapping (ri : RegistrarInvoice) (fromDate : Int) (toDate : Option Int) : Truth :=
  ((isNull ri.todate).or (le (some fromDate) ri.todate)).and
    ((isNull toDate).or (le (some ri.fromdate) toDate))

def registrarsByHandle (reg : Registry) (handle : String) : List Registrar :=
  reg.registrar.select (·.handle = upper handle)

def zonesByFqdn (reg : Registry) (fqdn : String) : List Zone :=
  reg.zone.select (·.fqdn = lower fqdn)

/-- INSERT of one row. What the database refuses reaches the caller as `NonexistentZone`. -/
def insertInvoice (registrarid zone : Nat) (fromdate : Int) (todate : Option Int) :
    Exec Nat := fun s =>
  match s.registrarinvoice.insert? ⟨s.idSeq, registrarid, zone, fromdate, todate⟩ with
  | some t => .ok s.idSeq ⟨t, s.idSeq + 1⟩
  | none => .error .nonexistentZone s

structure AddRegistrarZoneAccess where
  registrarHandle : String
  zoneFqdn : String
  fromDate : Date
  toDate : Option Date

/-- INSERT ... SELECT with one row for each registrar of the handle. A zone that is missing or
ambiguous fails the statement, once there is a registrar to insert for. -/
def AddRegistrarZoneAccess.insert (reg : Registry) (op : AddRegistrarZoneAccess)
    (fromDate : Int) (toDate : Option Int) : Exec Nat :=
  match registrarsByHandle reg op.registrarHandle, zonesByFqdn reg op.zoneFqdn with
  | [], _ => throw .nonexistentRegistrar
  | rs, [z] => do
    match ← rs.mapM fun r => insertInvoice r.id z.id fromDate toDate with
    | [id] => return id
    | _ => throw .addRegistrarZoneAccessException
  | _, _ => throw .nonexistentZone

def AddRegistrarZoneAccess.exec (reg : Registry) (op : AddRegistrarZoneAccess) : Exec Nat :=
  match op.fromDate.day? with
  | none => throw .invalidDateFrom
  | some fromDate => do
    let toDate := op.toDate.bind Date.day?
    let s ← get
    raiseIf (∃ ri ∈ s.registrarinvoice.rows,
      ∃ r ∈ registrarsByHandle reg op.registrarHandle, ∃ z ∈ zonesByFqdn reg op.zoneFqdn,
        r.id = ri.registrarid ∧ z.id = ri.zone ∧ (overlapping ri fromDate toDate).holds)
      .overlappingZoneAccessRange
    op.insert reg fromDate toDate

structure UpdateRegistrarZoneAccess where
  id : Nat
  fromDate : Option Date
  toDate : Option Date

/-- The SET list: a column is assigned only when its date is given and is a day. -/
def UpdateRegistrarZoneAccess.assign (op : UpdateRegistrarZoneAccess) (ri : RegistrarInvoice) :
    RegistrarInvoice :=
  { ri with
    fromdate := (op.fromDate.bind Date.day?).getD ri.fromdate
    todate := (op.toDate.bind Date.day?).or ri.todate }

theorem UpdateRegistrarZoneAccess.key_assign (op : UpdateRegistrarZoneAccess)
    (ri : RegistrarInvoice) : Keyed.key (op.assign ri) = Keyed.key ri := rfl

/-- The EXISTS of the RETURNING clause: `lhs` is the row as updated, `rhs` a row of the table
as it was when the statement began. -/
def overlapped (lhs rhs : RegistrarInvoice) : Truth :=
  ((le (some lhs.fromdate) rhs.todate).or (isNull rhs.todate)).and
    ((le (some rhs.fromdate) lhs.todate).or (isNull lhs.todate))

def UpdateRegistrarZoneAccess.exec (op : UpdateRegistrarZoneAccess) : Exec Nat := do
  raiseIf ((op.fromDate.bind Date.day?).isNone ∧ (op.toDate.bind Date.day?).isNone) .noUpdateData
  let s ← get
  match s.registrarinvoice.lookup op.id with
  | none => throw .nonexistentZoneAccess
  | some ri =>
    let lhs := op.assign ri
    set { s with registrarinvoice := s.registrarinvoice.update (·.id = op.id) op.assign }
    raiseIf (∃ rhs ∈ s.registrarinvoice.rows, rhs.registrarid = lhs.registrarid ∧
      rhs.zone = lhs.zone ∧ rhs.id ≠ lhs.id ∧ (overlapped lhs rhs).holds)
      .overlappingZoneAccessRange
    raiseIf (lt lhs.todate (some lhs.fromdate)).holds .invalidZoneAccessPeriod
    return lhs.id

structure DeleteRegistrarZoneAccess where
  accessId : Nat

def DeleteRegistrarZoneAccess.exec (op : DeleteRegistrarZoneAccess) : Exec Nat := do
  let s ← get
  match s.registrarinvoice.lookup op.accessId with
  | none => throw .nonexistentZoneAccess
  | some ri =>
    set { s with registrarinvoice := s.registrarinvoice.delete (·.id = op.accessId) }
    return ri.id

/-- One operation, run in a transaction of its own. -/
inductive Call
  | add (reg : Registry) (op : AddRegistrarZoneAccess)
  | update (op : UpdateRegistrarZoneAccess)
  | delete (op : DeleteRegistrarZoneAccess)

def Call.exec : Call → Exec Nat
  | .add reg op => op.exec reg
  | .update op => op.exec
  | .delete op => op.exec

def Call.next (c : Call) (s : Accesses) : Accesses := transaction c.exec s

end LibFred.ZoneAccess
