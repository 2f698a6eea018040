import LibFred.Cpp.StdMap
import LibFred.Registrar.ZoneAccess
import Mathlib.Logic.Function.Basic

/-! The history of a registrar's zone accesses as it is read into maps, and the two ways to ask
for access on a day. -/
namespace LibFred.ZoneAccess

open Sql

/-- The registrars and zones that queries join. Neither a handle nor a domain name, whatever the
case of its letters, is shared. -/
structure Directory extends Registry where
  system : Nat → Option Bool
  registrarOfHandle : ∀ r ∈ registrar, ∀ r' ∈ registrar, r.handle = r'.handle → r = r'
  zoneOfFqdn : ∀ z ∈ zone, ∀ z' ∈ zone, lower z.fqdn = lower z'.fqdn → z = z'

structure TimeInterval where
  fromDate : Int
  toDate : Option Int

/-- `CompareByTime`: the left interval is over before the right one begins. -/
def compareByTime (lhs rhs : TimeInterval) : Prop := ∃ t ∈ lhs.toDate, t < rhs.fromDate

instance : DecidableRel compareByTime := fun lhs rhs =>
  inferInstanceAs (Decidable (∃ t ∈ lhs.toDate, t < rhs.fromDate))

/-- Ids of registrarinvoice by the interval of the access. -/
abbrev InvoiceIdByDate := BinaryTree (TimeInterval × Nat)

/-- `invoicesByZone` has the zone's domain name, folded as `CompareCaseInsensitive` does, for its
key. -/
structure RegistrarZoneAccessHistory where
  registrarHandle : String
  invoicesByZone : String → Option InvoiceIdByDate

/-- `has_access` looks the zone up, and then the interval of the one day. -/
def hasAccess (zoneAccess : RegistrarZoneAccessHistory) (zoneFqdn : String) (date : Int) : Bool :=
  match zoneAccess.invoicesByZone (lower zoneFqdn) with
  | none => false
  | some invoices => (StdMap.find compareByTime ⟨date, some date⟩ invoices).isSome

inductive ZoneAccessHistoryException
  | nonexistentRegistrar
  | overlappingZoneAccessRange
  | unknownRegistrarId
  deriving DecidableEq

/-- A row of the joined zone, registrar and registrarinvoice. -/
structure HistoryRow where
  zoneFqdn : String
  registrarId : Option Nat
  invoice : Option RegistrarInvoice

/-- The rows of one zone and one registrar. LEFT JOIN keeps the zone without an invoice. -/
def invoiceRows (s : Accesses) (z : Zone) (r : Registrar) : List HistoryRow :=
  match s.registrarinvoice.select fun ri => ri.zone = z.id ∧ ri.registrarid = r.id with
  | [] => [⟨z.fqdn, some r.id, none⟩]
  | invoices => invoices.map fun ri => ⟨z.fqdn, some r.id, some ri⟩

/-- The rows that GetZoneAccessHistory selects, in no particular order. -/
def historyRows (dir : Directory) (s : Accesses) (registrarHandle : String) : List HistoryRow :=
  dir.zone.rows.flatMap fun z =>
    match registrarsByHandle dir.toRegistry registrarHandle with
    | [] => [⟨z.fqdn, none, none⟩]
    | registrars => registrars.flatMap (invoiceRows s z)

/-- The interval and the id that a row is stored as. -/
def invoiceOf (ri : RegistrarInvoice) : TimeInterval × Nat := (⟨ri.fromdate, ri.todate⟩, ri.id)

/-- The body of the loop over the rows. -/
def addRow (balance : StdMap.Balance) (history : RegistrarZoneAccessHistory) (row : HistoryRow) :
    Except ZoneAccessHistoryException RegistrarZoneAccessHistory :=
  match row.invoice with
  | none => return history
  | some ri =>
    let invoices := (history.invoicesByZone (lower row.zoneFqdn)).getD .nil
    match StdMap.insert balance compareByTime (invoiceOf ri) invoices with
    | none => throw .overlappingZoneAccessRange
    | some invoices => return { history with
        invoicesByZone := Function.update history.invoicesByZone (lower row.zoneFqdn) invoices }

/-- The rows come in the order that the database returns them in. -/
def GetZoneAccessHistory.exec (balance : StdMap.Balance) (registrarHandle : String)
    (rows : List HistoryRow) : Except ZoneAccessHistoryException RegistrarZoneAccessHistory := do
  match rows with
  | ⟨_, none, _⟩ :: _ => throw .nonexistentRegistrar
  | _ => rows.foldlM (addRow balance) ⟨registrarHandle, fun _ => none⟩

/-- The row condition of the query for the accesses of a day. -/
def accessOn (registrarId zoneId : Nat) (localToday : Int) (ri : RegistrarInvoice) : Truth :=
  ((eq (some ri.registrarid) (some registrarId)).and (eq (some ri.zone) (some zoneId))).and
    ((le (some ri.fromdate) (some localToday)).and
      ((le (some localToday) ri.todate).or (isNull ri.todate)))

def isZoneAccessibleByRegistrar (dir : Directory) (s : Accesses) (registrarId zoneId : Nat)
    (localToday : Int) : Except ZoneAccessHistoryException Bool :=
  match dir.registrar.lookup registrarId with
  | none => throw .unknownRegistrarId
  | some r =>
    if (dir.system r.id).getD false then return true
    else return (s.registrarinvoice.select
      fun ri => (accessOn registrarId zoneId localToday ri).holds).length ≠ 0

end LibFred.ZoneAccess
