import LibFred.Object.Authinfo
import LibFred.Sql.ReadCommitted
import LibFred.Transition
import Mathlib.Data.List.Basic

/-! Concurrent transactions that store, check and clean authinfos under READ COMMITTED, statement by
statement. -/
namespace LibFred.Object

open Sql Transition
open LibFred.Db (Database ObjectAuthinfo Timestamp)

def StoreAuthinfo.pair (op : StoreAuthinfo) : Nat × Nat := (op.objectId, op.registrarId)

/-- Whose authinfo it is, and of which registrar. -/
def ObjectAuthinfo.pair (a : ObjectAuthinfo) : Nat × Nat := (a.objectId, a.registrarId)

namespace Concurrent

/-- CheckAuthinfo with one of the visitors, increment_usage_and_cancel when `cancel`. -/
structure CheckAuthinfo where
  objectId : Nat
  plaintextPassword : String
  cancel : Bool

/-- A call; the salt is that of the encryption. -/
inductive AuthinfoCall
  | storeAuthinfo (op : StoreAuthinfo) (salt plaintextPassword : String)
  | checkAuthinfo (op : CheckAuthinfo)
  | cleanAuthinfo (objectId : Nat)
  | cleanExpiredAuthinfos

/-- A statement that writes or locks rows of object_authinfo. -/
inductive Statement
  | deactivatePassword (op : StoreAuthinfo) (salt plaintextPassword : String)
  | selectForUpdate (op : CheckAuthinfo)
  | visit (op : CheckAuthinfo) (authinfoId : Nat) (rest : List ObjectAuthinfo)
  | cleanAuthinfo (objectId : Nat)
  | cleanExpiredAuthinfos

/-- Where a transaction stands: what its next statement is, or which rows of the snapshot of its
statement are left to do and which ones were done. -/
inductive Control
  | idle
  | next (statement : Statement)
  | running (statement : Statement) (todo : List Nat) (done : List ObjectAuthinfo)
  | storePassword (op : StoreAuthinfo) (salt plaintextPassword : String)
  | visitAuthinfos (op : CheckAuthinfo) (rows : List ObjectAuthinfo)

namespace Statement

/-- WHERE. -/
def Selects (now : Timestamp) : Statement → ObjectAuthinfo → Prop
  | deactivatePassword op _ _, a => a.objectId = op.objectId ∧ a.registrarId = op.registrarId ∧ Usable a
  | selectForUpdate op, a => a.objectId = op.objectId ∧ Usable a ∧ now < a.expiresAt
  | visit _ authinfoId _, a => a.id = authinfoId ∧ Usable a ∧ now < a.expiresAt
  | cleanAuthinfo objectId, a => a.objectId = objectId ∧ Usable a ∧ now < a.expiresAt
  | cleanExpiredAuthinfos, a => Usable a ∧ a.expiresAt ≤ now

instance (now : Timestamp) (s : Statement) : DecidablePred (s.Selects now) := fun a => by
  cases s <;> unfold Selects <;> infer_instance

/-- SET. -/
def assign (now : Timestamp) : Statement → ObjectAuthinfo → ObjectAuthinfo
  | deactivatePassword _ _ _, a => { a with password := some "" }
  | selectForUpdate _, a => a
  | visit op _ _, a => if op.cancel then ObjectAuthinfo.cancel now (ObjectAuthinfo.use a) else ObjectAuthinfo.use a
  | cleanAuthinfo _, a => ObjectAuthinfo.cancel now a
  | cleanExpiredAuthinfos, a => ObjectAuthinfo.cancel now a

/-- What follows when the statement has returned rows. A visit that cancels has to find its
authinfo; the check fails otherwise. -/
def after : Statement → List ObjectAuthinfo → Control
  | deactivatePassword op salt plaintextPassword, _ => .storePassword op salt plaintextPassword
  | selectForUpdate op, rows => .visitAuthinfos op rows
  | visit op _ rest, rows => if op.cancel ∧ rows.length ≠ 1 then .idle else .visitAuthinfos op rest
  | cleanAuthinfo _, _ => .idle
  | cleanExpiredAuthinfos, _ => .idle

end Statement

/-- An open transaction: when it was started, the pairs whose password it has begun to replace, and
where it stands. -/
structure Client where
  now : Timestamp
  storing : List (Nat × Nat)
  control : Control

/-- The rows of object_authinfo, the sequence of their ids, and the open transactions. No operation
writes to the `others` tables; they are locked for share at most. -/
structure Server where
  others : Database
  rows : Nat → Slot ObjectAuthinfo
  seq : Nat
  clients : Nat → Option Client

/-- What a call begins with, once lock_for_share has found the object and the registrar. A call that
raises is over. -/
def AuthinfoCall.begin (others : Database) : AuthinfoCall → Control
  | storeAuthinfo op salt plaintextPassword =>
    if 0 < op.ttl ∧ isRegistered others op.objectId ∧ (others.registrar.lookup op.registrarId).isSome then
      .next (.deactivatePassword op salt plaintextPassword)
    else .idle
  | checkAuthinfo op =>
    if isRegistered others op.objectId then .next (.selectForUpdate op) else .idle
  | cleanAuthinfo objectId => .next (.cleanAuthinfo objectId)
  | cleanExpiredAuthinfos => .next .cleanExpiredAuthinfos

/-- What a client may do: begin a transaction, begin a call, begin a statement, do one row of it,
end the statement, run the INSERT of StoreAuthinfo, look at the next row of CheckAuthinfo, and end
the transaction. -/
inductive Action
  | start (now : Timestamp)
  | call (c : AuthinfoCall)
  | snapshot
  | row (id : Nat)
  | finish
  | storePassword
  | visitAuthinfo
  | commit
  | rollback

structure Event where
  client : Nat
  action : Action

namespace Server

variable (storage : PasswordStorage)

def view (s : Server) (t : Nat) (id : Nat) : Option ObjectAuthinfo := (s.rows id).view t

def committed (s : Server) (id : Nat) : Option ObjectAuthinfo := (s.rows id).committed

def setClient (s : Server) (t : Nat) (c : Option Client) : Server :=
  { s with clients := Function.update s.clients t c }

/-- The transaction writes a row, which it holds the lock of from then on. -/
def write (s : Server) (t id : Nat) (a : ObjectAuthinfo) : Server :=
  { s with rows := Function.update s.rows id ((s.rows id).write t a) }

/-- The rows that the statement finds in its snapshot. -/
def candidates (s : Server) (t : Nat) (now : Timestamp) (statement : Statement) : List Nat :=
  (List.range s.seq).filter fun id => ∃ a ∈ s.view t id, statement.Selects now a

/-- A row of a snapshot is locked when no other transaction holds it; then its latest version is
looked at again. -/
def doRow (s : Server) (t : Nat) (c : Client) (statement : Statement) (todo : List Nat)
    (done : List ObjectAuthinfo) (id : Nat) : Server :=
  if (s.rows id).LockedFor t then s
  else
    match s.view t id with
    | none => s.setClient t (some { c with control := .running statement (todo.erase id) done })
    | some a =>
      if statement.Selects c.now a then
        let a' := statement.assign c.now a
        (s.write t id a').setClient t
          (some { c with control := .running statement (todo.erase id) (done ++ [a']) })
      else s.setClient t (some { c with control := .running statement (todo.erase id) done })

/-- The authinfo that StoreAuthinfo inserts. -/
def storePassword (s : Server) (t : Nat) (c : Client) (op : StoreAuthinfo)
    (encryptedPassword : String) : Server :=
  let new : ObjectAuthinfo :=
    ⟨s.seq, op.objectId, op.registrarId, some encryptedPassword, c.now, c.now + op.ttl, none, 0⟩
  { s.write t s.seq new with seq := s.seq + 1 }.setClient t (some { c with control := .idle })

/-- The next row of the loop in visit_authinfos. -/
def visitAuthinfo (c : Client) (op : CheckAuthinfo) : List ObjectAuthinfo → Client
  | [] => { c with control := .idle }
  | a :: rows =>
    match storage.check op.plaintextPassword (a.password.getD "") with
    | some true => { c with control := .next (.visit op a.id rows) }
    | some false => { c with control := .visitAuthinfos op rows }
    | none => { c with control := .idle }

/-- The pairs that a transaction stores a password of, when it begins a statement. -/
def storingAfter (c : Client) : Statement → List (Nat × Nat)
  | .deactivatePassword op _ _ => op.pair :: c.storing
  | _ => c.storing

/-- A step of an open transaction; one that is not possible changes nothing. -/
def step (s : Server) (t : Nat) (c : Client) : Action → Server
  | .start _ => s
  | .call call =>
    match c.control with
    | .idle => s.setClient t (some { c with control := call.begin s.others })
    | _ => s
  | .snapshot =>
    match c.control with
    | .next statement => s.setClient t (some { c with
        storing := storingAfter c statement
        control := .running statement (s.candidates t c.now statement) [] })
    | _ => s
  | .row id =>
    match c.control with
    | .running statement todo done => if id ∈ todo then s.doRow t c statement todo done id else s
    | _ => s
  | .finish =>
    match c.control with
    | .running statement [] done => s.setClient t (some { c with control := statement.after done })
    | _ => s
  | .storePassword =>
    match c.control with
    | .storePassword op salt plaintextPassword =>
      s.storePassword t c op (storage.encrypt salt plaintextPassword)
    | _ => s
  | .visitAuthinfo =>
    match c.control with
    | .visitAuthinfos op rows => s.setClient t (some (visitAuthinfo storage c op rows))
    | _ => s
  | .commit =>
    match c.control with
    | .idle => { s with rows := fun id => (s.rows id).commit t }.setClient t none
    | _ => s
  | .rollback => { s with rows := fun id => (s.rows id).rollback t }.setClient t none

def next (e : Event) (s : Server) : Server :=
  match s.clients e.client with
  | some c => s.step storage e.client c e.action
  | none =>
    match e.action with
    | .start now => s.setClient e.client (some ⟨now, [], .idle⟩)
    | _ => s

/-- No authinfos are stored, and no transaction is open. -/
def Initial (s : Server) : Prop :=
  (∀ id, s.rows id = Slot.empty) ∧ ∀ t, s.clients t = none

/-- StoreAuthinfo replaces the password while no other open transaction replaces that of the same
object and registrar. -/
def Exclusive (e : Event) (s : Server) : Prop :=
  ∀ c op salt plaintextPassword, e.action = .snapshot → s.clients e.client = some c →
    c.control = .next (.deactivatePassword op salt plaintextPassword) →
      ∀ t c', t ≠ e.client → s.clients t = some c' → op.pair ∉ c'.storing

end Server

end Concurrent

end LibFred.Object
