import LibFred.Poll.CreateStateMessages
import LibFred.Registrar.CreditTransaction
import LibFred.Sql.GroupBy

/-! The poll messages that tell registrars of a low credit in a zone. -/
namespace LibFred.Poll

open Sql
open LibFred.Credit (Account RegistrarCredit)

/-- A row of poll_credit. -/
structure PollCredit (D : Type) where
  msgid : Nat
  zone : Nat
  credlimit : D
  credit : D

structure PollCreditZoneLimit (D : Type) where
  zone : Nat
  credlimit : D

structure Invoice where
  id : Nat
  zoneId : Nat
  crdate : Timestamp
  registrarId : Nat
  invoicePrefixId : Nat

/-- A row of invoice_prefix; the type 0 is that of advance invoices. -/
structure InvoicePrefix where
  id : Nat
  typ : Option Nat

variable {D : Type}

instance keyedRegistrarCredit : Keyed (RegistrarCredit D) Account := ⟨RegistrarCredit.account⟩
instance keyedPollCredit : Keyed (PollCredit D) Nat := ⟨PollCredit.msgid⟩
instance keyedPollCreditZoneLimit : Keyed (PollCreditZoneLimit D) Nat := ⟨PollCreditZoneLimit.zone⟩
instance keyedInvoice : Keyed Invoice Nat := ⟨Invoice.id⟩
instance keyedInvoicePrefix : Keyed InvoicePrefix Nat := ⟨InvoicePrefix.id⟩

/-- `now` is CURRENT_TIMESTAMP and `messageIdSeq` the next value of message_id_seq. A registrar has one
credit in a zone, and a zone has one limit at most. -/
structure CreditDatabase (D : Type) where
  now : Timestamp
  message : Table Message
  messageIdSeq : Nat
  pollCredit : Table (PollCredit D)
  invoice : Table Invoice
  invoicePrefix : Table InvoicePrefix
  registrarCredit : Table (RegistrarCredit D)
  pollCreditZoneLimit : Table (PollCreditZoneLimit D)

namespace CreateLowCreditMessages

variable [LT D] [DecidableLT D] (db : CreditDatabase D)

/-- The rows of message with those of poll_credit. -/
def creditMessages : List (Message × PollCredit D) :=
  join (fun m (pc : PollCredit D) => m.id = pc.msgid) db.message.rows db.pollCredit.rows

def advanceInvoices : List (Invoice × InvoicePrefix) :=
  join (fun i (ip : InvoicePrefix) => i.invoicePrefixId = ip.id ∧ ip.typ = some 0)
    db.invoice.rows db.invoicePrefix.rows

def tmpMessage : List (Account × Timestamp) :=
  groupMax (fun p => ⟨p.1.clid, p.2.zone⟩) (·.1.crdate) (creditMessages db)

def tmpInvoice : List (Account × Timestamp) :=
  groupMax (fun p => ⟨p.1.registrarId, p.1.zoneId⟩) (·.1.crdate) (advanceInvoices db)

/-- A credit, the limit of its zone, and the times of the last message and invoice. -/
abbrev CreditRow (D : Type) :=
  ((RegistrarCredit D × PollCreditZoneLimit D) × Option (Account × Timestamp)) ×
    Option (Account × Timestamp)

def creditRows : List (CreditRow D) :=
  let limits := join (fun rc (l : PollCreditZoneLimit D) => rc.account.zoneId = l.zone)
    db.registrarCredit.rows db.pollCreditZoneLimit.rows
  let messages := leftJoin (fun c (m : Account × Timestamp) => m.1 = c.1.account)
    limits (tmpMessage db)
  leftJoin (fun c (i : Account × Timestamp) => i.1 = c.1.1.account) messages (tmpInvoice db)

/-- The rows of tmp_poll_credit, each with the value of the sequence that it takes. -/
def tmpPollCredit : List ((RegistrarCredit D × PollCreditZoneLimit D) × Nat) :=
  let chosen := (creditRows db).filter fun c => c.1.1.1.credit < c.1.1.2.credlimit ∧
    ((isNull (c.1.2.map (·.2))).or (lt (c.1.2.map (·.2)) (c.2.map (·.2)))).holds
  (chosen.map (·.1.1)).zipIdx db.messageIdSeq

def newMessage (now : Timestamp) (row : (RegistrarCredit D × PollCreditZoneLimit D) × Nat) : Message where
  id := row.2
  clid := row.1.1.account.registrarId
  crdate := now
  exdate := now + CreateStateMessages.expiration
  seen := false
  msgtype := 1

def newPollCredit (row : (RegistrarCredit D × PollCreditZoneLimit D) × Nat) : PollCredit D where
  msgid := row.2
  zone := row.1.1.account.zoneId
  credlimit := row.1.2.credlimit
  credit := row.1.1.credit

/-- Both INSERTs read the same rows of tmp_poll_credit. -/
def exec : EStateM Exception (CreditDatabase D) Nat := do
  let db ← get
  let rows := tmpPollCredit db
  match db.message.insertAll? (rows.map (newMessage db.now)),
    db.pollCredit.insertAll? (rows.map newPollCredit) with
  | some message, some pollCredit =>
    set { db with
      message := message
      messageIdSeq := db.messageIdSeq + rows.length
      pollCredit := pollCredit }
    return rows.length
  | _, _ => throw .sqlError

end CreateLowCreditMessages

end LibFred.Poll
