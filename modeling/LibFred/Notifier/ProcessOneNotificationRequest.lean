import LibFred.Notifier.EmailAddresses
import LibFred.Notifier.EmailContent
import LibFred.Sql.Action
import Mathlib.Data.Finset.Sort
import Mathlib.Data.String.Basic

/-! Sending the e-mails of a notification that was enqueued. -/
namespace LibFred.Notifier

open Sql

/-- The arguments of Mailer::Manager::sendEmail. -/
structure Email where
  sender : String
  recipient : String
  subject : String
  mailTemplate : String
  params : Parameters
  handles : List String
  attach : List Nat
  replyTo : String

inductive MailerException
  | notSend
  | other (what : String)

/-- A mailer may decide by all that it was asked before whether it sends an e-mail. -/
abbrev Manager (σ : Type) := Email → EStateM MailerException σ Nat

def notifiedEventFromDbHandle (handle : String) : Option NotifiedEvent :=
  if handle = "created" then some .created
  else if handle = "updated" then some .updated
  else if handle = "transferred" then some .transferred
  else if handle = "deleted" then some .deleted
  else if handle = "renewed" then some .renewed
  else none

def objectTypeFromDbHandle (handle : String) : Option ObjectType :=
  if handle = "contact" then some .contact
  else if handle = "domain" then some .domain
  else if handle = "keyset" then some .keyset
  else if handle = "nsset" then some .nsset
  else none

/-- Domains only are renewed. -/
structure EventOnObject where
  type : ObjectType
  event : NotifiedEvent
  valid : event = .renewed → type = .domain
  deriving DecidableEq

structure NotificationRequest where
  event : EventOnObject
  doneByRegistrar : Nat
  historyIdPostChange : Nat
  svtrid : String
  deriving DecidableEq

/-- A row of notification_queue; rows need not be unique. -/
structure NotificationQueue where
  change : String
  doneByRegistrar : Nat
  historyidPostChange : Nat
  svtrid : String
  deriving DecidableEq

structure EmailData where
  recipientEmailAddresses : Finset String
  templateName : String
  templateParameters : Parameters

inductive NotificationException
  | failedToLockRequest
  | unknownObjectType
  | unknownNotifiedEvent
  | invalidEventOnObject
  | gather (e : GatherException)
  | content (e : Exception)
  | failedToSendMailToRecipient (failedRecipient : String) (skippedRecipients : Finset String)
  | failedToSendMail (failedRequestData : NotificationRequest) (failedRecipient : String)
      (skippedRecipients : Finset String) (templateName : String) (templateParameters : Parameters)
  | mailer (what : String)

/-- What the request is made of and what its e-mails tell. -/
structure Sources (T : Type) where
  versions : Versions T
  objectType : Nat → Option String
  gatherEmailContent : NotificationRequest → Except Exception Parameters
  lockedByOther : NotificationQueue → Bool

/-- The queue, the mailer, and the e-mails that it has sent and that it has not. -/
structure Mailing (σ : Type) where
  queue : List NotificationQueue
  mailer : σ
  sent : List Email
  notSent : List Email

variable {σ T : Type}

abbrev Notify (σ : Type) := EStateM NotificationException (Mailing σ)

def getTemplateName : NotifiedEvent → String
  | .created => "notification_create"
  | .updated => "notification_update"
  | .transferred => "notification_transfer"
  | .renewed => "notification_renew"
  | .deleted => "notification_delete"

def EmailData.email (data : EmailData) (address : String) : Email where
  sender := ""
  recipient := address
  subject := ""
  mailTemplate := data.templateName
  params := data.templateParameters
  handles := []
  attach := []
  replyTo := ""

/-- sendEmail for one address, where NOT_SEND becomes FailedToSendMailToRecipient. -/
def sendTo (mailer : Manager σ) (data : EmailData) (address : String) (skipped : List String) :
    Notify σ Unit := fun s =>
  match (mailer (data.email address)).run s.mailer with
  | .ok _ m => .ok () { s with mailer := m, sent := s.sent ++ [data.email address] }
  | .error .notSend m => .error (.failedToSendMailToRecipient address skipped.toFinset)
      { s with mailer := m, notSent := s.notSent ++ [data.email address] }
  | .error (.other what) m => .error (.mailer what) { s with mailer := m }

/-- The loop of send_email; what is left of the addresses begins with the current one. -/
def sendAll (mailer : Manager σ) (data : EmailData) : List String → Notify σ Unit
  | [] => return
  | address :: addresses => do
    sendTo mailer data address (address :: addresses)
    sendAll mailer data addresses

instance isTransStringLe : IsTrans String (· ≤ ·) := ⟨fun _ _ _ => le_trans⟩

instance antisymmStringLe : Std.Antisymm fun a b : String => a ≤ b := ⟨fun _ _ => le_antisymm⟩

/-- A std::set of trimmed addresses, in its order. -/
def trimmedRecipientEmailAddresses (data : EmailData) : List String :=
  (data.recipientEmailAddresses.image trimCopy).sort (· ≤ ·)

def sendEmail (mailer : Manager σ) (data : EmailData) : Notify σ Unit :=
  sendAll mailer data (trimmedRecipientEmailAddresses data)

/-- A row is locked and deleted, and so are all that are equal to it. -/
def getNotificationToSend (src : Sources T) : Notify σ (Option NotificationQueue) := fun s =>
  match s.queue with
  | [] => .ok none s
  | row :: rows =>
    if src.lockedByOther row then .error .failedToLockRequest s
    else .ok (some row) { s with queue := rows.filter (· ≠ row) }

def notificationRequest (src : Sources T) (row : NotificationQueue) :
    Except NotificationException NotificationRequest :=
  match objectTypeFromDbHandle ((src.objectType row.historyidPostChange).getD "") with
  | none => .error .unknownObjectType
  | some type =>
    match notifiedEventFromDbHandle row.change with
    | none => .error .unknownNotifiedEvent
    | some event =>
      if h : event = .renewed → type = .domain then
        .ok ⟨⟨type, event, h⟩, row.doneByRegistrar, row.historyidPostChange, row.svtrid⟩
      else .error .invalidEventOnObject

section

variable [LinearOrder T]

def Sources.gatherEmailAddresses (src : Sources T) (request : NotificationRequest) :
    Except GatherException (Finset String) :=
  Notifier.gatherEmailAddresses src.versions request.event.event request.historyIdPostChange
    request.event.type

def emailData (src : Sources T) (request : NotificationRequest) :
    Except NotificationException EmailData := do
  let recipients ← (src.gatherEmailAddresses request).mapError .gather
  let parameters ← (src.gatherEmailContent request).mapError .content
  return ⟨recipients, getTemplateName request.event.event, parameters⟩

/-- An update that changes nothing is not notified. -/
def isNotified (request : NotificationRequest) (data : EmailData) :
    Except NotificationException Bool :=
  if request.event.event = .updated then (isUpdateSent data.templateParameters).mapError .content
  else .ok true

/-- FailedToSendMailToRecipient becomes FailedToSendMail. -/
def reportRequest (request : NotificationRequest) (data : EmailData) :
    NotificationException → NotificationException
  | .failedToSendMailToRecipient failed skipped =>
    .failedToSendMail request failed skipped data.templateName data.templateParameters
  | e => e

def liftExcept {α : Type} : Except NotificationException α → Notify σ α
  | .ok a => pure a
  | .error e => throw e

def processOneNotificationRequest (mailer : Manager σ) (src : Sources T) : Notify σ Bool := do
  match ← getNotificationToSend src with
  | none => return false
  | some row => do
    let request ← liftExcept (notificationRequest src row)
    let data ← liftExcept (emailData src request)
    if ← liftExcept (isNotified request data) then do
      EStateM.adaptExcept (reportRequest request data) (sendEmail mailer data)
      return true
    else return true

end

end LibFred.Notifier
