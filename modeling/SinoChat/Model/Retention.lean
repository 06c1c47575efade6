import SinoChat.Model.Uploads

/-!
# Retention

`retention.service.ts`: what a batch deletes at once, and the purge of one
object with its row, which goes by way of the storage. The three kinds of
purge differ in the row they work on and share their steps: claim the row,
delete the object, delete the row; on an error the row is kept for a later
batch.
-/

namespace SinoChat

open Js

namespace Messaging

/-- What the services keep. -/
structure LedgerTables where
  messages : MessageTables
  evidence : EvidenceTables

/-- The delay behind a failed purge. -/
def retryDelay : ℕ := 60 * 1000

/-- The row a purge works on. -/
inductive PurgeTarget where
  /-- `purgeAttachment`. -/
  | attachment (messageId : Uuid)
  /-- `purgeAbandonedUpload`. -/
  | upload (reservationId : Uuid)
  /-- `purgeAbandonedEvidence`. -/
  | evidence (reservationId : Uuid)
  deriving DecidableEq

/-- Nobody has tried to purge the row, or not lately. -/
def retryDue (lastPurgeAttemptAt : Option ℕ) (databaseNow : ℕ) : Bool :=
  lastPurgeAttemptAt.all fun last => last + retryDelay ≤ databaseNow

namespace MessageTables

variable (db : MessageTables)

/-- The message exists and has expired. -/
def expired (messageId : Uuid) (databaseNow : ℕ) : Bool :=
  (db.messages.find? messageId).any fun message => message.expiresAt ≤ databaseNow

/-- Remove messages with all that belongs to them. -/
def removeMessages (p : Message → Bool) : MessageTables :=
  let gone (messageId : Uuid) : Bool := (db.messages.find? messageId).any p
  { db with
    messages := db.messages.filter fun message => !p message
    envelopes := db.envelopes.filter fun envelope => !gone envelope.messageId
    receipts := db.receipts.filter fun receipt => !gone receipt.messageId
    notifications := db.notifications.filter fun notification => !gone notification.messageId }

/-- The messages without a photo that have expired. -/
def removeExpiredMessages (databaseNow : ℕ) : MessageTables :=
  db.removeMessages fun message =>
    message.expiresAt ≤ databaseNow && (db.attachments.find? message.id).isNone

/-- The notifications that have expired. -/
def removeExpiredNotifications (databaseNow : ℕ) : MessageTables :=
  { db with notifications := db.notifications.filter fun notification =>
      databaseNow < notification.expiresAt }

end MessageTables

namespace LedgerTables

variable (db : LedgerTables)

/-- The object key of a target that is due. -/
def due (target : PurgeTarget) (databaseNow : ℕ) : Option JsString :=
  match target with
  | .attachment messageId =>
    ((db.messages.attachments.find? messageId).filter fun attachment =>
      db.messages.expired messageId databaseNow &&
        retryDue attachment.lastPurgeAttemptAt databaseNow).map Attachment.objectKey
  | .upload reservationId =>
    ((db.messages.pendingAttachments.find? reservationId).filter fun reservation =>
      reservation.grantExpiresAt ≤ databaseNow &&
        retryDue reservation.lastPurgeAttemptAt databaseNow).map PendingAttachmentUpload.objectKey
  | .evidence reservationId =>
    ((db.evidence.pendingEvidence.find? reservationId).filter fun reservation =>
      reservation.grantExpiresAt ≤ databaseNow &&
        retryDue reservation.lastPurgeAttemptAt databaseNow).map
      PendingReportEvidenceUpload.objectKey

/-- Mark the row, with the status an attachment gets. -/
def mark (target : PurgeTarget) (status : AttachmentUploadStatus) (databaseNow : ℕ) :
    LedgerTables :=
  match target with
  | .attachment messageId =>
    { db with messages := { db.messages with
      attachments := db.messages.attachments.update messageId
        (fun attachment =>
          { attachment with status, lastPurgeAttemptAt := some databaseNow }) fun _ => rfl } }
  | .upload reservationId =>
    { db with messages := { db.messages with
      pendingAttachments := db.messages.pendingAttachments.update reservationId
        (fun reservation =>
          { reservation with lastPurgeAttemptAt := some databaseNow }) fun _ => rfl } }
  | .evidence reservationId =>
    { db with evidence := { db.evidence with
      pendingEvidence := db.evidence.pendingEvidence.update reservationId
        (fun reservation =>
          { reservation with lastPurgeAttemptAt := some databaseNow }) fun _ => rfl } }

/-- Delete the row, and the message of an attachment. -/
def remove (target : PurgeTarget) (objectKey : JsString) (databaseNow : ℕ) : LedgerTables :=
  match target with
  | .attachment messageId =>
    if (db.messages.attachments.find? messageId).any (·.objectKey = objectKey) &&
        db.messages.expired messageId databaseNow then
      let messages := { db.messages with attachments := db.messages.attachments.remove messageId }
      { db with messages := messages.removeMessages (·.id = messageId) }
    else db
  | .upload reservationId =>
    { db with messages := { db.messages with
      pendingAttachments := db.messages.pendingAttachments.remove reservationId } }
  | .evidence reservationId =>
    { db with evidence := { db.evidence with
      pendingEvidence := db.evidence.pendingEvidence.remove reservationId } }

end LedgerTables

/-! ## One purge -/

/-- Where a purge stands. -/
inductive PurgePhase where
  | selected
  | claimed
  | deleted
  | failed
  deriving DecidableEq

/-- A purge of a batch that began at `databaseNow`. -/
structure PurgeAttempt where
  number : ℕ
  target : PurgeTarget
  objectKey : JsString
  databaseNow : ℕ
  phase : PurgePhase

/-- What a purge did next. -/
inductive PurgeEvent where
  | claimed | missed | objectDeleted | rowDeleted | failed | recorded | crashed
  deriving DecidableEq

/-- **The steps of one purge**, on the tables and the storage. -/
inductive PurgeStep (db : LedgerTables) (storage : ObjectStorage) (a : PurgeAttempt) :
    PurgeEvent → LedgerTables → ObjectStorage → Option PurgePhase → Prop
  | claim : a.phase = .selected → (db.due a.target a.databaseNow).isSome →
      PurgeStep db storage a .claimed (db.mark a.target .purgePending a.databaseNow) storage
        (some .claimed)
  | miss : a.phase = .selected → db.due a.target a.databaseNow = none →
      PurgeStep db storage a .missed db storage none
  | deleteObject : a.phase = .claimed →
      PurgeStep db storage a .objectDeleted db (storage.delete a.objectKey) (some .deleted)
  | deleteRow : a.phase = .deleted →
      PurgeStep db storage a .rowDeleted (db.remove a.target a.objectKey a.databaseNow) storage none
  /-- A statement or the storage fails; the storage, with or without effect. -/
  | fail {storage' : ObjectStorage} :
      a.phase ≠ .failed → (storage' = storage ∨
        a.phase = .claimed ∧ storage' = storage.delete a.objectKey) →
      PurgeStep db storage a .failed db storage' (some .failed)
  | record : a.phase = .failed →
      PurgeStep db storage a .recorded (db.mark a.target .purgeFailed a.databaseNow) storage none
  | crash : PurgeStep db storage a .crashed db storage none

end Messaging

end SinoChat
