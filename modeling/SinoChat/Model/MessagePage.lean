import SinoChat.Common.Sorting
import SinoChat.Model.Messages

/-!
# Pages of messages

`listMessages` and `updateReceipt` of `messages.service.ts`: the page a device
asks for behind a cursor, with the cursor for the next one, and the progress
of a receipt.
-/

namespace SinoChat

open Js

namespace Messaging

/-- The query of `listMessages`, as its validation lets it pass. -/
structure ListMessagesQuery where
  deviceId : Uuid
  afterSequence : Option JsString
  limit : ℕ
  deriving DecidableEq

/-- `/^\d{1,20}$/`, and the bounds of the limit. -/
def ListMessagesQuery.valid (query : ListMessagesQuery) : Bool :=
  query.afterSequence.all (run isDigit 1 20) && 1 ≤ query.limit && query.limit ≤ 100

/-- `BigInt(text)`, of decimal digits. -/
def bigInt (digits : JsString) : ℕ := digits.foldl (fun n u => n * 10 + (u.toNat - 0x30)) 0

/-- A photo as a page shows it. -/
structure MessageAttachment where
  attachment : Attachment
  downloadUrl : JsString
  deriving DecidableEq

/-- A message with what belongs to it, as a page lists it. -/
structure MessageItem where
  message : Message
  envelope : MessageEnvelope
  attachment : Option MessageAttachment
  receipts : List MessageReceipt
  deriving DecidableEq

/-- A page, and where the next one starts. -/
structure MessagePage where
  items : List MessageItem
  nextAfterSequence : JsString
  deriving DecidableEq

namespace MessageTables

variable (db : MessageTables)

/-- The envelope of a message for a device. -/
def envelopeFor (messageId deviceId : Uuid) : Option MessageEnvelope :=
  db.envelopes.find? fun envelope =>
    envelope.messageId = messageId && envelope.recipientDeviceId = deviceId

/-- The messages a device may read behind a cursor. -/
def readable (conversationId deviceId : Uuid) (after : Option ℕ) (now : ℕ) : List Message :=
  db.messages.rows.filter fun message =>
    message.conversationId = conversationId && now < message.expiresAt &&
      after.all (· < message.serverSequence) && (db.envelopeFor message.id deviceId).isSome

/-- The photo of a message, for as many whole seconds as are left. -/
def attachmentOf (presignDownload : JsString → ℕ → ℕ → JsString) (message : Message) (now : ℕ) :
    Option MessageAttachment :=
  (db.attachments.find? message.id).bind fun attachment =>
    let remainingSeconds := (message.expiresAt - now) / 1000
    if attachment.status = .available ∧ 0 < remainingSeconds then
      some ⟨attachment, presignDownload attachment.objectKey remainingSeconds now⟩
    else none

/-- An item of a page. -/
def item (presignDownload : JsString → ℕ → ℕ → JsString) (deviceId : Uuid) (now : ℕ)
    (message : Message) : Except HttpException MessageItem := do
  let envelope ← orThrow (db.envelopeFor message.id deviceId)
    (.withMessage 404 "No existe un sobre cifrado para este dispositivo.")
  return { message, envelope, attachment := db.attachmentOf presignDownload message now
           receipts := db.receipts.filter (·.messageId = message.id) }

/-- **`listMessages`.** A cursor that is no 64-bit integer fails in the query. -/
def listMessages (accounts : Accounts) (presignDownload : JsString → ℕ → ℕ → JsString)
    (userId conversationId : Uuid) (query : ListMessagesQuery) (now : ℕ) :
    Except HttpException MessagePage := do
  let _ ← lockCurrent accounts userId conversationId query.deviceId now
  let after := query.afterSequence.map bigInt
  require (after.all (· < 2 ^ 63)) (.internal "Unable to fit the cursor into an INT8.")
  let rows := db.readable conversationId query.deviceId after now
  let ordered := rows.sortBy Message.serverSequence
  let messages := match after with
    | some _ => ordered.take query.limit
    | none => (ordered.reverse.take query.limit).reverse
  let items ← messages.mapM (db.item presignDownload query.deviceId now)
  let nextAfterSequence := match items.getLast? with
    | some last => decimal last.message.serverSequence
    | none => query.afterSequence.getD (js "0")
  return { items, nextAfterSequence }

/-! ## Receipts -/

/-- How far a status is. -/
def rank : MessageDeliveryStatus → ℕ
  | .sent => 0
  | .delivered => 1
  | .read => 2

/-- The receipt after an update, which needs a status that is further. -/
def progress (requested : MessageDeliveryStatus) (now : ℕ) (receipt : MessageReceipt) :
    MessageReceipt :=
  { receipt with
    status := requested
    deliveredAt := some (receipt.deliveredAt.getD now)
    readAt := if requested = .read then some (receipt.readAt.getD now) else receipt.readAt }

/-- `message_receipts_state_check`. -/
def receiptValid (receipt : MessageReceipt) : Bool :=
  match receipt.status, receipt.deliveredAt, receipt.readAt with
  | .sent, none, none => true
  | .delivered, some _, none => true
  | .read, some deliveredAt, some readAt => deliveredAt ≤ readAt
  | _, _, _ => false

/-- The update of `updateReceipt`: the receipts, if the message is in reach. -/
def updateReceipt (accounts : Accounts) (userId messageId : Uuid)
    (requested : MessageDeliveryStatus) (now : ℕ) : Option MessageTables :=
  match db.messages.find? messageId with
  | some message =>
    if now < message.expiresAt ∧
        (accounts.currentForParticipant userId message.conversationId now) ≠ [] ∧
        requested ≠ .sent then
      let receipts := db.receipts.map fun receipt =>
        if receipt.messageId = messageId ∧ receipt.recipientUserId = userId ∧
            rank receipt.status < rank requested then
          progress requested now receipt
        else receipt
      if receipts.all receiptValid then some { db with receipts } else none
    else none
  | none => none

end MessageTables

end Messaging

end SinoChat
