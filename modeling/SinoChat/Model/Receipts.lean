import Mathlib.Logic.Function.Basic
import SinoChat.Common.IsoDate
import SinoChat.Common.Run
import SinoChat.Model.MessagePage
import SinoChat.Model.MessagePayload

/-!
# The receipt of a message under concurrent updates

`updateReceipt` of `messages.service.ts` statement by statement, on the receipt of
one message. The `UPDATE` has a snapshot of the receipt and one clock reading, and
may then wait for the lock of the row; with the lock it checks its condition again
on the row as it is by then, with the reading it has. A trigger and a CHECK follow.
An `UPDATE` without a row is followed by a `SELECT`.

Times are microseconds, as the database has them; the API returns a time as its ISO
text, in milliseconds. How the web client reads a receipt is in `messagePayload.ts`.
-/

namespace SinoChat

open Js

namespace Messaging

open MessageTables (rank progress receiptValid)

namespace Receipts

/-! ## The conditions of the database -/

/-- `sinochat_enforce_message_receipt_progress`, of an update. -/
def enforceReceiptProgress (messageCreatedAt databaseNow : ℕ) (old new : MessageReceipt) :
    Except HttpException Unit := do
  require (new.messageId = old.messageId && new.recipientUserId = old.recipientUserId)
    (.internal "message receipt identity is immutable")
  require (rank old.status ≤ rank new.status)
    (.internal "message receipt status cannot move backwards")
  require (old.deliveredAt.all (new.deliveredAt = some ·) && old.readAt.all (new.readAt = some ·))
    (.internal "message receipt event timestamps are immutable")
  require ((new.deliveredAt.all fun deliveredAt =>
      messageCreatedAt ≤ deliveredAt && deliveredAt ≤ databaseNow) &&
    new.readAt.all fun readAt => messageCreatedAt ≤ readAt && readAt ≤ databaseNow &&
      new.deliveredAt.any (· ≤ readAt))
    (.internal "message receipt contains incoherent event timestamps")

/-- The row that an update writes, behind the trigger and `message_receipts_state_check`. -/
def writeReceipt (messageCreatedAt databaseNow now : ℕ) (requested : MessageDeliveryStatus)
    (old : MessageReceipt) : Except HttpException MessageReceipt := do
  let new := progress requested now old
  enforceReceiptProgress messageCreatedAt databaseNow old new
  require (receiptValid new) (.internal "message_receipts_state_check")
  return new

/-! ## Calls -/

/-- How far a call of `updateReceipt` is. -/
inductive Phase where
  /-- The `UPDATE` has its snapshot: the receipt, if the message is in reach. -/
  | started (snapshot : Option MessageReceipt)
  /-- It has read the clock, and wants the lock of the row. -/
  | waiting (now : ℕ)
  /-- It has changed no row. -/
  | missed
  | returned (result : Except HttpException MessageReceipt)

/-- An update of a receipt, and the query it waits for. -/
structure Call where
  requested : MessageDeliveryStatus
  phase : Phase

/-- One message with its receipt, which is deleted with it. -/
structure World where
  clock : ℕ
  createdAt : ℕ
  expiresAt : ℕ
  receipt : Option MessageReceipt
  calls : ℕ → Option Call

/-- A call in another phase. -/
def World.set (w : World) (n : ℕ) (call : Call) : World :=
  { w with calls := Function.update w.calls n (some call) }

/-- The condition of the `UPDATE` on a receipt. -/
def admits (requested : MessageDeliveryStatus) (receipt : MessageReceipt) : Bool :=
  rank receipt.status < rank requested

/-- The `UPDATE` when it has read the clock. -/
def readClock (w : World) (requested : MessageDeliveryStatus) (snapshot : Option MessageReceipt) :
    Phase :=
  if w.clock < w.expiresAt ∧ snapshot.any (admits requested) then .waiting w.clock else .missed

/-- The `UPDATE` with the lock of the row, if that is still there. -/
def granted (w : World) (n : ℕ) (requested : MessageDeliveryStatus) (now : ℕ) : World :=
  match w.receipt with
  | none => w.set n ⟨requested, .missed⟩
  | some row =>
    if admits requested row then
      match writeReceipt w.createdAt w.clock now requested row with
      | .ok new => { w.set n ⟨requested, .returned (.ok new)⟩ with receipt := some new }
      | .error e => w.set n ⟨requested, .returned (.error e)⟩
    else w.set n ⟨requested, .missed⟩

/-- The `SELECT` of a call whose `UPDATE` has missed. -/
def reread (w : World) (inReach : Bool) : Except HttpException MessageReceipt :=
  orThrow (if inReach ∧ w.clock < w.expiresAt then w.receipt else none)
    (.withMessage 404 "Mensaje no disponible.")

/-! ## Runs -/

/-- What happens in a step; a `SELECT` finds the conversation in reach or not. -/
inductive Action where
  | tick
  | began (n : ℕ)
  | clockRead (n : ℕ)
  | granted (n : ℕ)
  | reread (n : ℕ) (inReach : Bool)
  | deleted
  deriving DecidableEq

/-- The steps. Whether the conversation is in reach is up to other tables. -/
inductive Step : World → Action → World → Prop
  | tick {w : World} (clock : ℕ) : w.clock ≤ clock → Step w .tick { w with clock }
  | began {w : World} (n : ℕ) (requested : MessageDeliveryStatus) (inReach : Bool) :
      w.calls n = none → requested = .delivered ∨ requested = .read →
      Step w (.began n)
        (w.set n ⟨requested, .started (if inReach then w.receipt else none)⟩)
  | clockRead {w : World} (n : ℕ) (requested : MessageDeliveryStatus)
      (snapshot : Option MessageReceipt) :
      w.calls n = some ⟨requested, .started snapshot⟩ →
      Step w (.clockRead n) (w.set n ⟨requested, readClock w requested snapshot⟩)
  | granted {w : World} (n : ℕ) (requested : MessageDeliveryStatus) (now : ℕ) :
      w.calls n = some ⟨requested, .waiting now⟩ →
      Step w (.granted n) (granted w n requested now)
  | reread {w : World} (n : ℕ) (requested : MessageDeliveryStatus) (inReach : Bool) :
      w.calls n = some ⟨requested, .missed⟩ →
      Step w (.reread n inReach) (w.set n ⟨requested, .returned (reread w inReach)⟩)
  | deleted {w : World} : Step w .deleted { w with receipt := none }

/-- A message that has just been sent, with ids of version four. -/
structure Sent (w : World) : Prop where
  created : w.createdAt ≤ w.clock
  receipt : ∃ messageId recipientUserId : Uuid,
    fixed MessagePayload.uuidV4Pattern messageId.text = true ∧
    fixed MessagePayload.uuidV4Pattern recipientUserId.text = true ∧
    w.receipt = some ⟨messageId, recipientUserId, .sent, none, none⟩
  calls : ∀ n, w.calls n = none

/-- A message that was sent, and the updates of its receipt. -/
def machine : Machine World Action where
  init := Sent
  step := Step

end Receipts

end Messaging

namespace MessagePayload

open Messaging

/-! ## Receipts in the web client -/

/-- `receiptStatus`. -/
def receiptStatus (value : Option Json) : Except ErrorCode MessageDeliveryStatus :=
  orThrow ((value.bind Json.str?).bind fun text =>
    if text = js "SENT" then some .sent
    else if text = js "DELIVERED" then some .delivered
    else if text = js "READ" then some .read
    else none) "MESSAGE_RECEIPT_INVALID"

/-- `isoDate`. -/
def isoDate (value : Json) (code : ErrorCode) : Except ErrorCode JsString :=
  orThrow (value.str?.bind fun text =>
    if isIsoDateText text && (dateParse text).isSome then some text else none) code

/-- `nullableIsoDate`, of a property. -/
def nullableIsoDate (value : Option Json) (code : ErrorCode) :
    Except ErrorCode (Option JsString) :=
  match value with
  | some .null => .ok none
  | some value => (isoDate value code).map some
  | none => .error code

/-- `Date.parse(readAt) < Date.parse(deliveredAt)`, where both are dates. -/
def readEarlier (deliveredAt readAt : Option JsString) : Bool :=
  match deliveredAt.bind dateParse, readAt.bind dateParse with
  | some delivered, some read => read < delivered
  | _, _ => false

/-- `EncryptedMessageReceipt`, and with a message's id for the user's a
`MessageReceiptAcknowledgement`. -/
structure ReceiptView where
  id : Uuid
  status : MessageDeliveryStatus
  deliveredAt : Option JsString
  readAt : Option JsString
  deriving DecidableEq

/-- `parseReceipt`. -/
def parseReceipt (value : Json) : Except ErrorCode ReceiptView := do
  let receipt ← record value "MESSAGE_RECEIPT_INVALID"
  exactKeys receipt [js "recipientUserId", js "status", js "deliveredAt", js "readAt"]
    "MESSAGE_RECEIPT_FIELDS_INVALID"
  let status ← receiptStatus (Json.get? (js "status") receipt)
  let deliveredAt ← nullableIsoDate (Json.get? (js "deliveredAt") receipt)
    "MESSAGE_RECEIPT_INVALID"
  let readAt ← nullableIsoDate (Json.get? (js "readAt") receipt) "MESSAGE_RECEIPT_INVALID"
  require (!((status = .sent && (deliveredAt ≠ none || readAt ≠ none)) ||
      (status = .delivered && (deliveredAt = none || readAt ≠ none)) ||
      (status = .read && (deliveredAt = none || readAt = none)) ||
      readEarlier deliveredAt readAt)) "MESSAGE_RECEIPT_STATE_INVALID"
  let recipientUserId ← uuid (Json.get? (js "recipientUserId") receipt) "MESSAGE_RECEIPT_INVALID"
  return ⟨recipientUserId, status, deliveredAt, readAt⟩

/-- `parseMessageReceiptAcknowledgement`. -/
def parseMessageReceiptAcknowledgement (value : Json) (expectedMessageId : JsString) :
    Except ErrorCode ReceiptView := do
  let receipt ← record value "MESSAGE_RECEIPT_ACK_INVALID"
  exactKeys receipt [js "messageId", js "status", js "deliveredAt", js "readAt"]
    "MESSAGE_RECEIPT_ACK_FIELDS_INVALID"
  let messageId ← uuid (Json.get? (js "messageId") receipt) "MESSAGE_RECEIPT_ACK_INVALID"
  let expectedId ← uuid (some (.str expectedMessageId)) "MESSAGE_RECEIPT_ACK_EXPECTATION_INVALID"
  let status ← receiptStatus (Json.get? (js "status") receipt)
  let deliveredAt ← nullableIsoDate (Json.get? (js "deliveredAt") receipt)
    "MESSAGE_RECEIPT_ACK_INVALID"
  let readAt ← nullableIsoDate (Json.get? (js "readAt") receipt) "MESSAGE_RECEIPT_ACK_INVALID"
  require (!(messageId ≠ expectedId || status = .sent || deliveredAt = none ||
      (status = .delivered && readAt ≠ none) || (status = .read && readAt = none) ||
      readEarlier deliveredAt readAt)) "MESSAGE_RECEIPT_ACK_MISMATCH"
  return ⟨messageId, status, deliveredAt, readAt⟩

end MessagePayload

namespace Messaging

namespace Receipts

/-! ## Receipts in answers -/

/-- A status as a text. -/
def statusText : MessageDeliveryStatus → JsString
  | .sent => js "SENT"
  | .delivered => js "DELIVERED"
  | .read => js "READ"

/-- A time in an answer: a `Date` of whole milliseconds, or `null`. -/
def dateJson : Option ℕ → Json
  | some time => .str (toISOString (time / 1000))
  | none => .null

/-- A receipt on a page of messages. -/
def receiptJson (receipt : MessageReceipt) : Json :=
  .obj [(js "recipientUserId", .str receipt.recipientUserId.text),
    (js "status", .str (statusText receipt.status)),
    (js "deliveredAt", dateJson receipt.deliveredAt), (js "readAt", dateJson receipt.readAt)]

/-- The answer of `updateReceipt`. -/
def acknowledgementJson (receipt : MessageReceipt) : Json :=
  .obj [(js "messageId", .str receipt.messageId.text),
    (js "status", .str (statusText receipt.status)),
    (js "deliveredAt", dateJson receipt.deliveredAt), (js "readAt", dateJson receipt.readAt)]

end Receipts

end Messaging

end SinoChat
