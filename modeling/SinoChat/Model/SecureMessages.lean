import SinoChat.Common.JsMap
import SinoChat.Common.Run
import SinoChat.Model.MessageContent

/-!
# The controller of secure messages

`secureMessageController.ts`: loading a conversation, with its replay maps and
the timers that clear them. A load is a sequence of turns of the event loop,
between which any other load, timer or `close` takes its turns; what a load
waits for (the page, a decryption, a download) arrives as a command. Within a
turn `Date.now()` is one value.

`Date.parse` is a parameter, `none` where it is not a number. The runtime's
`setTimeout` waits for the delay up to 2147483647 ms and not at all above.
-/

namespace SinoChat

open Js

namespace SecureMessages

open Messaging (MessageKind MessageDeliveryStatus)
open MessageContent (SinoChatMessageContent SinoChatImageMimeType)

/-! ## Messages -/

/-- An `EncryptedMessageAttachment`, its download address aside. -/
structure EncryptedMessageAttachment where
  declaredMimeType : SinoChatImageMimeType
  plaintextByteSize : ℤ
  ciphertextByteSize : ℤ
  ciphertextSha256 : JsString
  cipherSuite : JsString
  deriving DecidableEq

/-- An `EncryptedTransportMessage`; of its receipts the status of the first. -/
structure EncryptedTransportMessage where
  id : Uuid
  senderUserId : Uuid
  senderDeviceId : Uuid
  clientMessageId : Uuid
  serverSequence : JsString
  kind : MessageKind
  createdAt : JsString
  expiresAt : JsString
  protocolVersion : JsString
  cipherSuite : JsString
  ciphertext : JsString
  attachment : Option EncryptedMessageAttachment
  receipt : Option MessageDeliveryStatus
  deriving DecidableEq

/-- What is shown of a content. -/
inductive ChatBody where
  | text (text : JsString)
  | image (url : JsString)
  deriving DecidableEq

/-- A message as it is shown. -/
structure ChatMessage where
  id : Uuid
  senderId : Uuid
  sentAt : JsString
  expiresAt : JsString
  deliveryStatus : Option MessageDeliveryStatus
  body : ChatBody
  deriving DecidableEq

/-- The conversation that is open. -/
structure ChatConversation where
  id : JsString
  participantId : JsString
  deriving DecidableEq

/-- `authenticatedMessageKey`. -/
def authenticatedMessageKey (senderDeviceId clientMessageId : JsString) : JsString :=
  senderDeviceId ++ js ":" ++ clientMessageId

/-- The pair of a message in the anti-replay map. -/
def EncryptedTransportMessage.authenticatedKey (message : EncryptedTransportMessage) : JsString :=
  authenticatedMessageKey message.senderDeviceId.text message.clientMessageId.text

/-- The kind as the API writes it. -/
def kindText : MessageKind → JsString
  | .text => js "TEXT"
  | .image => js "IMAGE"

/-- The attachment as it enters the fingerprint. -/
def EncryptedMessageAttachment.toJson (attachment : EncryptedMessageAttachment) : Json :=
  .obj [(js "declaredMimeType", .str attachment.declaredMimeType.text),
    (js "plaintextByteSize", .num (.integer attachment.plaintextByteSize)),
    (js "ciphertextByteSize", .num (.integer attachment.ciphertextByteSize)),
    (js "ciphertextSha256", .str attachment.ciphertextSha256),
    (js "cipherSuite", .str attachment.cipherSuite)]

/-- `encryptedMessageFingerprint`. -/
def encryptedMessageFingerprint (message : EncryptedTransportMessage) : JsString :=
  stringify (.obj [(js "id", .str message.id.text),
    (js "senderUserId", .str message.senderUserId.text),
    (js "senderDeviceId", .str message.senderDeviceId.text),
    (js "clientMessageId", .str message.clientMessageId.text),
    (js "serverSequence", .str message.serverSequence), (js "kind", .str (kindText message.kind)),
    (js "createdAt", .str message.createdAt), (js "expiresAt", .str message.expiresAt),
    (js "protocolVersion", .str message.protocolVersion),
    (js "cipherSuite", .str message.cipherSuite), (js "ciphertext", .str message.ciphertext),
    (js "attachment", (message.attachment.map EncryptedMessageAttachment.toJson).getD .null)])

/-- `ownDeliveryStatus`. -/
def ownDeliveryStatus (message : EncryptedTransportMessage) (currentUserId : Uuid) :
    Option MessageDeliveryStatus :=
  if message.senderUserId ≠ currentUserId then none else some (message.receipt.getD .sent)

/-- `textChatMessage`, and the message `imageChatMessage` returns. -/
def chatMessage (message : EncryptedTransportMessage) (body : ChatBody) (currentUserId : Uuid) :
    ChatMessage :=
  { id := message.id
    senderId := message.senderUserId
    sentAt := message.createdAt
    expiresAt := message.expiresAt
    deliveryStatus := ownDeliveryStatus message currentUserId
    body }

/-! ## The state of a controller -/

/-- What the anti-replay map holds of a pair. -/
structure AuthenticatedMessageRecord where
  messageId : Uuid
  conversationId : JsString
  fingerprint : JsString
  expiresAtMs : ℤ
  deriving DecidableEq

/-- A message that was decrypted, with the fingerprint of its transport. -/
structure DecryptedMessage where
  conversationId : JsString
  fingerprint : JsString
  message : ChatMessage
  deriving DecidableEq

/-- An entry of `messageExpiryTimers`. -/
structure ExpiryTimer where
  authenticatedKey : JsString
  timer : ℕ
  deriving DecidableEq

/-- A timer of the runtime that has not fired, with what its callback holds. -/
structure PendingTimer where
  timer : ℕ
  dueAt : ℤ
  messageId : Uuid
  authenticatedKey : JsString
  deriving DecidableEq

/-- The controller, with the runtime's timers and the number of the next one. -/
structure Controller where
  closed : Bool
  objectUrls : JsMap Uuid JsString
  conversationMessageIds : JsMap JsString (List Uuid)
  decryptedMessages : JsMap Uuid DecryptedMessage
  authenticatedMessages : JsMap JsString AuthenticatedMessageRecord
  authenticatedKeysByMessageId : JsMap Uuid JsString
  messageExpiryTimers : JsMap Uuid ExpiryTimer
  timers : List PendingTimer
  nextTimer : ℕ

/-- The constructor. -/
def Controller.new : Controller :=
  { closed := false
    objectUrls := []
    conversationMessageIds := []
    decryptedMessages := []
    authenticatedMessages := []
    authenticatedKeysByMessageId := []
    messageExpiryTimers := []
    timers := []
    nextTimer := 0 }

/-- The longest delay `setTimeout` waits for. -/
def maxTimerDelay : ℤ := 2147483647

/-- The time `setTimeout` waits. -/
def timerDelay (delay : ℤ) : ℤ := if delay ≤ maxTimerDelay then delay else 0

namespace Controller

/-- A timer that is cleared does not fire. -/
def clearTimeout (c : Controller) (timer : ℕ) : Controller :=
  { c with timers := c.timers.filter fun p => p.timer ≠ timer }

/-- `revokeObjectUrl`. -/
def revokeObjectUrl (c : Controller) (messageId : Uuid) : Controller :=
  { c with objectUrls := c.objectUrls.delete messageId }

/-- What `expireMessage` clears whether the message was authenticated or not. -/
def hideMessage (c : Controller) (messageId : Uuid) : Controller :=
  { c.revokeObjectUrl messageId with
    decryptedMessages := c.decryptedMessages.delete messageId
    conversationMessageIds := c.conversationMessageIds.map fun entry =>
      (entry.1, entry.2.filter fun id => id ≠ messageId) }

/-- The end of `expireMessage`: both entries, where they are each other's. -/
def dropRecord (c : Controller) (authenticatedKey : JsString) (messageId : Uuid) : Controller :=
  { c with
    authenticatedMessages :=
      if (c.authenticatedMessages.get? authenticatedKey).map (·.messageId) = some messageId then
        c.authenticatedMessages.delete authenticatedKey
      else c.authenticatedMessages
    authenticatedKeysByMessageId :=
      if c.authenticatedKeysByMessageId.get? messageId = some authenticatedKey then
        c.authenticatedKeysByMessageId.delete messageId
      else c.authenticatedKeysByMessageId }

/-- The entry of `messageExpiryTimers` and its timer. -/
def clearExpiry (c : Controller) (messageId : Uuid) : Controller :=
  match c.messageExpiryTimers.get? messageId with
  | some expiry =>
    { c.clearTimeout expiry.timer with
      messageExpiryTimers := c.messageExpiryTimers.delete messageId }
  | none => c

/-- `expireMessage`. -/
def expireMessage (c : Controller) (messageId : Uuid)
    (expectedAuthenticatedKey : Option JsString) : Controller :=
  let expiry := c.messageExpiryTimers.get? messageId
  if expectedAuthenticatedKey.isSome &&
      expiry.any fun e => some e.authenticatedKey ≠ expectedAuthenticatedKey then c
  else
    let cleared := (c.clearExpiry messageId).hideMessage messageId
    let authenticatedKey := expectedAuthenticatedKey <|> expiry.map (·.authenticatedKey) <|>
      cleared.authenticatedKeysByMessageId.get? messageId
    match authenticatedKey with
    | some key => cleared.dropRecord key messageId
    | none => cleared

/-- `expireMessageIfDue`. -/
def expireMessageIfDue (c : Controller) (now : ℤ) (messageId : Uuid) : Controller :=
  let authenticatedKey := c.authenticatedKeysByMessageId.get? messageId
  let authenticated := authenticatedKey.bind fun key => c.authenticatedMessages.get? key
  if authenticated.any fun record => now < record.expiresAtMs then c
  else c.expireMessage messageId authenticatedKey

/-- The new entries of `rememberAuthenticatedMessage`, and their timer. -/
def register (c : Controller) (now : ℤ) (authenticatedKey : JsString)
    (record : AuthenticatedMessageRecord) : Controller :=
  { c with
    authenticatedMessages := c.authenticatedMessages.set authenticatedKey record
    authenticatedKeysByMessageId :=
      c.authenticatedKeysByMessageId.set record.messageId authenticatedKey
    messageExpiryTimers := c.messageExpiryTimers.set record.messageId ⟨authenticatedKey, c.nextTimer⟩
    timers := c.timers ++ [⟨c.nextTimer, now + timerDelay (max 0 (record.expiresAtMs - now)),
      record.messageId, authenticatedKey⟩]
    nextTimer := c.nextTimer + 1 }

/-- `rememberAuthenticatedMessage`. -/
def rememberAuthenticatedMessage (c : Controller) (now : ℤ) (authenticatedKey : JsString)
    (record : AuthenticatedMessageRecord) : Except ErrorCode Controller := do
  require (now < record.expiresAtMs) "MESSAGE_EXPIRED"
  let keyForMessage := c.authenticatedKeysByMessageId.get? record.messageId
  let existing := c.authenticatedMessages.get? authenticatedKey
  require (!(keyForMessage.any fun key => key ≠ authenticatedKey) &&
    !(existing.any fun found => found ≠ record)) "MESSAGE_REPLAY_OR_REWRITE_DETECTED"
  return if existing.isSome then c else c.register now authenticatedKey record

/-- `matchesAuthenticatedMessage`. -/
def matchesAuthenticatedMessage (c : Controller) (authenticatedKey : JsString)
    (record : AuthenticatedMessageRecord) : Bool :=
  c.authenticatedMessages.get? authenticatedKey = some record &&
    c.authenticatedKeysByMessageId.get? record.messageId = some authenticatedKey

/-- `close`. -/
def close (c : Controller) : Controller :=
  { c with
    closed := true
    objectUrls := []
    conversationMessageIds := []
    decryptedMessages := []
    authenticatedMessages := []
    authenticatedKeysByMessageId := []
    messageExpiryTimers := []
    timers := c.timers.filter fun p => !c.messageExpiryTimers.any fun e => e.2.timer = p.timer }

end Controller

/-! ## A turn of a load -/

/-- A message that passed the replay check, newly or again. -/
structure Acceptance where
  acceptedAt : ℤ
  senderDeviceId : Uuid
  clientMessageId : Uuid
  record : AuthenticatedMessageRecord
  deriving DecidableEq

/-- The local variables of a load that grow. -/
structure Progress where
  messages : List ChatMessage
  receiptsToRead : List Uuid

/-- What one turn has done so far, the acceptances latest first. -/
structure Turn where
  controller : Controller
  accepted : List Acceptance
  progress : Progress

/-- What a load waits for. -/
inductive Phase where
  | listing
  | decrypting (encrypted : EncryptedTransportMessage) (rest : List EncryptedTransportMessage)
  | downloading (encrypted : EncryptedTransportMessage) (rest : List EncryptedTransportMessage)
  | confirming

/-- How a turn ends. -/
inductive Next where
  | wait (phase : Phase)
  | done
  | fail (code : ErrorCode)

/-- A load that has not ended. -/
structure Load where
  conversation : ChatConversation
  aborted : Bool
  phase : Phase
  progress : Progress

/-- The environment: `Date.parse`, and the user of the session. -/
structure Env where
  dateParse : JsString → Option ℤ
  currentUserId : Uuid

variable (env : Env)

namespace Turn

/-- A message joins the page, and the receipts to send. -/
def push (turn : Turn) (encrypted : EncryptedTransportMessage) (message : ChatMessage) : Turn :=
  { turn with
    progress :=
      { messages := turn.progress.messages ++ [message]
        receiptsToRead :=
          if encrypted.senderUserId ≠ env.currentUserId ∧ encrypted.receipt ≠ some .read then
            turn.progress.receiptsToRead ++ [encrypted.id]
          else turn.progress.receiptsToRead } }

/-- A message that was just built joins the page and the cache. -/
def display (turn : Turn) (conversationId : JsString) (encrypted : EncryptedTransportMessage)
    (body : ChatBody) : Turn :=
  let message := chatMessage encrypted body env.currentUserId
  let controller := { turn.controller with
    decryptedMessages := turn.controller.decryptedMessages.set encrypted.id
      ⟨conversationId, encryptedMessageFingerprint encrypted, message⟩ }
  { turn with controller }.push env encrypted message

end Turn

/-- The record of a message. -/
def recordOf (conversationId : JsString) (encrypted : EncryptedTransportMessage)
    (expiresAtMs : ℤ) : AuthenticatedMessageRecord :=
  { messageId := encrypted.id
    conversationId
    fingerprint := encryptedMessageFingerprint encrypted
    expiresAtMs }

/-- The acceptance of a message when it is registered. -/
def acceptanceOf (now : ℤ) (conversationId : JsString) (encrypted : EncryptedTransportMessage)
    (expiresAtMs : ℤ) : Acceptance :=
  { acceptedAt := now
    senderDeviceId := encrypted.senderDeviceId
    clientMessageId := encrypted.clientMessageId
    record := recordOf conversationId encrypted expiresAtMs }

/-- The cached message of an item that was authenticated as it is. -/
def Controller.cached? (c : Controller) (conversationId : JsString)
    (encrypted : EncryptedTransportMessage) (expiresAtMs : ℤ) : Option DecryptedMessage :=
  (c.decryptedMessages.get? encrypted.id).filter fun cached =>
    cached.conversationId = conversationId &&
      cached.fingerprint = encryptedMessageFingerprint encrypted &&
      c.matchesAuthenticatedMessage encrypted.authenticatedKey
        (recordOf conversationId encrypted expiresAtMs)

/-- A cached message joins the page with its current status. -/
def Turn.reuse (turn : Turn) (now : ℤ) (conversationId : JsString)
    (encrypted : EncryptedTransportMessage) (expiresAtMs : ℤ) (cached : DecryptedMessage) : Turn :=
  let message := { cached.message with
    deliveryStatus := ownDeliveryStatus encrypted env.currentUserId }
  let controller := { turn.controller with
    decryptedMessages := turn.controller.decryptedMessages.set encrypted.id
      { cached with message } }
  { turn with
    controller
    accepted := acceptanceOf now conversationId encrypted expiresAtMs :: turn.accepted }.push env
      encrypted message

/-- The loop of `load`, to the next item that must be decrypted or the end of
the page. A date that is not a number is not past, and is that of no record. -/
def scan (now : ℤ) (conversationId : JsString) :
    List EncryptedTransportMessage → Turn → Turn × Next
  | [], turn => (turn, .wait .confirming)
  | encrypted :: rest, turn =>
    match env.dateParse encrypted.expiresAt with
    | none => (turn, .wait (.decrypting encrypted rest))
    | some expiresAtMs =>
      if expiresAtMs ≤ now then
        scan now conversationId rest
          { turn with controller := turn.controller.expireMessageIfDue now encrypted.id }
      else
        match turn.controller.cached? conversationId encrypted expiresAtMs with
        | some cached =>
          scan now conversationId rest
            (turn.reuse env now conversationId encrypted expiresAtMs cached)
        | none => (turn, .wait (.decrypting encrypted rest))

/-- Behind the check of the replay maps: a text is shown, an image downloaded. -/
def build (now : ℤ) (conversationId : JsString) (encrypted : EncryptedTransportMessage)
    (rest : List EncryptedTransportMessage) (content : SinoChatMessageContent) (turn : Turn) :
    Turn × Next :=
  match content with
  | .text _ text =>
    scan env now conversationId rest (turn.display env conversationId encrypted (.text text))
  | .image .. =>
    if encrypted.attachment.isNone then (turn, .fail "IMAGE_ATTACHMENT_MISSING")
    else (turn, .wait (.downloading encrypted rest))

/-- The turn after a decryption. -/
def afterDecrypt (now : ℤ) (conversationId : JsString) (encrypted : EncryptedTransportMessage)
    (rest : List EncryptedTransportMessage) (content : SinoChatMessageContent) (turn : Turn) :
    Turn × Next :=
  let bound := authenticatedMessageKey content.base.senderDeviceId content.base.clientMessageId =
    encrypted.authenticatedKey
  match env.dateParse encrypted.expiresAt with
  | none =>
    (turn, .fail (if bound then "MESSAGE_EXPIRED" else "AUTHENTICATED_MESSAGE_BINDING_INVALID"))
  | some expiresAtMs =>
    if expiresAtMs ≤ now then
      scan env now conversationId rest
        { turn with controller := turn.controller.expireMessageIfDue now encrypted.id }
    else if ¬ bound then (turn, .fail "AUTHENTICATED_MESSAGE_BINDING_INVALID")
    else
      match turn.controller.rememberAuthenticatedMessage now encrypted.authenticatedKey
        (recordOf conversationId encrypted expiresAtMs) with
      | .error code => (turn, .fail code)
      | .ok controller =>
        build env now conversationId encrypted rest content { turn with
          controller
          accepted := acceptanceOf now conversationId encrypted expiresAtMs :: turn.accepted }

/-- The turn after a download, the end of `imageChatMessage`. -/
def afterDownload (now : ℤ) (conversationId : JsString) (encrypted : EncryptedTransportMessage)
    (rest : List EncryptedTransportMessage) (url : JsString) (turn : Turn) : Turn × Next :=
  if (env.dateParse encrypted.expiresAt).any fun expiresAtMs => now < expiresAtMs then
    let revoked := turn.controller.revokeObjectUrl encrypted.id
    let controller := { revoked with objectUrls := revoked.objectUrls.set encrypted.id url }
    scan env now conversationId rest
      ({ turn with controller }.display env conversationId encrypted (.image url))
  else (turn, .fail "MESSAGE_EXPIRED")

/-- The messages of the page that are still live. -/
def keepLive (now : ℤ) : List ChatMessage → Controller → Controller × List ChatMessage
  | [], c => (c, [])
  | message :: rest, c =>
    if (env.dateParse message.expiresAt).any fun expiresAtMs => now < expiresAtMs then
      let (c', live) := keepLive now rest c
      (c', message :: live)
    else keepLive now rest (c.expireMessageIfDue now message.id)

/-- The last turn, after the receipts. -/
def afterReceipts (now : ℤ) (conversationId : JsString) (turn : Turn) : Turn × Next :=
  let (controller, live) := keepLive env now turn.progress.messages turn.controller
  let liveIds := live.map (·.id)
  let gone := ((controller.conversationMessageIds.get? conversationId).getD []).filter
    fun id => id ∉ liveIds
  let pruned := gone.foldl (fun c id =>
    { c.revokeObjectUrl id with decryptedMessages := c.decryptedMessages.delete id }) controller
  ({ turn with
      controller := { pruned with
        conversationMessageIds := pruned.conversationMessageIds.set conversationId liveIds }
      progress := { turn.progress with messages := live } }, .done)

/-! ## The event loop -/

/-- The page of one user: a controller and the loads that have not ended. -/
structure World where
  now : ℤ
  controller : Controller
  loads : JsMap ℕ Load
  nextLoad : ℕ

/-- What happens next. A load that waits is named by its number. -/
inductive Command where
  | advance (elapsed : ℕ)
  | load (conversation : ChatConversation)
  | abort (load : ℕ)
  | listed (load : ℕ) (items : List EncryptedTransportMessage)
  | decrypted (load : ℕ) (content : SinoChatMessageContent)
  | downloaded (load : ℕ) (url : JsString)
  | settled (load : ℕ)
  | rejected (load : ℕ)
  | fire (timer : ℕ)
  | close

/-- How a load ended. -/
inductive LoadResult where
  | loaded (messages : List ChatMessage)
  | failed (code : ErrorCode)
  deriving DecidableEq

/-- What came of a command: what was accepted, latest first, and a load that ended. -/
structure Outcome where
  accepted : List Acceptance
  ended : Option LoadResult

/-- A command with what came of it. -/
structure Event where
  command : Command
  outcome : Outcome

namespace World

/-- `assertConversation`. -/
def conversationInvalid (conversation : ChatConversation) : Bool :=
  conversation.participantId = env.currentUserId.text || conversation.id.isEmpty ||
    conversation.participantId.isEmpty

/-- `load`, to its first wait. -/
def load (w : World) (conversation : ChatConversation) : Outcome × World :=
  if w.controller.closed then (⟨[], some (.failed "AbortError")⟩, w)
  else if conversationInvalid env conversation then
    (⟨[], some (.failed "CONVERSATION_INVALID")⟩, w)
  else
    (⟨[], none⟩, { w with
      loads := w.loads.set w.nextLoad ⟨conversation, false, .listing, ⟨[], []⟩⟩
      nextLoad := w.nextLoad + 1 })

/-- The state behind a turn of a load. -/
def settle (w : World) (id : ℕ) (load : Load) : Turn × Next → Outcome × World
  | (turn, .wait phase) => (⟨turn.accepted, none⟩, { w with
      controller := turn.controller
      loads := w.loads.set id { load with phase, progress := turn.progress } })
  | (turn, .done) => (⟨turn.accepted, some (.loaded turn.progress.messages)⟩,
      { w with controller := turn.controller, loads := w.loads.delete id })
  | (turn, .fail code) => (⟨turn.accepted, some (.failed code)⟩,
      { w with controller := turn.controller, loads := w.loads.delete id })

/-- A turn of a load that waits for what came. -/
def resume (w : World) (id : ℕ) (turn : Load → Turn → Option (Turn × Next)) :
    Option (Outcome × World) := do
  let load ← w.loads.get? id
  let result ← turn load ⟨w.controller, [], load.progress⟩
  if w.controller.closed || load.aborted then
    return (⟨[], some (.failed "AbortError")⟩, { w with loads := w.loads.delete id })
  return w.settle id load result

end World

/-- The turn a load takes where it waits for what came. -/
def turnOf (now : ℤ) (command : Command) (load : Load) (turn : Turn) : Option (Turn × Next) :=
  match command, load.phase with
  | .listed _ items, .listing => some (scan env now load.conversation.id items turn)
  | .decrypted _ content, .decrypting encrypted rest =>
    some (afterDecrypt env now load.conversation.id encrypted rest content turn)
  | .downloaded _ url, .downloading encrypted rest =>
    some (afterDownload env now load.conversation.id encrypted rest url turn)
  | .settled _, .confirming => some (afterReceipts env now load.conversation.id turn)
  | .rejected _, .listing => some (turn, .fail "REJECTED")
  | .rejected _, .decrypting .. => some (turn, .fail "REJECTED")
  | .rejected _, .downloading .. => some (turn, .fail "REJECTED")
  | _, _ => none

/-- One command. -/
def exec (command : Command) (w : World) : Option (Outcome × World) :=
  match command with
  | .advance elapsed => some (⟨[], none⟩, { w with now := w.now + elapsed })
  | .load conversation => some (w.load env conversation)
  | .abort id => do
    let load ← w.loads.get? id
    return (⟨[], none⟩, { w with loads := w.loads.set id { load with aborted := true } })
  | .listed id _ | .decrypted id _ | .downloaded id _ | .settled id | .rejected id =>
    w.resume id (turnOf env w.now command)
  | .fire timer => do
    let p ← w.controller.timers.find? fun p => p.timer = timer
    guard (p.dueAt ≤ w.now)
    return (⟨[], none⟩, { w with
      controller := (w.controller.clearTimeout timer).expireMessage p.messageId
        (some p.authenticatedKey) })
  | .close => some (⟨[], none⟩, { w with controller := w.controller.close })

/-- The page as a machine. -/
def page : Machine World Event where
  init w := w.controller = .new ∧ w.loads = []
  step w event w' := exec env event.command w = some (event.outcome, w')

end SecureMessages

end SinoChat
