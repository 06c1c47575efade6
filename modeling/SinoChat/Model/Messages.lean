import SinoChat.Common.Base64
import SinoChat.Model.Account
import SinoChat.Model.Rows
import SinoChat.Model.Storage
import SinoChat.Model.ToDeviceRequest

/-!
# Messages and attachments

`messages.service.ts` over its tables: the messages of a conversation with
their envelopes, receipts and notifications, the attachments of images, and
the reservations of uploads.

The functions are the transactions and the statements of the service between
which other requests may run. How the built-in decoders read a text is a
parameter (`Decoders`), and so is the signature of an upload grant.
-/

namespace SinoChat

open Js

namespace Messaging

/-! ## Rows -/

/-- A text, or an image with its attachment. -/
inductive MessageKind where
  | text | image
  deriving DecidableEq

/-- How far a message has come at its recipient. -/
inductive MessageDeliveryStatus where
  | sent | delivered | read
  deriving DecidableEq

/-- Whether the object of an attachment is there or to be removed. -/
inductive AttachmentUploadStatus where
  | available | purgePending | purgeFailed
  deriving DecidableEq

/-- A row of `messages`. -/
structure Message where
  id : Uuid
  conversationId : Uuid
  senderUserId : Uuid
  senderDeviceId : Uuid
  clientMessageId : Uuid
  serverSequence : ℕ
  kind : MessageKind
  createdAt : ℕ
  expiresAt : ℕ
  deriving DecidableEq

/-- A row of `message_envelopes`: the ciphertext for one device. -/
structure MessageEnvelope where
  messageId : Uuid
  recipientDeviceId : Uuid
  protocolVersion : JsString
  cipherSuite : JsString
  ciphertext : List UInt8
  deriving DecidableEq

/-- A row of `message_receipts`. -/
structure MessageReceipt where
  messageId : Uuid
  recipientUserId : Uuid
  status : MessageDeliveryStatus
  deliveredAt : Option ℕ
  readAt : Option ℕ
  deriving DecidableEq

/-- An attachment, by its message. -/
structure Attachment where
  messageId : Uuid
  objectKey : JsString
  declaredMimeType : JsString
  plaintextByteSize : ℕ
  ciphertextByteSize : ℕ
  ciphertextSha256 : JsString
  cipherSuite : JsString
  status : AttachmentUploadStatus
  lastPurgeAttemptAt : Option ℕ
  deriving DecidableEq

/-- A `NEW_MESSAGE` notification. -/
structure InAppNotification where
  userId : Uuid
  messageId : Uuid
  relatedEntityId : Uuid
  expiresAt : ℕ
  deriving DecidableEq

/-- A reservation for an upload that no message has used. -/
structure PendingAttachmentUpload where
  id : Uuid
  userId : Uuid
  conversationId : Uuid
  objectKey : JsString
  declaredMimeType : JsString
  plaintextByteSize : ℕ
  ciphertextByteSize : ℕ
  ciphertextSha256 : JsString
  grantExpiresAt : ℕ
  lastPurgeAttemptAt : Option ℕ
  deriving DecidableEq

/-- The tables of the service. -/
structure MessageTables where
  messages : Table Uuid Message Message.id
  envelopes : List MessageEnvelope
  receipts : List MessageReceipt
  attachments : Table Uuid Attachment Attachment.messageId
  notifications : List InAppNotification
  pendingAttachments : Table Uuid PendingAttachmentUpload PendingAttachmentUpload.id

/-! ## Requests -/

/-- An envelope of a request. -/
structure EnvelopeInput where
  recipientDeviceId : Uuid
  protocolVersion : JsString
  cipherSuite : JsString
  ciphertext : JsString
  deriving DecidableEq

/-- The body of a `send`, as its validation lets it pass. -/
structure SendMessage where
  clientMessageId : Uuid
  senderDeviceId : Uuid
  kind : MessageKind
  envelopes : List EnvelopeInput
  attachmentGrantToken : Option JsString
  deriving DecidableEq

/-- A `send` of a user to a conversation. -/
structure SendRequest where
  userId : Uuid
  conversationId : Uuid
  input : SendMessage
  deriving DecidableEq

/-- What a client declares of an upload. -/
structure RequestUpload where
  declaredMimeType : JsString
  plaintextByteSize : ℕ
  ciphertextByteSize : ℕ
  ciphertextSha256 : JsString
  deriving DecidableEq

/-- What an upload grant carries. -/
structure UploadGrant where
  reservationId : Uuid
  userId : Uuid
  conversationId : Uuid
  objectKey : JsString
  declaredMimeType : JsString
  plaintextByteSize : ℕ
  ciphertextByteSize : ℕ
  ciphertextSha256 : JsString
  expiresAt : ℕ
  deriving DecidableEq

/-- What a sender is answered. -/
structure MessageAcknowledgement where
  id : Uuid
  clientMessageId : Uuid
  serverSequence : ℕ
  kind : MessageKind
  createdAt : ℕ
  expiresAt : ℕ
  created : Bool
  deriving DecidableEq

/-- `messageAcknowledgement`. -/
def messageAcknowledgement (message : Message) (created : Bool) : MessageAcknowledgement :=
  { id := message.id, clientMessageId := message.clientMessageId
    serverSequence := message.serverSequence, kind := message.kind
    createdAt := message.createdAt, expiresAt := message.expiresAt, created }

/-! ## Encrypted content -/

/-- Built-in functions, and the check of a grant's signature. -/
structure Decoders where
  /-- `Buffer.from(text, "base64")`. -/
  bytes : JsString → List UInt8
  /-- The JSON value of UTF-8 bytes, if they are one. -/
  json : List UInt8 → Option Json
  /-- The grant under a valid signature, or the refusal. -/
  signedGrant : JsString → Except HttpException UploadGrant

variable (decoders : Decoders)

/-- The bytes of a ciphertext at most. -/
def maxEnvelopeBytes : ℕ := 128 * 1024

/-- The reservations of one user at most. -/
def maxPendingAttachmentsPerUser : ℕ := 4

/-- The protocol version of an envelope. -/
def matrixMessageProtocolVersion : JsString := js "matrix-megolm-v1"

/-- The algorithm of rooms. -/
def matrixMegolmAlgorithm : JsString := js "m.megolm.v1.aes-sha2"

/-- The cipher suite of an attachment. -/
def matrixAttachmentCipherSuite : JsString := js "A256CTR"

/-- The content of a ciphertext that was accepted. -/
structure MatrixMegolmRoomContent where
  algorithm : JsString
  ciphertext : JsString
  deviceId : JsString
  senderKey : JsString
  sessionId : JsString
  deriving DecidableEq

/-- `isCanonicalUnpaddedBase64`. -/
def isCanonicalUnpaddedBase64 (value : JsString) (expectedBytes : Option ℕ) (minimumBytes : ℕ) :
    Bool :=
  value ≠ [] && value.all isBase64 && value.length % 4 ≠ 1 &&
    let decoded := decoders.bytes value
    minimumBytes ≤ decoded.length && expectedBytes.all (decoded.length = ·) &&
      unpadded (toBase64 decoded) = value

/-- `parseMatrixMegolmRoomContent`. -/
def parseMatrixMegolmRoomContent (value : Json) : Option MatrixMegolmRoomContent := do
  let entries ← value.record?
  guard (Json.exactKeys entries [js "algorithm", js "ciphertext", js "device_id",
    js "sender_key", js "session_id"])
  let algorithm ← (Json.get? (js "algorithm") entries).bind Json.str?
  let ciphertext ← (Json.get? (js "ciphertext") entries).bind Json.str?
  let deviceId ← (Json.get? (js "device_id") entries).bind Json.str?
  let senderKey ← (Json.get? (js "sender_key") entries).bind Json.str?
  let sessionId ← (Json.get? (js "session_id") entries).bind Json.str?
  guard (algorithm = matrixMegolmAlgorithm)
  guard (isMatrixDeviceId deviceId)
  guard (isCanonicalUnpaddedBase64 decoders senderKey (some 32) 1)
  guard (isCanonicalUnpaddedBase64 decoders sessionId (some 32) 1)
  guard (isCanonicalUnpaddedBase64 decoders ciphertext none 16)
  guard (byteLength (stringify value) ≤ maxEnvelopeBytes)
  return { algorithm, ciphertext, deviceId, senderKey, sessionId }

/-! ## The conversation and its devices -/

/-- An active device with its published identity. -/
structure ActiveDevice where
  id : Uuid
  userId : Uuid
  matrixDeviceId : JsString
  curve25519Key : JsString
  deriving DecidableEq

/-- The two users of a conversation and their active devices. -/
structure LockedConversation where
  clientUserId : Uuid
  cashierUserId : Uuid
  activeDevices : List ActiveDevice
  deriving DecidableEq

/-- `singleOrNull`, where no row is a refusal. -/
def singleConversation {α : Type} : List α → Except HttpException α
  | [] => .error (.forbidden "Conversacion no disponible.")
  | [row] => .ok row
  | _ => .error (.internal "Se detecto mas de una elegibilidad activa.")

/-- `eligibility.lockCurrent` with a device: the client and the cashier. -/
def lockCurrent (accounts : Accounts) (userId conversationId deviceId : Uuid) (now : ℕ) :
    Except HttpException (Uuid × Uuid) :=
  singleConversation (accounts.currentOfConversation userId conversationId deviceId now)

/-- The active devices of the two users that have published their keys. -/
def activeDevices (accounts : Accounts) (clientUserId cashierUserId : Uuid) : List ActiveDevice :=
  accounts.devices.rows.filterMap fun device =>
    if (device.userId = clientUserId ∨ device.userId = cashierUserId) ∧ device.status = .active then
      (accounts.deviceKeys.find? device.id).map fun identity =>
        ⟨device.id, device.userId, identity.matrixDeviceId, identity.curve25519Key⟩
    else none

/-- `lockConversationAndDevices`. -/
def lockConversationAndDevices (accounts : Accounts) (userId conversationId senderDeviceId : Uuid)
    (now : ℕ) : Except HttpException LockedConversation := do
  let (clientUserId, cashierUserId) ← lockCurrent accounts userId conversationId senderDeviceId now
  let devices := activeDevices accounts clientUserId cashierUserId
  require (devices.any fun device => device.id = senderDeviceId && device.userId = userId)
    (.forbidden "Dispositivo emisor no autorizado.")
  return ⟨clientUserId, cashierUserId, devices⟩

/-- The checks on one envelope, after `received` recipients with the ciphertext of the first. -/
def checkEnvelope (senderDevice : ActiveDevice) (devices : List ActiveDevice)
    (received : List Uuid) (canonicalCiphertext : Option JsString) (envelope : EnvelopeInput) :
    Except HttpException Unit := do
  require (!received.contains envelope.recipientDeviceId)
    (.badRequest "No puede repetirse un dispositivo destinatario.")
  require (devices.any (·.id = envelope.recipientDeviceId) &&
      envelope.protocolVersion = matrixMessageProtocolVersion &&
      envelope.cipherSuite = matrixMegolmAlgorithm)
    (.badRequest "Los sobres no coinciden con los dispositivos activos.")
  let ciphertextBytes := decoders.bytes envelope.ciphertext
  require (16 ≤ ciphertextBytes.length && ciphertextBytes.length ≤ maxEnvelopeBytes)
    (.badRequest "Un sobre cifrado supera el tamaño permitido.")
  require (toBase64 ciphertextBytes = envelope.ciphertext)
    (.badRequest "Un sobre cifrado no es canónico.")
  require (canonicalCiphertext.all (· = envelope.ciphertext))
    (.badRequest "El ciphertext Megolm debe ser idéntico para todos los dispositivos.")
  let content ← orThrow
    ((decoders.json ciphertextBytes).bind (parseMatrixMegolmRoomContent decoders))
    (.badRequest "Un ciphertext Megolm no es válido.")
  require (content.senderKey = senderDevice.curve25519Key &&
      content.deviceId = senderDevice.matrixDeviceId)
    (.badRequest "El sobre cifrado no corresponde a los dispositivos declarados.")

/-- The loop over the envelopes: the recipients. -/
def checkEnvelopes (senderDevice : ActiveDevice) (devices : List ActiveDevice) :
    List EnvelopeInput → List Uuid → Option JsString → Except HttpException (List Uuid)
  | [], received, _ => .ok received
  | envelope :: rest, received, canonicalCiphertext => do
    checkEnvelope decoders senderDevice devices received canonicalCiphertext envelope
    checkEnvelopes senderDevice devices rest (envelope.recipientDeviceId :: received)
      (some envelope.ciphertext)

/-- `assertCompleteEnvelopes` for devices of the current protocol. The function on the texts
of a request, with the check of the protocol, is the one of `Model.Envelopes`; they agree
(`Envelopes.assertCompleteEnvelopes_current`). -/
def assertCompleteEnvelopes (input : SendMessage) (devices : List ActiveDevice) :
    Except HttpException Unit := do
  require (!devices.isEmpty) (.conflict "Los participantes deben configurar dispositivos seguros.")
  let senderDevice ← orThrow (devices.find? (·.id = input.senderDeviceId))
    (.forbidden "Dispositivo emisor no autorizado.")
  require (devices.any (·.userId ≠ senderDevice.userId))
    (.conflict "La contraparte debe configurar un dispositivo seguro.")
  let received ← checkEnvelopes decoders senderDevice devices input.envelopes [] none
  require (received.length = devices.length &&
      devices.all fun device => received.contains device.id)
    (.conflict "Debes cifrar el mensaje para todos los dispositivos activos.")

/-! ## Sending -/

namespace MessageTables

variable (db : MessageTables)

/-- `findUnique` by the sender's device and the client's id. -/
def findMessage (senderDeviceId clientMessageId : Uuid) : Option Message :=
  db.messages.rows.find? fun message =>
    message.senderDeviceId = senderDeviceId && message.clientMessageId = clientMessageId

/-- The reservation of a grant that a send may consume. -/
def usable (request : SendRequest) (grant : UploadGrant) (now : ℕ)
    (reservation : PendingAttachmentUpload) : Bool :=
  reservation.id = grant.reservationId && reservation.userId = request.userId &&
    reservation.conversationId = request.conversationId &&
    reservation.objectKey = grant.objectKey && now < reservation.grantExpiresAt &&
    reservation.lastPurgeAttemptAt = none

/-- The reservation of a grant also has what the grant declares. -/
def declared (grant : UploadGrant) (reservation : PendingAttachmentUpload) : Bool :=
  reservation.declaredMimeType = grant.declaredMimeType &&
    reservation.plaintextByteSize = grant.plaintextByteSize &&
    reservation.ciphertextByteSize = grant.ciphertextByteSize &&
    reservation.ciphertextSha256 = grant.ciphertextSha256

/-- `prepareAttachment` before the storage is asked: `verify`, `assertMatches`
and the reservation. -/
def prepareAttachment (request : SendRequest) (now : ℕ) :
    Except HttpException (Option UploadGrant) :=
  match request.input.kind, request.input.attachmentGrantToken with
  | .text, none => .ok none
  | .text, some _ => .error (.badRequest "Un mensaje de texto no puede incluir una foto.")
  | .image, none => .error (.badRequest "El mensaje de imagen requiere una foto cifrada.")
  | .image, some token => do
    let grant ← decoders.signedGrant token
    require (now < grant.expiresAt)
      (.unauthorized "El permiso para subir la foto venció o es inválido.")
    require (grant.userId = request.userId && grant.conversationId = request.conversationId)
      (.badRequest "El permiso de foto no corresponde a esta conversación.")
    require (db.pendingAttachments.rows.any fun reservation =>
        usable request grant now reservation && declared grant reservation)
      (.conflict "El permiso de la foto ya fue utilizado o venció.")
    return some grant

/-- The transaction of `send` up to its writes: the conversation, the
envelopes and the reservation. -/
def prepareWrites (accounts : Accounts) (request : SendRequest) (grant : Option UploadGrant)
    (now : ℕ) : Except HttpException LockedConversation := do
  let locked ← lockConversationAndDevices accounts request.userId request.conversationId
    request.input.senderDeviceId now
  assertCompleteEnvelopes decoders request.input locked.activeDevices
  require (grant.all fun grant => db.pendingAttachments.rows.any (usable request grant now))
    (.conflict "El permiso de la foto ya fue utilizado o venció.")
  -- a CHECK of the attachments; the reservations have no such one
  require (grant.all fun grant => grant.plaintextByteSize ≤ grant.ciphertextByteSize)
    (.internal "attachments_ciphertext_size_check")
  return locked

end MessageTables

/-- `expires_at` of a message. -/
def messageLifetime : ℕ := 48 * 60 * 60 * 1000

/-- What a send writes. -/
structure MessageWrites where
  message : Message
  envelopes : List MessageEnvelope
  receipt : MessageReceipt
  attachment : Option Attachment
  notification : InAppNotification
  /-- The reservation it deletes. -/
  reservationId : Option Uuid
  deriving DecidableEq

/-- The rows of a new message. -/
def newMessage (request : SendRequest) (grant : Option UploadGrant) (locked : LockedConversation)
    (id : Uuid) (serverSequence createdAt : ℕ) : MessageWrites :=
  let recipientUserId :=
    if locked.clientUserId = request.userId then locked.cashierUserId else locked.clientUserId
  let expiresAt := createdAt + messageLifetime
  { message :=
      { id, conversationId := request.conversationId, senderUserId := request.userId
        senderDeviceId := request.input.senderDeviceId
        clientMessageId := request.input.clientMessageId, serverSequence
        kind := request.input.kind, createdAt, expiresAt }
    envelopes := request.input.envelopes.map fun envelope =>
      { messageId := id, recipientDeviceId := envelope.recipientDeviceId
        protocolVersion := envelope.protocolVersion, cipherSuite := envelope.cipherSuite
        ciphertext := decoders.bytes envelope.ciphertext }
    receipt := ⟨id, recipientUserId, .sent, none, none⟩
    attachment := grant.map fun grant =>
      { messageId := id, objectKey := grant.objectKey, declaredMimeType := grant.declaredMimeType
        plaintextByteSize := grant.plaintextByteSize
        ciphertextByteSize := grant.ciphertextByteSize
        ciphertextSha256 := grant.ciphertextSha256, cipherSuite := matrixAttachmentCipherSuite
        status := .available, lastPurgeAttemptAt := none }
    notification := ⟨recipientUserId, id, request.conversationId, expiresAt⟩
    reservationId := grant.map UploadGrant.reservationId }

namespace MessageTables

variable (db : MessageTables)

/-- The attachment of a message, if it has one. -/
def createAttachment :
    Option Attachment → Except HttpException (Table Uuid Attachment Attachment.messageId)
  | some attachment => db.attachments.create attachment
  | none => .ok db.attachments

/-- The writes of a send, at its commit. -/
def store (writes : MessageWrites) : Except HttpException MessageTables := do
  let messages ← db.messages.create writes.message
  let attachments ← db.createAttachment writes.attachment
  return { messages, attachments
           envelopes := db.envelopes ++ writes.envelopes
           receipts := db.receipts ++ [writes.receipt]
           notifications := db.notifications ++ [writes.notification]
           pendingAttachments := match writes.reservationId with
             | some reservationId => db.pendingAttachments.remove reservationId
             | none => db.pendingAttachments }

/-- `acknowledgeExistingMessage`, with `assertIdempotentMessageMatches`. -/
def acknowledgeExistingMessage (accounts : Accounts) (request : SendRequest) (now : ℕ) :
    Except HttpException MessageAcknowledgement := do
  let _ ← lockConversationAndDevices accounts request.userId request.conversationId
    request.input.senderDeviceId now
  let existing ← orThrow (db.findMessage request.input.senderDeviceId request.input.clientMessageId)
    (.withMessage 404 "Mensaje no disponible.")
  require (existing.senderUserId = request.userId &&
      existing.conversationId = request.conversationId && existing.kind = request.input.kind)
    (.conflict "El identificador idempotente ya pertenece a otro mensaje.")
  require (now < existing.expiresAt) (.withMessage 404 "Mensaje no disponible.")
  return messageAcknowledgement existing false

end MessageTables

end Messaging

end SinoChat
