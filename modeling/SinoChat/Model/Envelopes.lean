import SinoChat.Common.JsMap
import SinoChat.Model.Messages

/-!
# The envelopes of a message

`assertCompleteEnvelopes` of `messages.service.ts` on the texts of a request
and the rows of the devices with their protocol version. In `Model.Messages`
every active device has the current protocol; here the check is part of the
function, and the devices are looked up in the maps that the source builds. Where
every device has the current protocol the two agree (`assertCompleteEnvelopes_current`).
-/

namespace SinoChat

open Js

namespace Messaging

namespace Envelopes

/-- `MATRIX_DEVICE_PROTOCOL_VERSION`. -/
def matrixDeviceProtocolVersion : JsString := js "matrix-olm-v1"

/-- The row of an active device. -/
structure ActiveDevice where
  id : JsString
  userId : JsString
  matrixDeviceId : JsString
  protocolVersion : JsString
  curve25519Key : JsString
  deriving DecidableEq

/-- `MessageEnvelopeDto`. -/
structure MessageEnvelopeDto where
  recipientDeviceId : JsString
  protocolVersion : JsString
  cipherSuite : JsString
  ciphertext : JsString
  deriving DecidableEq

/-- What is read of a `SendMessageDto`. -/
structure SendMessageDto where
  senderDeviceId : JsString
  envelopes : List MessageEnvelopeDto
  deriving DecidableEq

variable (decoders : Decoders)

/-- `new Map(activeDevices.map((device) => [device.id, device]))`. -/
def byId (activeDevices : List ActiveDevice) : JsMap JsString ActiveDevice :=
  .ofEntries (activeDevices.map fun device => (device.id, device))

/-- The body of the loop, after `received` recipients with the ciphertext of the first. -/
def checkEnvelope (senderDevice : ActiveDevice) (expectedRecipients : JsMap JsString ActiveDevice)
    (received : List JsString) (canonicalCiphertext : Option JsString)
    (envelope : MessageEnvelopeDto) : Except HttpException Unit := do
  require (!received.contains envelope.recipientDeviceId)
    (.badRequest "No puede repetirse un dispositivo destinatario.")
  let expectedDevice := expectedRecipients.get? envelope.recipientDeviceId
  require (expectedDevice.any (·.protocolVersion = matrixDeviceProtocolVersion) &&
      envelope.protocolVersion = matrixMessageProtocolVersion &&
      envelope.cipherSuite = matrixMegolmAlgorithm)
    (.badRequest "Los sobres no coinciden con los dispositivos activos.")
  let ciphertextBytes := decoders.bytes envelope.ciphertext
  require (16 ≤ ciphertextBytes.length && ciphertextBytes.length ≤ maxEnvelopeBytes)
    (.badRequest "Un sobre cifrado supera el tamaño permitido.")
  require (toBase64 ciphertextBytes = envelope.ciphertext)
    (.badRequest "Un sobre cifrado no es canónico.")
  require (canonicalCiphertext.all (· = envelope.ciphertext))
    (.badRequest "El ciphertext Megolm debe ser idéntico para todos los dispositivos.")
  let content ← orThrow
    ((decoders.json ciphertextBytes).bind (parseMatrixMegolmRoomContent decoders))
    (.badRequest "Un ciphertext Megolm no es válido.")
  require (content.senderKey = senderDevice.curve25519Key &&
      content.deviceId = senderDevice.matrixDeviceId)
    (.badRequest "El sobre cifrado no corresponde a los dispositivos declarados.")

/-- The loop: the recipients. -/
def checkEnvelopes (senderDevice : ActiveDevice)
    (expectedRecipients : JsMap JsString ActiveDevice) :
    List MessageEnvelopeDto → List JsString → Option JsString →
      Except HttpException (List JsString)
  | [], received, _ => .ok received
  | envelope :: rest, received, canonicalCiphertext => do
    checkEnvelope decoders senderDevice expectedRecipients received canonicalCiphertext envelope
    checkEnvelopes senderDevice expectedRecipients rest (envelope.recipientDeviceId :: received)
      (some envelope.ciphertext)

/-- `assertCompleteEnvelopes`. -/
def assertCompleteEnvelopes (input : SendMessageDto) (activeDevices : List ActiveDevice) :
    Except HttpException Unit := do
  require (!activeDevices.isEmpty)
    (.conflict "Los participantes deben configurar dispositivos seguros.")
  let senderDevice ← orThrow ((byId activeDevices).get? input.senderDeviceId)
    (.forbidden "Dispositivo emisor no autorizado.")
  require (senderDevice.protocolVersion = matrixDeviceProtocolVersion)
    (.conflict "El dispositivo emisor no usa el protocolo E2EE vigente.")
  let expectedRecipients := byId activeDevices
  require (expectedRecipients.any fun entry => entry.2.userId ≠ senderDevice.userId)
    (.conflict "La contraparte debe configurar un dispositivo seguro.")
  let received ← checkEnvelopes decoders senderDevice expectedRecipients input.envelopes [] none
  require (received.length = expectedRecipients.length &&
      expectedRecipients.all fun entry => received.contains entry.1)
    (.conflict "Debes cifrar el mensaje para todos los dispositivos activos.")

end Envelopes

end Messaging

end SinoChat
