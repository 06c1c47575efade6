import SinoChat.Common.JsonLength
import SinoChat.Model.Messages

/-!
# The message payloads of the web client

`messagePayload.ts`: what the web client checks of a message before it sends it.
The checks of an envelope are written apart from those of the API, over the
other built-in functions: `atob` and `btoa` where the API has `Buffer`.
-/

namespace SinoChat

open Js

namespace MessagePayload

variable (round : JsString → JsNumber)

/-! ## Built-in decoders -/

/-- Without the byte order mark, which a `TextDecoder` drops. -/
def stripByteOrderMark : List UInt8 → List UInt8
  | 0xEF :: 0xBB :: 0xBF :: rest => rest
  | bytes => bytes

/-- `new TextDecoder("utf-8", { fatal: true }).decode(bytes)`. -/
def textDecoder (bytes : List UInt8) : Option JsString := decodeUtf8 (stripByteOrderMark bytes)

/-- The API's decoders. -/
def apiDecoders (signedGrant : JsString → Except HttpException Messaging.UploadGrant) :
    Messaging.Decoders where
  bytes := bufferFromBase64
  json bytes := (textDecoder bytes).bind (parseJson round)
  signedGrant

/-! ## Checks of fields -/

/-- `[89ab]`. -/
def isUuidVariant : CharClass := fun u => u == 0x38 || u == 0x39 || u == 0x61 || u == 0x62

/-- `UUID_V4_PATTERN`. -/
def uuidV4Pattern : List CharClass :=
  times 8 isLowerHex ++ lit "-" ++ times 4 isLowerHex ++ lit "-4" ++ times 3 isLowerHex ++
    lit "-" ++ [isUuidVariant] ++ times 3 isLowerHex ++ lit "-" ++ times 12 isLowerHex

/-- `PADDED_BASE64_PATTERN`. -/
def isPaddedBase64 : JsString → Bool
  | [] => true
  | [a, b, c, d] => isBase64 a && isBase64 b &&
      (isBase64 c && isBase64 d || isBase64 c && d == 0x3D || c == 0x3D && d == 0x3D)
  | a :: b :: c :: d :: rest =>
    isBase64 a && isBase64 b && isBase64 c && isBase64 d && isPaddedBase64 rest
  | _ => false

/-- `record`. -/
def record (value : Json) (code : ErrorCode) : Except ErrorCode (List (JsString × Json)) :=
  orThrow value.record? code

/-- `exactKeys`. -/
def exactKeys (entries : List (JsString × Json)) (expected : List JsString) (code : ErrorCode) :
    Except ErrorCode Unit :=
  require ((Json.keys entries).length == expected.length &&
    (Json.keys entries).all expected.contains && expected.all (Json.hasOwn entries)) code

/-- `uuid`, of a property. -/
def uuid (value : Option Json) (code : ErrorCode) : Except ErrorCode Uuid :=
  orThrow ((value.bind Json.str?).bind fun text =>
    if fixed uuidV4Pattern text then Uuid.ofText? text else none) code

/-- `toUpperCase` of an ASCII character. -/
def upperUnit (u : UInt16) : UInt16 := if isLower u then u - 0x20 else u

/-- `matrixDeviceIdFromUuid`. -/
def matrixDeviceIdFromUuid (value : Uuid) : JsString :=
  js "D" ++ (value.text.filter (· ≠ 0x2D)).map upperUnit

/-- `messageKind`. -/
def messageKind (value : Option Json) (code : ErrorCode) :
    Except ErrorCode Messaging.MessageKind :=
  orThrow ((value.bind Json.str?).bind fun text =>
    if text = js "TEXT" then some .text else if text = js "IMAGE" then some .image else none) code

/-! ## Base64 -/

/-- `decodeCanonicalPaddedBase64`. -/
def decodeCanonicalPaddedBase64 (value : Option Json) (minimumBytes maximumBytes : ℕ)
    (code : ErrorCode) : Except ErrorCode (List UInt8) := do
  let text ← orThrow (value.bind Json.str?) code
  require (text ≠ [] && isPaddedBase64 text) code
  let binary ← orThrow (atob text) code
  require (minimumBytes ≤ binary.length && binary.length ≤ maximumBytes) code
  require (toBase64 binary = text) code
  return binary

/-- `decodeCanonicalUnpaddedBase64`. -/
def decodeCanonicalUnpaddedBase64 (value : JsString) (expectedBytes : Option ℕ)
    (minimumBytes : ℕ) : Option (List UInt8) := do
  guard (value ≠ [] && value.all isBase64 && value.length % 4 ≠ 1)
  let binary ← atob (value ++ List.replicate ((4 - value.length % 4) % 4) 0x3D)
  guard (minimumBytes ≤ binary.length && expectedBytes.all (binary.length = ·) &&
    unpadded (toBase64 binary) = value)
  return binary

/-! ## Envelopes -/

/-- The result of `parseMatrixMegolmEnvelopeBase64`. -/
structure MatrixMegolmEnvelope where
  base64 : JsString
  json : JsString
  content : Messaging.MatrixMegolmRoomContent
  deriving DecidableEq

/-- The content of an object with the expected keys. -/
def megolmContent (content : List (JsString × Json)) : Option Messaging.MatrixMegolmRoomContent := do
  let algorithm ← (Json.get? (js "algorithm") content).bind Json.str?
  guard (algorithm = Messaging.matrixMegolmAlgorithm)
  let deviceId ← (Json.get? (js "device_id") content).bind Json.str?
  guard (isMatrixDeviceId deviceId)
  let senderKey ← (Json.get? (js "sender_key") content).bind Json.str?
  guard (decodeCanonicalUnpaddedBase64 senderKey (some 32) 1).isSome
  let sessionId ← (Json.get? (js "session_id") content).bind Json.str?
  guard (decodeCanonicalUnpaddedBase64 sessionId (some 32) 1).isSome
  let ciphertext ← (Json.get? (js "ciphertext") content).bind Json.str?
  guard (decodeCanonicalUnpaddedBase64 ciphertext none 16).isSome
  return { algorithm, ciphertext, deviceId, senderKey, sessionId }

/-- `parseMatrixMegolmEnvelopeBase64`. -/
def parseMatrixMegolmEnvelopeBase64 (value : Option Json) :
    Except ErrorCode MatrixMegolmEnvelope := do
  let decoded ← decodeCanonicalPaddedBase64 value 16 Messaging.maxEnvelopeBytes
    "MATRIX_MEGOLM_BASE64_INVALID"
  let json ← orThrow (textDecoder decoded) "MATRIX_MEGOLM_JSON_INVALID"
  let rawContent ← orThrow (parseJson round json) "MATRIX_MEGOLM_JSON_INVALID"
  let content ← record rawContent "MATRIX_MEGOLM_CONTENT_INVALID"
  exactKeys content [js "algorithm", js "ciphertext", js "device_id", js "sender_key",
    js "session_id"] "MATRIX_MEGOLM_CONTENT_FIELDS_INVALID"
  let parsed ← orThrow (megolmContent content) "MATRIX_MEGOLM_CONTENT_INVALID"
  -- the cast `value as string`, behind the check that it is one
  let base64 ← orThrow (value.bind Json.str?) "MATRIX_MEGOLM_BASE64_INVALID"
  return { base64, json, content := parsed }

/-! ## A message to send -/

/-- One envelope of a message, after `recipients` with the ciphertext of the first. -/
def validateEnvelope (senderDeviceId : Uuid) (recipients : List Uuid)
    (canonicalCiphertext : Option JsString) (value : Json) :
    Except ErrorCode Messaging.EnvelopeInput := do
  let envelope ← record value "SEND_MESSAGE_ENVELOPE_INVALID"
  exactKeys envelope [js "recipientDeviceId", js "protocolVersion", js "cipherSuite",
    js "ciphertext"] "SEND_MESSAGE_ENVELOPE_FIELDS_INVALID"
  let recipientDeviceId ← uuid (Json.get? (js "recipientDeviceId") envelope)
    "SEND_MESSAGE_ENVELOPE_INVALID"
  require (!recipients.contains recipientDeviceId &&
    (Json.get? (js "protocolVersion") envelope).bind Json.str? =
      some Messaging.matrixMessageProtocolVersion &&
    (Json.get? (js "cipherSuite") envelope).bind Json.str? =
      some Messaging.matrixMegolmAlgorithm) "SEND_MESSAGE_ENVELOPE_INVALID"
  let parsed ← parseMatrixMegolmEnvelopeBase64 round (Json.get? (js "ciphertext") envelope)
  require (parsed.content.deviceId = matrixDeviceIdFromUuid senderDeviceId &&
    canonicalCiphertext.all (· = parsed.base64)) "SEND_MESSAGE_ENVELOPE_BINDING_INVALID"
  return { recipientDeviceId, protocolVersion := Messaging.matrixMessageProtocolVersion
           cipherSuite := Messaging.matrixMegolmAlgorithm, ciphertext := parsed.base64 }

/-- The loop over the envelopes. -/
def validateEnvelopes (senderDeviceId : Uuid) :
    List Json → List Uuid → Option JsString → Except ErrorCode (List Messaging.EnvelopeInput)
  | [], _, _ => .ok []
  | value :: rest, recipients, canonicalCiphertext => do
    let envelope ← validateEnvelope round senderDeviceId recipients canonicalCiphertext value
    let envelopes ← validateEnvelopes senderDeviceId rest
      (envelope.recipientDeviceId :: recipients) (some envelope.ciphertext)
    return envelope :: envelopes

/-- The form of an upload grant: two parts of base64url, the second of 43 characters. -/
def isGrantToken (token : JsString) : Bool :=
  let split := token.length - 44
  80 ≤ token.length && token.length ≤ 4096 && (token.take split).all isBase64Url &&
    fixed (lit "." ++ times 43 isBase64Url) (token.drop split)

/-- `validateSendEncryptedMessageRequest`; what it returns has the fields of the API's body. -/
def validateSendEncryptedMessageRequest (value : Json) :
    Except ErrorCode Messaging.SendMessage := do
  let input ← record value "SEND_MESSAGE_REQUEST_INVALID"
  exactKeys input ([js "clientMessageId", js "senderDeviceId", js "kind", js "envelopes"] ++
    if Json.hasOwn input (js "attachmentGrantToken") then [js "attachmentGrantToken"] else [])
    "SEND_MESSAGE_REQUEST_FIELDS_INVALID"
  let clientMessageId ← uuid (Json.get? (js "clientMessageId") input)
    "SEND_MESSAGE_REQUEST_INVALID"
  let senderDeviceId ← uuid (Json.get? (js "senderDeviceId") input)
    "SEND_MESSAGE_REQUEST_INVALID"
  let kind ← messageKind (Json.get? (js "kind") input) "SEND_MESSAGE_REQUEST_INVALID"
  let values ← orThrow ((Json.get? (js "envelopes") input).bind Json.arr?)
    "SEND_MESSAGE_ENVELOPES_INVALID"
  require (1 ≤ values.length && values.length ≤ 64) "SEND_MESSAGE_ENVELOPES_INVALID"
  let envelopes ← validateEnvelopes round senderDeviceId values [] none
  let attachmentGrantToken := Json.get? (js "attachmentGrantToken") input
  require (match kind with
    | .text => attachmentGrantToken.isNone
    | .image => (attachmentGrantToken.bind Json.str?).any isGrantToken)
    "SEND_MESSAGE_ATTACHMENT_GRANT_INVALID"
  return { clientMessageId, senderDeviceId, kind, envelopes
           attachmentGrantToken := attachmentGrantToken.bind Json.str? }

end MessagePayload

end SinoChat
