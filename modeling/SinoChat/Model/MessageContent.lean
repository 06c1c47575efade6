import SinoChat.Model.MessagePayload

/-!
# The content of a message

`messageContent.ts`: the plaintext inside an encrypted event. The encoders take
the fields of a text or an image and write an object, the decoder reads an
object and compares it with what the API said of the message outside.

`new URL("https://" + serverName)` is a parameter, `urlHost`: whether the name of
a server makes a URL with a host and without credentials.
-/

namespace SinoChat

open Js

namespace MessageContent

/-! ## The content -/

/-- The media types a message may declare. -/
inductive SinoChatImageMimeType where
  | jpeg | png | webp
  deriving DecidableEq

/-- The name of a media type. -/
def SinoChatImageMimeType.text : SinoChatImageMimeType → JsString
  | .jpeg => js "image/jpeg"
  | .png => js "image/png"
  | .webp => js "image/webp"

/-- The two orders of `key_ops`. -/
inductive KeyOperations where
  | decryptEncrypt | encryptDecrypt
  deriving DecidableEq

/-- The operations in the order they were written. -/
def KeyOperations.toJson : KeyOperations → Json
  | .decryptEncrypt => .arr [.str (js "decrypt"), .str (js "encrypt")]
  | .encryptDecrypt => .arr [.str (js "encrypt"), .str (js "decrypt")]

/-- The fields of a `MatrixV2MediaEncryptionInfo` that are not constants. -/
structure MatrixV2MediaEncryptionInfo where
  keyOps : KeyOperations
  k : JsString
  iv : JsString
  sha256 : JsString
  deriving DecidableEq

/-- What a message says of its image. -/
structure SinoChatImageMetadata where
  declaredMimeType : SinoChatImageMimeType
  plaintextByteSize : ℤ
  ciphertextByteSize : ℤ
  ciphertextSha256 : JsString
  mediaEncryptionInfo : MatrixV2MediaEncryptionInfo
  deriving DecidableEq

/-- What a text and an image have in common, the protocol version aside. -/
structure SinoChatMessageBase where
  conversationId : JsString
  roomId : JsString
  clientMessageId : JsString
  senderUserId : JsString
  senderDeviceId : JsString
  deriving DecidableEq

/-- The content of a message that was accepted. -/
inductive SinoChatMessageContent where
  | text (base : SinoChatMessageBase) (text : JsString)
  | image (base : SinoChatMessageBase) (image : SinoChatImageMetadata)
  deriving DecidableEq

/-- The event type of the messages of the application. -/
def sinoChatMessageEventType : JsString := js "com.sinochat.message.v1"

/-- The protocol version of a message. -/
def sinoChatMessageProtocolVersion : JsString := js "matrix-megolm-v1"

/-- The cipher suite of a message. -/
def sinoChatMessageCipherSuite : JsString := js "m.megolm.v1.aes-sha2"

/-- The cipher suite of an image. -/
def sinoChatAttachmentCipherSuite : JsString := js "A256CTR"

/-- The code units of a text at most. -/
def sinoChatMaxTextLength : ℕ := 4000

/-- The bytes of an image at most. -/
def sinoChatMaxImagePlaintextBytes : ℤ := 5 * 1024 * 1024

/-- The bytes of an encrypted image at most. -/
def sinoChatMaxImageCiphertextBytes : ℤ := sinoChatMaxImagePlaintextBytes + 256 * 1024

/-! ## As JSON -/

/-- The media description as it is written. -/
def MatrixV2MediaEncryptionInfo.toJson (info : MatrixV2MediaEncryptionInfo) : Json :=
  .obj [(js "v", .str (js "v2")),
    (js "key", .obj [(js "kty", .str (js "oct")), (js "key_ops", info.keyOps.toJson),
      (js "alg", .str (js "A256CTR")), (js "k", .str info.k), (js "ext", .bool true)]),
    (js "iv", .str info.iv), (js "hashes", .obj [(js "sha256", .str info.sha256)])]

/-- The metadata as they are written. -/
def SinoChatImageMetadata.toJson (image : SinoChatImageMetadata) : Json :=
  .obj [(js "declaredMimeType", .str image.declaredMimeType.text),
    (js "plaintextByteSize", .num (.integer image.plaintextByteSize)),
    (js "ciphertextByteSize", .num (.integer image.ciphertextByteSize)),
    (js "ciphertextSha256", .str image.ciphertextSha256),
    (js "mediaEncryptionInfo", image.mediaEncryptionInfo.toJson)]

/-- The object of a content: its base, its kind and its body. -/
def contentJson (conversationId roomId clientMessageId senderUserId senderDeviceId : Json)
    (kind body : JsString) (value : Json) : Json :=
  .obj [(js "protocolVersion", .str sinoChatMessageProtocolVersion),
    (js "conversationId", conversationId), (js "roomId", roomId),
    (js "clientMessageId", clientMessageId), (js "senderUserId", senderUserId),
    (js "senderDeviceId", senderDeviceId), (js "kind", .str kind), (body, value)]

/-- The members that every content has, and one more. -/
def SinoChatMessageBase.toJson (base : SinoChatMessageBase) (kind body : JsString)
    (value : Json) : Json :=
  contentJson (.str base.conversationId) (.str base.roomId) (.str base.clientMessageId)
    (.str base.senderUserId) (.str base.senderDeviceId) kind body value

/-- The content as it is written. -/
def SinoChatMessageContent.toJson : SinoChatMessageContent → Json
  | .text base body => base.toJson (js "TEXT") (js "text") (.str body)
  | .image base metadata => base.toJson (js "IMAGE") (js "image") metadata.toJson

/-! ## Checks of fields -/

variable (round : JsString → JsNumber) (urlHost : JsString → Bool)

/-- `toLowerCase` of an ASCII character. -/
def lowerUnit (u : UInt16) : UInt16 := if isUpper u then u + 0x20 else u

/-- `toLowerCase`. A text with a character outside ASCII is refused behind each
use of it here, whatever that character is lowered to. -/
def toLowerCase (text : JsString) : JsString := text.map lowerUnit

/-- `[0-9a-f]` without regard to case. -/
def isHex : CharClass := fun u => isLowerHex u || isUpperHex u

/-- `[89ab]` without regard to case. -/
def isVariant : CharClass := fun u =>
  u == 0x38 || u == 0x39 || u == 0x61 || u == 0x62 || u == 0x41 || u == 0x42

/-- `UUID_V4_PATTERN`. -/
def uuidV4Pattern : List CharClass :=
  times 8 isHex ++ lit "-" ++ times 4 isHex ++ lit "-4" ++ times 3 isHex ++ lit "-" ++
    [isVariant] ++ times 3 isHex ++ lit "-" ++ times 12 isHex

/-- `plainRecord`. -/
def plainRecord (value : Json) (code : ErrorCode) : Except ErrorCode (List (JsString × Json)) :=
  orThrow value.record? code

/-- `assertOnlyDataKeys`. -/
def assertOnlyDataKeys (value : List (JsString × Json)) (expectedKeys : List JsString)
    (code : ErrorCode) : Except ErrorCode Unit :=
  require ((Json.keys value).length == expectedKeys.length &&
    (Json.keys value).all expectedKeys.contains && expectedKeys.all (Json.hasOwn value)) code

/-- `uuid`. -/
def uuid (value : Option Json) (code : ErrorCode) : Except ErrorCode JsString := do
  let text ← orThrow (value.bind Json.str?) code
  require (fixed uuidV4Pattern text) code
  return toLowerCase text

/-- `normalizeHexSha256`. -/
def normalizeHexSha256 (value : Option Json) (code : ErrorCode) : Except ErrorCode JsString := do
  let text ← orThrow (value.bind Json.str?) code
  require (fixed (times 64 isLowerHex) (toLowerCase text)) code
  return toLowerCase text

/-- `boundedInteger`. -/
def boundedInteger (value : Option Json) (minimum maximum : ℤ) (code : ErrorCode) :
    Except ErrorCode ℤ :=
  orThrow (value.bind fun v => match v with
    | .num (.integer n) =>
      if n.natAbs ≤ 2 ^ 53 - 1 ∧ minimum ≤ n ∧ n ≤ maximum then some n else none
    | _ => none) code

/-- `imageMimeType`. -/
def imageMimeType (value : Option Json) : Except ErrorCode SinoChatImageMimeType :=
  orThrow ((value.bind Json.str?).bind fun text =>
    if text = js "image/jpeg" then some .jpeg
    else if text = js "image/png" then some .png
    else if text = js "image/webp" then some .webp
    else none) "SINOCHAT_ATTACHMENT_INFO_INVALID"

/-! ## The room -/

/-- `[a-z0-9]`. -/
def isNameUnit : CharClass := fun u => isLower u || isDigit u

/-- The host of a server name: a name, or an address in brackets. -/
def isServerHost (host : JsString) : Bool :=
  (host.head?.any isNameUnit && host.getLast?.any isNameUnit &&
    host.all fun u => isNameUnit u || u == 0x2E || u == 0x2D) ||
  (3 ≤ host.length && host.head? = some 0x5B && host.getLast? = some 0x5D &&
    (host.drop 1).dropLast.all fun u => isLowerHex u || u == 0x3A || u == 0x2E)

/-- `MATRIX_SERVER_NAME_PATTERN`: a host, and a port of up to five digits if any. -/
def isServerName (name : JsString) : Bool :=
  isServerHost name || (List.range 5).any fun k =>
    let split := name.length - (k + 2)
    fixed (lit ":" ++ times (k + 1) isDigit) (name.drop split) && isServerHost (name.take split)

/-- `text.includes(part)`. -/
def includes (part text : JsString) : Bool := text.tails.any part.isPrefixOf

/-- A character that `.` stands for. -/
def isLineUnit : CharClass := fun u => u != 0x0A && u != 0x0D && u != 0x2028 && u != 0x2029

/-- `matrixRoomId`. -/
def matrixRoomId (value : Option Json) (conversationId : JsString) (code : ErrorCode) :
    Except ErrorCode JsString := do
  let text ← orThrow (value.bind Json.str?) code
  require (text = toLowerCase text && text.length ≤ 300) code
  let serverName := text.drop 35
  require (fixed (lit "!c" ++ times 32 isLowerHex ++ lit ":") (text.take 35) &&
    run isLineUnit 1 255 serverName && (text.drop 2).take 32 = conversationId.filter (· ≠ 0x2D))
    code
  require (isServerName serverName && !includes (js "@") serverName &&
    !includes (js "/") serverName && serverName.head? ≠ some 0x2E &&
    serverName.getLast? ≠ some 0x2E && !includes (js "..") serverName) code
  require (urlHost serverName) code
  return text

/-! ## The text -/

/-- `isWellFormedUnicode`. Behind the last unit `charCodeAt` is not a number,
which compares with nothing. -/
def isWellFormedUnicode : JsString → Bool
  | [] => true
  | [u] => !isLowSurrogate u
  | u :: v :: rest =>
    if isHighSurrogate u then isLowSurrogate v && isWellFormedUnicode rest
    else !isLowSurrogate u && isWellFormedUnicode (v :: rest)

/-! ## Encrypted media -/

/-- `isExactKeyOperations`. -/
def keyOperations? (value : Option Json) : Option KeyOperations :=
  match value with
  | some (.arr [.str first, .str second]) =>
    if first = js "decrypt" ∧ second = js "encrypt" then some .decryptEncrypt
    else if first = js "encrypt" ∧ second = js "decrypt" then some .encryptDecrypt
    else none
  | _ => none

/-- The state of the decoder: bits that fill no byte yet, how many, and the output. -/
structure HexState where
  accumulator : ℕ
  bits : ℕ
  output : JsString

/-- One character. Fewer than eight bits wait before it, so at most one byte is complete. -/
def HexState.push (s : HexState) (sextet : ℕ) : HexState :=
  let accumulator := s.accumulator * 64 + sextet
  let bits := s.bits + 6
  if 8 ≤ bits then
    let byte := accumulator / 2 ^ (bits - 8) % 256
    ⟨accumulator % 2 ^ (bits - 8), bits - 8, s.output ++ [hexDigit (byte / 16), hexDigit (byte % 16)]⟩
  else ⟨accumulator, bits, s.output⟩

/-- `alphabet.indexOf(character)`. -/
def sextet? (urlSafe : Bool) (u : UInt16) : Option ℕ :=
  if urlSafe then
    if u = 0x2D then some 62 else if u = 0x5F then some 63
    else if u = 0x2B ∨ u = 0x2F then none else base64Digit? u
  else base64Digit? u

/-- `decodeUnpaddedBase64ToHex`. -/
def decodeUnpaddedBase64ToHex (value : JsString) (urlSafe : Bool) : Except ErrorCode JsString := do
  let sextets ← orThrow (value.mapM (sextet? urlSafe)) "SINOCHAT_ATTACHMENT_INFO_INVALID"
  let s := sextets.foldl HexState.push ⟨0, 0, []⟩
  require (!(0 < s.bits && s.accumulator ≠ 0)) "SINOCHAT_ATTACHMENT_INFO_INVALID"
  return s.output

/-- The value a JSON text stands for, where the media information is one. -/
def mediaValue (value : Option Json) : Except ErrorCode Json :=
  match value with
  | some (.str text) => do
    require (2 ≤ text.length && text.length ≤ 2048) "SINOCHAT_ATTACHMENT_INFO_INVALID"
    orThrow (parseJson round text) "SINOCHAT_ATTACHMENT_INFO_INVALID"
  | _ => orThrow value "SINOCHAT_ATTACHMENT_INFO_INVALID"

/-- `value === true`. -/
def isTrue : Option Json → Bool
  | some (.bool true) => true
  | _ => false

/-- The constants and the texts of the media information, and the order of its operations. -/
def mediaFields (info key hashes : List (JsString × Json)) :
    Option MatrixV2MediaEncryptionInfo := do
  guard (((Json.get? (js "v") info).bind Json.str? = some (js "v2") ∧
    (Json.get? (js "kty") key).bind Json.str? = some (js "oct")) ∧
    (Json.get? (js "alg") key).bind Json.str? = some (js "A256CTR"))
  guard (isTrue (Json.get? (js "ext") key))
  let k ← (Json.get? (js "k") key).bind Json.str?
  guard (fixed (times 43 isBase64Url) k)
  let iv ← (Json.get? (js "iv") info).bind Json.str?
  guard (fixed (times 22 isBase64) iv)
  let sha256 ← (Json.get? (js "sha256") hashes).bind Json.str?
  guard (fixed (times 43 isBase64) sha256)
  let keyOps ← keyOperations? (Json.get? (js "key_ops") key)
  return { keyOps, k, iv, sha256 }

/-- `parseMediaEncryptionInfo`. -/
def parseMediaEncryptionInfo (value : Option Json) :
    Except ErrorCode MatrixV2MediaEncryptionInfo := do
  let parsed ← mediaValue round value
  let info ← plainRecord parsed "SINOCHAT_ATTACHMENT_INFO_INVALID"
  assertOnlyDataKeys info [js "v", js "key", js "iv", js "hashes"]
    "SINOCHAT_ATTACHMENT_INFO_INVALID"
  let key ← orThrow ((Json.get? (js "key") info).bind Json.record?)
    "SINOCHAT_ATTACHMENT_INFO_INVALID"
  assertOnlyDataKeys key [js "kty", js "key_ops", js "alg", js "k", js "ext"]
    "SINOCHAT_ATTACHMENT_INFO_INVALID"
  let hashes ← orThrow ((Json.get? (js "hashes") info).bind Json.record?)
    "SINOCHAT_ATTACHMENT_INFO_INVALID"
  assertOnlyDataKeys hashes [js "sha256"] "SINOCHAT_ATTACHMENT_INFO_INVALID"
  let media ← orThrow (mediaFields info key hashes) "SINOCHAT_ATTACHMENT_INFO_INVALID"
  -- canonical padding bits
  let _ ← decodeUnpaddedBase64ToHex media.k true
  let _ ← decodeUnpaddedBase64ToHex media.iv false
  let _ ← decodeUnpaddedBase64ToHex media.sha256 false
  return media

/-- `parseImageMetadata`. -/
def parseImageMetadata (value : Option Json) : Except ErrorCode SinoChatImageMetadata := do
  let record ← orThrow (value.bind Json.record?) "SINOCHAT_ATTACHMENT_INFO_INVALID"
  assertOnlyDataKeys record [js "declaredMimeType", js "plaintextByteSize",
    js "ciphertextByteSize", js "ciphertextSha256", js "mediaEncryptionInfo"]
    "SINOCHAT_ATTACHMENT_INFO_INVALID"
  let declaredMimeType ← imageMimeType (Json.get? (js "declaredMimeType") record)
  let plaintextByteSize ← boundedInteger (Json.get? (js "plaintextByteSize") record) 1
    sinoChatMaxImagePlaintextBytes "SINOCHAT_ATTACHMENT_INFO_INVALID"
  let ciphertextByteSize ← boundedInteger (Json.get? (js "ciphertextByteSize") record)
    plaintextByteSize sinoChatMaxImageCiphertextBytes "SINOCHAT_ATTACHMENT_INFO_INVALID"
  let ciphertextSha256 ← normalizeHexSha256 (Json.get? (js "ciphertextSha256") record)
    "SINOCHAT_ATTACHMENT_INFO_INVALID"
  let mediaEncryptionInfo ← parseMediaEncryptionInfo round
    (Json.get? (js "mediaEncryptionInfo") record)
  let hash ← decodeUnpaddedBase64ToHex mediaEncryptionInfo.sha256 false
  require (hash = ciphertextSha256) "SINOCHAT_ATTACHMENT_INFO_INVALID"
  return { declaredMimeType, plaintextByteSize, ciphertextByteSize, ciphertextSha256
           mediaEncryptionInfo }

/-! ## Parsing a content -/

/-- The fields `parseTextContent` and `parseImageContent` read the same way. -/
def parseBase (record : List (JsString × Json)) : Except ErrorCode SinoChatMessageBase := do
  let conversationId ← uuid (Json.get? (js "conversationId") record)
    "SINOCHAT_MESSAGE_CONTENT_INVALID"
  let roomId ← matrixRoomId urlHost (Json.get? (js "roomId") record) conversationId
    "SINOCHAT_MESSAGE_CONTENT_INVALID"
  let clientMessageId ← uuid (Json.get? (js "clientMessageId") record)
    "SINOCHAT_MESSAGE_CONTENT_INVALID"
  let senderUserId ← uuid (Json.get? (js "senderUserId") record)
    "SINOCHAT_MESSAGE_CONTENT_INVALID"
  let senderDeviceId ← uuid (Json.get? (js "senderDeviceId") record)
    "SINOCHAT_MESSAGE_CONTENT_INVALID"
  return { conversationId, roomId, clientMessageId, senderUserId, senderDeviceId }

/-- `parseTextContent`. -/
def parseTextContent (value : Json) : Except ErrorCode SinoChatMessageContent := do
  let record ← plainRecord value "SINOCHAT_MESSAGE_CONTENT_INVALID"
  assertOnlyDataKeys record [js "protocolVersion", js "conversationId", js "roomId",
    js "clientMessageId", js "senderUserId", js "senderDeviceId", js "kind", js "text"]
    "SINOCHAT_MESSAGE_CONTENT_INVALID"
  require ((Json.get? (js "protocolVersion") record).bind Json.str? =
      some sinoChatMessageProtocolVersion &&
    (Json.get? (js "kind") record).bind Json.str? = some (js "TEXT"))
    "SINOCHAT_MESSAGE_CONTENT_INVALID"
  let text ← orThrow ((Json.get? (js "text") record).bind Json.str?)
    "SINOCHAT_MESSAGE_CONTENT_INVALID"
  require (1 ≤ text.length && text.length ≤ sinoChatMaxTextLength &&
    (trim text).length ≠ 0 && isWellFormedUnicode text) "SINOCHAT_MESSAGE_CONTENT_INVALID"
  let base ← parseBase urlHost record
  return .text base text

/-- `parseImageContent`: the conversation is read before the image, the rest behind it. -/
def parseImageContent (value : Json) : Except ErrorCode SinoChatMessageContent := do
  let record ← plainRecord value "SINOCHAT_MESSAGE_CONTENT_INVALID"
  assertOnlyDataKeys record [js "protocolVersion", js "conversationId", js "roomId",
    js "clientMessageId", js "senderUserId", js "senderDeviceId", js "kind", js "image"]
    "SINOCHAT_MESSAGE_CONTENT_INVALID"
  require ((Json.get? (js "protocolVersion") record).bind Json.str? =
      some sinoChatMessageProtocolVersion &&
    (Json.get? (js "kind") record).bind Json.str? = some (js "IMAGE"))
    "SINOCHAT_MESSAGE_CONTENT_INVALID"
  let _ ← uuid (Json.get? (js "conversationId") record) "SINOCHAT_MESSAGE_CONTENT_INVALID"
  let image ← parseImageMetadata round (Json.get? (js "image") record)
  let base ← parseBase urlHost record
  return .image base image

/-! ## Encoding -/

/-- What is handed to `OlmMachine.encryptRoomEvent`. -/
structure EncodedSinoChatMessage where
  eventType : JsString
  content : SinoChatMessageContent

/-- A property of the input of an encoder, whose keys have been checked. -/
def field (record : List (JsString × Json)) (key : JsString) : Json :=
  (Json.get? key record).getD .null

/-- The object an encoder hands to the parser. -/
def inputJson (record : List (JsString × Json)) (kind body : JsString) (value : Json) : Json :=
  contentJson (field record (js "conversationId")) (field record (js "roomId"))
    (field record (js "clientMessageId")) (field record (js "senderUserId"))
    (field record (js "senderDeviceId")) kind body value

/-- `encodeSinoChatTextMessage`. -/
def encodeSinoChatTextMessage (input : Json) : Except ErrorCode EncodedSinoChatMessage := do
  let record ← plainRecord input "SINOCHAT_MESSAGE_INPUT_INVALID"
  assertOnlyDataKeys record [js "conversationId", js "roomId", js "clientMessageId",
    js "senderUserId", js "senderDeviceId", js "text"] "SINOCHAT_MESSAGE_INPUT_INVALID"
  let content ← parseTextContent urlHost
    (inputJson record (js "TEXT") (js "text") (field record (js "text")))
  return { eventType := sinoChatMessageEventType, content }

/-- `encodeSinoChatImageMessage`. -/
def encodeSinoChatImageMessage (input : Json) : Except ErrorCode EncodedSinoChatMessage := do
  let record ← plainRecord input "SINOCHAT_MESSAGE_INPUT_INVALID"
  assertOnlyDataKeys record [js "conversationId", js "roomId", js "clientMessageId",
    js "senderUserId", js "senderDeviceId", js "declaredMimeType", js "plaintextByteSize",
    js "ciphertextByteSize", js "ciphertextSha256", js "mediaEncryptionInfo"]
    "SINOCHAT_MESSAGE_INPUT_INVALID"
  let ciphertextSha256 ← normalizeHexSha256 (Json.get? (js "ciphertextSha256") record)
    "SINOCHAT_ATTACHMENT_INFO_INVALID"
  let mediaEncryptionInfo ← parseMediaEncryptionInfo round
    (Json.get? (js "mediaEncryptionInfo") record)
  let content ← parseImageContent round urlHost (inputJson record (js "IMAGE") (js "image")
    (.obj [(js "declaredMimeType", field record (js "declaredMimeType")),
      (js "plaintextByteSize", field record (js "plaintextByteSize")),
      (js "ciphertextByteSize", field record (js "ciphertextByteSize")),
      (js "ciphertextSha256", .str ciphertextSha256),
      (js "mediaEncryptionInfo", mediaEncryptionInfo.toJson)]))
  return { eventType := sinoChatMessageEventType, content }

/-! ## Decoding -/

/-- What the API says of the image of a message. -/
structure SinoChatAttachmentTransportMetadata where
  declaredMimeType : JsString
  plaintextByteSize : JsNumber
  ciphertextByteSize : JsNumber
  ciphertextSha256 : JsString
  cipherSuite : JsString
  deriving DecidableEq

/-- What the API says of a message, to be compared with its content. -/
structure SinoChatMessageTransportBinding where
  conversationId : JsString
  roomId : JsString
  clientMessageId : JsString
  senderUserId : JsString
  senderDeviceId : JsString
  kind : JsString
  protocolVersion : JsString
  cipherSuite : JsString
  attachment : Option SinoChatAttachmentTransportMetadata
  deriving DecidableEq

namespace SinoChatMessageContent

/-- The members that every content has. -/
def base : SinoChatMessageContent → SinoChatMessageBase
  | text base _ => base
  | image base _ => base

/-- The kind of a content, as it is written. -/
def kind : SinoChatMessageContent → JsString
  | text .. => js "TEXT"
  | image .. => js "IMAGE"

end SinoChatMessageContent

/-- The comparison of the attachment. -/
def assertAttachmentBinding (content : SinoChatMessageContent)
    (attachment : Option SinoChatAttachmentTransportMetadata) : Except ErrorCode Unit :=
  match content with
  | .text .. => require attachment.isNone "SINOCHAT_ATTACHMENT_BINDING_MISMATCH"
  | .image _ image => do
    let attachment ← orThrow attachment "SINOCHAT_ATTACHMENT_BINDING_MISMATCH"
    require (attachment.declaredMimeType = image.declaredMimeType.text &&
      attachment.plaintextByteSize = .integer image.plaintextByteSize &&
      attachment.ciphertextByteSize = .integer image.ciphertextByteSize &&
      attachment.cipherSuite = sinoChatAttachmentCipherSuite)
      "SINOCHAT_ATTACHMENT_BINDING_MISMATCH"
    let ciphertextSha256 ← normalizeHexSha256 (some (.str attachment.ciphertextSha256))
      "SINOCHAT_ATTACHMENT_BINDING_MISMATCH"
    require (ciphertextSha256 = image.ciphertextSha256) "SINOCHAT_ATTACHMENT_BINDING_MISMATCH"

/-- `assertSinoChatMessageBinding`. -/
def assertSinoChatMessageBinding (content : SinoChatMessageContent)
    (binding : SinoChatMessageTransportBinding) : Except ErrorCode Unit := do
  let conversationId ← uuid (some (.str binding.conversationId))
    "SINOCHAT_MESSAGE_BINDING_MISMATCH"
  let roomId ← matrixRoomId urlHost (some (.str binding.roomId)) conversationId
    "SINOCHAT_MESSAGE_BINDING_MISMATCH"
  let clientMessageId ← uuid (some (.str binding.clientMessageId))
    "SINOCHAT_MESSAGE_BINDING_MISMATCH"
  let senderDeviceId ← uuid (some (.str binding.senderDeviceId))
    "SINOCHAT_MESSAGE_BINDING_MISMATCH"
  let senderUserId ← uuid (some (.str binding.senderUserId))
    "SINOCHAT_MESSAGE_BINDING_MISMATCH"
  require (binding.kind = content.kind &&
    binding.protocolVersion = sinoChatMessageProtocolVersion &&
    binding.cipherSuite = sinoChatMessageCipherSuite &&
    conversationId = content.base.conversationId && roomId = content.base.roomId &&
    clientMessageId = content.base.clientMessageId &&
    senderUserId = content.base.senderUserId && senderDeviceId = content.base.senderDeviceId)
    "SINOCHAT_MESSAGE_BINDING_MISMATCH"
  assertAttachmentBinding content binding.attachment

/-- `decodeSinoChatMessageContent`. -/
def decodeSinoChatMessageContent (eventType value : Json)
    (binding : SinoChatMessageTransportBinding) : Except ErrorCode SinoChatMessageContent := do
  require (eventType.str? = some sinoChatMessageEventType) "SINOCHAT_MESSAGE_EVENT_TYPE_INVALID"
  let content ← plainRecord value "SINOCHAT_MESSAGE_CONTENT_INVALID"
  let kind := (Json.get? (js "kind") content).bind Json.str?
  let parsed ←
    if kind = some (js "TEXT") then parseTextContent urlHost value
    else if kind = some (js "IMAGE") then parseImageContent round urlHost value
    else .error "SINOCHAT_MESSAGE_CONTENT_INVALID"
  assertSinoChatMessageBinding urlHost parsed binding
  return parsed

end MessageContent

end SinoChat
