import SinoChat.Model.CanonicalJson
import SinoChat.Model.CrossSigning

/-!
# The to-device messages of a verification

`matrix-sas-to-device.ts`: the narrow parser of the messages one device of a user
sends another of the same user to compare short authentication strings. The type
of the event decides the fields of its content; the parser builds the content anew
of the values it has checked, and hashes it with the scope of the flow.
-/

namespace SinoChat

open Js

namespace SasToDevice

/-! ## The vocabulary -/

/-- What a verification event is about. -/
inductive Verification where
  | request
  | ready
  | start
  | accept
  | key
  | mac
  | done
  | cancel
  deriving DecidableEq

namespace Verification

/-- The suffix of the event type. -/
def suffix : Verification → JsString
  | request => js "request"
  | ready => js "ready"
  | start => js "start"
  | accept => js "accept"
  | key => js "key"
  | mac => js "mac"
  | done => js "done"
  | cancel => js "cancel"

/-- The event type of a step. -/
def eventType (kind : Verification) : JsString := js "m.key.verification." ++ kind.suffix

/-- The fields of the content. -/
def fields : Verification → List JsString
  | request => [js "from_device", js "methods", js "timestamp", js "transaction_id"]
  | ready => [js "from_device", js "methods", js "transaction_id"]
  | start => [js "from_device", js "hashes", js "key_agreement_protocols",
      js "message_authentication_codes", js "method", js "short_authentication_string",
      js "transaction_id"]
  | accept => [js "commitment", js "hash", js "key_agreement_protocol",
      js "message_authentication_code", js "short_authentication_string", js "transaction_id"]
  | key => [js "key", js "transaction_id"]
  | mac => [js "keys", js "mac", js "transaction_id"]
  | done => [js "transaction_id"]
  | cancel => [js "code", js "reason", js "transaction_id"]

/-- `EVENT_TYPES`. -/
def all : List Verification := [request, ready, start, accept, key, mac, done, cancel]

/-- The kind of an event of a known type. -/
def ofEventType? (eventType : JsString) : Option Verification :=
  all.find? fun kind => kind.eventType = eventType

end Verification

/-- The method that is allowed. -/
def sasMethod : JsString := js "m.sas.v1"

/-- The hash that is allowed. -/
def sasHash : JsString := js "sha256"

/-- The key agreement that is allowed. -/
def keyAgreement : JsString := js "curve25519-hkdf-sha256"

/-- `MAC_V2`. -/
def macV2 : JsString := js "hkdf-hmac-sha256.v2"

/-- `MAC_OFFERS`. -/
def macOffers : List JsString :=
  [js "hkdf-hmac-sha256", macV2, js "org.matrix.msc3783.hkdf-hmac-sha256"]

/-- The short authentication strings. -/
def shortStrings : List JsString := [js "decimal", js "emoji"]

/-- `CANCEL_CODES`. -/
def cancelCodes : List JsString :=
  [js "m.user", js "m.timeout", js "m.unknown_transaction", js "m.unknown_method",
    js "m.unexpected_message", js "m.key_mismatch", js "m.user_mismatch", js "m.invalid_message",
    js "m.accepted", js "m.mismatched_commitment", js "m.mismatched_sas"]

/-- What the server knows of the flow. -/
structure MatrixSasExpectation where
  userId : JsString
  senderDeviceId : JsString
  recipientDeviceId : JsString
  flowId : JsString
  pinnedMasterKey : JsString
  deriving DecidableEq

/-- The content is the list of its entries. -/
structure MatrixSasToDeviceRequest where
  eventType : JsString
  transactionId : JsString
  flowId : JsString
  senderDeviceId : JsString
  recipientDeviceId : JsString
  messages : Json
  canonicalSha256 : JsString

/-! ## Checks of values -/

/-- `ownKeys`: the own properties of an object. -/
def ownEntries (value : Option Json) (code : ErrorCode) :
    Except ErrorCode (List (JsString × Json)) :=
  orThrow (value.bind Json.record?) code

/-- `record`: the properties are the fields. -/
def record (value : Option Json) (fields : List JsString) (code : ErrorCode) :
    Except ErrorCode (List (JsString × Json)) := do
  let entries ← ownEntries value code
  require ((Json.keys entries).length = fields.length &&
    (Json.keys entries).all fields.contains) code
  require (fields.all (Json.hasOwn entries)) code
  return entries

/-- The loop of `choices`, behind what it has pushed. -/
def readChoices (allowed : List JsString) (code : ErrorCode) :
    List Json → List JsString → Except ErrorCode (List JsString)
  | [], result => .ok result
  | item :: rest, result => do
    let text ← orThrow item.str? code
    require (allowed.contains text && !result.contains text) code
    readChoices allowed code rest (result ++ [text])

/-- A list of different choices among those allowed, with the required one. -/
def choices (value : Option Json) (allowed : List JsString) (required : JsString) :
    Except ErrorCode (List JsString) := do
  let items ← orThrow (value.bind Json.arr?) "MATRIX_SAS_ALGORITHM_INVALID"
  require (1 ≤ items.length && items.length ≤ allowed.length) "MATRIX_SAS_ALGORITHM_INVALID"
  let result ← readChoices allowed "MATRIX_SAS_ALGORITHM_INVALID" items []
  require (result.contains required) "MATRIX_SAS_ALGORITHM_INVALID"
  return result

/-- The pattern is `/^[A-Za-z0-9+/]{43}$/`. -/
def base64 (value : Option Json) (code : ErrorCode) : Except ErrorCode JsString := do
  let text ← orThrow (value.bind Json.str?) code
  require (fixed (times 43 isBase64) text) code
  let bytes := bufferFromBase64 text
  require (bytes.length = 32 && unpadded (toBase64 bytes) = text) code
  return text

/-- Behind the last unit `charCodeAt` is not a number, which lies in no range. -/
def wellFormed : JsString → Bool
  | [] => true
  | [u] => !isHighSurrogate u && !isLowSurrogate u
  | u :: v :: rest =>
    if isHighSurrogate u then isLowSurrogate v && wellFormed rest
    else !isLowSurrogate u && wellFormed (v :: rest)

/-- `[\u0000-\u001f\u007f]`. -/
def isControl : CharClass := fun u => u ≤ 0x1F || u == 0x7F

/-- `value < 0`. -/
def negative : JsNumber → Bool
  | .integer n => n < 0
  | .negativeZero => false
  | .fraction negative .. => negative

/-- The check of the timestamp. -/
def timestamp (value : Option Json) : Except ErrorCode JsNumber :=
  match value with
  | some (.num n) => do
    require (n.isSafeInteger && !negative n && n ≠ .negativeZero) "MATRIX_SAS_TIMESTAMP_INVALID"
    return n
  | _ => .error "MATRIX_SAS_TIMESTAMP_INVALID"

/-- The text under a key. -/
def text? (raw : List (JsString × Json)) (key : String) : Option JsString :=
  (Json.get? (js key) raw).bind Json.str?

/-! ## The content -/

/-- The key id of the sender's device. -/
def deviceKeyId (scope : MatrixSasExpectation) : JsString := js "ed25519:" ++ scope.senderDeviceId

/-- The key id of the pinned master key. -/
def masterKeyId (scope : MatrixSasExpectation) : JsString := js "ed25519:" ++ scope.pinnedMasterKey

/-- The sender is the device of the scope. -/
def checkSender (raw : List (JsString × Json)) (scope : MatrixSasExpectation) :
    Except ErrorCode Unit :=
  require (text? raw "from_device" = some scope.senderDeviceId) "MATRIX_SAS_SENDER_MISMATCH"

/-- The MACs, in the order the sender lists them. -/
def parseMac (value : Option Json) (scope : MatrixSasExpectation) :
    Except ErrorCode (List (JsString × JsString)) := do
  let own ← ownEntries value "MATRIX_SAS_MAC_INVALID"
  let macFields := Json.keys own
  require (1 ≤ macFields.length && macFields.length ≤ 2 && macFields.contains (deviceKeyId scope) &&
    macFields.all fun key => key = deviceKeyId scope || key = masterKeyId scope)
    "MATRIX_SAS_MAC_INVALID"
  let mac ← record value macFields "MATRIX_SAS_MAC_INVALID"
  macFields.mapM fun key => do
    let text ← base64 (Json.get? key mac) "MATRIX_SAS_MAC_INVALID"
    return (key, text)

/-- The texts of an array. -/
def texts (values : List JsString) : Json := .arr (values.map .str)

/-- The codes of a content as they are written. -/
def macJson (mac : List (JsString × JsString)) : Json :=
  .obj (mac.map fun entry => (entry.1, .str entry.2))

/-- The part of `parseContent` behind the transaction id, which depends on the kind. -/
def parseFields (kind : Verification) (raw : List (JsString × Json))
    (scope : MatrixSasExpectation) : Except ErrorCode (List (JsString × Json)) :=
  match kind with
  | .request => do
    checkSender raw scope
    let methods ← choices (Json.get? (js "methods") raw) [sasMethod] sasMethod
    let time ← timestamp (Json.get? (js "timestamp") raw)
    return [(js "from_device", .str scope.senderDeviceId), (js "methods", texts methods),
      (js "timestamp", .num time)]
  | .ready => do
    checkSender raw scope
    let methods ← choices (Json.get? (js "methods") raw) [sasMethod] sasMethod
    return [(js "from_device", .str scope.senderDeviceId), (js "methods", texts methods)]
  | .start => do
    checkSender raw scope
    require (text? raw "method" = some sasMethod) "MATRIX_SAS_ALGORITHM_INVALID"
    let hashes ← choices (Json.get? (js "hashes") raw) [sasHash] sasHash
    let protocols ← choices (Json.get? (js "key_agreement_protocols") raw) [keyAgreement]
      keyAgreement
    let codes ← choices (Json.get? (js "message_authentication_codes") raw) macOffers macV2
    let strings ← choices (Json.get? (js "short_authentication_string") raw) shortStrings
      (js "decimal")
    return [(js "from_device", .str scope.senderDeviceId), (js "method", .str sasMethod),
      (js "hashes", texts hashes), (js "key_agreement_protocols", texts protocols),
      (js "message_authentication_codes", texts codes),
      (js "short_authentication_string", texts strings)]
  | .accept => do
    require (text? raw "hash" = some sasHash &&
      text? raw "key_agreement_protocol" = some keyAgreement &&
      text? raw "message_authentication_code" = some macV2) "MATRIX_SAS_ALGORITHM_INVALID"
    let commitment ← base64 (Json.get? (js "commitment") raw) "MATRIX_SAS_COMMITMENT_INVALID"
    let strings ← choices (Json.get? (js "short_authentication_string") raw) shortStrings
      (js "decimal")
    return [(js "commitment", .str commitment), (js "hash", .str sasHash),
      (js "key_agreement_protocol", .str keyAgreement),
      (js "message_authentication_code", .str macV2),
      (js "short_authentication_string", texts strings)]
  | .key => do
    let key ← base64 (Json.get? (js "key") raw) "MATRIX_SAS_KEY_INVALID"
    return [(js "key", .str key)]
  | .mac => do
    let mac ← parseMac (Json.get? (js "mac") raw) scope
    let keys ← base64 (Json.get? (js "keys") raw) "MATRIX_SAS_MAC_INVALID"
    return [(js "mac", macJson mac), (js "keys", .str keys)]
  | .done => .ok []
  | .cancel => do
    let code ← orThrow (text? raw "code") "MATRIX_SAS_CANCEL_INVALID"
    require (cancelCodes.contains code) "MATRIX_SAS_CANCEL_INVALID"
    let reason ← orThrow (text? raw "reason") "MATRIX_SAS_CANCEL_INVALID"
    require (1 ≤ reason.length && reason.length ≤ 512 && byteLength reason ≤ 512 &&
      wellFormed reason && !reason.any isControl) "MATRIX_SAS_CANCEL_INVALID"
    return [(js "code", .str code), (js "reason", .str reason)]

/-- The content of a step, rebuilt of what was checked. -/
def parseContent (kind : Verification) (value : Option Json) (scope : MatrixSasExpectation) :
    Except ErrorCode (List (JsString × Json)) := do
  let raw ← record value kind.fields "MATRIX_SAS_CONTENT_INVALID"
  require (text? raw "transaction_id" = some scope.flowId) "MATRIX_SAS_FLOW_MISMATCH"
  let rest ← parseFields kind raw scope
  return (js "transaction_id", .str scope.flowId) :: rest

/-! ## The request -/

/-- `scopeRecord`. -/
def scopeRecord (expected : MatrixSasExpectation) : Except ErrorCode MatrixSasExpectation := do
  require (isMatrixUserId expected.userId && wellFormed expected.userId &&
    isMatrixDeviceId expected.senderDeviceId && isMatrixDeviceId expected.recipientDeviceId &&
    expected.recipientDeviceId ≠ expected.senderDeviceId && isTransactionId expected.flowId)
    "MATRIX_SAS_SCOPE_INVALID"
  let pinnedMasterKey ← base64 (some (.str expected.pinnedMasterKey)) "MATRIX_SAS_SCOPE_INVALID"
  return { expected with pinnedMasterKey }

/-- The messages of one content for the recipient. -/
def messagesJson (scope : MatrixSasExpectation) (content : List (JsString × Json)) : Json :=
  .obj [(scope.userId, .obj [(scope.recipientDeviceId, .obj content)])]

/-- The body of a request. -/
def bodyJson (messages : Json) : Json := .obj [(js "messages", messages)]

/-- What is hashed. -/
def hashInput (eventType transactionId : JsString) (scope : MatrixSasExpectation)
    (messages : Json) : Json :=
  .obj [(js "event_type", .str eventType), (js "transaction_id", .str transactionId),
    (js "sender_device_id", .str scope.senderDeviceId),
    (js "pinned_master_key", .str scope.pinnedMasterKey), (js "messages", messages)]

/-- A request of the verification: one content for the one device of the scope. -/
def parseMatrixSasToDeviceRequest (crypto : Crypto) (eventType transactionId : JsString)
    (value : Json) (expected : MatrixSasExpectation) :
    Except ErrorCode MatrixSasToDeviceRequest := do
  let kind ← orThrow (Verification.ofEventType? eventType) "MATRIX_SAS_EVENT_TYPE_INVALID"
  require (isTransactionId transactionId) "MATRIX_SAS_TRANSACTION_ID_INVALID"
  let scope ← scopeRecord expected
  let body ← record (some value) [js "messages"] "MATRIX_SAS_BODY_INVALID"
  let users ← record (Json.get? (js "messages") body) [scope.userId] "MATRIX_SAS_RECIPIENT_INVALID"
  let devices ← record (Json.get? scope.userId users) [scope.recipientDeviceId]
    "MATRIX_SAS_RECIPIENT_INVALID"
  let content ← parseContent kind (Json.get? scope.recipientDeviceId devices) scope
  let messages := messagesJson scope content
  require (byteLength (stringify (bodyJson messages)) ≤ 8192) "MATRIX_SAS_BODY_TOO_LARGE"
  let canonicalSha256 ← hashMatrixCanonicalJson crypto
    (hashInput eventType transactionId scope messages)
  return { eventType, transactionId, flowId := scope.flowId,
           senderDeviceId := scope.senderDeviceId, recipientDeviceId := scope.recipientDeviceId,
           messages, canonicalSha256 }

end SasToDevice

end SinoChat
