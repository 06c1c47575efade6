import SinoChat.Common.Canonical
import SinoChat.Model.SyncToken

/-!
# The send-to-device request

`matrix-to-device.ts`: what a `sendToDevice` body must be, with the error
code of every refusal in the order the parser gives them, and the value the
request's digest is taken of. The body is a JSON value; the loops over users
and devices carry the running count of target devices.
-/

namespace SinoChat

open Js

/-- `/^@u[0-9a-f]{32}:[^\s/@]{1,255}$/`. -/
def isMatrixUserId (s : JsString) : Bool :=
  fixed (lit "@u" ++ times 32 isLowerHex ++ lit ":") (s.take 35) &&
    run (fun u => !isSpace u && u != 0x2F && u != 0x40) 1 255 (s.drop 35)

/-- `/^D[0-9A-F]{32}$/`. -/
def isMatrixDeviceId (s : JsString) : Bool := fixed (lit "D" ++ times 32 isUpperHex) s

/-- `/^[A-Za-z0-9._~-]{1,255}$/`. -/
def isTransactionId (s : JsString) : Bool :=
  run (fun u => isAlphanumeric u || u == 0x2E || u == 0x5F || u == 0x7E || u == 0x2D) 1 255 s

/-- `/^[A-Za-z0-9+/]{43}$/`. -/
def isCurve25519Key (s : JsString) : Bool := fixed (times 43 isBase64) s

/-- `/^[A-Za-z0-9+/]+={0,2}$/`. -/
def isOlmBody (s : JsString) : Bool :=
  let text := s.rdropWhile (· == 0x3D)
  1 ≤ text.length && text.all isBase64 && s.length - text.length ≤ 2

/-- `/^[0-9a-f]{32}$/`. -/
def isMatrixMessageId (s : JsString) : Bool := fixed (times 32 isLowerHex) s

/-- The users of a request at most. -/
def maxUsers : ℕ := 10

/-- The devices of a request at most. -/
def maxTargetDevices : ℕ := 20

/-- The bytes of one content at most. -/
def maxContentBytes : ℕ := 60 * 1024

/-- The bytes of a request at most. -/
def maxRequestBytes : ℕ := 256 * 1024

/-- The type of the events that are relayed. -/
def matrixOlmEventType : JsString := js "m.room.encrypted"

/-- The algorithm of the contents that are relayed. -/
def matrixOlmAlgorithm : JsString := js "m.olm.v1.curve25519-aes-sha2"

/-- The ciphertext for one key. -/
structure MatrixOlmCiphertext where
  body : JsString
  type : JsNumber
  deriving DecidableEq

/-- A content that was accepted. -/
structure MatrixOlmToDeviceContent where
  ciphertext : List (JsString × MatrixOlmCiphertext)
  msgid : JsString
  senderKey : JsString
  deriving DecidableEq

/-- A request that was accepted, by user and device. -/
structure MatrixToDeviceRequest where
  eventType : JsString
  transactionId : JsString
  messages : List (JsString × List (JsString × MatrixOlmToDeviceContent))
  targetCount : ℕ

/-! ## The parser -/

/-- `record`: the value as an object, or the error code. -/
def record (value : Option Json) (errorCode : ErrorCode) :
    Except ErrorCode (List (JsString × Json)) :=
  orThrow (value.bind Json.record?) errorCode

/-- A number that passes `encrypted.type !== 0 && encrypted.type !== 1`. The
negative zero is equal to zero here; the digest refuses it later. -/
def olmMessageType? : Option Json → Option JsNumber
  | some (.num (.integer 0)) => some (.integer 0)
  | some (.num .negativeZero) => some .negativeZero
  | some (.num (.integer 1)) => some (.integer 1)
  | _ => none

/-- The ciphertext for one key: its body and the kind of its message. -/
def parseMatrixOlmCiphertext (value : Json) : Except ErrorCode MatrixOlmCiphertext := do
  let errorCode := "MATRIX_TO_DEVICE_CIPHERTEXT_INVALID"
  let encrypted ← record (some value) errorCode
  require (Json.exactKeys encrypted [js "body", js "type"]) errorCode
  let body ← orThrow ((Json.get? (js "body") encrypted).bind Json.str?) errorCode
  require (isOlmBody body) errorCode
  let type ← orThrow (olmMessageType? (Json.get? (js "type") encrypted)) errorCode
  return { body, type }

/-- The content for one device. -/
def parseMatrixOlmContent (value : Json) : Except ErrorCode MatrixOlmToDeviceContent := do
  let content ← record (some value) "MATRIX_TO_DEVICE_CONTENT_INVALID"
  require (Json.exactKeys content
      [js "algorithm", js "ciphertext", js "org.matrix.msgid", js "sender_key"])
    "MATRIX_TO_DEVICE_CONTENT_FIELDS_INVALID"
  let algorithm ← orThrow ((Json.get? (js "algorithm") content).bind Json.str?)
    "MATRIX_TO_DEVICE_OLM_ENVELOPE_INVALID"
  let msgid ← orThrow ((Json.get? (js "org.matrix.msgid") content).bind Json.str?)
    "MATRIX_TO_DEVICE_OLM_ENVELOPE_INVALID"
  let senderKey ← orThrow ((Json.get? (js "sender_key") content).bind Json.str?)
    "MATRIX_TO_DEVICE_OLM_ENVELOPE_INVALID"
  require (algorithm == matrixOlmAlgorithm && isMatrixMessageId msgid &&
      isCurve25519Key senderKey) "MATRIX_TO_DEVICE_OLM_ENVELOPE_INVALID"
  let ciphertext ← record (Json.get? (js "ciphertext") content)
    "MATRIX_TO_DEVICE_CIPHERTEXT_INVALID"
  match ciphertext with
  | [(curveKey, rawCiphertext)] => do
    require (isCurve25519Key curveKey) "MATRIX_TO_DEVICE_CIPHERTEXT_INVALID"
    let encrypted ← parseMatrixOlmCiphertext rawCiphertext
    require (byteLength (stringify value) ≤ maxContentBytes)
      "MATRIX_TO_DEVICE_CONTENT_TOO_LARGE"
    return { ciphertext := [(curveKey, encrypted)], msgid, senderKey }
  | _ => .error "MATRIX_TO_DEVICE_CIPHERTEXT_INVALID"

/-- The loop over the devices of one user, from a running target count. -/
def parseDevices : List (JsString × Json) → ℕ →
    Except ErrorCode (List (JsString × MatrixOlmToDeviceContent) × ℕ)
  | [], targetCount => .ok ([], targetCount)
  | (deviceId, rawContent) :: rest, targetCount => do
    require (isMatrixDeviceId deviceId) "MATRIX_TO_DEVICE_DEVICE_ID_INVALID"
    require (targetCount + 1 ≤ maxTargetDevices) "MATRIX_TO_DEVICE_TARGET_LIMIT_INVALID"
    let content ← parseMatrixOlmContent rawContent
    let (parsed, total) ← parseDevices rest (targetCount + 1)
    return ((deviceId, content) :: parsed, total)

/-- The loop over the users, from a running target count. -/
def parseUsers : List (JsString × Json) → ℕ →
    Except ErrorCode (List (JsString × List (JsString × MatrixOlmToDeviceContent)) × ℕ)
  | [], targetCount => .ok ([], targetCount)
  | (userId, rawDevices) :: rest, targetCount => do
    require (isMatrixUserId userId) "MATRIX_TO_DEVICE_USER_ID_INVALID"
    let devices ← record (some rawDevices) "MATRIX_TO_DEVICE_DEVICES_INVALID"
    require (1 ≤ devices.length) "MATRIX_TO_DEVICE_DEVICES_INVALID"
    let (parsedDevices, count) ← parseDevices devices targetCount
    let (parsed, total) ← parseUsers rest count
    return ((userId, parsedDevices) :: parsed, total)

/-- The body of a send, with the type and the id of its path. -/
def parseMatrixToDeviceRequest (rawEventType rawTransactionId : JsString) (value : Json) :
    Except ErrorCode MatrixToDeviceRequest := do
  require (rawEventType == matrixOlmEventType) "MATRIX_TO_DEVICE_EVENT_TYPE_INVALID"
  require (isTransactionId rawTransactionId) "MATRIX_TO_DEVICE_TRANSACTION_ID_INVALID"
  let body ← record (some value) "MATRIX_TO_DEVICE_BODY_INVALID"
  require (Json.exactKeys body [js "messages"]) "MATRIX_TO_DEVICE_BODY_FIELDS_INVALID"
  require (byteLength (stringify value) ≤ maxRequestBytes) "MATRIX_TO_DEVICE_REQUEST_TOO_LARGE"
  let users ← record (Json.get? (js "messages") body) "MATRIX_TO_DEVICE_MESSAGES_INVALID"
  require (1 ≤ users.length && users.length ≤ maxUsers) "MATRIX_TO_DEVICE_USER_LIMIT_INVALID"
  let (messages, targetCount) ← parseUsers users 0
  return ⟨matrixOlmEventType, rawTransactionId, messages, targetCount⟩

/-! ## The digest -/

/-- The content as it is stored and hashed. -/
def MatrixOlmToDeviceContent.toJson (content : MatrixOlmToDeviceContent) : Json :=
  .obj [(js "algorithm", .str matrixOlmAlgorithm),
    (js "ciphertext", .obj (content.ciphertext.map fun entry =>
      (entry.1, .obj [(js "body", .str entry.2.body), (js "type", .num entry.2.type)]))),
    (js "org.matrix.msgid", .str content.msgid), (js "sender_key", .str content.senderKey)]

/-- The `messages` member of the hash input. -/
def messagesJson (messages : List (JsString × List (JsString × MatrixOlmToDeviceContent))) :
    Json :=
  .obj (messages.map fun user =>
    (user.1, .obj (user.2.map fun device => (device.1, device.2.toJson))))

/-- What the digest of a request is of. -/
def matrixToDeviceHashInput (request : MatrixToDeviceRequest) : Json :=
  .obj [(js "event_type", .str request.eventType), (js "messages", messagesJson request.messages)]

/-- `hashMatrixCanonicalJson`. -/
def hashMatrixCanonicalJson (crypto : Crypto) (value : Json) : Except ErrorCode JsString :=
  match encodeCanonical value with
  | some text => .ok (crypto.sha256Hex text)
  | none => .error "MATRIX_CANONICAL_JSON_NUMBER_INVALID"

/-- **Two requests with the same content**: the hashed part, up to the order
of object keys. -/
def SameContent (a b : MatrixToDeviceRequest) : Prop :=
  canonicalize (matrixToDeviceHashInput a) = canonicalize (matrixToDeviceHashInput b)

/-- The digest does not confuse two values. -/
def NoCollision (crypto : Crypto) (a b : Json) : Prop :=
  ∀ text text', encodeCanonical a = some text → encodeCanonical b = some text' →
    crypto.sha256Hex text = crypto.sha256Hex text' → text = text'

/-- Values with one canonical form have one digest. -/
theorem hash_eq_of_canonicalize {crypto : Crypto} {a b : Json}
    (h : canonicalize a = canonicalize b) :
    hashMatrixCanonicalJson crypto a = hashMatrixCanonicalJson crypto b := by
  simp only [hashMatrixCanonicalJson, encode_eq_of_canonicalize h]

/-- Values with different canonical forms have different digests, or none. -/
theorem canonicalize_eq_of_hash {crypto : Crypto} {a b : Json} {hash : JsString}
    (hcollision : NoCollision crypto a b) (ha : hashMatrixCanonicalJson crypto a = .ok hash)
    (hb : hashMatrixCanonicalJson crypto b = .ok hash) : canonicalize a = canonicalize b := by
  unfold hashMatrixCanonicalJson at ha hb
  cases htext : encodeCanonical a with
  | none => simp [htext] at ha
  | some text =>
    cases htext' : encodeCanonical b with
    | none => simp [htext'] at hb
    | some text' =>
      rw [htext] at ha
      rw [htext'] at hb
      have hsame : text = text' :=
        hcollision text text' htext htext' (by rw [Except.ok.inj ha, Except.ok.inj hb])
      exact canonicalize_eq_of_encode htext (hsame ▸ htext')

end SinoChat
