import SinoChat.Model.CrossSigning
import SinoChat.Model.KeyRequest
import SinoChat.Model.WebApi

/-!
# The upload of public keys

`matrix-key-upload.ts`: the device keys, one-time keys and fallback keys that a
device publishes. Each is a signed object; the parser builds it anew of the
strings it has checked, and verifies the signature of what it has built under the
Ed25519 key of the device, that of the body or the one the server has.

The values are JSON values: the parser is called with a parsed body.
-/

namespace SinoChat

open Js

namespace KeyUpload

open CrossSigning

/-- The one-time keys that one upload brings at most. -/
def maxOneTimeKeysPerUpload : ℕ := 100

/-! ## Signed objects -/

/-- A one-time key, or with the flag a fallback key. -/
structure MatrixSignedCurveKey where
  key : JsString
  fallback : Bool
  signatures : Signatures
  deriving DecidableEq

namespace MatrixSignedCurveKey

/-- What is signed. -/
def core (key : MatrixSignedCurveKey) : List (JsString × Json) :=
  (js "key", .str key.key) :: if key.fallback then [(js "fallback", .bool true)] else []

/-- The key as it is stored. -/
def toJson (userId : JsString) (key : MatrixSignedCurveKey) : Json :=
  .obj ((js "key", .str key.key) :: (js "signatures", signaturesJson userId key.signatures) ::
    if key.fallback then [(js "fallback", .bool true)] else [])

end MatrixSignedCurveKey

/-- The public keys of a device, in the order this parser builds them. -/
def publicKeysJson (device : MatrixDeviceKeys) : Json :=
  .obj [(curve25519KeyId device.deviceId, .str device.curve25519),
    (ed25519KeyId device.deviceId, .str device.ed25519)]

/-- What is signed of the device keys. -/
def deviceKeysCore (device : MatrixDeviceKeys) : List (JsString × Json) :=
  [(js "algorithms", .arr ([matrixOlmAlgorithm, matrixMegolmAlgorithm].map .str)),
    (js "device_id", .str device.deviceId), (js "keys", publicKeysJson device),
    (js "user_id", .str device.userId)]

/-- The device keys as they are stored. -/
def deviceKeysJson (device : MatrixDeviceKeys) : Json :=
  .obj [(js "algorithms", .arr ([matrixOlmAlgorithm, matrixMegolmAlgorithm].map .str)),
    (js "device_id", .str device.deviceId), (js "keys", publicKeysJson device),
    (js "signatures", signaturesJson device.userId device.signatures),
    (js "user_id", .str device.userId)]

/-- An upload that was accepted. -/
structure MatrixKeyUpload where
  deviceKeys : Option MatrixDeviceKeys
  oneTimeKeys : List (JsString × MatrixSignedCurveKey)
  fallbackKeys : List (JsString × MatrixSignedCurveKey)
  deriving DecidableEq

/-- The first upload of a device, which has its keys. -/
structure InitialMatrixKeyUpload where
  deviceKeys : MatrixDeviceKeys
  oneTimeKeys : List (JsString × MatrixSignedCurveKey)
  fallbackKeys : List (JsString × MatrixSignedCurveKey)
  deriving DecidableEq

/-- What the parser is told of the device, with the Ed25519 key the server has of it. -/
structure MatrixKeyUploadExpectation where
  userId : JsString
  deviceId : JsString
  existingEd25519PublicKey : Option JsString

/-! ## Checks of values -/

/-- `record`. -/
def record (value : Option Json) (errorCode : ErrorCode) :
    Except ErrorCode (List (JsString × Json)) :=
  orThrow (value.bind Json.record?) errorCode

/-- `exactKeys`. -/
def exactKeys (value : List (JsString × Json)) (expected : List JsString)
    (errorCode : ErrorCode) : Except ErrorCode Unit :=
  require (Json.exactKeys value expected) errorCode

/-- `optionalKeys`. -/
def optionalKeys (value : List (JsString × Json)) (allowed : List JsString)
    (errorCode : ErrorCode) : Except ErrorCode Unit :=
  require ((Json.keys value).all allowed.contains) errorCode

/-- `canonicalBase64` of a value that may be no text, which it gives back as a text. -/
def canonicalText (value : Option Json) (expectedBytes : ℕ) (errorCode : ErrorCode) :
    Except ErrorCode JsString := do
  let text ← orThrow (value.bind Json.str?) errorCode
  let _ ← canonicalBase64 text expectedBytes errorCode
  return text

/-- `/^[A-Za-z0-9._=-]{1,64}$/`. -/
def isKeyId (s : JsString) : Bool :=
  run (fun u => isAlphanumeric u || u == 0x2E || u == 0x5F || u == 0x3D || u == 0x2D) 1 64 s

/-- `signed_curve25519:` and a key id. -/
def isFullKeyId (fullKeyId : JsString) : Bool :=
  match fullKeyId.splitOn 0x3A with
  | [algorithm, keyId] => algorithm = signedCurve25519 && isKeyId keyId
  | _ => false

/-- `value === true`. -/
def isTrue : Option Json → Bool
  | some (.bool flag) => flag
  | _ => false

@[simp] theorem isTrue_iff {value : Option Json} : isTrue value = true ↔ value = some (.bool true) := by
  unfold isTrue
  split
  · simp
  · rename_i h
    constructor
    · intro hfalse
      cases hfalse
    · rintro rfl
      exact absurd rfl (h true)

/-- `value ?? {}`. -/
def orEmpty (value : Option Json) : Json := (notNullish value).getD (.obj [])

/-! ## Parsing -/

/-- `parseExactSignatureMap`: the one signature of the signer. -/
def parseExactSignatureMap (value : Option Json) (expectedSigner expectedKeyId : JsString) :
    Except ErrorCode Signatures := do
  let signatures ← record value "MATRIX_SIGNATURES_INVALID"
  exactKeys signatures [expectedSigner] "MATRIX_SIGNATURES_INVALID"
  let signer ← record (Json.get? expectedSigner signatures) "MATRIX_SIGNATURES_INVALID"
  exactKeys signer [expectedKeyId] "MATRIX_SIGNATURES_INVALID"
  let signature ← canonicalText (Json.get? expectedKeyId signer) 64
    "MATRIX_SIGNATURE_ENCODING_INVALID"
  return [(expectedKeyId, signature)]

/-- The keys of a device, with its own signature checked. -/
def parseDeviceKeys (value : Option Json) (expectedUserId expectedDeviceId : JsString) :
    Except ErrorCode MatrixDeviceKeys := do
  let input ← record value "MATRIX_DEVICE_KEYS_NOT_OBJECT"
  exactKeys input [js "algorithms", js "device_id", js "keys", js "signatures", js "user_id"]
    "MATRIX_DEVICE_KEYS_FIELDS_INVALID"
  require ((Json.get? (js "user_id") input).bind Json.str? = some expectedUserId &&
    (Json.get? (js "device_id") input).bind Json.str? = some expectedDeviceId)
    "MATRIX_DEVICE_IDENTITY_MISMATCH"
  require (((Json.get? (js "algorithms") input).bind Json.arr?).bind texts? =
    some [matrixOlmAlgorithm, matrixMegolmAlgorithm]) "MATRIX_DEVICE_ALGORITHMS_INVALID"
  let keys ← record (Json.get? (js "keys") input) "MATRIX_DEVICE_PUBLIC_KEYS_INVALID"
  exactKeys keys [curve25519KeyId expectedDeviceId, ed25519KeyId expectedDeviceId]
    "MATRIX_DEVICE_PUBLIC_KEYS_INVALID"
  let curve25519 ← canonicalText (Json.get? (curve25519KeyId expectedDeviceId) keys) 32
    "MATRIX_CURVE25519_KEY_INVALID"
  let ed25519 ← canonicalText (Json.get? (ed25519KeyId expectedDeviceId) keys) 32
    "MATRIX_ED25519_KEY_INVALID"
  let signatures ← parseExactSignatureMap (Json.get? (js "signatures") input) expectedUserId
    (ed25519KeyId expectedDeviceId)
  return { userId := expectedUserId, deviceId := expectedDeviceId, ed25519, curve25519, signatures }

/-- The fields of a key of a map. -/
def curveKeyKeys (fallback : Bool) : List JsString :=
  if fallback then [js "fallback", js "key", js "signatures"] else [js "key", js "signatures"]

variable (scheme : SignatureScheme)

/-- One turn of the loop of `parseCurveKeyMap`. -/
def parseCurveKey (fallback : Bool) (userId deviceId ed25519PublicKey : JsString)
    (entry : JsString × Json) : Except ErrorCode (JsString × MatrixSignedCurveKey) := do
  require (isFullKeyId entry.1) "MATRIX_CURVE_KEY_ID_INVALID"
  let key ← record (some entry.2) "MATRIX_CURVE_KEY_INVALID"
  exactKeys key (curveKeyKeys fallback) "MATRIX_CURVE_KEY_FIELDS_INVALID"
  require (!fallback || isTrue (Json.get? (js "fallback") key)) "MATRIX_FALLBACK_FLAG_INVALID"
  let text ← canonicalText (Json.get? (js "key") key) 32 "MATRIX_CURVE25519_KEY_INVALID"
  let signatures ← parseExactSignatureMap (Json.get? (js "signatures") key) userId
    (ed25519KeyId deviceId)
  let parsed : MatrixSignedCurveKey := ⟨text, fallback, signatures⟩
  verifyMatrixSignedObject scheme parsed.core signatures (ed25519KeyId deviceId) ed25519PublicKey
    "MATRIX_CURVE_KEY_SIGNATURE_INVALID"
  return (entry.1, parsed)

/-- The signed keys of an upload, each checked against the key of the device. -/
def parseCurveKeyMap (value : Json) (fallback : Bool) (userId deviceId : JsString)
    (ed25519PublicKey : JsString) (maximumEntries : ℕ) :
    Except ErrorCode (List (JsString × MatrixSignedCurveKey)) := do
  let input ← record (some value) "MATRIX_CURVE_KEY_MAP_INVALID"
  require (input.length ≤ maximumEntries) "MATRIX_CURVE_KEY_LIMIT_EXCEEDED"
  input.mapM (parseCurveKey scheme fallback userId deviceId ed25519PublicKey)

/-- The device keys of a body that has them. -/
def parseDeviceKeysOf (value : Option Json) (userId deviceId : JsString) :
    Except ErrorCode (Option MatrixDeviceKeys) :=
  match value with
  | none => .ok none
  | some value => do
    let device ← parseDeviceKeys (some value) userId deviceId
    return some device

/-- The check of the key the server has. -/
def assertExisting : Option JsString → Except ErrorCode Unit
  | none => .ok ()
  | some key => assertMatrixEd25519PublicKey scheme key "MATRIX_EXISTING_ED25519_KEY_INVALID"

/-- The Ed25519 key of the device: that of verified device keys, which must be the one the
server has, or else the latter. A text of 32 bytes is not empty, so a key of the body is
never missing here. -/
def signingKey (deviceKeys : Option MatrixDeviceKeys) (expected : MatrixKeyUploadExpectation) :
    Except ErrorCode JsString :=
  match deviceKeys with
  | none => orThrow expected.existingEd25519PublicKey "MATRIX_DEVICE_KEYS_REQUIRED"
  | some device => do
    require (expected.existingEd25519PublicKey.all (· = device.ed25519))
      "MATRIX_DEVICE_IDENTITY_CHANGE_FORBIDDEN"
    verifyMatrixSignedObject scheme (deviceKeysCore device) device.signatures
      (ed25519KeyId expected.deviceId) device.ed25519 "MATRIX_DEVICE_SIGNATURE_INVALID"
    return device.ed25519

/-- The Curve25519 keys of two maps. -/
def curveKeysOf (oneTimeKeys fallbackKeys : List (JsString × MatrixSignedCurveKey)) :
    List JsString :=
  (oneTimeKeys ++ fallbackKeys).map fun entry => entry.2.key

/-- The body of an upload. -/
def parseMatrixKeyUpload (value : Json) (expected : MatrixKeyUploadExpectation) :
    Except ErrorCode MatrixKeyUpload := do
  require (isMatrixUserId expected.userId && isMatrixDeviceId expected.deviceId)
    "MATRIX_EXPECTED_ID_INVALID"
  let body ← record (some value) "MATRIX_UPLOAD_NOT_OBJECT"
  optionalKeys body [js "device_keys", js "fallback_keys", js "one_time_keys"]
    "MATRIX_UPLOAD_FIELDS_INVALID"
  let deviceKeys ← parseDeviceKeysOf (Json.get? (js "device_keys") body) expected.userId
    expected.deviceId
  assertExisting scheme expected.existingEd25519PublicKey
  let ed25519PublicKey ← signingKey scheme deviceKeys expected
  let oneTimeKeys ← parseCurveKeyMap scheme (orEmpty (Json.get? (js "one_time_keys") body)) false
    expected.userId expected.deviceId ed25519PublicKey maxOneTimeKeysPerUpload
  let fallbackKeys ← parseCurveKeyMap scheme (orEmpty (Json.get? (js "fallback_keys") body)) true
    expected.userId expected.deviceId ed25519PublicKey 1
  let curveKeys := curveKeysOf oneTimeKeys fallbackKeys
  require curveKeys.Nodup "MATRIX_CURVE_KEY_REUSED"
  require (!deviceKeys.any fun device => curveKeys.contains device.curve25519)
    "MATRIX_CURVE_KEY_REUSED"
  return { deviceKeys, oneTimeKeys, fallbackKeys }

/-- The body of the first upload, where nothing may be missing. -/
def parseInitialMatrixKeyUpload (value : Json) (userId deviceId : JsString) :
    Except ErrorCode InitialMatrixKeyUpload := do
  let parsed ← parseMatrixKeyUpload scheme value ⟨userId, deviceId, none⟩
  let deviceKeys ← orThrow parsed.deviceKeys "MATRIX_DEVICE_KEYS_REQUIRED"
  return { deviceKeys, oneTimeKeys := parsed.oneTimeKeys, fallbackKeys := parsed.fallbackKeys }

end KeyUpload

end SinoChat
