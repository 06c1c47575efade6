import SinoChat.Model.KeyUpload

/-!
# The keys of a device that waits for approval

`matrix-device-candidate.ts`: a body with device keys and nothing else. Every object
of it is built anew of its fields before the parser of uploads sees it, and the
digest is that of the whole canonical object.
-/

namespace SinoChat

open Js

namespace KeyUpload

open CrossSigning

/-- The keys of a candidate that were accepted, with their digest. -/
structure MatrixDeviceCandidate where
  deviceKeys : MatrixDeviceKeys
  canonicalSha256 : JsString
  ed25519Key : JsString
  curve25519Key : JsString
  deriving DecidableEq

/-- `dataRecord`: the fields in the order in which they are expected. -/
def dataRecord (value : Option Json) (expected : List JsString) (objectCode fieldsCode : ErrorCode) :
    Except ErrorCode (List (JsString × Json)) := do
  let entries ← record value objectCode
  exactKeys entries expected fieldsCode
  orThrow (expected.mapM fun key => (Json.get? key entries).map fun field => (key, field)) fieldsCode

/-- `algorithmArray`. -/
def algorithmArray (value : Option Json) : Except ErrorCode (List Json) := do
  let items ← orThrow (value.bind Json.arr?) "MATRIX_DEVICE_ALGORITHMS_INVALID"
  require (items.length = 2) "MATRIX_DEVICE_ALGORITHMS_INVALID"
  return items

/-- A field that is there. -/
def field (entries : List (JsString × Json)) (key : JsString) : Json :=
  (Json.get? key entries).getD .null

/-- The body the candidate hands on. -/
def candidateBody (device publicKeys ownSignatures : List (JsString × Json))
    (algorithms : List Json) (userId : JsString) : Json :=
  .obj [(js "device_keys", .obj [(js "algorithms", .arr algorithms),
    (js "device_id", field device (js "device_id")), (js "keys", .obj publicKeys),
    (js "signatures", .obj [(userId, .obj ownSignatures)]),
    (js "user_id", field device (js "user_id"))])]

/-- `hashMatrixCanonicalJson`; the digest is a parameter. -/
def hashMatrixCanonicalJson (sha256Hex : List UInt8 → JsString) (value : Json) :
    Except ErrorCode JsString := do
  let bytes ← encodeMatrixCanonicalJson value
  return sha256Hex bytes

/-- The body of a candidate: its device keys, signed by the device itself. -/
def parseMatrixDeviceCandidate (scheme : SignatureScheme) (sha256Hex : List UInt8 → JsString)
    (value : Json) (userId deviceId : JsString) : Except ErrorCode MatrixDeviceCandidate := do
  require (isMatrixUserId userId && isMatrixDeviceId deviceId) "MATRIX_EXPECTED_ID_INVALID"
  let body ← dataRecord (some value) [js "device_keys"] "MATRIX_CANDIDATE_BODY_INVALID"
    "MATRIX_CANDIDATE_BODY_INVALID"
  let device ← dataRecord (Json.get? (js "device_keys") body)
    [js "algorithms", js "device_id", js "keys", js "signatures", js "user_id"]
    "MATRIX_DEVICE_KEYS_NOT_OBJECT" "MATRIX_DEVICE_KEYS_FIELDS_INVALID"
  let publicKeys ← dataRecord (Json.get? (js "keys") device)
    [curve25519KeyId deviceId, ed25519KeyId deviceId] "MATRIX_DEVICE_PUBLIC_KEYS_INVALID"
    "MATRIX_DEVICE_PUBLIC_KEYS_INVALID"
  let signatures ← dataRecord (Json.get? (js "signatures") device) [userId]
    "MATRIX_SIGNATURES_INVALID" "MATRIX_SIGNATURES_INVALID"
  let ownSignatures ← dataRecord (Json.get? userId signatures) [ed25519KeyId deviceId]
    "MATRIX_SIGNATURES_INVALID" "MATRIX_SIGNATURES_INVALID"
  let algorithms ← algorithmArray (Json.get? (js "algorithms") device)
  let parsed ← parseInitialMatrixKeyUpload scheme
    (candidateBody device publicKeys ownSignatures algorithms userId) userId deviceId
  let canonicalSha256 ← hashMatrixCanonicalJson sha256Hex (deviceKeysJson parsed.deviceKeys)
  return { deviceKeys := parsed.deviceKeys, canonicalSha256,
           ed25519Key := parsed.deviceKeys.ed25519, curve25519Key := parsed.deviceKeys.curve25519 }

end KeyUpload

end SinoChat
