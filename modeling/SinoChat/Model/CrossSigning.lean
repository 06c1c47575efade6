import SinoChat.Common.Base64
import SinoChat.Model.CanonicalJson

/-!
# The cross-signing bootstrap request

`matrix-cross-signing.ts`: what the first upload of a cross-signing identity must
be. The parser builds new objects of the strings it has checked, so an accepted
request is its three keys with their signatures and the signatures of the device.

The Ed25519 library is a parameter: which bytes are a strong point, and which
signatures are valid.
-/

namespace SinoChat

open Js

namespace CrossSigning

/-- Ed25519: points that are not of small order, and signatures of messages. -/
structure SignatureScheme where
  strongPoint : List UInt8 → Bool
  verify (message publicKey signature : List UInt8) : Bool

/-- The algorithm of rooms. -/
def matrixMegolmAlgorithm : JsString := js "m.megolm.v1.aes-sha2"

/-! ## Keys and certificates -/

/-- What one of the three keys of an identity is for. -/
inductive CrossSigningUsage where
  | master | selfSigning | userSigning
  deriving DecidableEq

/-- The usage as it is written in a key. -/
def CrossSigningUsage.text : CrossSigningUsage → JsString
  | .master => js "master"
  | .selfSigning => js "self_signing"
  | .userSigning => js "user_signing"

/-- Signatures of one user, by key id. -/
abbrev Signatures := List (JsString × JsString)

/-- The object of the signatures of one user. -/
def signaturesJson (userId : JsString) (signatures : Signatures) : Json :=
  .obj [(userId, .obj (signatures.map fun entry => (entry.1, .str entry.2)))]

/-- `ed25519:` and a device id or a public key. -/
def ed25519KeyId (id : JsString) : JsString := js "ed25519:" ++ id

/-- `curve25519:` and a device id. -/
def curve25519KeyId (id : JsString) : JsString := js "curve25519:" ++ id

/-- A public key of an identity with the signatures on it. -/
structure MatrixCrossSigningKey where
  usage : CrossSigningUsage
  userId : JsString
  key : JsString
  signatures : Signatures
  deriving DecidableEq

namespace MatrixCrossSigningKey

/-- The members of a key without its signatures, which are what is signed. -/
def core (key : MatrixCrossSigningKey) : List (JsString × Json) :=
  [(js "keys", .obj [(ed25519KeyId key.key, .str key.key)]),
    (js "usage", .arr [.str key.usage.text]), (js "user_id", .str key.userId)]

/-- The key with its signatures. -/
def toJson (key : MatrixCrossSigningKey) : Json :=
  .obj (key.core ++ [(js "signatures", signaturesJson key.userId key.signatures)])

end MatrixCrossSigningKey

/-- The keys of a device with the signatures on them. -/
structure MatrixDeviceKeys where
  userId : JsString
  deviceId : JsString
  ed25519 : JsString
  curve25519 : JsString
  signatures : Signatures
  deriving DecidableEq

namespace MatrixDeviceKeys

/-- `deviceCore`, which is also what is signed. -/
def core (device : MatrixDeviceKeys) : List (JsString × Json) :=
  [(js "user_id", .str device.userId), (js "device_id", .str device.deviceId),
    (js "algorithms", .arr [.str matrixOlmAlgorithm, .str matrixMegolmAlgorithm]),
    (js "keys", .obj [(ed25519KeyId device.deviceId, .str device.ed25519),
      (curve25519KeyId device.deviceId, .str device.curve25519)])]

/-- The keys of a device with its signatures. -/
def toJson (device : MatrixDeviceKeys) : Json :=
  .obj (device.core ++ [(js "signatures", signaturesJson device.userId device.signatures)])

end MatrixDeviceKeys

/-- The three public keys of a user. -/
structure MatrixCrossSigningPublicIdentity where
  masterKey : JsString
  selfSigningKey : JsString
  userSigningKey : JsString
  deriving DecidableEq

/-- The three keys of an identity. -/
def MatrixCrossSigningPublicIdentity.keys (identity : MatrixCrossSigningPublicIdentity) :
    List JsString :=
  [identity.masterKey, identity.selfSigningKey, identity.userSigningKey]

/-- An accepted request. -/
structure MatrixCrossSigningBootstrap where
  masterKey : MatrixCrossSigningKey
  selfSigningKey : MatrixCrossSigningKey
  userSigningKey : MatrixCrossSigningKey
  signedDeviceKeys : MatrixDeviceKeys
  deriving DecidableEq

namespace MatrixCrossSigningBootstrap

/-- The identity of a request. -/
def identity (bootstrap : MatrixCrossSigningBootstrap) : MatrixCrossSigningPublicIdentity :=
  { masterKey := bootstrap.masterKey.key
    selfSigningKey := bootstrap.selfSigningKey.key
    userSigningKey := bootstrap.userSigningKey.key }

/-- `signingKeys`. -/
def signingKeys (bootstrap : MatrixCrossSigningBootstrap) : Json :=
  .obj [(js "master_key", bootstrap.masterKey.toJson),
    (js "self_signing_key", bootstrap.selfSigningKey.toJson),
    (js "user_signing_key", bootstrap.userSigningKey.toJson)]

/-- What `bootstrapSha256` is the digest of. -/
def hashInput (bootstrap : MatrixCrossSigningBootstrap) : Json :=
  .obj [(js "signingKeys", bootstrap.signingKeys),
    (js "signedDeviceKeys", bootstrap.signedDeviceKeys.toJson)]

end MatrixCrossSigningBootstrap

/-! ## Checks of values -/

/-- `record`: an object of at most eight members. -/
def record (value : Option Json) : Except ErrorCode (List (JsString × Json)) := do
  let entries ← orThrow (value.bind Json.record?) "MATRIX_CROSS_SIGNING_OBJECT_INVALID"
  require ((Json.keys entries).length ≤ 8) "MATRIX_CROSS_SIGNING_FIELDS_INVALID"
  return entries

/-- `exactRecord`. -/
def exactRecord (value : Option Json) (expected : List JsString) :
    Except ErrorCode (List (JsString × Json)) := do
  let input ← record value
  require ((Json.keys input).length = expected.length && expected.all (Json.hasOwn input))
    "MATRIX_CROSS_SIGNING_FIELDS_INVALID"
  return input

/-- The texts of a list of values, where all of them are texts. -/
def texts? (values : List Json) : Option (List JsString) := values.mapM Json.str?

/-- `exactArray`. -/
def exactArray (value : Option Json) (expected : List JsString) : Except ErrorCode Unit := do
  let values ← orThrow (value.bind Json.arr?) "MATRIX_CROSS_SIGNING_ARRAY_INVALID"
  require (texts? values = some expected) "MATRIX_CROSS_SIGNING_ARRAY_INVALID"

/-- `base64`: the unpadded canonical text of so many bytes. -/
def base64 (value : Option Json) (bytes : ℕ) : Except ErrorCode JsString := do
  let text ← orThrow (value.bind Json.str?) "MATRIX_CROSS_SIGNING_BASE64_INVALID"
  require (text.length = (bytes * 8 + 5) / 6 && text.all isBase64)
    "MATRIX_CROSS_SIGNING_BASE64_INVALID"
  let decoded := bufferFromBase64 text
  require (decoded.length = bytes && unpadded (toBase64 decoded) = text)
    "MATRIX_CROSS_SIGNING_BASE64_INVALID"
  return text

/-- `canonicalBase64` of `matrix-key-upload.ts`. -/
def canonicalBase64 (value : JsString) (expectedBytes : ℕ) (errorCode : ErrorCode) :
    Except ErrorCode (List UInt8) := do
  require (value.all isBase64 && value.length % 4 ≠ 1) errorCode
  let decoded := bufferFromBase64 value
  require (decoded.length = expectedBytes && unpadded (toBase64 decoded) = value) errorCode
  return decoded

/-! ## Signatures -/

variable (scheme : SignatureScheme)

/-- `assertMatrixEd25519PublicKey`. -/
def assertMatrixEd25519PublicKey (key : JsString) (errorCode : ErrorCode) :
    Except ErrorCode Unit := do
  let bytes ← canonicalBase64 key 32 errorCode
  require (scheme.strongPoint bytes) errorCode

/-- `verifyMatrixSignedObject`: an object without its signatures, and the signatures
of the signer. -/
def verifyMatrixSignedObject (core : List (JsString × Json)) (signatures : Signatures)
    (keyId publicKey : JsString) (errorCode : ErrorCode) : Except ErrorCode Unit := do
  let text ← orThrow ((signatures.find? fun entry => entry.1 = keyId).map (·.2))
    "MATRIX_SIGNATURE_ENCODING_INVALID"
  let signature ← canonicalBase64 text 64 "MATRIX_SIGNATURE_ENCODING_INVALID"
  let key ← canonicalBase64 publicKey 32 "MATRIX_ED25519_KEY_INVALID"
  require (scheme.strongPoint key) errorCode
  require (scheme.strongPoint (signature.take 32)) errorCode
  let message ← encodeMatrixCanonicalJson (.obj core)
  require (scheme.verify message key signature) errorCode

/-- The signatures of some keys out of a checked object. -/
def readSignatures (signer : List (JsString × Json)) :
    List JsString → Except ErrorCode Signatures
  | [] => .ok []
  | keyId :: rest => do
    let signature ← base64 (Json.get? keyId signer) 64
    let signatures ← readSignatures signer rest
    return (keyId, signature) :: signatures

/-- `parseSignatures`. -/
def parseSignatures (value : Option Json) (userId : JsString) (keyIds : List JsString) :
    Except ErrorCode Signatures := do
  let input ← exactRecord value [userId]
  let signer ← exactRecord (Json.get? userId input) keyIds
  readSignatures signer keyIds

/-! ## Parsing -/

/-- `parseKey`. -/
def parseKey (value : Option Json) (usage : CrossSigningUsage) (userId signingKeyId : JsString) :
    Except ErrorCode MatrixCrossSigningKey := do
  let input ← exactRecord value [js "keys", js "signatures", js "usage", js "user_id"]
  require ((Json.get? (js "user_id") input).bind Json.str? = some userId)
    "MATRIX_CROSS_SIGNING_USER_MISMATCH"
  exactArray (Json.get? (js "usage") input) [usage.text]
  let keys ← record (Json.get? (js "keys") input)
  let keyId ← orThrow (match Json.keys keys with
    | [keyId] => some keyId
    | _ => none) "MATRIX_CROSS_SIGNING_PUBLIC_KEY_INVALID"
  let key ← base64 (Json.get? keyId keys) 32
  require (keyId = ed25519KeyId key) "MATRIX_CROSS_SIGNING_KEY_ID_INVALID"
  assertMatrixEd25519PublicKey scheme key "MATRIX_CROSS_SIGNING_PUBLIC_KEY_INVALID"
  let signatures ← parseSignatures (Json.get? (js "signatures") input) userId
    (if usage = .master then [signingKeyId, keyId] else [signingKeyId])
  return { usage, userId, key, signatures }

/-- `parseDevice`. -/
def parseDevice (value : Option Json) (userId deviceId signingKeyId : JsString) :
    Except ErrorCode MatrixDeviceKeys := do
  let input ← exactRecord value
    [js "algorithms", js "device_id", js "keys", js "signatures", js "user_id"]
  require ((Json.get? (js "user_id") input).bind Json.str? = some userId &&
    (Json.get? (js "device_id") input).bind Json.str? = some deviceId)
    "MATRIX_CROSS_SIGNING_DEVICE_IDENTITY_MISMATCH"
  exactArray (Json.get? (js "algorithms") input) [matrixOlmAlgorithm, matrixMegolmAlgorithm]
  let keys ← exactRecord (Json.get? (js "keys") input)
    [ed25519KeyId deviceId, curve25519KeyId deviceId]
  let ed25519 ← base64 (Json.get? (ed25519KeyId deviceId) keys) 32
  let curve25519 ← base64 (Json.get? (curve25519KeyId deviceId) keys) 32
  let signatures ← parseSignatures (Json.get? (js "signatures") input) userId [signingKeyId]
  return { userId, deviceId, ed25519, curve25519, signatures }

/-- What the parser is told of the caller: the ids, the registered device keys
and the identity that is stored. -/
structure MatrixCrossSigningBootstrapExpectation where
  userId : JsString
  deviceId : JsString
  registeredDeviceKeys : Json
  pinnedIdentity : Option MatrixCrossSigningPublicIdentity

/-- `parsePinnedIdentity` of the stored triplet, whose user is the one expected. -/
def parsePinnedIdentity (identity : MatrixCrossSigningPublicIdentity) :
    Except ErrorCode MatrixCrossSigningPublicIdentity := do
  let masterKey ← base64 (some (.str identity.masterKey)) 32
  let selfSigningKey ← base64 (some (.str identity.selfSigningKey)) 32
  let userSigningKey ← base64 (some (.str identity.userSigningKey)) 32
  return { masterKey, selfSigningKey, userSigningKey }

/-- The registered keys, rebuilt. Of `parseInitialMatrixKeyUpload` only the
signature is left to check. -/
def parseRegistered (expected : MatrixCrossSigningBootstrapExpectation) :
    Except ErrorCode MatrixDeviceKeys := do
  let device ← parseDevice (some expected.registeredDeviceKeys) expected.userId
    expected.deviceId (ed25519KeyId expected.deviceId)
  verifyMatrixSignedObject scheme device.core device.signatures (ed25519KeyId expected.deviceId)
    device.ed25519 "MATRIX_DEVICE_SIGNATURE_INVALID"
  return device

/-- The pinned identity, if any. -/
def parsePinned : Option MatrixCrossSigningPublicIdentity →
    Except ErrorCode (Option MatrixCrossSigningPublicIdentity)
  | none => .ok none
  | some identity => do
    let pinned ← parsePinnedIdentity identity
    return some pinned

/-- The three keys of the request and the chain of their signatures. -/
structure SigningKeys where
  masterKey : MatrixCrossSigningKey
  selfSigningKey : MatrixCrossSigningKey
  userSigningKey : MatrixCrossSigningKey

/-- The keys are three, and none of them a key of the device. -/
def distinctKeys (original : MatrixDeviceKeys) (identity : MatrixCrossSigningPublicIdentity) :
    Bool :=
  decide identity.keys.Nodup &&
    !identity.keys.any [original.ed25519, original.curve25519].contains

/-- The first half of `parseBootstrap`: the keys. -/
def parseSigningKeys (value : Option Json) (expected : MatrixCrossSigningBootstrapExpectation)
    (original : MatrixDeviceKeys) (pinned : Option MatrixCrossSigningPublicIdentity) :
    Except ErrorCode SigningKeys := do
  let deviceKeyId := ed25519KeyId expected.deviceId
  let body ← exactRecord value [js "master_key", js "self_signing_key", js "user_signing_key"]
  let master ← parseKey scheme (Json.get? (js "master_key") body) .master expected.userId
    deviceKeyId
  let masterKeyId := ed25519KeyId master.key
  let selfSigning ← parseKey scheme (Json.get? (js "self_signing_key") body) .selfSigning
    expected.userId masterKeyId
  let userSigning ← parseKey scheme (Json.get? (js "user_signing_key") body) .userSigning
    expected.userId masterKeyId
  let identity : MatrixCrossSigningPublicIdentity :=
    ⟨master.key, selfSigning.key, userSigning.key⟩
  require (distinctKeys original identity) "MATRIX_CROSS_SIGNING_KEY_REUSED"
  require (pinned.all (· = identity)) "MATRIX_CROSS_SIGNING_IDENTITY_CHANGE_FORBIDDEN"
  verifyMatrixSignedObject scheme master.core master.signatures deviceKeyId original.ed25519
    "MATRIX_CROSS_SIGNING_DEVICE_SIGNATURE_INVALID"
  verifyMatrixSignedObject scheme master.core master.signatures masterKeyId master.key
    "MATRIX_CROSS_SIGNING_MASTER_SIGNATURE_INVALID"
  verifyMatrixSignedObject scheme selfSigning.core selfSigning.signatures masterKeyId master.key
    "MATRIX_CROSS_SIGNING_SELF_KEY_SIGNATURE_INVALID"
  verifyMatrixSignedObject scheme userSigning.core userSigning.signatures masterKeyId master.key
    "MATRIX_CROSS_SIGNING_USER_KEY_SIGNATURE_INVALID"
  return ⟨master, selfSigning, userSigning⟩

/-- The second half: the certificate of the device. -/
def parseCertificate (value : Option Json) (expected : MatrixCrossSigningBootstrapExpectation)
    (original : MatrixDeviceKeys) (selfSigningKey : JsString) :
    Except ErrorCode MatrixDeviceKeys := do
  let users ← exactRecord value [expected.userId]
  let devices ← exactRecord (Json.get? expected.userId users) [expected.deviceId]
  let selfKeyId := ed25519KeyId selfSigningKey
  let signed ← parseDevice (Json.get? expected.deviceId devices) expected.userId expected.deviceId
    selfKeyId
  let encoded ← encodeMatrixCanonicalJson (.obj signed.core)
  let registered ← encodeMatrixCanonicalJson (.obj original.core)
  require (encoded = registered) "MATRIX_CROSS_SIGNING_DEVICE_IDENTITY_MISMATCH"
  verifyMatrixSignedObject scheme signed.core signed.signatures selfKeyId selfSigningKey
    "MATRIX_CROSS_SIGNING_DEVICE_CERTIFICATE_INVALID"
  -- the original self-signature comes back beside the new one
  return { signed with signatures := signed.signatures ++ original.signatures }

/-- `parseBootstrap`. -/
def parseBootstrap (signingKeysValue signaturesValue : Option Json)
    (expected : MatrixCrossSigningBootstrapExpectation) :
    Except ErrorCode MatrixCrossSigningBootstrap := do
  require (isMatrixUserId expected.userId && isMatrixDeviceId expected.deviceId)
    "MATRIX_EXPECTED_ID_INVALID"
  let original ← parseRegistered scheme expected
  let pinned ← parsePinned expected.pinnedIdentity
  let keys ← parseSigningKeys scheme signingKeysValue expected original pinned
  let signedDeviceKeys ← parseCertificate scheme signaturesValue expected original
    keys.selfSigningKey.key
  return { masterKey := keys.masterKey
           selfSigningKey := keys.selfSigningKey
           userSigningKey := keys.userSigningKey
           signedDeviceKeys }

/-! ## The certificate of another device -/

/-- What `parseMatrixDeviceCertificate` is told: the ids and the keys of the candidate and the
identity that is stored. -/
structure MatrixDeviceCertificateExpectation where
  userId : JsString
  deviceId : JsString
  originalDeviceKeys : Json
  pinnedIdentity : Json

/-- A certificate that was accepted: the signed device and the identity that signed it. -/
structure MatrixDeviceCertificate where
  signedDeviceKeys : MatrixDeviceKeys
  identity : MatrixCrossSigningPublicIdentity
  deriving DecidableEq

/-- `parsePinnedIdentity` of a value. -/
def parsePinnedIdentityOf (value : Json) (userId : JsString) :
    Except ErrorCode MatrixCrossSigningPublicIdentity := do
  let input ← exactRecord (some value)
    [js "userId", js "masterKey", js "selfSigningKey", js "userSigningKey"]
  require ((Json.get? (js "userId") input).bind Json.str? = some userId)
    "MATRIX_CROSS_SIGNING_USER_MISMATCH"
  let masterKey ← base64 (Json.get? (js "masterKey") input) 32
  let selfSigningKey ← base64 (Json.get? (js "selfSigningKey") input) 32
  let userSigningKey ← base64 (Json.get? (js "userSigningKey") input) 32
  return { masterKey, selfSigningKey, userSigningKey }

/-- The check of the pinned keys, one after the other. -/
def assertStrongKeys : List JsString → Except ErrorCode Unit
  | [] => .ok ()
  | key :: rest => do
    assertMatrixEd25519PublicKey scheme key "MATRIX_CROSS_SIGNING_PUBLIC_KEY_INVALID"
    assertStrongKeys rest

/-- **`parseMatrixDeviceCertificate`**: only the signature of the self-signing key is new; that
the pinned keys belong together is not looked at. -/
def parseMatrixDeviceCertificate (signaturesValue : Option Json)
    (expected : MatrixDeviceCertificateExpectation) : Except ErrorCode MatrixDeviceCertificate := do
  require (isMatrixUserId expected.userId && isMatrixDeviceId expected.deviceId)
    "MATRIX_EXPECTED_ID_INVALID"
  let identity ← parsePinnedIdentityOf expected.pinnedIdentity expected.userId
  require identity.keys.Nodup "MATRIX_CROSS_SIGNING_KEY_REUSED"
  assertStrongKeys scheme identity.keys
  -- the candidate is checked and its certificate read as in the bootstrap
  let context : MatrixCrossSigningBootstrapExpectation :=
    ⟨expected.userId, expected.deviceId, expected.originalDeviceKeys, none⟩
  let original ← parseRegistered scheme context
  require (!identity.keys.any [original.ed25519, original.curve25519].contains)
    "MATRIX_CROSS_SIGNING_KEY_REUSED"
  let signedDeviceKeys ← parseCertificate scheme signaturesValue context original
    identity.selfSigningKey
  return { signedDeviceKeys, identity }

end CrossSigning

end SinoChat
