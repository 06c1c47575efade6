import SinoChat.Common.JsonText
import SinoChat.Model.CrossSigningService
import SinoChat.Model.ToDevice

/-!
# The cross-signing bootstrap of a device

`matrixCrossSigning.ts`: an attempt asks for the status, compares it with the
store of the crypto SDK, lets the SDK make the upload requests, sends them, and
checks what was published against the store. An attempt may end at every step,
and only the store of the SDK and the directory of the server outlive it.

The SDK is a parameter, with what the code relies on as `Sdk.Stable`.
-/

namespace SinoChat

open Js

namespace CrossSigning

/-! ## Checks of public values -/

/-- `MatrixCryptoIdentity`, and the numbers `JSON.parse` reads. -/
structure MatrixCryptoIdentity where
  userId : JsString
  deviceId : JsString
  round : JsString → JsNumber

/-- `isPublicKey`. -/
def isPublicKey : JsString → Bool :=
  fixed (times 42 isBase64 ++ [fun u => (js "AEIMQUYcgkosw048").contains u])

/-- The signature of `assertPublicSignatures`. -/
def isPublicSignature : JsString → Bool :=
  fixed (times 85 isBase64 ++ [fun u => (js "AQgw").contains u])

/-- The key id of `assertPublicSignatures`. -/
def isSignatureKeyId (keyId : JsString) : Bool :=
  fixed (lit "ed25519:D" ++ times 32 isUpperHex) keyId ||
    fixed (lit "ed25519:" ++ times 43 isBase64) keyId

/-- `MATRIX_CROSS_SIGNING_PUBLIC_BODY_INVALID`. -/
def publicBodyInvalid : ErrorCode := "MATRIX_CROSS_SIGNING_PUBLIC_BODY_INVALID"

/-- `object`. -/
def object (value : Option Json) : Except ErrorCode (List (JsString × Json)) :=
  orThrow (value.bind Json.record?) publicBodyInvalid

/-- Sorted and joined with commas. -/
def joinedKeys (keys : List JsString) : JsString := joinComma (keys.sortBy unitOrder)

/-- `exactObject`. -/
def exactObject (value : Option Json) (keys : List JsString) :
    Except ErrorCode (List (JsString × Json)) := do
  let result ← object value
  require (joinedKeys (Json.keys result) = joinedKeys keys) publicBodyInvalid
  return result

/-- `jsonObject`. -/
def jsonObject (round : JsString → JsNumber) (text : JsString) : Except ErrorCode Json := do
  require (text.length ≤ 16384) publicBodyInvalid
  let value ← orThrow (parseJson round text) publicBodyInvalid
  let _ ← object (some value)
  return value

/-- `assertPublicSignatures`. -/
def assertPublicSignatures (value : Option Json) (userId : JsString) : Except ErrorCode Unit := do
  let signatures ← exactObject value [userId]
  let entries ← object (Json.get? userId signatures)
  require (1 ≤ entries.length && entries.length ≤ 2 && entries.all fun entry =>
    isSignatureKeyId entry.1 && entry.2.str?.any isPublicSignature) publicBodyInvalid

/-- `publicKey`. -/
def publicKey (value : Option Json) (usage : CrossSigningUsage) (userId : JsString) :
    Except ErrorCode JsString := do
  let key ← exactObject value [js "keys", js "signatures", js "usage", js "user_id"]
  require ((Json.get? (js "user_id") key).bind Json.str? = some userId &&
    ((Json.get? (js "usage") key).bind Json.arr?).bind texts? = some [usage.text]) publicBodyInvalid
  let entries ← object (Json.get? (js "keys") key)
  let entry ← orThrow (match entries with
    | [entry] => some entry
    | _ => none) publicBodyInvalid
  let publicValue ← orThrow (entry.2.str?.filter isPublicKey) publicBodyInvalid
  require (entry.1 = ed25519KeyId publicValue) publicBodyInvalid
  assertPublicSignatures (Json.get? (js "signatures") key) userId
  return publicValue

/-- `publicTriplet`. -/
def publicTriplet (value : Json) (userId : JsString) :
    Except ErrorCode MatrixCrossSigningPublicIdentity := do
  let keys ← exactObject (some value)
    [js "master_key", js "self_signing_key", js "user_signing_key"]
  let masterKey ← publicKey (Json.get? (js "master_key") keys) .master userId
  let selfSigningKey ← publicKey (Json.get? (js "self_signing_key") keys) .selfSigning userId
  let userSigningKey ← publicKey (Json.get? (js "user_signing_key") keys) .userSigning userId
  let result : MatrixCrossSigningPublicIdentity := ⟨masterKey, selfSigningKey, userSigningKey⟩
  require (decide result.keys.Nodup) publicBodyInvalid
  return result

/-- `assertPublicDeviceSignature`. -/
def assertPublicDeviceSignature (value : Json) (identity : MatrixCryptoIdentity)
    (selfSigningKey : JsString) : Except ErrorCode Unit := do
  let users ← exactObject (some value) [identity.userId]
  let devices ← exactObject (Json.get? identity.userId users) [identity.deviceId]
  let device ← exactObject (Json.get? identity.deviceId devices)
    [js "algorithms", js "device_id", js "keys", js "signatures", js "user_id"]
  require ((Json.get? (js "user_id") device).bind Json.str? = some identity.userId &&
    (Json.get? (js "device_id") device).bind Json.str? = some identity.deviceId &&
    ((Json.get? (js "algorithms") device).bind Json.arr?).bind texts? =
      some [matrixOlmAlgorithm, matrixMegolmAlgorithm]) publicBodyInvalid
  let publicKeys ← exactObject (Json.get? (js "keys") device)
    [curve25519KeyId identity.deviceId, ed25519KeyId identity.deviceId]
  require (publicKeys.all fun entry => entry.2.str?.any isPublicKey) publicBodyInvalid
  let signatures ← exactObject (Json.get? (js "signatures") device) [identity.userId]
  let _ ← exactObject (Json.get? identity.userId signatures) [ed25519KeyId selfSigningKey]
  assertPublicSignatures (Json.get? (js "signatures") device) identity.userId

/-- `assertStatus`: the identity of a status that is `PINNED`. -/
def assertStatus (status : IdentityStatus) (identity : MatrixCryptoIdentity) :
    Except ErrorCode (Option MatrixCrossSigningPublicIdentity) := do
  require (status.matrixUserId = identity.userId && status.matrixDeviceId = identity.deviceId)
    "MATRIX_CROSS_SIGNING_SESSION_MISMATCH"
  require (status.identity.all fun triplet =>
    triplet.keys.all isPublicKey && decide triplet.keys.Nodup)
    "MATRIX_CROSS_SIGNING_STATUS_INVALID"
  return status.identity

/-- `assertSameIdentity`. -/
def assertSameIdentity (a b : MatrixCrossSigningPublicIdentity) : Except ErrorCode Unit :=
  require (a = b) "MATRIX_CROSS_SIGNING_IDENTITY_CHANGED"

/-- `assertSameIdentity` where there is another one. -/
def assertSameAs (a : MatrixCrossSigningPublicIdentity) :
    Option MatrixCrossSigningPublicIdentity → Except ErrorCode Unit
  | none => .ok ()
  | some b => assertSameIdentity a b

/-! ## The SDK -/

/-- `crossSigningStatus`: the private keys that are there. -/
structure CrossSigningStatus where
  hasMaster : Bool
  hasSelfSigning : Bool
  hasUserSigning : Bool

/-- One flag for each of the three private keys. -/
def CrossSigningStatus.availability (status : CrossSigningStatus) : List Bool :=
  [status.hasMaster, status.hasSelfSigning, status.hasUserSigning]

/-- The own identity of the SDK, its keys as texts. -/
structure OwnIdentity where
  isOwnUserIdentity : Bool
  hasVerificationViolation : Bool
  isVerified : Bool
  trustsOurOwnDevice : Bool
  masterKey : JsString
  selfSigningKey : JsString
  userSigningKey : JsString

/-- `CrossSigningBootstrapRequests`: whether there are an upload of device keys and an
id of the signature upload, and the two bodies. -/
structure CrossSigningBootstrapRequests where
  uploadKeysRequest : Bool
  signingKeysBody : JsString
  signaturesBody : JsString
  signaturesId : Bool

/-- The SDK over its store. -/
structure Sdk (Store : Type) where
  crossSigningStatus : Store → CrossSigningStatus
  getIdentity : Store → Option OwnIdentity
  /-- `bootstrapCrossSigning(false)`: the store it leaves and the requests it returns. -/
  bootstrapCrossSigning : Store → Store → CrossSigningBootstrapRequests → Prop
  /-- Every other operation, with the identity of the user that the directory of the
  server holds, which a key query answers. -/
  receive : Option MatrixCrossSigningPublicIdentity → Store → Store → Prop

namespace Sdk

variable {Store : Type} (sdk : Sdk Store)

/-- **A complete local triplet**: every private key and the identity. -/
structure Complete (store : Store) : Prop where
  privateKeys : ∀ available ∈ (sdk.crossSigningStatus store).availability, available = true
  identity : (sdk.getIdentity store).isSome = true

/-- No key of a triplet. -/
structure Blank (store : Store) : Prop where
  privateKeys : ∀ available ∈ (sdk.crossSigningStatus store).availability, available = false
  identity : sdk.getIdentity store = none

end Sdk

/-! ## The parts of an attempt -/

/-- `readOwnIdentity`. -/
def readOwnIdentity (identity : MatrixCryptoIdentity) (requireDeviceTrust : Bool) :
    Option OwnIdentity → Except ErrorCode (Option MatrixCrossSigningPublicIdentity)
  | none => .ok none
  | some own => do
    require (own.isOwnUserIdentity && !own.hasVerificationViolation && own.isVerified)
      "MATRIX_CROSS_SIGNING_IDENTITY_NOT_VERIFIED"
    require (!requireDeviceTrust || own.trustsOurOwnDevice)
      "MATRIX_CROSS_SIGNING_DEVICE_NOT_VERIFIED"
    let masterKey ← jsonObject identity.round own.masterKey
    let selfSigningKey ← jsonObject identity.round own.selfSigningKey
    let userSigningKey ← jsonObject identity.round own.userSigningKey
    let triplet ← publicTriplet (.obj [(js "master_key", masterKey),
      (js "self_signing_key", selfSigningKey), (js "user_signing_key", userSigningKey)])
      identity.userId
    return some triplet

/-- Comparison of the two identities that are there. -/
def assertSameBoth : Option MatrixCrossSigningPublicIdentity →
    Option MatrixCrossSigningPublicIdentity → Except ErrorCode Unit
  | some a, some b => assertSameIdentity a b
  | _, _ => .ok ()

/-- `initializeMatrixCrossSigning` behind the status, to the bootstrap: the local identity. -/
def inspect (identity : MatrixCryptoIdentity)
    (remote : Option MatrixCrossSigningPublicIdentity) (privateStatus : CrossSigningStatus)
    (own : Option OwnIdentity) : Except ErrorCode (Option MatrixCrossSigningPublicIdentity) := do
  let complete := privateStatus.availability.all id
  let incomplete := privateStatus.availability.any id && !complete
  let found ← readOwnIdentity identity false own
  require (!(incomplete || (remote.isSome && (!complete || found.isNone)) ||
    found.isSome != complete)) "MATRIX_CROSS_SIGNING_LOCAL_KEYS_REQUIRED"
  assertSameBoth found remote
  return found

/-- The body of the request. -/
def bootstrapBody (signingKeys deviceSignatures : Json) : Json :=
  .obj [(js "signing_keys", signingKeys), (js "device_signatures", deviceSignatures)]

/-- What the requests of the SDK are checked for by themselves: the triplet and the body. -/
def readRequests (identity : MatrixCryptoIdentity) (requests : CrossSigningBootstrapRequests) :
    Except ErrorCode (MatrixCrossSigningPublicIdentity × Json) := do
  require (!requests.uploadKeysRequest) "MATRIX_CROSS_SIGNING_INITIAL_KEYS_NOT_ACKNOWLEDGED"
  let signingKeys ← jsonObject identity.round requests.signingKeysBody
  let deviceSignatures ← jsonObject identity.round requests.signaturesBody
  let generated ← publicTriplet signingKeys identity.userId
  assertPublicDeviceSignature deviceSignatures identity generated.selfSigningKey
  require (!requests.signaturesId) "MATRIX_CROSS_SIGNING_SIGNATURE_REQUEST_UNEXPECTED"
  return (generated, bootstrapBody signingKeys deviceSignatures)

/-- **What the code relies on**: the bootstrap returns the requests of a complete local
triplet, which it creates and stores where there is none. Nothing else changes a complete
triplet where the directory holds none or this one, and nothing makes keys out of none that
the directory does not hold. -/
structure Sdk.Stable {Store : Type} (sdk : Sdk Store) (identity : MatrixCryptoIdentity)
    (requests : Store → CrossSigningBootstrapRequests) : Prop where
  complete : ∀ store store' returned, sdk.bootstrapCrossSigning store store' returned →
    sdk.Complete store' ∧ returned = requests store'
  again : ∀ store store' returned, sdk.Complete store →
    sdk.bootstrapCrossSigning store store' returned → requests store' = requests store
  receive : ∀ pinned store store', sdk.Complete store →
    (∀ own ∈ pinned, ∃ body, readRequests identity (requests store) = .ok (own, body)) →
    sdk.receive pinned store store' → sdk.Complete store' ∧ requests store' = requests store
  blank : ∀ store store', sdk.Blank store → sdk.receive none store store' → sdk.Blank store'

/-- The checks between the bootstrap of the SDK and the request. -/
def prepare (identity : MatrixCryptoIdentity)
    (found remote : Option MatrixCrossSigningPublicIdentity)
    (requests : CrossSigningBootstrapRequests) :
    Except ErrorCode (MatrixCrossSigningPublicIdentity × Json) := do
  let read ← readRequests identity requests
  assertSameAs read.1 found
  assertSameAs read.1 remote
  return read

/-- The checks of the answer. -/
def checkPublished (identity : MatrixCryptoIdentity)
    (generated : MatrixCrossSigningPublicIdentity) (answer : IdentityStatus) :
    Except ErrorCode Unit := do
  let published ← assertStatus answer identity
  let pinned ← orThrow published "MATRIX_CROSS_SIGNING_BOOTSTRAP_NOT_PINNED"
  assertSameIdentity generated pinned

/-- The checks behind the key query. -/
def checkVerified (identity : MatrixCryptoIdentity)
    (generated : MatrixCrossSigningPublicIdentity) (own : Option OwnIdentity) :
    Except ErrorCode Unit := do
  let found ← readOwnIdentity identity true own
  let verified ← orThrow found "MATRIX_CROSS_SIGNING_IDENTITY_NOT_VERIFIED"
  assertSameIdentity verified generated

/-! ## The device and the server -/

/-- Where an attempt is. -/
inductive Phase where
  /-- The status is asked for, and may have been answered. -/
  | asking (answer : Option IdentityStatus)
  | inspecting (remote : Option MatrixCrossSigningPublicIdentity)
  | creating (remote found : Option MatrixCrossSigningPublicIdentity)
  | preparing (remote found : Option MatrixCrossSigningPublicIdentity)
      (requests : CrossSigningBootstrapRequests)
  /-- The body is sent, and may have been answered. -/
  | posting (generated : MatrixCrossSigningPublicIdentity) (answer : Option IdentityStatus)
  | querying (generated : MatrixCrossSigningPublicIdentity)
  | verifying (generated : MatrixCrossSigningPublicIdentity)

/-- The attempt that runs, by number. -/
structure Attempt where
  number : ℕ
  phase : Phase

/-- **A device and its server.** `sent` has every body that was sent, with its attempt:
it may arrive at any time, any number of times, or never. -/
structure Deployed (Store : Type) where
  db : Directory
  store : Store
  attempt : Option Attempt
  attempts : ℕ
  sent : List (ℕ × Json)

/-- What happened. -/
inductive InitAction where
  /-- Something else at the server. -/
  | directory (action : DirectoryAction)
  /-- Something else of the SDK. -/
  | received
  | began
  | statusAnswered (call : IdentityCall) (answer : IdentityStatus)
  | statusRead
  | inspected
  | created
  | posted (body : Json)
  | delivered (call : IdentityCall) (body : Json) (answer : Except HttpException IdentityStatus)
  | published
  | queried
  | completed
  | failed (code : ErrorCode)
  /-- Aborted, crashed, or without an answer. -/
  | abandoned

/-- An answer reaches the attempt that waits for it. -/
def answered (number : ℕ) (answer : IdentityStatus) (attempt : Option Attempt) : Option Attempt :=
  attempt.map fun attempt =>
    match attempt.phase with
    | .posting generated _ =>
      if attempt.number = number then { attempt with phase := .posting generated (some answer) }
      else attempt
    | _ => attempt

section Steps

variable {Store : Type} (env : Deployment) (scheme : SignatureScheme) (user : Uuid)
  (identity : MatrixCryptoIdentity) (sdk : Sdk Store)

/-- The identity the directory holds for the user. -/
def pinnedIdentity (db : Directory) : Option MatrixCrossSigningPublicIdentity :=
  (db.identities.find? user).map MatrixCrossSigningIdentity.identity

/-- The attempt goes on. -/
def Deployed.goTo (w : Deployed Store) (attempt : Attempt) (phase : Phase) : Deployed Store :=
  { w with attempt := some { attempt with phase } }

/-- **The steps of a device and its server.** The user has this device alone, so
nobody else asks for a bootstrap of the user. -/
inductive InitStep : Deployed Store → InitAction → Deployed Store → Prop
  | directory {w : Deployed Store} {action : DirectoryAction} {db : Directory} :
      DirectoryStep env scheme w.db action db → action.bootstraps user = false →
      InitStep w (.directory action) { w with db }
  | receive {w : Deployed Store} {store : Store} :
      sdk.receive (pinnedIdentity user w.db) w.store store →
      InitStep w .received { w with store }
  | start {w : Deployed Store} :
      w.attempt = none →
      InitStep w .began
        { w with attempt := some ⟨w.attempts, .asking none⟩, attempts := w.attempts + 1 }
  | answerStatus {w : Deployed Store} {attempt : Attempt} {call : IdentityCall}
      {answer : IdentityStatus} :
      w.attempt = some attempt → attempt.phase = .asking none → call.principal.id = user →
      status env.matrixServerName call w.db = .ok answer →
      InitStep w (.statusAnswered call answer) (w.goTo attempt (.asking (some answer)))
  | readStatus {w : Deployed Store} {attempt : Attempt} {answer : IdentityStatus}
      {remote : Option MatrixCrossSigningPublicIdentity} :
      w.attempt = some attempt → attempt.phase = .asking (some answer) →
      assertStatus answer identity = .ok remote →
      InitStep w .statusRead (w.goTo attempt (.inspecting remote))
  | inspect {w : Deployed Store} {attempt : Attempt}
      {remote found : Option MatrixCrossSigningPublicIdentity} :
      w.attempt = some attempt → attempt.phase = .inspecting remote →
      inspect identity remote (sdk.crossSigningStatus w.store) (sdk.getIdentity w.store) =
        .ok found →
      InitStep w .inspected (w.goTo attempt (.creating remote found))
  | create {w : Deployed Store} {attempt : Attempt}
      {remote found : Option MatrixCrossSigningPublicIdentity} {store : Store}
      {requests : CrossSigningBootstrapRequests} :
      w.attempt = some attempt → attempt.phase = .creating remote found →
      sdk.bootstrapCrossSigning w.store store requests →
      InitStep w .created { w.goTo attempt (.preparing remote found requests) with store }
  | post {w : Deployed Store} {attempt : Attempt}
      {remote found : Option MatrixCrossSigningPublicIdentity}
      {requests : CrossSigningBootstrapRequests} {generated : MatrixCrossSigningPublicIdentity}
      {body : Json} :
      w.attempt = some attempt → attempt.phase = .preparing remote found requests →
      prepare identity found remote requests = .ok (generated, body) →
      InitStep w (.posted body)
        { w.goTo attempt (.posting generated none) with sent := (attempt.number, body) :: w.sent }
  | deliver {w : Deployed Store} {number : ℕ} {body : Json} {call : IdentityCall} {db : Directory}
      {answer : IdentityStatus} :
      (number, body) ∈ w.sent → call.principal.id = user →
      bootstrap env scheme call body w.db = .ok (db, answer) →
      InitStep w (.delivered call body (.ok answer))
        { w with db, attempt := answered number answer w.attempt }
  | refuse {w : Deployed Store} {number : ℕ} {body : Json} {call : IdentityCall}
      {error : HttpException} :
      (number, body) ∈ w.sent → call.principal.id = user →
      bootstrap env scheme call body w.db = .error error →
      InitStep w (.delivered call body (.error error)) w
  | publish {w : Deployed Store} {attempt : Attempt}
      {generated : MatrixCrossSigningPublicIdentity} {answer : IdentityStatus} :
      w.attempt = some attempt → attempt.phase = .posting generated (some answer) →
      checkPublished identity generated answer = .ok () →
      InitStep w .published (w.goTo attempt (.querying generated))
  | query {w : Deployed Store} {attempt : Attempt}
      {generated : MatrixCrossSigningPublicIdentity} {store : Store} :
      w.attempt = some attempt → attempt.phase = .querying generated →
      sdk.receive (pinnedIdentity user w.db) w.store store →
      InitStep w .queried { w.goTo attempt (.verifying generated) with store }
  | complete {w : Deployed Store} {attempt : Attempt}
      {generated : MatrixCrossSigningPublicIdentity} :
      w.attempt = some attempt → attempt.phase = .verifying generated →
      checkVerified identity generated (sdk.getIdentity w.store) = .ok () →
      InitStep w .completed { w with attempt := none }
  | failStatus {w : Deployed Store} {attempt : Attempt} {answer : IdentityStatus}
      {code : ErrorCode} :
      w.attempt = some attempt → attempt.phase = .asking (some answer) →
      assertStatus answer identity = .error code →
      InitStep w (.failed code) { w with attempt := none }
  | failInspect {w : Deployed Store} {attempt : Attempt}
      {remote : Option MatrixCrossSigningPublicIdentity} {code : ErrorCode} :
      w.attempt = some attempt → attempt.phase = .inspecting remote →
      inspect identity remote (sdk.crossSigningStatus w.store) (sdk.getIdentity w.store) =
        .error code →
      InitStep w (.failed code) { w with attempt := none }
  | failPrepare {w : Deployed Store} {attempt : Attempt}
      {remote found : Option MatrixCrossSigningPublicIdentity}
      {requests : CrossSigningBootstrapRequests} {code : ErrorCode} :
      w.attempt = some attempt → attempt.phase = .preparing remote found requests →
      prepare identity found remote requests = .error code →
      InitStep w (.failed code) { w with attempt := none }
  | failPublished {w : Deployed Store} {attempt : Attempt}
      {generated : MatrixCrossSigningPublicIdentity} {answer : IdentityStatus} {code : ErrorCode} :
      w.attempt = some attempt → attempt.phase = .posting generated (some answer) →
      checkPublished identity generated answer = .error code →
      InitStep w (.failed code) { w with attempt := none }
  | failVerified {w : Deployed Store} {attempt : Attempt}
      {generated : MatrixCrossSigningPublicIdentity} {code : ErrorCode} :
      w.attempt = some attempt → attempt.phase = .verifying generated →
      checkVerified identity generated (sdk.getIdentity w.store) = .error code →
      InitStep w (.failed code) { w with attempt := none }
  | abandon {w : Deployed Store} :
      InitStep w .abandoned { w with attempt := none }

/-- **The device and its server**, before the first attempt: no identity is stored for
the user. The store of the SDK may hold anything. -/
def deployed : Machine (Deployed Store) InitAction where
  init w := (directory env scheme).Reachable w.db ∧ w.db.identities.find? user = none ∧
    w.attempt = none ∧ w.sent = []
  step := InitStep env scheme user identity sdk

end Steps

end CrossSigning

end SinoChat
