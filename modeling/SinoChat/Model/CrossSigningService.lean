import SinoChat.Model.CrossSigning
import SinoChat.Model.DeviceList
import SinoChat.Model.MessagePayload
import SinoChat.Model.Service

/-!
# The cross-signing directory

`matrix-cross-signing.service.ts`: the identity of a user is stored with the
certificate of the user's device, once, and publishes a change of the device
set. The calls of one user hold one lock, so a call is one step.

The inserts are refused where a row is there already; what else the triggers of
the two tables refuse the parser has refused before, and they allow no update
and no delete.
-/

namespace SinoChat

open Js

namespace CrossSigning

open MessagePayload (matrixDeviceIdFromUuid)

/-! ## Rows -/

/-- A row of the identities, which never changes. -/
structure MatrixCrossSigningIdentity where
  userId : Uuid
  matrixUserId : JsString
  bootstrapDeviceId : Uuid
  masterKey : JsString
  selfSigningKey : JsString
  userSigningKey : JsString
  signingKeys : Json
  bootstrapSha256 : JsString
  createdAt : ℕ

/-- A row of the certificates: the device as its identity signed it. -/
structure MatrixDeviceCrossSigning where
  deviceId : Uuid
  userId : Uuid
  signedDeviceKeys : Json
  canonicalSha256 : JsString
  createdAt : ℕ

/-- The identity of a row. -/
def MatrixCrossSigningIdentity.identity (row : MatrixCrossSigningIdentity) :
    MatrixCrossSigningPublicIdentity :=
  ⟨row.masterKey, row.selfSigningKey, row.userSigningKey⟩

/-- The tables behind the service; `deviceKeys` is the column of `matrix_device_keys`
that holds the registered object. -/
structure Directory where
  accounts : Accounts
  deviceKeys : Uuid → Option Json
  lists : DeviceLists
  identities : Table Uuid MatrixCrossSigningIdentity MatrixCrossSigningIdentity.userId
  certificates : Table Uuid MatrixDeviceCrossSigning MatrixDeviceCrossSigning.deviceId

/-! ## Answers and errors -/

/-- An `IdentityStatus`: `PINNED` with an identity, else `UNINITIALIZED`. -/
structure IdentityStatus where
  matrixUserId : JsString
  matrixDeviceId : JsString
  identity : Option MatrixCrossSigningPublicIdentity
  deriving DecidableEq

/-- `conflict`. -/
def conflict (code : ErrorCode) : HttpException :=
  .withBody 409 (.obj [(js "code", .str (js code)), (js "message", .str (js
    "La identidad del dispositivo no coincide o cambió durante la operación. No se reemplazaron las claves."))])

/-- The exception `parseBootstrap` of the service makes of an error of the parser. -/
def validationError (code : ErrorCode) : HttpException :=
  if code = "MATRIX_CROSS_SIGNING_IDENTITY_CHANGE_FORBIDDEN" then conflict code
  else .withBody 400 (.obj [(js "code", .str (js code)),
    (js "message", .str (js "No se pudo validar la identidad del dispositivo."))])

/-- The result of a parser, with the exception in place of its error code. -/
def orHttp {α : Type} (toException : ErrorCode → HttpException) (result : Except ErrorCode α) :
    Except HttpException α :=
  match result with
  | .ok a => .ok a
  | .error code => .error (toException code)

theorem orHttp_eq_ok {α : Type} {toException : ErrorCode → HttpException}
    {result : Except ErrorCode α} {a : α} : orHttp toException result = .ok a ↔ result = .ok a := by
  cases result <;> simp [orHttp]

/-! ## The context of a call -/

/-- A call, with the readings of the clock in its transaction: that of the
eligibility query, and those before and behind the operation. -/
structure IdentityCall where
  principal : SessionPrincipal
  eligibilityNow : ℕ
  now : ℕ
  later : ℕ
  deriving DecidableEq

/-- What is read of the caller before a bootstrap. -/
structure IdentityContext where
  deviceId : Uuid
  matrixUserId : JsString
  matrixDeviceId : JsString
  deviceKeys : Json
  subscriptionEndsAt : Option ℕ

/-- `requireParticipant`. -/
def requireParticipant (principal : SessionPrincipal) : Except HttpException Unit :=
  require (principal.role = .client || principal.role = .cashier)
    (.forbidden "El rol no puede publicar identidades de chat.")

/-- `lockCurrentCashier`: the end of the one subscription in force. -/
def lockCurrentCashier (accounts : Accounts) (cashierUserId : Uuid) (now : ℕ) :
    Except HttpException (Option ℕ) :=
  orThrow (match accounts.subscriptions.rows.filter fun subscription =>
      subscription.cashierUserId = cashierUserId && Accounts.inForce now subscription with
    | [subscription] =>
      if accounts.availableCashier cashierUserId then some subscription.endsAt else none
    | _ => none) (.forbidden "El cajero no esta disponible para esta accion.")

/-- The end of the subscription of a cashier; a client has none. -/
def lockSubscription (accounts : Accounts) (principal : SessionPrincipal) (now : ℕ) :
    Except HttpException (Option ℕ) :=
  if principal.role = .cashier then lockCurrentCashier accounts principal.id now else .ok none

/-- The device and the session of the caller, as the query locks them. -/
def lockedSession (accounts : Accounts) (principal : SessionPrincipal) (deviceId : Uuid) : Bool :=
  (accounts.devices.find? deviceId).any (fun device =>
    device.userId = principal.id && device.status = .active) &&
  (accounts.sessions.find? principal.sessionId).any fun session =>
    session.deviceId = some deviceId && session.userId = principal.id

/-- `requireCurrentSession`. -/
def requireCurrentSession (accounts : Accounts) (principal : SessionPrincipal) (deviceId : Uuid)
    (subscriptionEndsAt : Option ℕ) (now : ℕ) : Except HttpException Unit :=
  require (accounts.currentUserSession principal deviceId now &&
      (accounts.users.find? principal.id).any (fun user => user.role = principal.role) &&
      subscriptionEndsAt.all fun endsAt => now < endsAt)
    (.unauthorized "La sesión o la suscripción ya no están vigentes.")

/-- `withContext`, to the operation. -/
def openContext (serverName : JsString) (call : IdentityCall) (db : Directory) :
    Except HttpException IdentityContext := do
  requireParticipant call.principal
  let deviceId ← orThrow call.principal.deviceId
    (.forbidden "La sesión no tiene un dispositivo vinculado.")
  require (db.accounts.operational call.principal.id)
    (.forbidden "La cuenta no está disponible para esta acción.")
  let subscriptionEndsAt ← lockSubscription db.accounts call.principal call.eligibilityNow
  require (lockedSession db.accounts call.principal deviceId)
    (.unauthorized "El dispositivo o la sesión ya no están disponibles.")
  requireCurrentSession db.accounts call.principal deviceId subscriptionEndsAt call.now
  let matrixUserId := matrixUserIdFromUuid call.principal.id serverName
  let matrixDeviceId := matrixDeviceIdFromUuid deviceId
  let original ← orThrow ((db.accounts.deviceKeys.find? deviceId).filter fun original =>
      original.userId = call.principal.id && original.matrixUserId = matrixUserId &&
        original.matrixDeviceId = matrixDeviceId)
    (.forbidden "La identidad original del dispositivo no está disponible.")
  let deviceKeys ← orThrow (db.deviceKeys original.deviceId)
    (.forbidden "La identidad original del dispositivo no está disponible.")
  return { deviceId, matrixUserId, matrixDeviceId, deviceKeys, subscriptionEndsAt }

/-- `requireStoredCertificate`. -/
def requireStoredCertificate (db : Directory) (userId deviceId bootstrapDeviceId : Uuid) :
    Except HttpException MatrixDeviceCrossSigning := do
  require (deviceId = bootstrapDeviceId)
    (conflict "MATRIX_CROSS_SIGNING_INITIAL_DEVICE_REQUIRED")
  orThrow ((db.certificates.find? deviceId).filter fun certificate => certificate.userId = userId)
    (conflict "MATRIX_CROSS_SIGNING_IDENTITY_INCOMPLETE")

/-- `response`. -/
def response (context : IdentityContext) (identity : Option MatrixCrossSigningPublicIdentity) :
    IdentityStatus :=
  { matrixUserId := context.matrixUserId, matrixDeviceId := context.matrixDeviceId, identity }

/-! ## The operations -/

/-- The operation of `status`, in its context. -/
def statusIn (call : IdentityCall) (context : IdentityContext) (db : Directory) :
    Except HttpException IdentityStatus :=
  match db.identities.find? call.principal.id with
  | none => .ok (response context none)
  | some stored => do
    let _ ← requireStoredCertificate db call.principal.id context.deviceId
      stored.bootstrapDeviceId
    return response context (some stored.identity)

/-- `status`. -/
def status (serverName : JsString) (call : IdentityCall) (db : Directory) :
    Except HttpException IdentityStatus := do
  let context ← openContext serverName call db
  let answer ← statusIn call context db
  requireCurrentSession db.accounts call.principal context.deviceId context.subscriptionEndsAt
    call.later
  return answer

/-- `parseBody`. -/
def parseBody (value : Json) : Except HttpException (Json × Json) := do
  let body ← orThrow value.record? (.badRequest "MATRIX_CROSS_SIGNING_BODY_INVALID")
  require (Json.exactKeys body [js "signing_keys", js "device_signatures"])
    (.badRequest "MATRIX_CROSS_SIGNING_BODY_INVALID")
  let signingKeys ← orThrow (Json.get? (js "signing_keys") body)
    (.badRequest "MATRIX_CROSS_SIGNING_BODY_INVALID")
  let deviceSignatures ← orThrow (Json.get? (js "device_signatures") body)
    (.badRequest "MATRIX_CROSS_SIGNING_BODY_INVALID")
  return (signingKeys, deviceSignatures)

/-- A request that was parsed, with its two digests. -/
structure HashedBootstrap where
  parsed : MatrixCrossSigningBootstrap
  bootstrapSha256 : JsString
  canonicalSha256 : JsString

/-- `parseBootstrap` of the service, and the digests. -/
def parseAndHash (crypto : Crypto) (scheme : SignatureScheme) (body : Json × Json)
    (context : IdentityContext) (pinned : Option MatrixCrossSigningPublicIdentity) :
    Except HttpException HashedBootstrap := do
  let parsed ← orHttp validationError (parseBootstrap scheme (some body.1) (some body.2)
    ⟨context.matrixUserId, context.matrixDeviceId, context.deviceKeys, pinned⟩)
  let bootstrapSha256 ← orHttp (fun code => .internal code)
    (hashMatrixCanonicalJson crypto parsed.hashInput)
  let canonicalSha256 ← orHttp (fun code => .internal code)
    (hashMatrixCanonicalJson crypto parsed.signedDeviceKeys.toJson)
  return { parsed, bootstrapSha256, canonicalSha256 }

/-- `MATRIX_CROSS_SIGNING_CONCURRENT_CHANGE`, a unique violation. -/
def concurrentChange : HttpException := conflict "MATRIX_CROSS_SIGNING_CONCURRENT_CHANGE"

/-- The identity row of a first bootstrap. -/
def identityRow (call : IdentityCall) (context : IdentityContext) (request : HashedBootstrap) :
    MatrixCrossSigningIdentity :=
  { userId := call.principal.id
    matrixUserId := context.matrixUserId
    bootstrapDeviceId := context.deviceId
    masterKey := request.parsed.masterKey.key
    selfSigningKey := request.parsed.selfSigningKey.key
    userSigningKey := request.parsed.userSigningKey.key
    signingKeys := request.parsed.signingKeys
    bootstrapSha256 := request.bootstrapSha256
    createdAt := call.now }

/-- The certificate row of a first bootstrap. -/
def certificateRow (call : IdentityCall) (context : IdentityContext)
    (request : HashedBootstrap) : MatrixDeviceCrossSigning :=
  { deviceId := context.deviceId
    userId := call.principal.id
    signedDeviceKeys := request.parsed.signedDeviceKeys.toJson
    canonicalSha256 := request.canonicalSha256
    createdAt := call.now }

/-- The rows of a first bootstrap, and its publication. -/
def createIdentity (call : IdentityCall) (context : IdentityContext) (request : HashedBootstrap)
    (db : Directory) : Except HttpException Directory :=
  if hidentity : db.identities.find? (identityRow call context request).userId = none then
    if hcertificate :
        db.certificates.find? (certificateRow call context request).deviceId = none then
      .ok { db with
        identities := db.identities.insert (identityRow call context request) hidentity
        certificates := db.certificates.insert (certificateRow call context request) hcertificate
        lists := db.lists.publishDeviceSetChanged db.accounts call.principal.id }
    else .error concurrentChange
  else .error concurrentChange

/-- `bootstrap`, with the identity that is stored: a request for a stored identity
must be the stored one, and writes nothing. -/
def bootstrapFor (crypto : Crypto) (scheme : SignatureScheme) (call : IdentityCall)
    (body : Json × Json) (context : IdentityContext) (db : Directory) :
    Option MatrixCrossSigningIdentity → Except HttpException (Directory × IdentityStatus)
  | some stored => do
    let request ← parseAndHash crypto scheme body context (some stored.identity)
    let certificate ← requireStoredCertificate db call.principal.id context.deviceId
      stored.bootstrapDeviceId
    require (stored.bootstrapSha256 = request.bootstrapSha256 &&
      certificate.canonicalSha256 = request.canonicalSha256)
      (conflict "MATRIX_CROSS_SIGNING_REPLAY_MISMATCH")
    return (db, response context (some stored.identity))
  | none => do
    let request ← parseAndHash crypto scheme body context none
    let db' ← createIdentity call context request db
    return (db', response context (some request.parsed.identity))

/-- The operation of `bootstrap`, in its context. -/
def bootstrapIn (crypto : Crypto) (scheme : SignatureScheme) (call : IdentityCall)
    (body : Json × Json) (context : IdentityContext) (db : Directory) :
    Except HttpException (Directory × IdentityStatus) := do
  require ((db.accounts.devices.rows.filter fun device =>
      device.userId = call.principal.id).length = 1)
    (conflict "MATRIX_CROSS_SIGNING_INITIAL_DEVICE_REQUIRED")
  bootstrapFor crypto scheme call body context db (db.identities.find? call.principal.id)

/-- `bootstrap`. -/
def bootstrap (env : Deployment) (scheme : SignatureScheme) (call : IdentityCall) (value : Json)
    (db : Directory) : Except HttpException (Directory × IdentityStatus) := do
  requireParticipant call.principal
  let body ← parseBody value
  let context ← openContext env.matrixServerName call db
  let (db', answer) ← bootstrapIn env.crypto scheme call body context db
  requireCurrentSession db.accounts call.principal context.deviceId context.subscriptionEndsAt
    call.later
  return (db', answer)

/-! ## The directory as a machine -/

/-- What happened: a bootstrap, with its answer, or something else. -/
inductive DirectoryAction where
  | bootstrapped (call : IdentityCall) (value : Json) (answer : IdentityStatus)
  | refused (call : IdentityCall) (value : Json) (error : HttpException)
  | deviceRegistered (deviceId : Uuid)
  | accountsChanged
  | listRegistered (userId : Uuid)
  | published (subjectUserId : Uuid)

/-- The action is a bootstrap of a user, accepted or refused. -/
def DirectoryAction.bootstraps (userId : Uuid) : DirectoryAction → Bool
  | .bootstrapped call _ _ => call.principal.id = userId
  | .refused call _ _ => call.principal.id = userId
  | _ => false

/-- `devices_one_historical_device_per_user_key`, and the device behind published keys. -/
structure DeviceConstraints (accounts : Accounts) : Prop where
  one : ∀ a ∈ accounts.devices, ∀ b ∈ accounts.devices, a.userId = b.userId → a = b
  owner : ∀ row ∈ accounts.deviceKeys,
    ∃ device ∈ accounts.devices, device.id = row.deviceId ∧ device.userId = row.userId

/-- **The steps of the directory.** The rest of the system may change the accounts,
but neither changes nor removes published device keys, and keeps the constraints. -/
inductive DirectoryStep (env : Deployment) (scheme : SignatureScheme) :
    Directory → DirectoryAction → Directory → Prop
  | bootstrap {db db' : Directory} {call : IdentityCall} {value : Json} {answer : IdentityStatus} :
      bootstrap env scheme call value db = .ok (db', answer) →
      DirectoryStep env scheme db (.bootstrapped call value answer) db'
  | refuse {db : Directory} {call : IdentityCall} {value : Json} {error : HttpException} :
      bootstrap env scheme call value db = .error error →
      DirectoryStep env scheme db (.refused call value error) db
  | registerDevice {db : Directory} {deviceId : Uuid} {value : Json} :
      db.deviceKeys deviceId = none →
      DirectoryStep env scheme db (.deviceRegistered deviceId)
        { db with deviceKeys := Function.update db.deviceKeys deviceId (some value) }
  | changeAccounts {db : Directory} {accounts : Accounts} :
      (∀ row ∈ db.accounts.deviceKeys, row ∈ accounts.deviceKeys) → DeviceConstraints accounts →
      DirectoryStep env scheme db .accountsChanged { db with accounts }
  | registerList {db : Directory} {userId : Uuid} {matrixUserId : JsString} :
      DirectoryStep env scheme db (.listRegistered userId)
        { db with lists := db.lists.register userId matrixUserId }
  | publish {db : Directory} {subjectUserId : Uuid} {recipients : List Uuid}
      {changeType : ChangeType} {bump : Bool} :
      DirectoryStep env scheme db (.published subjectUserId)
        { db with lists := db.lists.publish subjectUserId recipients changeType bump }

/-- The directory, without identities at first. -/
def directory (env : Deployment) (scheme : SignatureScheme) :
    Machine Directory DirectoryAction where
  init db := db.identities = .empty ∧ db.certificates = .empty ∧ DeviceConstraints db.accounts
  step := DirectoryStep env scheme

end CrossSigning

end SinoChat
