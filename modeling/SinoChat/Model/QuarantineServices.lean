import SinoChat.Model.Quarantine

/-!
# The services of the quarantine

`matrix-device-candidates.service.ts` reserves a candidate for a session without a device,
`matrix-device-candidate-review.service.ts` shows it to the trusted device of the same
user, `matrix-device-verification.service.ts` admits the request of that device to verify
it, and `matrix-device-verification-inbox.service.ts` hands the request to the session
that waits. A call is one transaction: the calls of one user hold one lock.

A transaction that fails leaves no trace. Some commit what they observed and raise behind
the commit, so that a call ends with a database and with an answer or an exception.
-/

namespace SinoChat

open Js

namespace Quarantine

open CrossSigning (MatrixCrossSigningIdentity)
open MessagePayload (matrixDeviceIdFromUuid)
open SasToDevice (MatrixSasExpectation MatrixSasToDeviceRequest parseMatrixSasToDeviceRequest
  Verification messagesJson bodyJson)

/-- A transaction ended: what it wrote is there, or nothing is. -/
def commit {α β : Type} (db : Db) (result : Except HttpException (Db × α))
    (answer : α → Except HttpException β) : Db × Except HttpException β :=
  match result with
  | .ok outcome => (outcome.1, answer outcome.2)
  | .error error => (db, .error error)

/-! ## Candidates -/

namespace MatrixDeviceCandidatesService

/-- What a requester is told of its candidate. -/
structure MatrixDeviceCandidateStatus where
  candidateId : Uuid
  state : Status
  matrixUserId : JsString
  matrixDeviceId : JsString
  createdAt : ℕ
  expiresAt : ℕ
  deriving DecidableEq

/-- What is read of the requester before an operation. -/
structure CandidateContext where
  identity : MatrixCrossSigningIdentity
  now : ℕ
  sessionVersion : ℕ
  sessionExpiresAt : ℕ
  subscriptionEndsAt : Option ℕ

/-- The state does not allow it, with a code. -/
def conflict (code : String) : HttpException :=
  .withBody 409 (.obj [(js "code", .str (js code)), (js "message", .str (js
    "La solicitud no está disponible o cambió. No se activó ningún dispositivo."))])

/-- The caller is a participant whose session has no device yet. -/
def requireRequester (principal : SessionPrincipal) : Except HttpException Unit := do
  require (isParticipant principal) (.forbidden "El rol no puede solicitar dispositivos de chat.")
  require (principal.deviceId == none)
    (.forbidden "La sesión ya tiene un dispositivo vinculado.")

/-- The id of a candidate in a path. -/
def requireCandidateId (id : JsString) : Except HttpException Uuid :=
  orThrow (canonicalId? id) (.badRequest "MATRIX_CANDIDATE_ID_INVALID")

/-- `currentSession` of the service. -/
def current (backdrop : Backdrop) (principal : SessionPrincipal) (subscriptionEndsAt : Option ℕ)
    (now : ℕ) : Except HttpException AuthSession :=
  currentSession backdrop principal subscriptionEndsAt
    (.unauthorized "La sesión o la suscripción ya no están vigentes.") now

/-- The query that locks the session with the trusted device. -/
def lockedSession (backdrop : Backdrop) (principal : SessionPrincipal) (deviceId : Uuid) : Bool :=
  (backdrop.accounts.sessions.find? principal.sessionId).any (fun session =>
    session.userId == principal.id && session.deviceId == none) &&
  (backdrop.accounts.devices.find? deviceId).any (fun device =>
    device.userId == principal.id && device.status == .active) &&
  backdrop.protocolVersion deviceId == js "matrix-olm-v1" &&
  (backdrop.certificates.find? deviceId).any fun certificate => certificate.userId == principal.id

/-- The first part of `withContext`. -/
def openContext (env : Env) (backdrop : Backdrop) (clock : Readings) (principal : SessionPrincipal) :
    Except HttpException CandidateContext := do
  let subscriptionEndsAt ← lockParticipant backdrop principal clock.eligibility
  let identity ← orThrow (backdrop.identities.find? principal.id)
    (conflict "MATRIX_CANDIDATE_EXISTING_IDENTITY_REQUIRED")
  require (identity.matrixUserId == matrixUserIdFromUuid principal.id env.serverName)
    (conflict "MATRIX_CANDIDATE_EXISTING_IDENTITY_REQUIRED")
  require (lockedSession backdrop principal identity.bootstrapDeviceId)
    (.unauthorized "La sesión o el dispositivo confiable ya no están disponibles.")
  let session ← current backdrop principal subscriptionEndsAt clock.now
  .ok { identity, now := clock.now, sessionVersion := session.sessionVersion,
        sessionExpiresAt := session.expiresAt, subscriptionEndsAt }

/-- The candidate is pending and its time is over. -/
def MatrixDeviceCandidate.isOverdue (candidate : MatrixDeviceCandidate) (now : ℕ) : Bool :=
  candidate.status == .pending && candidate.expiresAt ≤ now

/-- The last part of `withContext`: an observed expiration is stored. -/
def latch (clock : Readings) (principal : SessionPrincipal) (context : CandidateContext)
    (requireLiveResult : Bool) (made : Db × MatrixDeviceCandidate) :
    Except HttpException (Db × MatrixDeviceCandidate) := do
  let after ← current made.1.backdrop principal context.subscriptionEndsAt clock.after
  require (after.sessionVersion == context.sessionVersion)
    (.unauthorized "La sesión cambió durante la operación.")
  require (!(requireLiveResult && context.now < made.2.expiresAt &&
      MatrixDeviceCandidate.isOverdue made.2 clock.after))
    (conflict "MATRIX_CANDIDATE_EXPIRED_DURING_OPERATION")
  if MatrixDeviceCandidate.isOverdue made.2 clock.after then do
    let db ← made.1.resolve made.2.id .expired clock.after clock.late
    let _ ← current db.backdrop principal context.subscriptionEndsAt clock.last
    .ok (db, made.2.resolve .expired clock.after)
  else .ok made

/-- `response`: the row is as `withContext` leaves it. -/
def response (row : MatrixDeviceCandidate) (now : ℕ) : MatrixDeviceCandidateStatus where
  candidateId := row.id
  state := if MatrixDeviceCandidate.isOverdue row now then .expired else row.status
  matrixUserId := row.matrixUserId
  matrixDeviceId := row.matrixDeviceId
  createdAt := row.createdAt
  expiresAt := row.expiresAt

/-- An operation of a requester between two readings of its context. -/
def withContext (env : Env) (clock : Readings) (db : Db) (principal : SessionPrincipal)
    (operation : Db → CandidateContext → Except HttpException (Db × MatrixDeviceCandidate))
    (requireLiveResult : Bool) : Except HttpException (Db × MatrixDeviceCandidateStatus) := do
  requireRequester principal
  let context ← openContext env db.backdrop clock principal
  let made ← operation db context
  let result ← latch clock principal context requireLiveResult made
  .ok (result.1, response result.2 clock.after)

/-- What the row of an id has to say for its reservation to be repeated. -/
def isReplay (principal : SessionPrincipal) (context : CandidateContext)
    (parsed : KeyUpload.MatrixDeviceCandidate) (previous : MatrixDeviceCandidate) : Bool :=
  previous.userId == principal.id && previous.sessionId == principal.sessionId &&
    previous.sessionVersion == context.sessionVersion &&
    previous.canonicalSha256 == parsed.canonicalSha256 &&
    previous.identityBootstrapSha256 == context.identity.bootstrapSha256 &&
    previous.trustedDeviceId == context.identity.bootstrapDeviceId

/-- `updateMany` of the pending candidate of a user whose time is over; the partial unique
index leaves one at most. -/
def expireOverdue (db : Db) (userId : Uuid) (now : ℕ) (clock : TriggerReadings) :
    Except HttpException Db :=
  match db.candidates.rows.find? fun c =>
      c.userId = userId && MatrixDeviceCandidate.isOverdue c now with
  | some candidate => db.resolve candidate.id .expired now clock
  | none => .ok db

/-- The deadline of a candidate. -/
def deadline (context : CandidateContext) : ℕ :=
  min (min (context.now + 600000) context.sessionExpiresAt)
    (context.subscriptionEndsAt.getD (context.now + 600000))

/-- The row of a reservation. -/
def reservedRow (env : Env) (principal : SessionPrincipal) (id : Uuid)
    (parsed : KeyUpload.MatrixDeviceCandidate) (context : CandidateContext) :
    MatrixDeviceCandidate where
  id := id
  userId := principal.id
  sessionId := principal.sessionId
  sessionVersion := context.sessionVersion
  matrixUserId := matrixUserIdFromUuid principal.id env.serverName
  matrixDeviceId := matrixDeviceIdFromUuid id
  trustedDeviceId := context.identity.bootstrapDeviceId
  identityBootstrapSha256 := context.identity.bootstrapSha256
  deviceKeys := env.jsonb (KeyUpload.deviceKeysJson parsed.deviceKeys)
  canonicalSha256 := parsed.canonicalSha256
  ed25519Key := parsed.ed25519Key
  curve25519Key := parsed.curve25519Key
  status := .pending
  createdAt := context.now
  expiresAt := deadline context
  resolvedAt := none

/-- The operation of `reserve`, where the id is new. -/
def reserveNew (env : Env) (clock : Readings) (principal : SessionPrincipal) (id : Uuid)
    (parsed : KeyUpload.MatrixDeviceCandidate) (db : Db) (context : CandidateContext) :
    Except HttpException (Db × MatrixDeviceCandidate) := do
  require ((db.backdrop.accounts.devices.find? id).isNone &&
    !db.backdrop.registrations.contains id) (conflict "MATRIX_CANDIDATE_ID_UNAVAILABLE")
  require (parsed.ed25519Key != parsed.curve25519Key &&
    !signsWith context.identity [parsed.ed25519Key, parsed.curve25519Key] &&
    !db.backdrop.keyInUse [parsed.ed25519Key, parsed.curve25519Key])
    (conflict "MATRIX_CANDIDATE_KEY_REUSED")
  let db ← expireOverdue db principal.id context.now clock.update
  require (db.candidates.rows.all fun c => c.userId != principal.id || c.status != .pending)
    (conflict "MATRIX_CANDIDATE_ALREADY_PENDING")
  let db ← db.createCandidate (reservedRow env principal id parsed context) clock.insertion
    (conflict "MATRIX_CANDIDATE_CONCURRENT_CHANGE")
  .ok (db, reservedRow env principal id parsed context)

/-- The operation of `reserve`. -/
def reserveIn (env : Env) (clock : Readings) (principal : SessionPrincipal) (id : Uuid)
    (parsed : KeyUpload.MatrixDeviceCandidate) (db : Db) (context : CandidateContext) :
    Except HttpException (Db × MatrixDeviceCandidate) :=
  match db.candidates.find? id with
  | some previous => do
    require (isReplay principal context parsed previous)
      (conflict "MATRIX_CANDIDATE_REPLAY_MISMATCH")
    .ok (db, previous)
  | none => reserveNew env clock principal id parsed db context

/-- The keys of the body, for the device of the candidate. -/
def parseBody (env : Env) (principal : SessionPrincipal) (id : Uuid) (value : Json) :
    Except HttpException KeyUpload.MatrixDeviceCandidate :=
  CrossSigning.orHttp (fun code => .withBody 400 (.obj [(js "code", .str (js code)),
      (js "message", .str (js
        "No se pudieron validar las claves públicas del dispositivo pendiente."))]))
    (KeyUpload.parseMatrixDeviceCandidate env.scheme env.sha256Hex value
      (matrixUserIdFromUuid principal.id env.serverName) (matrixDeviceIdFromUuid id))

/-- A device asks to be let in; the same request again is answered with the row that is there. -/
def reserve (env : Env) (clock : Readings) (db : Db) (principal : SessionPrincipal)
    (candidateId : JsString) (value : Json) :
    Except HttpException (Db × MatrixDeviceCandidateStatus) := do
  requireRequester principal
  let id ← requireCandidateId candidateId
  let parsed ← parseBody env principal id value
  withContext env clock db principal (reserveIn env clock principal id parsed) true

/-- The candidate of the session. -/
def ownCandidate (principal : SessionPrincipal) (id : Uuid) (db : Db) (context : CandidateContext) :
    Except HttpException MatrixDeviceCandidate := do
  let candidate ← orThrow ((db.candidates.find? id).filter fun c =>
    c.userId == principal.id && c.sessionId == principal.sessionId)
    (.withMessage 404 "Solicitud de dispositivo no disponible.")
  require (candidate.sessionVersion == context.sessionVersion &&
    candidate.identityBootstrapSha256 == context.identity.bootstrapSha256 &&
    candidate.trustedDeviceId == context.identity.bootstrapDeviceId)
    (conflict "MATRIX_CANDIDATE_CONTEXT_CHANGED")
  .ok candidate

/-- A requester asks how its candidate stands. -/
def status (env : Env) (clock : Readings) (db : Db) (principal : SessionPrincipal)
    (candidateId : JsString) : Except HttpException (Db × MatrixDeviceCandidateStatus) := do
  let id ← requireCandidateId candidateId
  withContext env clock db principal (fun db context => do
    let candidate ← ownCandidate principal id db context
    .ok (db, candidate)) false

/-- How a candidate ends that is cancelled: expired beats cancelled. -/
def endStatus (candidate : MatrixDeviceCandidate) (now : ℕ) : Status :=
  if candidate.expiresAt ≤ now then .expired else .cancelled

/-- The operation of `cancel`. -/
def cancelIn (clock : Readings) (principal : SessionPrincipal) (id : Uuid) (db : Db)
    (context : CandidateContext) : Except HttpException (Db × MatrixDeviceCandidate) := do
  let candidate ← ownCandidate principal id db context
  if candidate.status = .pending then do
    let db ← db.resolve id (endStatus candidate context.now) context.now clock.update
    .ok (db, candidate.resolve (endStatus candidate context.now) context.now)
  else .ok (db, candidate)

/-- A requester takes its candidate back. -/
def cancel (env : Env) (clock : Readings) (db : Db) (principal : SessionPrincipal)
    (candidateId : JsString) : Except HttpException (Db × MatrixDeviceCandidateStatus) := do
  let id ← requireCandidateId candidateId
  withContext env clock db principal (cancelIn clock principal id) false

end MatrixDeviceCandidatesService

open MatrixDeviceCandidatesService (endStatus)

/-! ## Review -/

namespace MatrixDeviceCandidateReviewService

/-- What a reviewer is shown of a candidate. -/
structure MatrixCandidateReviewDetail where
  candidateId : Uuid
  matrixUserId : JsString
  matrixDeviceId : JsString
  createdAt : ℕ
  expiresAt : ℕ
  deviceKeys : CrossSigning.MatrixDeviceKeys
  deriving DecidableEq

/-- The detail without the keys. -/
structure MatrixCandidateReviewSummary where
  candidateId : Uuid
  matrixUserId : JsString
  matrixDeviceId : JsString
  createdAt : ℕ
  expiresAt : ℕ
  deriving DecidableEq

/-- What a reviewer is answered who rejects a candidate. -/
structure MatrixCandidateRejection where
  candidateId : Uuid
  state : Status
  deriving DecidableEq

/-- What an operation of a reviewer leaves to be answered. -/
structure ReviewResult where
  candidate : Option MatrixCandidateReviewDetail
  rejection : Option MatrixCandidateRejection
  deriving DecidableEq

/-- `empty`. -/
def ReviewResult.empty : ReviewResult := ⟨none, none⟩

/-- There is no such candidate for the reviewer. -/
def unavailable : HttpException := .withMessage 404 "Solicitud de dispositivo no disponible."

/-- The session of the reviewer has ended. -/
def unauthorized : HttpException :=
  .unauthorized "La sesión o el dispositivo confiable ya no están disponibles."

/-- The candidate is not in the context it was made in. -/
def contextChanged : HttpException :=
  .withBody 409 (.obj [(js "code", .str (js "MATRIX_CANDIDATE_REVIEW_CONTEXT_CHANGED")),
    (js "message", .str (js "La solicitud no coincide con su contexto original."))])

/-- The caller is a participant with a device. -/
def requireReviewer (principal : SessionPrincipal) : Except HttpException Uuid := do
  require (isParticipant principal) (.forbidden "El rol no puede revisar dispositivos de chat.")
  orThrow (principal.deviceId.filter canonicalId)
    (.forbidden "Se necesita una sesión del dispositivo confiable.")

/-- The id of a candidate in a path. -/
def requireCandidateId (id : JsString) : Except HttpException Uuid :=
  orThrow (canonicalId? id) (.badRequest "MATRIX_CANDIDATE_ID_INVALID")

/-- The session of the reviewer, still valid. -/
def currentReviewer (backdrop : Backdrop) (principal : SessionPrincipal)
    (subscriptionEndsAt : Option ℕ) (now : ℕ) : Except HttpException AuthSession :=
  currentSession backdrop principal subscriptionEndsAt unauthorized now

/-- The row under review: the candidate, or the pending one, of the trusted device. -/
def lockCandidate (db : Db) (principal : SessionPrincipal) (deviceId : Uuid)
    (candidateId : Option Uuid) : Option MatrixDeviceCandidate :=
  db.candidates.rows.find? fun c =>
    c.userId = principal.id && c.trustedDeviceId = deviceId &&
      match candidateId with
      | some id => c.id == id
      | none => c.status == .pending

/-- `reject`, of the locked row. -/
def rejectIn (clock : Readings) (principal : SessionPrincipal) (subscriptionEndsAt : Option ℕ)
    (db : Db) (row : MatrixDeviceCandidate) : Except HttpException (Db × ReviewResult) := do
  let _ ← currentReviewer db.backdrop principal subscriptionEndsAt clock.after
  if row.status = .pending then do
    let db ← db.resolve row.id (endStatus row clock.after) clock.after clock.late
    let _ ← currentReviewer db.backdrop principal subscriptionEndsAt clock.last
    .ok (db, ⟨none, some ⟨row.id, endStatus row clock.after⟩⟩)
  else do
    let _ ← currentReviewer db.backdrop principal subscriptionEndsAt clock.last
    .ok (db, ⟨none, some ⟨row.id, row.status⟩⟩)

/-- The session that reserved the row, still as it was. -/
def validRequester (row : MatrixDeviceCandidate) (sessionVersion : ℕ) (requester : AuthSession) :
    Bool :=
  requester.deviceId == none && requester.revokedAt == none &&
    requester.sessionVersion == row.sessionVersion && row.sessionVersion == sessionVersion

/-- The row as it is shown. -/
def detailOf (row : MatrixDeviceCandidate) (parsed : KeyUpload.MatrixDeviceCandidate) :
    MatrixCandidateReviewDetail where
  candidateId := row.id
  matrixUserId := row.matrixUserId
  matrixDeviceId := row.matrixDeviceId
  createdAt := row.createdAt
  expiresAt := row.expiresAt
  deviceKeys := parsed.deviceKeys

/-- The keys of the row, where its requester could still be served at `now`. -/
def readKeys (env : Env) (row : MatrixDeviceCandidate) (requester : Option AuthSession) (now : ℕ) :
    Except HttpException (Option KeyUpload.MatrixDeviceCandidate) :=
  if requester.any fun r => now < row.expiresAt && now < r.expiresAt then do
    let parsed ← publicSnapshot env row contextChanged
    .ok (some parsed)
  else .ok none

/-- The review of a pending row. -/
def showIn (env : Env) (clock : Readings) (principal : SessionPrincipal)
    (subscriptionEndsAt : Option ℕ) (before : AuthSession) (db : Db) (row : MatrixDeviceCandidate) :
    Except HttpException (Db × ReviewResult) := do
  let requester := (ownSession db.backdrop principal.id row.sessionId).filter
    (validRequester row before.sessionVersion)
  let parsed ← readKeys env row requester clock.first
  let after ← currentReviewer db.backdrop principal subscriptionEndsAt clock.after
  if row.expiresAt ≤ clock.after then do
    let db ← db.resolve row.id .expired clock.after clock.late
    let _ ← currentReviewer db.backdrop principal subscriptionEndsAt clock.last
    .ok (db, .empty)
  else if requester.any (fun r => clock.after < r.expiresAt) &&
      row.sessionVersion == after.sessionVersion then
    .ok (db, ⟨parsed.map (detailOf row), none⟩)
  else .ok (db, .empty)

/-- `review`. -/
def review (env : Env) (clock : Readings) (db : Db) (principal : SessionPrincipal)
    (candidateId : Option Uuid) (reject : Bool) : Except HttpException (Db × ReviewResult) := do
  let deviceId ← requireReviewer principal
  let subscriptionEndsAt ← lockParticipant db.backdrop principal clock.eligibility
  let identity ← orThrow (db.backdrop.identities.find? principal.id)
    (.forbidden "La sesión no pertenece al dispositivo confiable de esta cuenta.")
  require (identity.matrixUserId == matrixUserIdFromUuid principal.id env.serverName &&
    identity.bootstrapDeviceId == deviceId)
    (.forbidden "La sesión no pertenece al dispositivo confiable de esta cuenta.")
  require (trustedSession db.backdrop principal.id principal.sessionId deviceId
    (matrixUserIdFromUuid principal.id env.serverName)) unauthorized
  let before ← currentReviewer db.backdrop principal subscriptionEndsAt clock.first
  match lockCandidate db principal deviceId candidateId with
  | none => do
    let _ ← currentReviewer db.backdrop principal subscriptionEndsAt clock.after
    .ok (db, .empty)
  | some row => do
    require (row.identityBootstrapSha256 == identity.bootstrapSha256 &&
      row.matrixUserId == matrixUserIdFromUuid principal.id env.serverName &&
      row.matrixDeviceId == matrixDeviceIdFromUuid row.id) contextChanged
    if reject then rejectIn clock principal subscriptionEndsAt db row
    else if row.status = .pending then
      showIn env clock principal subscriptionEndsAt before db row
    else do
      let _ ← currentReviewer db.backdrop principal subscriptionEndsAt clock.after
      .ok (db, .empty)

/-- `pending`. -/
def pending (env : Env) (clock : Readings) (db : Db) (principal : SessionPrincipal) :
    Db × Except HttpException (Option MatrixCandidateReviewSummary) :=
  commit db (review env clock db principal none false) fun result =>
    .ok (result.candidate.map fun c =>
      ⟨c.candidateId, c.matrixUserId, c.matrixDeviceId, c.createdAt, c.expiresAt⟩)

/-- `detail`. -/
def detail (env : Env) (clock : Readings) (db : Db) (principal : SessionPrincipal)
    (candidateId : JsString) : Db × Except HttpException MatrixCandidateReviewDetail :=
  commit db (do
    let id ← requireCandidateId candidateId
    review env clock db principal (some id) false) fun result =>
    orThrow result.candidate unavailable

/-- `reject`. -/
def reject (env : Env) (clock : Readings) (db : Db) (principal : SessionPrincipal)
    (candidateId : JsString) : Db × Except HttpException MatrixCandidateRejection :=
  commit db (do
    let id ← requireCandidateId candidateId
    review env clock db principal (some id) true) fun result =>
    orThrow result.rejection unavailable

end MatrixDeviceCandidateReviewService

/-! ## The admission of a request -/

namespace MatrixDeviceVerificationService

/-- What a reviewer is told of its flow. -/
structure MatrixVerificationAdmission where
  candidateId : Uuid
  flowId : JsString
  createdAt : ℕ
  expiresAt : ℕ
  deriving DecidableEq

/-- There is no such flow for the reviewer. -/
def unavailable : HttpException := .withMessage 404 "Solicitud de verificación no disponible."

/-- The session of the reviewer has ended. -/
def unauthorized : HttpException :=
  .unauthorized "La sesión o el dispositivo confiable ya no están disponibles."

/-- The verification has changed or ended. -/
def conflict : HttpException :=
  .withBody 409 (.obj [(js "code", .str (js "MATRIX_VERIFICATION_CONTEXT_CHANGED")),
    (js "message", .str (js "La verificación cambió o terminó. No se autorizó ningún dispositivo."))])

/-- The session of the reviewer, still valid. -/
def reviewer (backdrop : Backdrop) (principal : SessionPrincipal) (subscriptionEnd : Option ℕ)
    (now : ℕ) : Except HttpException AuthSession :=
  currentSession backdrop principal subscriptionEnd unauthorized now

/-- The flow as the reviewer is told of it. -/
def summary (row : MatrixDeviceVerificationFlow) : MatrixVerificationAdmission :=
  ⟨row.candidateId, row.flowId, row.createdAt, row.expiresAt⟩

/-- The ids of a call: of the trusted device and of the candidate. -/
def requireIds (principal : SessionPrincipal) (candidateId flowId transactionId : JsString) :
    Except HttpException (Uuid × Uuid) := do
  require (isParticipant principal)
    (.forbidden "El rol no puede verificar dispositivos de chat.")
  let deviceId ← orThrow (principal.deviceId.filter canonicalId)
    (.forbidden "Se necesita el dispositivo confiable.")
  require (isTransactionId flowId && isTransactionId transactionId)
    (.badRequest "MATRIX_VERIFICATION_ID_INVALID")
  let id ← orThrow (canonicalId? candidateId) (.badRequest "MATRIX_VERIFICATION_ID_INVALID")
  .ok (deviceId, id)

/-- The scope of the request: everything but the flow comes from the database. -/
def scopeOf (identity : MatrixCrossSigningIdentity) (deviceId : Uuid)
    (candidate : MatrixDeviceCandidate) (flowId : JsString) : MatrixSasExpectation where
  userId := candidate.matrixUserId
  senderDeviceId := matrixDeviceIdFromUuid deviceId
  recipientDeviceId := candidate.matrixDeviceId
  flowId := flowId
  pinnedMasterKey := identity.masterKey

/-- The content of the one message of a request. -/
def contentOf (request : MatrixSasToDeviceRequest) (scope : MatrixSasExpectation) : Json :=
  (((request.messages.record?.bind (Json.get? scope.userId)).bind Json.record?).bind
    (Json.get? scope.recipientDeviceId)).getD .null

/-- What a call has read of the database and of its body when it reads the clock. -/
structure Admitting where
  candidate : MatrixDeviceCandidate
  requester : AuthSession
  request : MatrixSasToDeviceRequest
  content : Json
  subscriptionEnd : Option ℕ

/-- The part of `open` before the clock is read. -/
def admitting (env : Env) (clock : Readings) (db : Db) (principal : SessionPrincipal)
    (deviceId candidateId : Uuid) (flowId transactionId : JsString) (body : Json) :
    Except HttpException Admitting := do
  let subscriptionEnd ← lockParticipant db.backdrop principal clock.eligibility
  let identity ← orThrow (db.backdrop.identities.find? principal.id) unavailable
  require (identity.bootstrapDeviceId == deviceId &&
    identity.matrixUserId == matrixUserIdFromUuid principal.id env.serverName) unavailable
  require (trustedSession db.backdrop principal.id principal.sessionId deviceId
    (matrixUserIdFromUuid principal.id env.serverName)) unauthorized
  let _ ← reviewer db.backdrop principal subscriptionEnd clock.first
  let candidate ← orThrow ((db.candidates.find? candidateId).filter fun c =>
    c.userId == principal.id && c.trustedDeviceId == deviceId) unavailable
  require (candidate.matrixUserId == matrixUserIdFromUuid principal.id env.serverName &&
    candidate.identityBootstrapSha256 == identity.bootstrapSha256 &&
    candidate.matrixDeviceId == matrixDeviceIdFromUuid candidateId) conflict
  let requester ← orThrow (ownSession db.backdrop principal.id candidate.sessionId) unavailable
  require (candidate.sessionId != principal.sessionId) unavailable
  let request ← CrossSigning.orHttp .badRequest (parseMatrixSasToDeviceRequest env.crypto
    Verification.request.eventType transactionId body (scopeOf identity deviceId candidate flowId))
  let _ ← publicSnapshot env candidate conflict
  .ok { candidate, requester, request, subscriptionEnd,
        content := contentOf request (scopeOf identity deviceId candidate flowId) }

/-- The deadline of a flow. -/
def deadline (a : Admitting) (current : AuthSession) (now : ℕ) : ℕ :=
  min (min (min (min (min a.candidate.expiresAt a.requester.expiresAt) current.expiresAt)
    (a.subscriptionEnd.getD (now + 600000))) (now + 600000)) (timestampOf a.content + 600000)

/-- The row of an admission. -/
def admittedRow (env : Env) (principal : SessionPrincipal) (flowId transactionId : JsString)
    (a : Admitting) (current : AuthSession) (now : ℕ) : MatrixDeviceVerificationFlow where
  candidateId := a.candidate.id
  userId := principal.id
  flowId := flowId
  reviewerSessionId := principal.sessionId
  reviewerSessionVersion := current.sessionVersion
  requestTransactionId := transactionId
  requestContent := env.jsonb a.content
  requestSha256 := a.request.canonicalSha256
  status := .pending
  createdAt := now
  expiresAt := deadline a current now
  resolvedAt := none

/-- The admission of a new flow. -/
def admitNew (env : Env) (clock : Readings) (db : Db) (principal : SessionPrincipal)
    (flowId transactionId : JsString) (a : Admitting) (current : AuthSession) :
    Except HttpException (Db × Option MatrixVerificationAdmission) := do
  require (clock.now ≤ timestampOf a.content + 600000 &&
    timestampOf a.content ≤ clock.now + 300000)
    (.badRequest "MATRIX_VERIFICATION_TIMESTAMP_STALE")
  let row := admittedRow env principal flowId transactionId a current clock.now
  require (clock.now < row.expiresAt) conflict
  let db ← db.createFlow row clock.insertion conflict
  let _ ← reviewer db.backdrop principal a.subscriptionEnd clock.after
  require (clock.after < row.expiresAt && clock.after < a.requester.expiresAt) conflict
  .ok (db, some (summary row))

/-- What the flow of a candidate has to say for its admission to be repeated. -/
def isReplay (principal : SessionPrincipal) (flowId transactionId : JsString) (a : Admitting)
    (current : AuthSession) (flow : MatrixDeviceVerificationFlow) : Bool :=
  flow.status == .pending && flow.userId == principal.id && flow.flowId == flowId &&
    flow.reviewerSessionId == principal.sessionId &&
    flow.reviewerSessionVersion == current.sessionVersion &&
    flow.requestTransactionId == transactionId &&
    flow.requestSha256 == a.request.canonicalSha256

/-- The candidate or its flow is pending and its time is over: `needsExpiration` of a
pending candidate. -/
def flowOverdue (flow : Option MatrixDeviceVerificationFlow) (now : ℕ) : Bool :=
  flow.any fun f => f.status == .pending && f.expiresAt ≤ now

/-- The transaction of `open`; without an admission it raises behind the commit. -/
def openIn (env : Env) (clock : Readings) (db : Db) (principal : SessionPrincipal)
    (deviceId candidateId : Uuid) (flowId transactionId : JsString) (body : Json) :
    Except HttpException (Db × Option MatrixVerificationAdmission) := do
  let a ← admitting env clock db principal deviceId candidateId flowId transactionId body
  let current ← reviewer db.backdrop principal a.subscriptionEnd clock.now
  require (a.requester.deviceId == none && a.requester.revokedAt == none &&
    a.requester.sessionVersion == a.candidate.sessionVersion &&
    a.candidate.sessionVersion == current.sessionVersion && clock.now < a.requester.expiresAt)
    unavailable
  if a.candidate.status ≠ .pending then .ok (db, none)
  else if a.candidate.expiresAt ≤ clock.now ||
      flowOverdue (db.flows.find? candidateId) clock.now then do
    let db ← db.resolve candidateId (endStatus a.candidate clock.now) clock.now clock.update
    let _ ← reviewer db.backdrop principal a.subscriptionEnd clock.after
    .ok (db, none)
  else
    match db.flows.find? candidateId with
    | some flow => do
      require (isReplay principal flowId transactionId a current flow) conflict
      .ok (db, some (summary flow))
    | none => admitNew env clock db principal flowId transactionId a current

/-- `open`. -/
def openFlow (env : Env) (clock : Readings) (db : Db) (principal : SessionPrincipal)
    (candidateId flowId transactionId : JsString) (body : Json) :
    Db × Except HttpException MatrixVerificationAdmission :=
  commit db (do
    let ids ← requireIds principal candidateId flowId transactionId
    openIn env clock db principal ids.1 ids.2 flowId transactionId body) fun result =>
    orThrow result conflict

end MatrixDeviceVerificationService

/-! ## The delivery of a request -/

namespace MatrixDeviceVerificationInboxService

open MatrixDeviceVerificationService (scopeOf contentOf flowOverdue)

/-- The request of a flow, as its candidate gets it. -/
structure MatrixVerificationIncomingRequest where
  candidateId : Uuid
  flowId : JsString
  transactionId : JsString
  senderDeviceId : JsString
  recipientDeviceId : JsString
  createdAt : ℕ
  expiresAt : ℕ
  sender : JsString
  content : Json

/-- There is no such candidate for the requester. -/
def unavailable : HttpException := .withMessage 404 "Solicitud de verificación no disponible."

/-- The session of the requester has ended. -/
def unauthorized : HttpException :=
  .unauthorized "La sesión solicitante ya no está disponible."

/-- The request cannot be delivered. -/
def conflict : HttpException :=
  .withBody 409 (.obj [(js "code", .str (js "MATRIX_VERIFICATION_INBOX_CONTEXT_CHANGED")),
    (js "message", .str (js "No se pudo entregar la verificación. No se autorizó ningún dispositivo."))])

/-- The session of the requester, still valid. -/
def requester (backdrop : Backdrop) (principal : SessionPrincipal) (subscriptionEnd : Option ℕ)
    (now : ℕ) : Except HttpException AuthSession :=
  currentSession backdrop principal subscriptionEnd unauthorized now

/-- A pending candidate is over, or its flow is. -/
def needsExpiration (candidate : MatrixDeviceCandidate)
    (flow : Option MatrixDeviceVerificationFlow) (now : ℕ) : Bool :=
  candidate.status == .pending && (candidate.expiresAt ≤ now || flowOverdue flow now)

/-- The candidate and its flow are over: write it down, and deliver nothing. -/
def expire (db : Db) (principal : SessionPrincipal) (subscriptionEnd : Option ℕ)
    (candidate : MatrixDeviceCandidate) (now : ℕ) (clock : TriggerReadings) (last : ℕ) :
    Except HttpException (Db × Option MatrixVerificationIncomingRequest) := do
  let db ← db.resolve candidate.id (endStatus candidate now) now clock
  let _ ← requester db.backdrop principal subscriptionEnd last
  .ok (db, none)

/-- The session of the reviewer, where it is locked with the trusted device. -/
def peerOf (env : Env) (backdrop : Backdrop) (principal : SessionPrincipal)
    (candidate : MatrixDeviceCandidate) (flow : MatrixDeviceVerificationFlow) :
    Option AuthSession :=
  if trustedSession backdrop principal.id flow.reviewerSessionId candidate.trustedDeviceId
      (matrixUserIdFromUuid principal.id env.serverName) then
    backdrop.accounts.sessions.find? flow.reviewerSessionId
  else none

/-- The reviewer is still who opened the flow. -/
def peerCurrent (principal : SessionPrincipal) (candidate : MatrixDeviceCandidate)
    (flow : MatrixDeviceVerificationFlow) (now : ℕ) (peer : AuthSession) : Bool :=
  peer.userId == principal.id && peer.deviceId == some candidate.trustedDeviceId &&
    peer.revokedAt == none && peer.sessionVersion == flow.reviewerSessionVersion &&
    now < peer.expiresAt

/-- The stored request is read again. -/
def storedRequest (env : Env) (identity : MatrixCrossSigningIdentity)
    (candidate : MatrixDeviceCandidate) (flow : MatrixDeviceVerificationFlow) :
    Except HttpException (MatrixSasToDeviceRequest × Json) := do
  let _ ← publicSnapshot env candidate conflict
  let scope := scopeOf identity candidate.trustedDeviceId candidate flow.flowId
  let request ← orThrow (parseMatrixSasToDeviceRequest env.crypto Verification.request.eventType
    flow.requestTransactionId (bodyJson (.obj [(scope.userId, .obj
      [(scope.recipientDeviceId, flow.requestContent)])])) scope).toOption conflict
  require (request.canonicalSha256 == flow.requestSha256) conflict
  .ok (request, contentOf request scope)

/-- The request as it is handed out. -/
def incoming (env : Env) (principal : SessionPrincipal) (flow : MatrixDeviceVerificationFlow)
    (request : MatrixSasToDeviceRequest) (content : Json) : MatrixVerificationIncomingRequest where
  candidateId := flow.candidateId
  flowId := flow.flowId
  transactionId := request.transactionId
  senderDeviceId := request.senderDeviceId
  recipientDeviceId := request.recipientDeviceId
  createdAt := flow.createdAt
  expiresAt := flow.expiresAt
  sender := matrixUserIdFromUuid principal.id env.serverName
  content := content

/-- The part of `poll` behind the second reading of the clock, for a pending flow. -/
def deliverFlow (env : Env) (clock : Readings) (db : Db) (principal : SessionPrincipal)
    (subscriptionEnd : Option ℕ) (candidate : MatrixDeviceCandidate)
    (flow : MatrixDeviceVerificationFlow) (current : AuthSession) :
    Except HttpException (Db × Option MatrixVerificationIncomingRequest) := do
  let identity ← orThrow (db.backdrop.identities.find? principal.id) conflict
  require (flow.userId == principal.id && flow.reviewerSessionId != principal.sessionId &&
    flow.reviewerSessionVersion == current.sessionVersion &&
    identity.matrixUserId == matrixUserIdFromUuid principal.id env.serverName &&
    identity.bootstrapDeviceId == candidate.trustedDeviceId &&
    identity.bootstrapSha256 == candidate.identityBootstrapSha256) conflict
  match (peerOf env db.backdrop principal candidate flow).filter
      (peerCurrent principal candidate flow clock.now) with
  | none => .ok (db, none)
  | some peer => do
    let stored ← storedRequest env identity candidate flow
    let _ ← requester db.backdrop principal subscriptionEnd clock.after
    if needsExpiration candidate (some flow) clock.after then
      expire db principal subscriptionEnd candidate clock.after clock.late clock.last
    else if clock.after < peer.expiresAt && candidate.createdAt ≤ clock.after &&
        flow.createdAt ≤ clock.after && timestampOf stored.2 ≤ clock.after + 300000 &&
        clock.after < timestampOf stored.2 + 600000 then
      .ok (db, some (incoming env principal flow stored.1 stored.2))
    else .ok (db, none)

/-- The transaction of `poll`. -/
def pollIn (env : Env) (clock : Readings) (db : Db) (principal : SessionPrincipal)
    (candidateId : Uuid) : Except HttpException (Db × Option MatrixVerificationIncomingRequest) := do
  let subscriptionEnd ← lockParticipant db.backdrop principal clock.eligibility
  let candidate ← orThrow ((db.candidates.find? candidateId).filter fun c =>
    c.userId == principal.id && c.sessionId == principal.sessionId) unavailable
  let _ ← orThrow (ownSession db.backdrop principal.id principal.sessionId) unauthorized
  let _ ← requester db.backdrop principal subscriptionEnd clock.first
  require (candidate.matrixUserId == matrixUserIdFromUuid principal.id env.serverName &&
    candidate.matrixDeviceId == matrixDeviceIdFromUuid candidateId) conflict
  let current ← requester db.backdrop principal subscriptionEnd clock.now
  require (candidate.sessionVersion == current.sessionVersion) conflict
  if needsExpiration candidate (db.flows.find? candidateId) clock.now then
    expire db principal subscriptionEnd candidate clock.now clock.update clock.after
  else
    match (db.flows.find? candidateId).filter fun f =>
        candidate.status = .pending && f.status = .pending with
    | none => .ok (db, none)
    | some flow => deliverFlow env clock db principal subscriptionEnd candidate flow current

/-- A requester asks for the request of its verification. -/
def poll (env : Env) (clock : Readings) (db : Db) (principal : SessionPrincipal)
    (candidateId : JsString) : Except HttpException (Db × Option MatrixVerificationIncomingRequest) :=
  do
  require (isParticipant principal) (.forbidden "El rol no puede recibir verificaciones de chat.")
  require (principal.deviceId == none)
    (.forbidden "Se necesita la sesión original del dispositivo pendiente.")
  let id ← orThrow (canonicalId? candidateId) (.badRequest "MATRIX_CANDIDATE_ID_INVALID")
  pollIn env clock db principal id

end MatrixDeviceVerificationInboxService

/-! ## The machine -/

open MatrixDeviceCandidatesService (MatrixDeviceCandidateStatus)
open MatrixDeviceCandidateReviewService (MatrixCandidateReviewSummary MatrixCandidateReviewDetail
  MatrixCandidateRejection)
open MatrixDeviceVerificationService (MatrixVerificationAdmission)
open MatrixDeviceVerificationInboxService (MatrixVerificationIncomingRequest)

/-- A request to one of the services. -/
inductive Request where
  | reserve (candidateId : JsString) (value : Json)
  | status (candidateId : JsString)
  | cancel (candidateId : JsString)
  | pending
  | detail (candidateId : JsString)
  | reject (candidateId : JsString)
  | openFlow (candidateId flowId transactionId : JsString) (body : Json)
  | poll (candidateId : JsString)

/-- What a service answers. -/
inductive Answer where
  | candidate (status : MatrixDeviceCandidateStatus)
  | pending (summary : Option MatrixCandidateReviewSummary)
  | detail (detail : MatrixCandidateReviewDetail)
  | rejection (rejection : MatrixCandidateRejection)
  | admission (admission : MatrixVerificationAdmission)
  | inbox (request : Option MatrixVerificationIncomingRequest)

/-- The answer of a kind. -/
def answering {α : Type} (kind : α → Answer) (outcome : Db × Except HttpException α) :
    Db × Except HttpException Answer :=
  (outcome.1, outcome.2.map kind)

/-- A request at its service, with what is committed of it. -/
def serve (env : Env) (clock : Readings) (db : Db) (principal : SessionPrincipal) :
    Request → Db × Except HttpException Answer
  | .reserve candidateId value => answering .candidate (commit db
      (MatrixDeviceCandidatesService.reserve env clock db principal candidateId value) .ok)
  | .status candidateId => answering .candidate (commit db
      (MatrixDeviceCandidatesService.status env clock db principal candidateId) .ok)
  | .cancel candidateId => answering .candidate (commit db
      (MatrixDeviceCandidatesService.cancel env clock db principal candidateId) .ok)
  | .pending => answering .pending
      (MatrixDeviceCandidateReviewService.pending env clock db principal)
  | .detail candidateId => answering .detail
      (MatrixDeviceCandidateReviewService.detail env clock db principal candidateId)
  | .reject candidateId => answering .rejection
      (MatrixDeviceCandidateReviewService.reject env clock db principal candidateId)
  | .openFlow candidateId flowId transactionId body => answering .admission
      (MatrixDeviceVerificationService.openFlow env clock db principal candidateId flowId
        transactionId body)
  | .poll candidateId => answering .inbox (commit db
      (MatrixDeviceVerificationInboxService.poll env clock db principal candidateId) .ok)

/-- A body is a parsed JSON text: no object of it has a key twice. -/
def Request.Parsed : Request → Prop
  | .reserve _ value => value.Distinct
  | .openFlow _ _ _ body => body.Distinct
  | _ => True

/-- What happens: the other services change the backdrop, or a request is served. -/
inductive Event where
  | backdrop
  | served (principal : SessionPrincipal) (clock : Readings) (request : Request)
      (answer : Except HttpException Answer)

/-- The identity of a user is stored once and stays. -/
def Backdrop.KeepsIdentities (backdrop backdrop' : Backdrop) : Prop :=
  ∀ userId identity, backdrop.identities.find? userId = some identity →
    backdrop'.identities.find? userId = some identity

/-- A step of the quarantine. -/
inductive Step (env : Env) : Db → Event → Db → Prop
  | backdrop {db : Db} {backdrop : Backdrop} : db.backdrop.KeepsIdentities backdrop →
      Step env db .backdrop { db with backdrop }
  | served {db db' : Db} {principal : SessionPrincipal} {clock : Readings} {request : Request}
      {answer : Except HttpException Answer} : request.Parsed →
      serve env clock db principal request = (db', answer) →
      Step env db (.served principal clock request answer) db'

/-- The quarantine, from tables without rows. -/
def quarantine (env : Env) : Machine Db Event where
  init db := db.candidates = Table.empty ∧ db.flows = Table.empty
  step := Step env

end Quarantine

end SinoChat
