import SinoChat.Model.CrossSigningService
import SinoChat.Model.DeviceCandidate
import SinoChat.Model.Rows
import SinoChat.Model.SasToDevice

/-!
# Devices in quarantine

The tables `matrix_device_candidates` and `matrix_device_verification_flows`, with the
triggers and constraints of their migrations: a candidate is a second device of a user
that waits, a flow is the admission of one request to verify it. A row begins `PENDING`
and is resolved once; the resolution of a candidate resolves its flow.

The rows of the other services are the backdrop of the two tables. Times are milliseconds
of the clock of the database, which may run backwards.
-/

namespace SinoChat

open Js

namespace Quarantine

open CrossSigning (MatrixCrossSigningIdentity MatrixDeviceCrossSigning SignatureScheme)
open MessagePayload (matrixDeviceIdFromUuid uuidV4Pattern)

/-! ## Rows -/

/-- `MatrixDeviceCandidateStatus` and `MatrixDeviceVerificationFlowStatus`. -/
inductive Status where
  | pending | cancelled | expired
  deriving DecidableEq

/-- A row of the candidates: a device that asks to be let in. -/
structure MatrixDeviceCandidate where
  id : Uuid
  userId : Uuid
  sessionId : Uuid
  sessionVersion : ℕ
  matrixUserId : JsString
  matrixDeviceId : JsString
  trustedDeviceId : Uuid
  identityBootstrapSha256 : JsString
  deviceKeys : Json
  canonicalSha256 : JsString
  ed25519Key : JsString
  curve25519Key : JsString
  status : Status
  createdAt : ℕ
  expiresAt : ℕ
  resolvedAt : Option ℕ

/-- A row of the verification flows, one for a candidate at most. -/
structure MatrixDeviceVerificationFlow where
  candidateId : Uuid
  userId : Uuid
  flowId : JsString
  reviewerSessionId : Uuid
  reviewerSessionVersion : ℕ
  requestTransactionId : JsString
  requestContent : Json
  requestSha256 : JsString
  status : Status
  createdAt : ℕ
  expiresAt : ℕ
  resolvedAt : Option ℕ

/-- The tables of the other services. `ed25519Key`, `protocolVersion` and
`sessionCreatedAt` are columns of the published keys, of the devices and of the sessions;
`registrations` are the ids of `matrix_device_registrations`. -/
structure Backdrop where
  accounts : Accounts
  ed25519Key : Uuid → Option JsString
  protocolVersion : Uuid → JsString
  sessionCreatedAt : Uuid → ℕ
  identities : Table Uuid MatrixCrossSigningIdentity MatrixCrossSigningIdentity.userId
  certificates : Table Uuid MatrixDeviceCrossSigning MatrixDeviceCrossSigning.deviceId
  registrations : List Uuid

/-- The tables of the quarantine, over those it reads. -/
structure Db where
  backdrop : Backdrop
  candidates : Table Uuid MatrixDeviceCandidate MatrixDeviceCandidate.id
  flows : Table Uuid MatrixDeviceVerificationFlow MatrixDeviceVerificationFlow.candidateId

/-- The libraries and the configuration. A `JSONB` column gives a value back up to the
order of its keys. -/
structure Env where
  serverName : JsString
  scheme : SignatureScheme
  sha256Hex : List UInt8 → JsString
  crypto : Crypto
  jsonb : Json → Json
  jsonb_same : ∀ value, value.Distinct → Same value (jsonb value)

/-! ## The clock -/

/-- The readings that the triggers of one update take: that of the candidate, that of the
cascade behind its lock, and that of the flow. -/
structure TriggerReadings where
  candidate : ℕ
  cascade : ℕ
  flow : ℕ

/-- The readings of one transaction, in the order of its statements: those of the
eligibility query and of the first check of the session, that of the operation with those
of its update and of its insertion, that of the check behind it with those of a late
update, and the last. -/
structure Readings where
  eligibility : ℕ
  first : ℕ
  now : ℕ
  update : TriggerReadings
  insertion : ℕ
  after : ℕ
  late : TriggerReadings
  last : ℕ

/-! ## Updates -/

/-- The window of a row lasts at most ten minutes: `window_check`, of a pending row. -/
def windowCheck (createdAt expiresAt : ℕ) : Bool :=
  createdAt < expiresAt && expiresAt ≤ createdAt + 600000

/-- The rest of `window_check`, of a resolved row. -/
def resolutionCheck (createdAt expiresAt : ℕ) (status : Status) (resolvedAt : ℕ) : Bool :=
  createdAt ≤ resolvedAt && (status != .expired || expiresAt ≤ resolvedAt)

/-- How a flow ends when its candidate does. -/
def cascadeStatus (flow : MatrixDeviceVerificationFlow) (checkedAt : ℕ) : Status :=
  if flow.expiresAt ≤ checkedAt then .expired else .cancelled

/-- The flow with its end. -/
def MatrixDeviceVerificationFlow.resolve (status : Status) (resolvedAt : ℕ)
    (flow : MatrixDeviceVerificationFlow) : MatrixDeviceVerificationFlow :=
  { flow with status, resolvedAt := some resolvedAt }

/-- The candidate with its end. -/
def MatrixDeviceCandidate.resolve (status : Status) (resolvedAt : ℕ)
    (candidate : MatrixDeviceCandidate) : MatrixDeviceCandidate :=
  { candidate with status, resolvedAt := some resolvedAt }

theorem MatrixDeviceVerificationFlow.candidateId_resolve (status : Status) (resolvedAt : ℕ)
    (flow : MatrixDeviceVerificationFlow) :
    (flow.resolve status resolvedAt).candidateId = flow.candidateId := rfl

theorem MatrixDeviceCandidate.id_resolve (status : Status) (resolvedAt : ℕ)
    (candidate : MatrixDeviceCandidate) : (candidate.resolve status resolvedAt).id = candidate.id :=
  rfl

/-- `sinochat_invalidate_matrix_candidate_verification_flow`, with the trigger of the flow:
the pending flow of a candidate that was resolved. -/
def cascade (flows : Table Uuid MatrixDeviceVerificationFlow MatrixDeviceVerificationFlow.candidateId)
    (candidate : MatrixDeviceCandidate) (clock : TriggerReadings) : Except HttpException
      (Table Uuid MatrixDeviceVerificationFlow MatrixDeviceVerificationFlow.candidateId) :=
  match flows.find? candidate.id with
  | none => .ok flows
  | some flow =>
    if flow.userId = candidate.userId ∧ flow.status = .pending then do
      require (flow.resolvedAt == none && clock.cascade ≤ clock.flow &&
        resolutionCheck flow.createdAt flow.expiresAt (cascadeStatus flow clock.cascade)
          clock.cascade)
        (.internal "verification flow snapshot and terminal states are immutable")
      .ok (flows.update candidate.id
        (MatrixDeviceVerificationFlow.resolve (cascadeStatus flow clock.cascade) clock.cascade)
        (MatrixDeviceVerificationFlow.candidateId_resolve _ _))
    else .ok flows

/-- `matrixDeviceCandidate.update` of the status, with the triggers. -/
def Db.resolve (db : Db) (id : Uuid) (status : Status) (resolvedAt : ℕ) (clock : TriggerReadings) :
    Except HttpException Db := do
  let candidate ← orThrow (db.candidates.find? id)
    (.internal "No record was found for an update.")
  require (candidate.status == .pending && candidate.resolvedAt == none && status != .pending &&
    resolvedAt ≤ clock.candidate &&
    resolutionCheck candidate.createdAt candidate.expiresAt status resolvedAt)
    (.internal "candidate public identity is immutable and terminal states cannot be reopened")
  let flows ← cascade db.flows candidate clock
  .ok { db with
    candidates := db.candidates.update id (MatrixDeviceCandidate.resolve status resolvedAt)
      (MatrixDeviceCandidate.id_resolve _ _)
    flows }

/-! ## Insertions -/

/-- The role, the account and, of a cashier, the subscription of the owner, as the triggers
of both tables check them for a row that expires then. -/
def ownerEligible (backdrop : Backdrop) (userId : Uuid) (sessionVersion checkedAt expiresAt : ℕ) :
    Bool :=
  (backdrop.accounts.users.find? userId).any fun owner =>
    owner.status == .active && !owner.passwordResetRequired &&
      owner.sessionVersion == sessionVersion &&
      match owner.role with
      | .client => true
      | .admin => false
      | .cashier =>
        (backdrop.accounts.cashierProfiles.find? userId).any (fun profile =>
          profile.approvalStatus == .approved && profile.emailVerifiedAt.isSome &&
            profile.phoneVerifiedAt.isSome) &&
        (backdrop.accounts.subscriptions.rows.find? fun subscription =>
          subscription.cashierUserId = userId && subscription.status == .active).any
            fun subscription =>
              subscription.startsAt ≤ checkedAt && subscription.endsAt.all fun endsAt =>
                checkedAt < endsAt && expiresAt ≤ endsAt

/-- The device is active and certified, and has published keys of the user. -/
def certifiedDevice (backdrop : Backdrop) (userId deviceId : Uuid) (matrixUserId : JsString) :
    Bool :=
  (backdrop.accounts.devices.find? deviceId).any (fun device =>
    device.userId == userId && device.status == .active) &&
  backdrop.protocolVersion deviceId == js "matrix-olm-v1" &&
  (backdrop.accounts.deviceKeys.find? deviceId).any (fun keys =>
    keys.userId == userId && keys.matrixUserId == matrixUserId) &&
  (backdrop.certificates.find? deviceId).any fun certificate => certificate.userId == userId

/-- A key of an operational device is among the keys. -/
def Backdrop.keyInUse (backdrop : Backdrop) (keys : List JsString) : Bool :=
  backdrop.accounts.deviceKeys.rows.any fun device =>
    keys.contains device.curve25519Key || (backdrop.ed25519Key device.deviceId).any keys.contains

/-- The identity does not sign with one of the keys. -/
def signsWith (identity : MatrixCrossSigningIdentity) (keys : List JsString) : Bool :=
  [identity.masterKey, identity.selfSigningKey, identity.userSigningKey].any keys.contains

/-- `sinochat_validate_matrix_device_candidate`, of an insertion. -/
def candidateTrigger (backdrop : Backdrop) (row : MatrixDeviceCandidate) (checkedAt : ℕ) : Bool :=
  row.status == .pending && row.resolvedAt == none &&
  ownerEligible backdrop row.userId row.sessionVersion checkedAt row.expiresAt &&
  (backdrop.accounts.sessions.find? row.sessionId).any (fun session =>
    session.userId == row.userId && session.deviceId == none && session.revokedAt == none &&
      session.sessionVersion == row.sessionVersion && row.expiresAt ≤ session.expiresAt &&
      checkedAt < session.expiresAt) &&
  (backdrop.identities.find? row.userId).any (fun identity =>
    identity.matrixUserId == row.matrixUserId &&
      identity.bootstrapDeviceId == row.trustedDeviceId &&
      identity.bootstrapSha256 == row.identityBootstrapSha256 &&
      !signsWith identity [row.ed25519Key, row.curve25519Key] &&
      identity.createdAt ≤ row.createdAt) &&
  certifiedDevice backdrop row.userId row.trustedDeviceId row.matrixUserId &&
  (backdrop.accounts.devices.find? row.id).isNone && !backdrop.registrations.contains row.id &&
  !backdrop.keyInUse [row.ed25519Key, row.curve25519Key] &&
  row.createdAt ≤ checkedAt && backdrop.sessionCreatedAt row.sessionId ≤ row.createdAt &&
  checkedAt < row.expiresAt

/-- `matrixDeviceCandidate.create`, with the trigger, the constraints that no check of the
service implies, and the unique indexes. -/
def Db.createCandidate (db : Db) (row : MatrixDeviceCandidate) (checkedAt : ℕ)
    (uniqueViolation : HttpException) : Except HttpException Db := do
  require (candidateTrigger db.backdrop row checkedAt)
    (.internal "candidate reservation must fit its current session and subscription validity window")
  require (windowCheck row.createdAt row.expiresAt && row.id != row.trustedDeviceId &&
    0 < row.sessionVersion) (.internal "violates check constraint")
  require (db.candidates.rows.all fun c => c.userId != row.userId || c.status != .pending)
    uniqueViolation
  let candidates ← orThrow (db.candidates.create row).toOption uniqueViolation
  .ok { db with candidates }

/-- The time a request was made. -/
def timestampOf (content : Json) : ℕ :=
  match content.record?.bind (Json.get? (js "timestamp")) with
  | some (.num (.integer n)) => n.toNat
  | _ => 0

/-- `sinochat_validate_matrix_verification_flow`, of an insertion for a candidate. -/
def flowTrigger (backdrop : Backdrop) (candidate : MatrixDeviceCandidate)
    (row : MatrixDeviceVerificationFlow) (checkedAt : ℕ) : Bool :=
  row.status == .pending && row.resolvedAt == none && candidate.userId == row.userId &&
  ownerEligible backdrop row.userId row.reviewerSessionVersion checkedAt row.expiresAt &&
  (backdrop.accounts.sessions.find? row.reviewerSessionId).any (fun session =>
    session.userId == row.userId && session.deviceId == some candidate.trustedDeviceId &&
      session.revokedAt == none && session.sessionVersion == row.reviewerSessionVersion &&
      row.expiresAt ≤ session.expiresAt && checkedAt < session.expiresAt) &&
  certifiedDevice backdrop row.userId candidate.trustedDeviceId candidate.matrixUserId &&
  candidate.status == .pending && candidate.sessionId != row.reviewerSessionId &&
  candidate.sessionVersion == row.reviewerSessionVersion &&
  (backdrop.accounts.sessions.find? candidate.sessionId).any (fun session =>
    session.userId == row.userId && session.deviceId == none && session.revokedAt == none &&
      session.sessionVersion == candidate.sessionVersion && row.expiresAt ≤ session.expiresAt &&
      checkedAt < session.expiresAt) &&
  (backdrop.identities.find? row.userId).any (fun identity =>
    identity.matrixUserId == candidate.matrixUserId &&
      identity.bootstrapDeviceId == candidate.trustedDeviceId &&
      identity.bootstrapSha256 == candidate.identityBootstrapSha256) &&
  row.createdAt ≤ checkedAt && candidate.createdAt ≤ row.createdAt &&
  backdrop.sessionCreatedAt row.reviewerSessionId ≤ row.createdAt && checkedAt < row.expiresAt &&
  row.expiresAt ≤ candidate.expiresAt && checkedAt < candidate.expiresAt &&
  checkedAt ≤ timestampOf row.requestContent + 600000 &&
  timestampOf row.requestContent ≤ checkedAt + 300000 &&
  row.expiresAt ≤ timestampOf row.requestContent + 600000

/-- `matrixDeviceVerificationFlow.create`, with the trigger, the constraint of the window
and the unique indexes. -/
def Db.createFlow (db : Db) (row : MatrixDeviceVerificationFlow) (checkedAt : ℕ)
    (uniqueViolation : HttpException) : Except HttpException Db := do
  let candidate ← orThrow (db.candidates.find? row.candidateId)
    (.internal "verification candidate must belong to the same user")
  require (flowTrigger db.backdrop candidate row checkedAt)
    (.internal "verification request and both participant sessions must fit the current candidate validity window")
  require (windowCheck row.createdAt row.expiresAt && 0 < row.reviewerSessionVersion)
    (.internal "violates check constraint")
  require (db.flows.rows.all fun f => f.userId != row.userId ||
    f.flowId != row.flowId && f.requestTransactionId != row.requestTransactionId) uniqueViolation
  let flows ← orThrow (db.flows.create row).toOption uniqueViolation
  .ok { db with flows }

/-! ## Sessions -/

/-- The id that a canonical text of a UUID of version 4 is. -/
def canonicalId? (text : JsString) : Option Uuid :=
  if fixed uuidV4Pattern text then Uuid.ofText? text else none

/-- The id is one of version 4. -/
def canonicalId (id : Uuid) : Bool := fixed uuidV4Pattern id.text

/-- What `currentSession`, `currentReviewer`, `reviewer` and `requester` of the services
check of the session, with the message of each: it is of the principal and its device,
neither revoked nor expired nor outdated, its account is in force and so is the
subscription. -/
def currentSession (backdrop : Backdrop) (principal : SessionPrincipal)
    (subscriptionEndsAt : Option ℕ) (error : HttpException) (now : ℕ) :
    Except HttpException AuthSession := do
  let session ← orThrow (backdrop.accounts.sessions.find? principal.sessionId) error
  let user ← orThrow (backdrop.accounts.users.find? session.userId) error
  require (session.userId == principal.id && session.deviceId == principal.deviceId &&
    session.revokedAt == none && now < session.expiresAt &&
    session.sessionVersion == user.sessionVersion && user.role == principal.role &&
    user.status == .active && !user.passwordResetRequired &&
    subscriptionEndsAt.all fun endsAt => now < endsAt) error
  .ok session

/-- The query that locks the session of a trusted device with the device. -/
def trustedSession (backdrop : Backdrop) (userId sessionId deviceId : Uuid)
    (matrixUserId : JsString) : Bool :=
  (backdrop.accounts.sessions.find? sessionId).any (fun session =>
    session.userId == userId && session.deviceId == some deviceId) &&
  certifiedDevice backdrop userId deviceId matrixUserId &&
  (backdrop.accounts.deviceKeys.find? deviceId).any fun keys =>
    keys.matrixDeviceId == matrixDeviceIdFromUuid deviceId

/-- The session locked for a request of the user: `FOR SHARE OF r`. -/
def ownSession (backdrop : Backdrop) (userId sessionId : Uuid) : Option AuthSession :=
  (backdrop.accounts.sessions.find? sessionId).filter fun session => session.userId == userId

/-- The lock of the account and, of a cashier, of the subscription. -/
def lockParticipant (backdrop : Backdrop) (principal : SessionPrincipal) (eligibility : ℕ) :
    Except HttpException (Option ℕ) := do
  require (backdrop.accounts.operational principal.id)
    (.forbidden "La cuenta no está disponible para esta acción.")
  CrossSigning.lockSubscription backdrop.accounts principal eligibility

/-- The roles that chat. -/
def isParticipant (principal : SessionPrincipal) : Bool :=
  principal.role == .client || principal.role == .cashier

/-- A stored candidate is read again: its keys parse, to what the row says of them. -/
def publicSnapshot (env : Env) (row : MatrixDeviceCandidate) (error : HttpException) :
    Except HttpException KeyUpload.MatrixDeviceCandidate := do
  let parsed ← orThrow (KeyUpload.parseMatrixDeviceCandidate env.scheme env.sha256Hex
    (.obj [(js "device_keys", row.deviceKeys)]) row.matrixUserId row.matrixDeviceId).toOption error
  require (parsed.canonicalSha256 == row.canonicalSha256 &&
    parsed.ed25519Key == row.ed25519Key && parsed.curve25519Key == row.curve25519Key) error
  .ok parsed

end Quarantine

end SinoChat
