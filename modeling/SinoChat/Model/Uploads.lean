import SinoChat.Model.Messages
import SinoChat.Model.Report

/-!
# Upload reservations

An upload is reserved before its URL is signed: `requestUpload` of the
messages for an image, `requestEvidenceUpload` of the moderation for the
evidence of a report, and `reportCashier`, which turns the second kind into
evidence. A send turns the first kind into an attachment. Which investigation
keys are active is left open.
-/

namespace SinoChat

open Js

namespace Messaging

/-- How long a grant is valid. -/
def grantLifetime : ℕ := 10 * 60 * 1000

/-- `toLowerCase`, of hexadecimal text. -/
def lowerCase (text : JsString) : JsString := text.map fun u => if isUpper u then u + 0x20 else u

/-! ## Images -/

/-- The bytes of an image at most. -/
def fiveMebibytes : ℕ := 5 * 1024 * 1024

/-- The media types an upload may declare. -/
def imageMimeTypes : List JsString := [js "image/jpeg", js "image/png", js "image/webp"]

/-- `/^[a-f0-9]{64}$/i`. -/
def isSha256 (text : JsString) : Bool :=
  fixed (times 64 fun u => isLowerHex u || isUpperHex u) text

/-- What the validation of an upload request lets pass. -/
def RequestUpload.valid (input : RequestUpload) : Bool :=
  input.declaredMimeType ∈ imageMimeTypes &&
    1 ≤ input.plaintextByteSize && input.plaintextByteSize ≤ fiveMebibytes &&
    1 ≤ input.ciphertextByteSize && input.ciphertextByteSize ≤ fiveMebibytes + 256 * 1024 &&
    isSha256 input.ciphertextSha256

/-- `UploadGrantService.create`. -/
def UploadGrant.create (userId conversationId : Uuid) (input : RequestUpload)
    (reservationId : Uuid) (now : ℕ) : UploadGrant :=
  { reservationId, userId, conversationId
    objectKey := js "ephemeral/messages/" ++ reservationId.text
    declaredMimeType := input.declaredMimeType, plaintextByteSize := input.plaintextByteSize
    ciphertextByteSize := input.ciphertextByteSize
    ciphertextSha256 := lowerCase input.ciphertextSha256, expiresAt := now + grantLifetime }

/-- The row of a reservation. -/
def PendingAttachmentUpload.ofGrant (grant : UploadGrant) : PendingAttachmentUpload :=
  { id := grant.reservationId, userId := grant.userId, conversationId := grant.conversationId
    objectKey := grant.objectKey, declaredMimeType := grant.declaredMimeType
    plaintextByteSize := grant.plaintextByteSize, ciphertextByteSize := grant.ciphertextByteSize
    ciphertextSha256 := grant.ciphertextSha256, grantExpiresAt := grant.expiresAt
    lastPurgeAttemptAt := none }

/-- `lockActiveConversation` without a device, and `requireActiveConversation`. -/
def requireActiveConversation (accounts : Accounts) (userId conversationId : Uuid) (now : ℕ) :
    Except HttpException (Uuid × Uuid) :=
  singleConversation (accounts.currentForParticipant userId conversationId now)

/-- The transaction of `requestUpload`. -/
def MessageTables.reserve (db : MessageTables) (accounts : Accounts) (grant : UploadGrant)
    (transactionNow : ℕ) : Except HttpException MessageTables := do
  let _ ← requireActiveConversation accounts grant.userId grant.conversationId transactionNow
  let pending := db.pendingAttachments.rows.filter fun reservation =>
    reservation.userId = grant.userId && transactionNow < reservation.grantExpiresAt &&
      reservation.lastPurgeAttemptAt = none
  require (pending.length < maxPendingAttachmentsPerUser)
    (.conflict "Ya alcanzaste el límite de fotos pendientes.")
  let pendingAttachments ← db.pendingAttachments.create (.ofGrant grant)
  return { db with pendingAttachments }

/-! ## Evidence -/

/-- A reservation for evidence that no report has used. -/
structure PendingReportEvidenceUpload where
  id : Uuid
  clientUserId : Uuid
  assignmentId : Uuid
  conversationId : Uuid
  investigationKeyId : Uuid
  objectKey : JsString
  ciphertextByteSize : ℕ
  ciphertextSha256 : JsString
  cipherSuite : JsString
  manifestVersion : ℕ
  grantExpiresAt : ℕ
  lastPurgeAttemptAt : Option ℕ
  deriving DecidableEq

/-- What a client declares of its evidence. -/
structure RequestEvidenceUpload where
  investigationKeyId : Uuid
  ciphertextByteSize : ℕ
  ciphertextSha256 : JsString
  cipherSuite : JsString
  manifestVersion : ℕ
  deriving DecidableEq

/-- What an evidence grant carries. -/
structure EvidenceUploadGrant where
  reservationId : Uuid
  clientUserId : Uuid
  assignmentId : Uuid
  conversationId : Uuid
  investigationKeyId : Uuid
  objectKey : JsString
  ciphertextByteSize : ℕ
  ciphertextSha256 : JsString
  cipherSuite : JsString
  manifestVersion : ℕ
  expiresAt : ℕ
  deriving DecidableEq

/-- The reservations and the evidence of the reports. -/
structure EvidenceTables where
  pendingEvidence : Table Uuid PendingReportEvidenceUpload PendingReportEvidenceUpload.id
  evidence : Table Uuid ReportEvidence ReportEvidence.reportId

/-- `EvidenceGrantService.create`. -/
def EvidenceUploadGrant.create (clientUserId assignmentId conversationId : Uuid)
    (input : RequestEvidenceUpload) (reservationId : Uuid) (now : ℕ) : EvidenceUploadGrant :=
  { reservationId, clientUserId, assignmentId, conversationId
    investigationKeyId := input.investigationKeyId
    objectKey := js "investigations/report-evidence/" ++ reservationId.text
    ciphertextByteSize := input.ciphertextByteSize
    ciphertextSha256 := lowerCase input.ciphertextSha256, cipherSuite := input.cipherSuite
    manifestVersion := input.manifestVersion, expiresAt := now + grantLifetime }

/-- The row of a reservation. -/
def PendingReportEvidenceUpload.ofGrant (grant : EvidenceUploadGrant) :
    PendingReportEvidenceUpload :=
  { id := grant.reservationId, clientUserId := grant.clientUserId
    assignmentId := grant.assignmentId, conversationId := grant.conversationId
    investigationKeyId := grant.investigationKeyId, objectKey := grant.objectKey
    ciphertextByteSize := grant.ciphertextByteSize, ciphertextSha256 := grant.ciphertextSha256
    cipherSuite := grant.cipherSuite, manifestVersion := grant.manifestVersion
    grantExpiresAt := grant.expiresAt, lastPurgeAttemptAt := none }

/-- The running assignment of a client and its conversation. -/
def currentAssignment (accounts : Accounts) (clientUserId : Uuid) : Option (Uuid × Uuid) :=
  accounts.assignments.rows.findSome? fun assignment =>
    if assignment.clientUserId = clientUserId ∧ assignment.endedAt = none ∧
        accounts.activeClient clientUserId then
      (accounts.conversations.rows.find? fun conversation =>
        conversation.assignmentId = assignment.id && conversation.status = .active).map
        fun conversation => (assignment.id, conversation.id)
    else none

namespace EvidenceTables

variable (db : EvidenceTables)

/-- `requestEvidenceUpload` up to its insertion: the grant it creates. -/
def grantEvidence (accounts : Accounts) (clientUserId : Uuid) (input : RequestEvidenceUpload)
    (reservationId : Uuid) (now : ℕ) : Except HttpException EvidenceUploadGrant := do
  require (input.manifestVersion = 1)
    (.badRequest "La versión del manifiesto de evidencia no es compatible.")
  let (assignmentId, conversationId) ← orThrow (currentAssignment accounts clientUserId)
    (.conflict "El cliente no tiene una conversación activa para reportar.")
  match db.pendingEvidence.rows.find? fun reservation =>
      reservation.clientUserId = clientUserId && reservation.assignmentId = assignmentId with
  | some reservation =>
    .error (.conflict
      (if now < reservation.grantExpiresAt && reservation.lastPurgeAttemptAt = none then
        "Ya existe una carga de evidencia pendiente para este reporte."
      else "La carga anterior se está conciliando; inténtalo nuevamente en unos minutos."))
  | none => return .create clientUserId assignmentId conversationId input reservationId now

/-- The insertion; one reservation for an assignment. -/
def reserve (grant : EvidenceUploadGrant) : Except HttpException EvidenceTables := do
  require (db.pendingEvidence.rows.all (·.assignmentId ≠ grant.assignmentId))
    (.conflict "Ya existe una carga de evidencia pendiente para este reporte.")
  let pendingEvidence ← db.pendingEvidence.create (.ofGrant grant)
  return { db with pendingEvidence }

/-- The reservation of a grant that a report may consume. -/
def usable (grant : EvidenceUploadGrant) (now : ℕ) (reservation : PendingReportEvidenceUpload) :
    Bool :=
  reservation.id = grant.reservationId && reservation.clientUserId = grant.clientUserId &&
    reservation.assignmentId = grant.assignmentId &&
    reservation.conversationId = grant.conversationId && reservation.objectKey = grant.objectKey &&
    now < reservation.grantExpiresAt && reservation.lastPurgeAttemptAt = none

/-- The reservation of a grant also has what the grant declares. -/
def declared (grant : EvidenceUploadGrant) (reservation : PendingReportEvidenceUpload) : Bool :=
  reservation.investigationKeyId = grant.investigationKeyId &&
    reservation.ciphertextByteSize = grant.ciphertextByteSize &&
    reservation.ciphertextSha256 = grant.ciphertextSha256 &&
    reservation.cipherSuite = grant.cipherSuite &&
    reservation.manifestVersion = grant.manifestVersion

/-- `reportCashier` before the storage is asked. -/
def checkReport (clientUserId : Uuid) (grant : EvidenceUploadGrant) (now : ℕ) :
    Except HttpException Unit := do
  require (now < grant.expiresAt)
    (.unauthorized "El permiso para subir la evidencia venció o es inválido.")
  require (grant.clientUserId = clientUserId)
    (.badRequest "El permiso de evidencia no pertenece a este cliente.")
  require (grant.manifestVersion = 1)
    (.badRequest "La versión del manifiesto de evidencia no es compatible.")
  require (db.pendingEvidence.rows.any fun reservation =>
      usable grant now reservation && declared grant reservation)
    (.conflict "El permiso de evidencia ya fue utilizado o venció.")

/-- What the transaction of `reportCashier` does to the reservation and the evidence. -/
def fileReport (accounts : Accounts) (grant : EvidenceUploadGrant) (reportId : Uuid)
    (transactionNow : ℕ) : Except HttpException EvidenceTables := do
  require (db.pendingEvidence.rows.any (usable grant transactionNow))
    (.conflict "El permiso de evidencia ya fue utilizado o venció.")
  require (currentAssignment accounts grant.clientUserId =
      some (grant.assignmentId, grant.conversationId))
    (.conflict "La asignación cambió antes de completar el reporte.")
  require (db.evidence.rows.all (·.objectKey ≠ grant.objectKey))
    (.internal "Unique constraint failed.")
  let evidence ← db.evidence.create ⟨reportId, grant.objectKey, grant.expiresAt⟩
  return { pendingEvidence := db.pendingEvidence.remove grant.reservationId, evidence }

end EvidenceTables

end Messaging

end SinoChat
