import SinoChat.Model.Account
import SinoChat.Model.Http
import SinoChat.Model.Storage

/-!
# Reports and their closure

A report is reviewed by one administrator and closed in two halves. `close`
only records the intent, as a job with the key of the evidence; a worker
leases the job, deletes the object and then finalizes the report in a second
transaction, which takes the job away again.

The functions here are the transactions and single statements of the two
services, over the tables they read and write.
-/

namespace SinoChat

open Js

/-! ## Rows -/

/-- `OPEN`, `IN_REVIEW`, `CLOSING`, `CLOSED`. -/
inductive ReportStatus where
  | opened | inReview | closing | closed
  deriving DecidableEq

/-- What an administrator decides on a report. -/
inductive ReportOutcome where
  | noAction | warning | cashierSuspended | cashierDeleted | other
  deriving DecidableEq

/-- The name of an outcome. -/
def ReportOutcome.text : ReportOutcome → String
  | noAction => "NO_ACTION"
  | warning => "WARNING"
  | cashierSuspended => "CASHIER_SUSPENDED"
  | cashierDeleted => "CASHIER_DELETED"
  | other => "OTHER"

/-- A report, with the cashier of its block. -/
structure Report where
  id : Uuid
  blockCashierUserId : Uuid
  status : ReportStatus
  reviewedByAdminUserId : Option Uuid
  reviewStartedAt : Option ℕ
  outcome : Option ReportOutcome
  resolutionSummary : Option JsString
  closeRequestedAt : Option ℕ
  closedAt : Option ℕ
  evidencePurgedAt : Option ℕ
  subjectNotifiedAt : Option ℕ
  deriving DecidableEq

/-- The encrypted evidence of a report. -/
structure ReportEvidence where
  reportId : Uuid
  objectKey : JsString
  uploadAuthorizedUntil : ℕ
  deriving DecidableEq

/-- A row of the closure jobs, with its lease. -/
structure ReportClosureJob where
  reportId : Uuid
  requestedByAdminUserId : Uuid
  evidenceObjectKey : JsString
  purgeNotBefore : ℕ
  attempts : ℕ
  nextAttemptAt : ℕ
  leaseToken : Option Uuid
  leasedUntil : Option ℕ
  lastAttemptAt : Option ℕ
  lastErrorCode : Option String
  deriving DecidableEq

/-- What the audit records of a report. -/
inductive AdminAuditAction where
  | reportReviewStarted | reportEvidenceAccessed | reportClosed
  deriving DecidableEq

/-- An entry of the audit about a report. -/
structure AdminAuditEvent where
  actorAdminId : Uuid
  action : AdminAuditAction
  targetId : Uuid
  targetUserId : Uuid
  reasonCode : JsString
  stateBefore : ReportStatus
  stateAfter : ReportStatus
  deriving DecidableEq

/-- What a client or a cashier is told of a report. -/
inductive NotificationType where
  | reportResolved | reportWarning
  deriving DecidableEq

/-- A row of the notifications. -/
structure InAppNotification where
  userId : Uuid
  type : NotificationType
  relatedEntityId : Uuid
  deriving DecidableEq

/-- What the two services read and write. The evidence of a report is unique. -/
structure ReportTables where
  accountStatus : Uuid → AccountStatus
  reports : Table Uuid Report Report.id
  evidence : Table Uuid ReportEvidence ReportEvidence.reportId
  closureJobs : Table Uuid ReportClosureJob ReportClosureJob.reportId
  auditEvents : List AdminAuditEvent
  notifications : List InAppNotification

/-- The answer of `close` and of the worker. -/
structure ReportClosureState where
  id : Uuid
  status : ReportStatus
  outcome : Option ReportOutcome
  resolutionSummary : Option JsString
  reviewStartedAt : Option ℕ
  closeRequestedAt : Option ℕ
  closedAt : Option ℕ
  evidencePurgedAt : Option ℕ
  subjectNotifiedAt : Option ℕ

/-- The answer of `beginReview`. -/
structure ReportReviewState where
  id : Uuid
  status : ReportStatus
  reviewedByAdminUserId : Option Uuid
  reviewStartedAt : Option ℕ

/-- The body of a closure. -/
structure CloseReport where
  outcome : ReportOutcome
  resolutionSummary : JsString

/-- What a report shows of its closure. -/
def closureState (report : Report) : ReportClosureState :=
  { id := report.id, status := report.status, outcome := report.outcome
    resolutionSummary := report.resolutionSummary, reviewStartedAt := report.reviewStartedAt
    closeRequestedAt := report.closeRequestedAt, closedAt := report.closedAt
    evidencePurgedAt := report.evidencePurgedAt, subjectNotifiedAt := report.subjectNotifiedAt }

/-- What a report shows of its review. -/
def reviewState (report : Report) : ReportReviewState :=
  { id := report.id, status := report.status
    reviewedByAdminUserId := report.reviewedByAdminUserId
    reviewStartedAt := report.reviewStartedAt }

namespace ReportTables

variable (db : ReportTables)

/-- `report.update({ where: { id } })`. -/
def updateReport (reportId : Uuid) (f : Report → Report) (hf : ∀ r, (f r).id = r.id) :
    ReportTables :=
  { db with
    reports := db.reports.modify (fun r => if r.id = reportId then f r else r)
      (by intro r; split <;> simp [hf]) }

/-- `reportClosureJob.updateMany` on the job of a report that meets a condition. -/
def updateJob (reportId : Uuid) (condition : ReportClosureJob → Bool)
    (f : ReportClosureJob → ReportClosureJob) (hf : ∀ j, (f j).reportId = j.reportId) :
    ReportTables :=
  { db with
    closureJobs := db.closureJobs.modify
      (fun j => if j.reportId = reportId ∧ condition j = true then f j else j)
      (by intro j; split <;> simp [hf]) }

/-! ## AdminReportsService -/

/-- Take a report under review. -/
def beginReview (adminUserId reportId : Uuid) (now : ℕ) :
    Except HttpException (ReportTables × ReportReviewState) := do
  let report ← orThrow (db.reports.find? reportId)
    (.withMessage 404 "El reporte no existe.")
  if report.status = .inReview ∧ report.reviewedByAdminUserId = some adminUserId then
    return (db, reviewState report)
  require (report.status = .opened)
    (.conflict "El reporte ya está asignado o inició su cierre.")
  let update := fun r : Report =>
    { r with status := .inReview, reviewedByAdminUserId := some adminUserId
             reviewStartedAt := some now }
  return ({ db.updateReport reportId update fun _ => rfl with
      auditEvents := db.auditEvents ++
        [{ actorAdminId := adminUserId, action := .reportReviewStarted, targetId := reportId
           targetUserId := report.blockCashierUserId, reasonCode := js "REPORT_REVIEW_STARTED"
           stateBefore := .opened, stateAfter := .inReview }] },
    reviewState (update report))

/-- Hand out the evidence, given whether the administrator's password is right. -/
def evidenceDownload (adminUserId reportId : Uuid) (reason : JsString) (passwordValid : Bool) :
    Except HttpException (ReportTables × ReportEvidence) := do
  require passwordValid (.unauthorized "La contraseña actual no es válida.")
  let report ← orThrow (db.reports.find? reportId)
    (.withMessage 404 "El reporte no existe.")
  require (report.status = .inReview ∧ report.reviewedByAdminUserId = some adminUserId)
    (.forbidden "Solo el administrador asignado puede abrir la evidencia durante la revisión.")
  let evidence ← orThrow (db.evidence.find? reportId)
    (.conflict "La evidencia cifrada ya no está disponible.")
  return ({ db with
      auditEvents := db.auditEvents ++
        [{ actorAdminId := adminUserId, action := .reportEvidenceAccessed, targetId := reportId
           targetUserId := report.blockCashierUserId, reasonCode := trim reason
           stateBefore := .inReview, stateAfter := .inReview }] },
    evidence)

/-- A closure that is asked for again is the one under way. -/
def assertSameClosure (report : Report) (outcome : ReportOutcome) (resolutionSummary : JsString) :
    Except HttpException Unit :=
  require (report.outcome = some outcome ∧ report.resolutionSummary = some resolutionSummary)
    (.conflict "El cierre ya fue solicitado con otro resultado o resumen.")

/-- An outcome that punishes the cashier needs it done. -/
def assertOutcomeMatchesCashierState (outcome : ReportOutcome) (cashierStatus : AccountStatus) :
    Except HttpException Unit := do
  require (¬ (outcome = .cashierSuspended ∧ cashierStatus ≠ .suspended))
    (.conflict "Suspende al cajero antes de cerrar el reporte con ese resultado.")
  require (¬ (outcome = .cashierDeleted ∧ cashierStatus ≠ .deleted))
    (.conflict "Elimina al cajero antes de cerrar el reporte con ese resultado.")

/-- The first request to close a report under review. -/
def requestClosure (adminUserId : Uuid) (report : Report) (outcome : ReportOutcome)
    (resolutionSummary : JsString) (now : ℕ) :
    Except HttpException (ReportTables × ReportClosureState) := do
  let evidence ← orThrow (db.evidence.find? report.id)
    (.conflict "El reporte no conserva evidencia para eliminar.")
  require (db.auditEvents.any fun event =>
      event.actorAdminId == adminUserId && event.action == .reportEvidenceAccessed &&
        event.targetId == report.id)
    (.conflict "Revisa la evidencia cifrada antes de cerrar la investigación.")
  assertOutcomeMatchesCashierState outcome (db.accountStatus report.blockCashierUserId)
  let update := fun r : Report =>
    { r with status := .closing, outcome := some outcome
             resolutionSummary := some resolutionSummary, closeRequestedAt := some now }
  let job : ReportClosureJob :=
    { reportId := report.id, requestedByAdminUserId := adminUserId
      evidenceObjectKey := evidence.objectKey, purgeNotBefore := evidence.uploadAuthorizedUntil
      attempts := 0, nextAttemptAt := max evidence.uploadAuthorizedUntil now
      leaseToken := none, leasedUntil := none, lastAttemptAt := none, lastErrorCode := none }
  let updated := db.updateReport report.id update fun _ => rfl
  -- the primary key of the jobs
  if hnew : updated.closureJobs.find? job.reportId = none then
    return ({ updated with closureJobs := updated.closureJobs.insert job hnew },
      closureState (update report))
  else throw (.internal "Unique constraint failed on the fields: (`report_id`)")

/-- The transaction of `close`. -/
def close (adminUserId reportId : Uuid) (input : CloseReport) (now : ℕ) :
    Except HttpException (ReportTables × ReportClosureState) := do
  let resolutionSummary := trim input.resolutionSummary
  let report ← orThrow (db.reports.find? reportId)
    (.withMessage 404 "El reporte no existe.")
  require (report.status ≠ .opened)
    (.conflict "El reporte debe estar en revisión antes de cerrarse.")
  require (report.reviewedByAdminUserId = some adminUserId)
    (.forbidden "Solo el administrador asignado puede cerrar el reporte.")
  match report.status with
  | .closed =>
    assertSameClosure report input.outcome resolutionSummary
    return (db, closureState report)
  | .closing =>
    assertSameClosure report input.outcome resolutionSummary
    require (db.closureJobs.find? reportId).isSome
      (.conflict "El cierre persistente no está disponible; requiere intervención operativa.")
    return (db, closureState report)
  | _ => db.requestClosure adminUserId report input.outcome resolutionSummary now

/-! ## ReportClosureWorker -/

/-- How long a worker holds a lease. -/
def leaseMilliseconds : ℕ := 120 * 1000

/-- The first delay behind a failure. -/
def initialRetryMilliseconds : ℕ := 5 * 1000

/-- The longest delay behind a failure. -/
def maxRetryMilliseconds : ℕ := 5 * 60 * 1000

/-- The job may be claimed: it is due and no lease of it is running. -/
def claimable (attemptStartedAt : ℕ) (job : ReportClosureJob) : Bool :=
  job.nextAttemptAt ≤ attemptStartedAt && job.purgeNotBefore ≤ attemptStartedAt &&
    match job.leasedUntil with
    | none => true
    | some leasedUntil => leasedUntil ≤ attemptStartedAt

/-- Lease the job of a report. -/
def claimJob (reportId leaseToken : Uuid) (attemptStartedAt : ℕ) : ReportTables :=
  db.updateJob reportId (claimable attemptStartedAt)
    (fun job =>
      { job with leaseToken := some leaseToken
                 leasedUntil := some (attemptStartedAt + leaseMilliseconds)
                 lastAttemptAt := some attemptStartedAt, lastErrorCode := none
                 attempts := job.attempts + 1 })
    fun _ => rfl

/-- How many jobs the claim updates is one. -/
def claims (reportId : Uuid) (attemptStartedAt : ℕ) : Bool :=
  (db.closureJobs.find? reportId).any (claimable attemptStartedAt)

/-- The job a worker holds the lease of. -/
def leasedJob (reportId leaseToken : Uuid) : Option ReportClosureJob :=
  (db.closureJobs.find? reportId).filter fun job => job.leaseToken = some leaseToken

/-- The writes of `finalize`. -/
def finalized (job : ReportClosureJob) (report : Report) (outcome : ReportOutcome) (now : ℕ) :
    ReportTables :=
  let updated := { db with evidence := db.evidence.remove report.id }.updateReport report.id
    (fun r => { r with status := .closed, closedAt := some now, evidencePurgedAt := some now
                       subjectNotifiedAt := some now }) fun _ => rfl
  { updated with
    notifications := db.notifications ++
      [{ userId := report.blockCashierUserId
         type := if outcome = .warning then .reportWarning else .reportResolved
         relatedEntityId := report.id }]
    auditEvents := db.auditEvents ++
      [{ actorAdminId := job.requestedByAdminUserId, action := .reportClosed
         targetId := report.id, targetUserId := report.blockCashierUserId
         reasonCode := js ("REPORT_CLOSED_" ++ outcome.text)
         stateBefore := .closing, stateAfter := .closed }]
    closureJobs := db.closureJobs.remove report.id }

/-- Close the report of a leased job whose object is gone. Without the lease
nothing happens. -/
def finalize (reportId : Uuid) (evidenceObjectKey : JsString) (leaseToken : Uuid) (now : ℕ) :
    Except HttpException ReportTables :=
  match db.leasedJob reportId leaseToken with
  | none => .ok db
  | some job => do
    require (job.evidenceObjectKey = evidenceObjectKey)
      (.internal "REPORT_CLOSURE_OBJECT_MISMATCH")
    require (job.purgeNotBefore ≤ now) (.internal "REPORT_CLOSURE_UPLOAD_STILL_AUTHORIZED")
    let report ← orThrow (db.reports.find? reportId)
      (.internal "REPORT_CLOSURE_STATE_MISMATCH")
    require (report.status = .closing ∧
        report.reviewedByAdminUserId = some job.requestedByAdminUserId)
      (.internal "REPORT_CLOSURE_STATE_MISMATCH")
    let outcome ← orThrow report.outcome (.internal "REPORT_CLOSURE_STATE_MISMATCH")
    -- the empty text is falsy
    require (report.resolutionSummary.any fun summary => summary ≠ [])
      (.internal "REPORT_CLOSURE_STATE_MISMATCH")
    require ((db.evidence.find? reportId).all fun evidence =>
        evidence.objectKey = evidenceObjectKey)
      (.internal "REPORT_CLOSURE_EVIDENCE_MISMATCH")
    require ((db.evidence.find? reportId).all fun evidence =>
        evidence.uploadAuthorizedUntil ≤ now)
      (.internal "REPORT_CLOSURE_UPLOAD_STILL_AUTHORIZED")
    return db.finalized job report outcome now

/-- How long a failed attempt waits, by how many attempts there have been. -/
def retryDelay (attempts : ℕ) : ℕ :=
  min maxRetryMilliseconds (initialRetryMilliseconds * 2 ^ min (attempts - 1) 16)

/-- Give the lease back, if it is still held. -/
def scheduleRetry (reportId leaseToken : Uuid) (attempts retryBase : ℕ) (errorCode : String) :
    ReportTables :=
  db.updateJob reportId (fun job => job.leaseToken = some leaseToken)
    (fun job =>
      { job with leaseToken := none, leasedUntil := none
                 nextAttemptAt := retryBase + retryDelay attempts
                 lastErrorCode := some errorCode })
    fun _ => rfl

end ReportTables

end SinoChat
