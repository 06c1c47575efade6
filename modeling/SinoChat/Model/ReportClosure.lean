import SinoChat.Common.Run
import SinoChat.Model.Report

/-!
# Report closure as a machine

Reviewers, any number of closure attempts and the storage, as the steps of
one machine. A transaction or a single statement is a step; an attempt is as
many steps as it makes calls, so anything may happen between two of them,
also a crash, which drops it. An attempt is known by a number that is never
used again.

What `reportCashier` writes appears as one step, `file`; its reservation and
its reassignment are elsewhere. The storage serves others as well: objects
come under any key with a valid URL, and go.
-/

namespace SinoChat

open Js

/-- Where `processReport` is. -/
inductive AttemptPhase where
  | started
  | clockRead (attemptStartedAt : ℕ)
  | claimed (attemptStartedAt : ℕ)
  /-- Phase `STORAGE`. -/
  | leased (attemptStartedAt attempts : ℕ) (evidenceObjectKey : JsString)
  /-- Phase `FINALIZE`. -/
  | purged (attemptStartedAt attempts : ℕ) (evidenceObjectKey : JsString)
  /-- In the handler, before it reads the clock. -/
  | failed (attemptStartedAt attempts : ℕ) (errorCode : String)
  | retrying (attempts retryBase : ℕ) (errorCode : String)

/-- One call of `processReport`. -/
structure ClosureAttempt where
  reportId : Uuid
  leaseToken : Uuid
  phase : AttemptPhase

/-- What an attempt does next. -/
inductive AttemptEvent where
  | clockRead | claimed | claimMissed | jobRead | leaseLost
  | objectDeleted (key : JsString) (deletedAt : ℕ)
  | storageFailed | finalized | finalizeAnswerLost | finalizeFailed | retryClockRead | released
  | crashed

/-- **The steps of one attempt**, at a time, on the tables and the storage;
an attempt that has ended leaves nothing. -/
inductive AttemptStep (clock : ℕ) (db : ReportTables) (storage : ObjectStorage)
    (a : ClosureAttempt) :
    AttemptEvent → ReportTables → ObjectStorage → Option ClosureAttempt → Prop
  | readClock : a.phase = .started →
      AttemptStep clock db storage a .clockRead db storage
        (some { a with phase := .clockRead clock })
  | claim {t : ℕ} : a.phase = .clockRead t → db.claims a.reportId t = true →
      AttemptStep clock db storage a .claimed (db.claimJob a.reportId a.leaseToken t) storage
        (some { a with phase := .claimed t })
  | miss {t : ℕ} : a.phase = .clockRead t → db.claims a.reportId t = false →
      AttemptStep clock db storage a .claimMissed db storage none
  | readJob {t : ℕ} {job : ReportClosureJob} : a.phase = .claimed t →
      db.leasedJob a.reportId a.leaseToken = some job →
      AttemptStep clock db storage a .jobRead db storage
        (some { a with phase := .leased t job.attempts job.evidenceObjectKey })
  | loseLease {t : ℕ} : a.phase = .claimed t → db.leasedJob a.reportId a.leaseToken = none →
      AttemptStep clock db storage a .leaseLost db storage none
  | deleteObject {t n : ℕ} {key : JsString} : a.phase = .leased t n key →
      AttemptStep clock db storage a (.objectDeleted key clock) db (storage.delete key)
        (some { a with phase := .purged t n key })
  /-- The call to the storage fails, with or without effect. -/
  | storageFails {t n : ℕ} {key : JsString} {storage' : ObjectStorage} :
      a.phase = .leased t n key → storage' = storage ∨ storage' = storage.delete key →
      AttemptStep clock db storage a .storageFailed db storage'
        (some { a with phase := .failed t n "STORAGE_FAILED" })
  | finalize {t n now : ℕ} {key : JsString} {db' : ReportTables} : a.phase = .purged t n key →
      now ≤ clock → db.finalize a.reportId key a.leaseToken now = .ok db' →
      AttemptStep clock db storage a .finalized db' storage none
  /-- The transaction commits and its answer is lost. -/
  | loseAnswer {t n now : ℕ} {key : JsString} {db' : ReportTables} : a.phase = .purged t n key →
      now ≤ clock → db.finalize a.reportId key a.leaseToken now = .ok db' →
      AttemptStep clock db storage a .finalizeAnswerLost db' storage
        (some { a with phase := .failed t n "FINALIZE_FAILED" })
  /-- The transaction throws or is rolled back. -/
  | finalizeFails {t n : ℕ} {key : JsString} : a.phase = .purged t n key →
      AttemptStep clock db storage a .finalizeFailed db storage
        (some { a with phase := .failed t n "FINALIZE_FAILED" })
  /-- The clock, or the time of the claim where it cannot be read. -/
  | readRetryClock {t n retryBase : ℕ} {errorCode : String} : a.phase = .failed t n errorCode →
      retryBase = clock ∨ retryBase = t →
      AttemptStep clock db storage a .retryClockRead db storage
        (some { a with phase := .retrying n retryBase errorCode })
  | release {n retryBase : ℕ} {errorCode : String} : a.phase = .retrying n retryBase errorCode →
      AttemptStep clock db storage a .released
        (db.scheduleRetry a.reportId a.leaseToken n retryBase errorCode) storage none
  /-- The process ends, or a statement fails where nothing is left to do. -/
  | crash : AttemptStep clock db storage a .crashed db storage none

/-- The tables, the storage and the attempts under way. -/
structure ClosureWorld where
  clock : ℕ
  db : ReportTables
  storage : ObjectStorage
  attempts : ℕ → Option ClosureAttempt
  started : ℕ
  tokens : List Uuid

/-- What happened at the desk, the storage or a worker. -/
inductive ClosureAction where
  | filed (reportId : Uuid) (objectKey : JsString)
  | reviewBegan (adminUserId reportId : Uuid)
  | evidenceDownloaded (adminUserId reportId : Uuid)
  | closeRequested (adminUserId reportId : Uuid) (input : CloseReport)
  | attemptStarted (n : ℕ) (reportId : Uuid)
  | attempt (n : ℕ) (event : AttemptEvent)
  | uploadSigned (key : JsString)
  | uploaded (key : JsString)
  | objectRemoved (key : JsString)
  | accountsChanged
  | ticked

/-- A report as `reportCashier` creates it. -/
def Report.filed (id blockCashierUserId : Uuid) : Report :=
  { id, blockCashierUserId, status := .opened, reviewedByAdminUserId := none
    reviewStartedAt := none, outcome := none, resolutionSummary := none
    closeRequestedAt := none, closedAt := none, evidencePurgedAt := none
    subjectNotifiedAt := none }

/-- **The steps.** -/
inductive ClosureStep : ClosureWorld → ClosureAction → ClosureWorld → Prop
  /-- The grant of the evidence expires after the URL signed with it. -/
  | file {w : ClosureWorld} {cashierUserId : Uuid} {evidence : ReportEvidence}
      {hreport : w.db.reports.find? (Report.filed evidence.reportId cashierUserId).id = none}
      {hevidence : w.db.evidence.find? evidence.reportId = none} :
      (∀ row ∈ w.db.evidence, row.objectKey ≠ evidence.objectKey) →
      (∃ url ∈ w.storage.urls, url.key = evidence.objectKey) →
      w.storage.Sealed evidence.objectKey evidence.uploadAuthorizedUntil →
      ClosureStep w (.filed evidence.reportId evidence.objectKey)
        { w with db := { w.db with
          reports := w.db.reports.insert (Report.filed evidence.reportId cashierUserId) hreport
          evidence := w.db.evidence.insert evidence hevidence } }
  | beginReview {w : ClosureWorld} {adminUserId reportId : Uuid} {now : ℕ} {db' : ReportTables}
      {answer : ReportReviewState} :
      now ≤ w.clock → w.db.beginReview adminUserId reportId now = .ok (db', answer) →
      ClosureStep w (.reviewBegan adminUserId reportId) { w with db := db' }
  | evidenceDownload {w : ClosureWorld} {adminUserId reportId : Uuid} {reason : JsString}
      {passwordValid : Bool} {db' : ReportTables} {answer : ReportEvidence} :
      w.db.evidenceDownload adminUserId reportId reason passwordValid = .ok (db', answer) →
      ClosureStep w (.evidenceDownloaded adminUserId reportId) { w with db := db' }
  | close {w : ClosureWorld} {adminUserId reportId : Uuid} {input : CloseReport} {now : ℕ}
      {db' : ReportTables} {answer : ReportClosureState} :
      now ≤ w.clock → w.db.close adminUserId reportId input now = .ok (db', answer) →
      ClosureStep w (.closeRequested adminUserId reportId input) { w with db := db' }
  /-- By a batch of the worker, or by `close` after its transaction. -/
  | startAttempt {w : ClosureWorld} {reportId leaseToken : Uuid} : leaseToken ∉ w.tokens →
      ClosureStep w (.attemptStarted w.started reportId)
        { w with
          attempts := Function.update w.attempts w.started (some ⟨reportId, leaseToken, .started⟩)
          started := w.started + 1
          tokens := leaseToken :: w.tokens }
  | attempt {w : ClosureWorld} {n : ℕ} {a : ClosureAttempt} {event : AttemptEvent}
      {db' : ReportTables} {storage' : ObjectStorage} {next : Option ClosureAttempt} :
      w.attempts n = some a → AttemptStep w.clock w.db w.storage a event db' storage' next →
      ClosureStep w (.attempt n event)
        { w with db := db', storage := storage', attempts := Function.update w.attempts n next }
  | signUpload {w : ClosureWorld} {key : JsString} {signingDate : ℕ} : signingDate ≤ w.clock →
      (∀ url ∈ w.storage.urls, url.key ≠ key) →
      ClosureStep w (.uploadSigned key)
        { w with storage := w.storage.presignUpload key signingDate }
  | upload {w : ClosureWorld} {key : JsString} : w.storage.accepts key w.clock →
      ClosureStep w (.uploaded key) { w with storage := w.storage.putObject key }
  | removeObject {w : ClosureWorld} {key : JsString} :
      ClosureStep w (.objectRemoved key) { w with storage := w.storage.delete key }
  | changeAccounts {w : ClosureWorld} {accountStatus : Uuid → AccountStatus} :
      ClosureStep w .accountsChanged { w with db := { w.db with accountStatus } }
  | tick {w : ClosureWorld} {clock : ℕ} : w.clock ≤ clock →
      ClosureStep w .ticked { w with clock }

/-- Nothing has been reported or signed, and no attempt runs. -/
structure ClosureInitial (w : ClosureWorld) : Prop where
  reports : w.db.reports = Table.empty
  evidence : w.db.evidence = Table.empty
  closureJobs : w.db.closureJobs = Table.empty
  auditEvents : w.db.auditEvents = []
  notifications : w.db.notifications = []
  urls : w.storage.urls = []
  attempts : w.attempts = fun _ => none
  started : w.started = 0

/-- **Report closure.** -/
def reportClosure : Machine ClosureWorld ClosureAction where
  init := ClosureInitial
  step := ClosureStep

end SinoChat
