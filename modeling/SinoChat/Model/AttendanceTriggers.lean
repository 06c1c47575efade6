import SinoChat.Model.AttendanceServices
import SinoChat.Common.Run
import Mathlib.Order.Monotone.Defs

/-!
# The triggers on assignments, and the machine

What the database checks of the rows a transaction has written, at its
commit: the history and the origin of an assignment, its conversation, the
blocks and reports behind it and the reassignment requests. A comparison with
a missing value rejects nothing, as in SQL. A transaction that fails a check
is rolled back.
-/

namespace SinoChat

open Js

namespace Attendance

namespace Db

variable (db : Db)

/-! ## Conditions on one row -/

/-- The cashier of a new assignment at the commit clock. -/
def validAssignee (cashierUserId : Uuid) (clock : ℕ) : Bool :=
  db.availableUser cashierUserId &&
    ((db.cashierProfiles.find? cashierUserId).any fun p => p.approvalStatus = .approved) &&
    db.subscribed cashierUserId clock

/-- The origin of an assignment from an invitation: its cashier's, not revoked
before `limit`. -/
def validInvitation (assignment : Assignment) (limit : ℕ) : Bool :=
  (assignment.invitationId.bind db.invitations.find?).any fun invitation =>
    (invitation.revokedAt.all fun revokedAt => limit ≤ revokedAt) &&
      invitation.cashierUserId = assignment.cashierUserId

/-- The assignment a reassignment follows: ended, of the same client. -/
def validPrevious (assignment : Assignment) : Bool :=
  (assignment.previousAssignmentId.bind db.assignments.find?).any fun previous =>
    previous.endedAt.isSome && previous.clientUserId = assignment.clientUserId

/-- The request a new reassignment completes. -/
def completesRequest (assignment : Assignment) : Bool :=
  db.requests.rows.any fun request =>
    some request.previousAssignmentId = assignment.previousAssignmentId &&
      request.resultingAssignmentId = some assignment.id &&
      request.clientUserId = assignment.clientUserId && request.status = .completed

/-- `sinochat_validate_assignment_origin`, for an insert. -/
def validateNewAssignmentOrigin (clock : ℕ) (assignment : Assignment) : Bool :=
  assignment.startedAt ≤ clock && db.validAssignee assignment.cashierUserId clock &&
    if assignment.startReason = .invitation then db.validInvitation assignment clock
    else db.validPrevious assignment && db.completesRequest assignment

/-- `sinochat_validate_assignment_origin`, for an update. -/
def validateAssignmentOrigin (assignment : Assignment) : Bool :=
  if assignment.startReason = .invitation then db.validInvitation assignment assignment.startedAt
  else db.validPrevious assignment

/-- `sinochat_validate_assignment_conversation`. -/
def validateAssignmentConversation (assignmentId : Uuid) : Bool :=
  (db.assignments.find? assignmentId).all fun assignment =>
    (db.conversations.find? assignmentId).any fun conversation =>
      conversation.status = if assignment.endedAt = none then .active else .closed

/-- `sinochat_validate_block`. -/
def validateBlock (block : Block) : Bool :=
  (db.assignments.find? block.assignmentId).all fun assignment =>
    block.clientUserId = assignment.clientUserId && block.cashierUserId = assignment.cashierUserId

/-- `sinochat_validate_block_lifecycle`. -/
def validateBlockLifecycle (block : Block) : Bool :=
  ((db.assignments.find? block.assignmentId).bind Assignment.endReason).any fun endReason =>
    match block.initiatedBy with
    | .cashier => endReason = .cashierBlockedClient
    | .client => (db.reports.rows.any fun report => report.blockId = block.id) &&
        endReason = .clientReportedCashier

/-- `sinochat_validate_report_source`. -/
def validateReportSource (report : Report) : Bool :=
  (db.blocks.find? report.blockId).any fun block =>
    block.initiatedBy = .client &&
      (((db.assignments.find? block.assignmentId).bind Assignment.endReason).all fun endReason =>
        endReason = .clientReportedCashier)

end Db

/-- The end reasons that go with a reason to reassign. -/
def matchesEndReason : ReassignmentReason → AssignmentEndReason → Bool
  | .clientBlockedCashier, _ => false
  | .clientReportedCashier, endReason => endReason = .clientReportedCashier
  | .cashierBlockedClient, endReason => endReason = .cashierBlockedClient
  | .cashierUnavailable, endReason =>
    endReason = .cashierUnavailable || endReason = .cashierSuspended
  | .administrative, endReason => endReason = .administrative

/-- Reasons that come from a block, and whose block it is. -/
def blockInitiatorOf : ReassignmentReason → Option BlockInitiator
  | .clientBlockedCashier | .clientReportedCashier => some .client
  | .cashierBlockedClient => some .cashier
  | .cashierUnavailable | .administrative => none

namespace Db

variable (db : Db)

/-- The assignment a request replaces. -/
def validSource (request : ReassignmentRequest) : Bool :=
  (db.assignments.find? request.previousAssignmentId).any fun previous =>
    previous.clientUserId = request.clientUserId &&
      previous.cashierUserId = request.excludedCashierUserId && previous.endedAt.isSome &&
      request.reason ≠ .clientBlockedCashier &&
      previous.endReason.all (matchesEndReason request.reason)

/-- The block behind a request. -/
def validTrigger (request : ReassignmentRequest) : Bool :=
  match request.triggerBlockId with
  | some blockId =>
    (db.blocks.find? blockId).all fun block =>
      block.clientUserId = request.clientUserId &&
        block.cashierUserId = request.excludedCashierUserId &&
        (blockInitiatorOf request.reason).all fun initiator => block.initiatedBy = initiator
  | none => (blockInitiatorOf request.reason).isNone

/-- A pending request stands alone. -/
def validPending (request : ReassignmentRequest) : Bool :=
  request.status ≠ .pending || db.assignments.rows.all fun assignment =>
    !(assignment.clientUserId = request.clientUserId && assignment.endedAt = none)

/-- The assignment a completed request led to. -/
def validResult (request : ReassignmentRequest) : Bool :=
  request.status ≠ .completed ||
    (request.resultingAssignmentId.bind db.assignments.find?).all fun result =>
      result.clientUserId = request.clientUserId &&
        result.cashierUserId ≠ request.excludedCashierUserId &&
        (result.previousAssignmentId.all fun previous => previous = request.previousAssignmentId) &&
        (request.reason = .clientBlockedCashier ||
          result.startReason = startReason request.reason)

/-- `sinochat_validate_reassignment_request`. -/
def validateReassignmentRequest (request : ReassignmentRequest) : Bool :=
  db.validSource request && db.validTrigger request && db.validPending request &&
    db.validResult request

end Db

/-- `sinochat_enforce_assignment_history`. -/
def keepsHistory (old new : Assignment) : Bool :=
  new.clientUserId = old.clientUserId && new.cashierUserId = old.cashierUserId &&
    new.invitationId = old.invitationId && new.previousAssignmentId = old.previousAssignmentId &&
    new.startReason = old.startReason && new.startedAt = old.startedAt &&
    (old.endedAt = none || new.endedAt = old.endedAt && new.endReason = old.endReason)

/-- `sinochat_enforce_conversation_history`: a closed conversation stays closed. -/
def keepsConversation (old new : Conversation) : Bool :=
  new.assignmentId = old.assignmentId && (old.status ≠ .closed || new.status = .closed)

/-! ## The check at the commit -/

/-- The triggers that fire for an assignment of the new tables. -/
def commitsAssignment (clock : ℕ) (before after : Db) (assignment : Assignment) : Bool :=
  match before.assignments.find? assignment.id with
  | none => after.validateNewAssignmentOrigin clock assignment &&
      after.validateAssignmentConversation assignment.id
  | some old => old = assignment || keepsHistory old assignment &&
      after.validateAssignmentOrigin assignment && after.validateAssignmentConversation assignment.id

/-- The deferred checks pass for a conversation that was written. -/
def commitsConversation (before after : Db) (conversation : Conversation) : Bool :=
  match before.conversations.find? conversation.assignmentId with
  | none => after.validateAssignmentConversation conversation.assignmentId
  | some old => old = conversation || keepsConversation old conversation &&
      after.validateAssignmentConversation conversation.assignmentId

/-- The deferred checks pass for a block that was written. -/
def commitsBlock (before after : Db) (block : Block) : Bool :=
  (before.blocks.find? block.id).isSome ||
    after.validateBlock block && after.validateBlockLifecycle block

/-- The deferred check passes for a report that was written. -/
def commitsReport (before after : Db) (report : Report) : Bool :=
  (before.reports.find? report.id).isSome || after.validateReportSource report

/-- The deferred check passes for a request that was written. -/
def commitsRequest (before after : Db) (request : ReassignmentRequest) : Bool :=
  before.requests.find? request.id = some request || after.validateReassignmentRequest request

/-- **The checks of a commit at `clock`**: every row the transaction wrote
passes its triggers. -/
def commitChecks (clock : ℕ) (before after : Db) : Bool :=
  after.assignments.rows.all (commitsAssignment clock before after) &&
    after.conversations.rows.all (commitsConversation before after) &&
    after.blocks.rows.all (commitsBlock before after) &&
    after.reports.rows.all (commitsReport before after) &&
    after.requests.rows.all (commitsRequest before after)

/-! ## The machine -/

/-- A transaction of one of the services. -/
inductive Operation where
  | registerClient (clientUserId invitationId : Uuid)
  | registerCashier (cashierUserId : Uuid)
  | rotateInvitation (cashierUserId invitationId : Uuid)
  | blockClient (cashierUserId clientUserId blockId : Uuid)
  | reportCashier (clientUserId assignmentId blockId reportId : Uuid)
  | reassignAdministrative (clientUserId : Uuid)
  | reassignAssignmentAdministrative (assignmentId : Uuid)
  | reconcilePendingReassignments (unlocked : Uuid → Bool) (requestBatchSize : ℕ)
  | reconcileNextExpiredSubscription (subscriptionId : Uuid) (unlocked : Uuid → Bool)
      (assignmentBatchSize : ℕ)
  | deleteUser (userId : Uuid)
  | suspend (userId : Uuid)
  | reactivate (userId : Uuid)
  | resetPassword (userId : Uuid)
  | completeAdminReset (userId : Uuid)
  | approveCashier (cashierUserId : Uuid)
  | updateContact (userId : Uuid) (emailChanged phoneChanged : Bool)
  | activateSubscription (cashierUserId subscriptionId : Uuid) (endsAt : Option ℕ)
  | deactivateSubscription (cashierUserId : Uuid)
  | changeDeviceSet (userId : Uuid)
  | publishFirstDevice (userId : Uuid) (matrixUserId : JsString)

/-- Carry out a transaction, with its clock readings and draws. -/
def Operation.run (db : Db) (reads : ℕ → ℕ) (draws : ℕ → Draw) :
    Operation → Except HttpException (Db × List Reassignment)
  | registerClient clientUserId invitationId =>
    Attendance.registerClient db clientUserId invitationId (reads 0) (draws 0)
  | registerCashier cashierUserId => Attendance.registerCashier db cashierUserId
  | rotateInvitation cashierUserId invitationId =>
    Attendance.rotateInvitation db cashierUserId invitationId (reads 0)
  | blockClient cashierUserId clientUserId blockId =>
    Attendance.blockClient db cashierUserId clientUserId blockId reads (draws 0)
  | reportCashier clientUserId assignmentId blockId reportId =>
    Attendance.reportCashier db clientUserId assignmentId blockId reportId (reads 0) (draws 0)
  | reassignAdministrative clientUserId =>
    Attendance.reassignAdministrative db clientUserId (reads 0) (draws 0)
  | reassignAssignmentAdministrative assignmentId =>
    Attendance.reassignAssignmentAdministrative db assignmentId (reads 0) (draws 0)
  | reconcilePendingReassignments unlocked requestBatchSize =>
    Attendance.reconcilePendingReassignments db unlocked requestBatchSize (reads 0) (reads 1) draws
  | reconcileNextExpiredSubscription subscriptionId unlocked assignmentBatchSize =>
    Attendance.reconcileNextExpiredSubscription db subscriptionId unlocked assignmentBatchSize
      (reads 0) (reads 1) (reads 2) draws
  | deleteUser userId => Attendance.deleteUser db userId reads draws
  | suspend userId => Attendance.suspend db userId reads draws
  | reactivate userId => Attendance.reactivate db userId reads draws
  | resetPassword userId => Attendance.resetPassword db userId
  | completeAdminReset userId => Attendance.completeAdminReset db userId
  | approveCashier cashierUserId => Attendance.approveCashier db cashierUserId reads draws
  | updateContact userId emailChanged phoneChanged =>
    Attendance.updateContact db userId emailChanged phoneChanged (reads 0)
  | activateSubscription cashierUserId subscriptionId endsAt =>
    Attendance.activateSubscription db cashierUserId subscriptionId endsAt reads draws
  | deactivateSubscription cashierUserId =>
    Attendance.deactivateSubscription db cashierUserId reads draws
  | changeDeviceSet userId => Attendance.changeDeviceSet db userId
  | publishFirstDevice userId matrixUserId => Attendance.publishFirstDevice db userId matrixUserId

/-- The tables and the clock. -/
structure World where
  clock : ℕ
  db : Db

/-- What happened, with the reassignments a transaction told of. -/
inductive Action where
  | committed (operation : Operation) (reassignments : List Reassignment)
  /-- A transaction whose checks passed and whose rows a trigger refused. -/
  | rejected (operation : Operation)
  | ticked

/-- **The steps.** Transactions are serializable: each commits as if alone, with
clock readings up to the commit. An operation that fails its own checks
changes nothing and is no step. -/
inductive Step : World → Action → World → Prop
  | commit {w : World} {operation : Operation} {reads : ℕ → ℕ} {draws : ℕ → Draw} {db' : Db}
      {reassignments : List Reassignment} :
      Monotone reads → (∀ i, reads i ≤ w.clock) →
      operation.run w.db reads draws = .ok (db', reassignments) →
      commitChecks w.clock w.db db' = true →
      Step w (.committed operation reassignments) { w with db := db' }
  | reject {w : World} {operation : Operation} {reads : ℕ → ℕ} {draws : ℕ → Draw} {db' : Db}
      {reassignments : List Reassignment} :
      Monotone reads → (∀ i, reads i ≤ w.clock) →
      operation.run w.db reads draws = .ok (db', reassignments) →
      commitChecks w.clock w.db db' = false →
      Step w (.rejected operation) w
  | tick {w : World} {clock : ℕ} : w.clock ≤ clock → Step w .ticked { w with clock }

/-- No account, no relationship. -/
def Initial (w : World) : Prop :=
  w.db = ⟨Table.empty, Table.empty, Table.empty, Table.empty, Table.empty, Table.empty,
    Table.empty, Table.empty, Table.empty, DeviceLists.empty⟩

/-- **Who attends whom.** -/
def attendance : Machine World Action where
  init := Initial
  step := Step

end Attendance

end SinoChat
