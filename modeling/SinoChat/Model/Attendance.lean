import SinoChat.Model.ToDevice
import SinoChat.Model.Rows
import SinoChat.Common.Sorting
import Mathlib.Algebra.Order.Monoid.Unbundled.WithTop
import Mathlib.Data.Prod.Lex
import Mathlib.Order.Lattice.Nat
import Mathlib.Order.WithBot

/-!
# Assignments and reassignments

`assignments.service.ts` and `cashier-selection.ts` over the tables of the
relationships between clients and cashiers: who attends whom, the conversation
of each assignment, the blocks, and the reassignment requests that wait for a
cashier.

Two functions carry the service. `beginReassignment` ends an assignment and
leaves a pending request; `completePending` gives the client of a pending
request to an eligible cashier with the fewest clients, or leaves the request
for later. A call of the second is kept with the tables it read
(`Reassignment`).
-/

namespace SinoChat

open Js

namespace Attendance

/-! ## Rows -/

/-- Why an assignment was made. -/
inductive AssignmentStartReason where
  | invitation | clientBlockedCashier | clientReportedCashier | cashierBlockedClient
  | cashierUnavailable | administrative
  deriving DecidableEq

/-- Why an assignment ended. -/
inductive AssignmentEndReason where
  | clientBlockedCashier | clientReportedCashier | cashierBlockedClient | cashierUnavailable
  | clientSuspended | cashierSuspended | accountDeleted | administrative
  deriving DecidableEq

/-- Why a client looks for another cashier. -/
inductive ReassignmentReason where
  | clientBlockedCashier | clientReportedCashier | cashierBlockedClient | cashierUnavailable
  | administrative
  deriving DecidableEq

/-- A request is pending until it is completed or cancelled. -/
inductive ReassignmentStatus where
  | pending | completed | cancelled
  deriving DecidableEq

/-- Who of the two blocked the other. -/
inductive BlockInitiator where
  | client | cashier
  deriving DecidableEq

/-- The codes a suspension is recorded with. -/
inductive SuspensionReason where
  | userSuspended | fiveDistinctCashierBlocks
  deriving DecidableEq

/-- A row of `users`, with the reason of a suspension. -/
structure User where
  id : Uuid
  role : UserRole
  status : AccountStatus
  passwordResetRequired : Bool
  suspensionReasonCode : Option SuspensionReason
  deriving DecidableEq

/-- A row of `cashier_invitations`, open until it is revoked. -/
structure CashierInvitation where
  id : Uuid
  cashierUserId : Uuid
  createdAt : ℕ
  revokedAt : Option ℕ
  deriving DecidableEq

/-- A row of `assignments`, with where it came from and why it ended. -/
structure Assignment where
  id : Uuid
  clientUserId : Uuid
  cashierUserId : Uuid
  invitationId : Option Uuid
  previousAssignmentId : Option Uuid
  startReason : AssignmentStartReason
  startedAt : ℕ
  endedAt : Option ℕ
  endReason : Option AssignmentEndReason
  deriving DecidableEq

/-- A row of `blocks`, of the assignment it ended. -/
structure Block where
  id : Uuid
  clientUserId : Uuid
  cashierUserId : Uuid
  assignmentId : Uuid
  initiatedBy : BlockInitiator
  deriving DecidableEq

/-- A report of a client on a cashier, by its block. -/
structure Report where
  id : Uuid
  blockId : Uuid
  deriving DecidableEq

/-- A row of `reassignment_requests`: the cashier to be left out, and what came of it. -/
structure ReassignmentRequest where
  id : Uuid
  clientUserId : Uuid
  previousAssignmentId : Uuid
  excludedCashierUserId : Uuid
  triggerBlockId : Option Uuid
  resultingAssignmentId : Option Uuid
  reason : ReassignmentReason
  status : ReassignmentStatus
  requestedAt : ℕ
  lastAttemptAt : Option ℕ
  attemptCount : ℕ
  completedAt : Option ℕ
  cancellationReasonCode : Option String
  deriving DecidableEq

/-- The tables. An assignment has at most one conversation by a unique index. -/
structure Db where
  users : Table Uuid User User.id
  cashierProfiles : Table Uuid CashierProfile CashierProfile.userId
  subscriptions : Table Uuid CashierSubscription CashierSubscription.id
  invitations : Table Uuid CashierInvitation CashierInvitation.id
  assignments : Table Uuid Assignment Assignment.id
  conversations : Table Uuid Conversation Conversation.assignmentId
  blocks : Table Uuid Block Block.id
  reports : Table Uuid Report Report.id
  requests : Table Uuid ReassignmentRequest ReassignmentRequest.id
  lists : DeviceLists

/-! ## Selection -/

/-- A candidate with the number of clients it attends. -/
structure CashierLoad where
  userId : Uuid
  activeClientCount : ℕ
  deriving DecidableEq

/-- The minimum of the counts, above any count for none. -/
def minimumLoad (candidates : List CashierLoad) : WithTop ℕ :=
  candidates.foldl (fun minimum candidate => min minimum candidate.activeClientCount) ⊤

/-- `selectLeastLoadedCashier`: one of those with the fewest clients, by a
random index. The counts are numbers of rows, never negative or unsafe. -/
def selectLeastLoadedCashier (candidates : List CashierLoad) (randomIndex : ℕ → ℕ) :
    Except HttpException (Option CashierLoad) :=
  if candidates = [] then .ok none
  else
    let tied := candidates.filter fun candidate =>
      (candidate.activeClientCount : WithTop ℕ) = minimumLoad candidates
    match tied[randomIndex tied.length]? with
    | some candidate => .ok (some candidate)
    | none => .error (.internal "El índice aleatorio no es válido.")

namespace Db

variable (db : Db)

/-- `role: CLIENT, status: ACTIVE`. -/
def activeClient (userId : Uuid) : Bool :=
  (db.users.find? userId).any fun user => user.role = .client && user.status = .active

/-- An active account without a pending reset. -/
def availableUser (userId : Uuid) : Bool :=
  (db.users.find? userId).any fun user => user.status = .active && !user.passwordResetRequired

/-- The cashier has a subscription in force. -/
def subscribed (cashierUserId : Uuid) (now : ℕ) : Bool :=
  db.subscriptions.rows.any fun subscription =>
    subscription.cashierUserId = cashierUserId && Accounts.inForce now subscription

/-- A block between the two, by either of them. -/
def blocked (clientUserId cashierUserId : Uuid) : Bool :=
  db.blocks.rows.any fun block =>
    block.clientUserId = clientUserId && block.cashierUserId = cashierUserId

/-- How many clients a cashier attends. -/
def load (cashierUserId : Uuid) : ℕ :=
  db.assignments.count fun assignment =>
    assignment.cashierUserId = cashierUserId && assignment.endedAt = none

/-- The conditions of `findEligibleCandidates` on a profile. -/
def eligible (clientUserId excludedCashierUserId : Uuid) (now : ℕ) (profile : CashierProfile) :
    Bool :=
  profile.userId ≠ excludedCashierUserId && profile.approvalStatus = .approved &&
    profile.emailVerifiedAt.isSome && profile.phoneVerifiedAt.isSome &&
    db.availableUser profile.userId && db.subscribed profile.userId now &&
    !db.blocked clientUserId profile.userId

/-- The cashiers who may take the client over, with their loads. -/
def findEligibleCandidates (clientUserId excludedCashierUserId : Uuid) (now : ℕ) :
    List CashierLoad :=
  (db.cashierProfiles.rows.filter (db.eligible clientUserId excludedCashierUserId now)).map
    fun profile => ⟨profile.userId, db.load profile.userId⟩

/-- The active assignments of a client or a cashier, in the order of the query. -/
def activeAssignments (p : Assignment → Bool) : List Assignment :=
  (db.assignments.rows.filter fun assignment => p assignment && assignment.endedAt = none).sortBy
    fun assignment => toLex (assignment.startedAt, unitOrder assignment.id.text)

/-- The pending requests that meet a condition, oldest first. -/
def pendingRequests (p : ReassignmentRequest → Bool) : List ReassignmentRequest :=
  (db.requests.rows.filter fun request => p request && request.status = .pending).sortBy
    fun request => toLex (request.requestedAt, unitOrder request.id.text)

/-- The running assignments with an active conversation a user is party to. -/
def currentRelationships (userId : Uuid) : List Assignment :=
  (db.assignments.rows.filter fun assignment =>
    assignment.endedAt = none &&
      ((db.conversations.find? assignment.id).any fun conversation =>
        conversation.status = .active) &&
      (userId = assignment.clientUserId || userId = assignment.cashierUserId)).sortBy
    fun assignment =>
      toLex (unitOrder assignment.clientUserId.text, unitOrder assignment.cashierUserId.text)

/-- A change of the user's relationships, told to both sides of each. -/
def publishCurrentRelationshipsForUser (userId : Uuid) (changeType : ChangeType) : Db :=
  { db with
    lists := (db.currentRelationships userId).foldl
      (fun lists assignment => lists.publishRelationshipChanged assignment.clientUserId
        assignment.cashierUserId changeType) db.lists }

end Db

/-! ## Reassignments -/

/-- What a caller is told of a request: it stays pending, or a cashier was found. -/
inductive ReassignmentOutcome where
  | pendingReassignment (requestId clientUserId previousCashierUserId : Uuid)
  | reassigned (requestId clientUserId previousCashierUserId cashierUserId assignmentId : Uuid)

/-- What a reassignment draws: the ids of its rows and the random index. -/
structure Draw where
  assignmentId : Uuid
  conversationId : Uuid
  requestId : Uuid
  randomIndex : ℕ → ℕ

/-- A call of `completePending`: the tables it read, the clock reading, the
request and the outcome. -/
structure Reassignment where
  tables : Db
  now : ℕ
  request : ReassignmentRequest
  outcome : ReassignmentOutcome

/-- The start reason of the assignment that answers a request. -/
def startReason : ReassignmentReason → AssignmentStartReason
  | .clientBlockedCashier => .clientBlockedCashier
  | .clientReportedCashier => .clientReportedCashier
  | .cashierBlockedClient => .cashierBlockedClient
  | .cashierUnavailable => .cashierUnavailable
  | .administrative => .administrative

/-- The rows of a request given to a cashier. -/
def assignCandidate (db : Db) (request : ReassignmentRequest) (cashierUserId : Uuid) (now : ℕ)
    (draw : Draw) : Except HttpException Db := do
  let assignments ← db.assignments.create
    { id := draw.assignmentId, clientUserId := request.clientUserId, cashierUserId
      invitationId := none, previousAssignmentId := some request.previousAssignmentId
      startReason := startReason request.reason, startedAt := now, endedAt := none
      endReason := none }
  let conversations ← db.conversations.create ⟨draw.conversationId, draw.assignmentId, .active⟩
  let requests ← db.requests.change request.id
    (fun r => { r with
      status := .completed, resultingAssignmentId := some draw.assignmentId
      lastAttemptAt := some now, attemptCount := r.attemptCount + 1, completedAt := some now })
    fun _ => rfl
  return { db with
    assignments, conversations, requests
    lists := db.lists.publishRelationshipChanged request.clientUserId cashierUserId .changed }

/-- Answer a pending request, if there is a candidate. A client who is not active keeps it
pending. -/
def completePending (db : Db) (request : ReassignmentRequest) (now : ℕ) (draw : Draw) :
    Except HttpException (Db × Reassignment) :=
  let stays : ReassignmentOutcome :=
    .pendingReassignment request.id request.clientUserId request.excludedCashierUserId
  if db.activeClient request.clientUserId then do
    let candidate ← selectLeastLoadedCashier
      (db.findEligibleCandidates request.clientUserId request.excludedCashierUserId now)
      draw.randomIndex
    match candidate with
    | none => do
      let requests ← db.requests.change request.id
        (fun r => { r with lastAttemptAt := some now, attemptCount := r.attemptCount + 1 })
        fun _ => rfl
      return ({ db with requests }, ⟨db, now, request, stays⟩)
    | some candidate => do
      let after ← assignCandidate db request candidate.userId now draw
      return (after, ⟨db, now, request, .reassigned request.id request.clientUserId
        request.excludedCashierUserId candidate.userId draw.assignmentId⟩)
  else .ok (db, ⟨db, now, request, stays⟩)

/-- End an assignment and close its conversation. -/
def endAssignment (db : Db) (assignment : Assignment) (endReason : AssignmentEndReason)
    (now : ℕ) : Except HttpException Db := do
  let assignments ← db.assignments.change assignment.id
    (fun a => { a with endedAt := some now, endReason := some endReason }) fun _ => rfl
  let conversations ← db.conversations.change assignment.id
    (fun c => { c with status := .closed }) fun _ => rfl
  return { db with
    assignments, conversations
    lists := db.lists.publishRelationshipChanged assignment.clientUserId
      assignment.cashierUserId .left }

/-- `BeginReassignmentInput`. -/
structure BeginReassignmentInput where
  assignment : Assignment
  reason : ReassignmentReason
  assignmentEndReason : AssignmentEndReason
  triggerBlockId : Option Uuid

/-- End an assignment, make the request and try to answer it at once. -/
def beginReassignment (db : Db) (input : BeginReassignmentInput) (now : ℕ) (draw : Draw) :
    Except HttpException (Db × Reassignment) := do
  let ended ← endAssignment db input.assignment input.assignmentEndReason now
  let request : ReassignmentRequest :=
    { id := draw.requestId, clientUserId := input.assignment.clientUserId
      previousAssignmentId := input.assignment.id
      excludedCashierUserId := input.assignment.cashierUserId
      triggerBlockId := input.triggerBlockId, resultingAssignmentId := none
      reason := input.reason, status := .pending, requestedAt := now, lastAttemptAt := none
      attemptCount := 0, completedAt := none, cancellationReasonCode := none }
  let requests ← ended.requests.create request
  completePending { ended with requests } request now draw

/-- One step after the other over a list, each with its own draw. -/
def runEach {α : Type} (step : Db → α → Draw → Except HttpException (Db × Reassignment)) :
    Db → List α → (ℕ → Draw) → Except HttpException (Db × List Reassignment)
  | db, [], _ => .ok (db, [])
  | db, item :: rest, draws => do
    let first ← step db item (draws 0)
    let others ← runEach step first.1 rest fun n => draws (n + 1)
    return (others.1, first.2 :: others.2)

/-! ## The operations of the service -/

/-- An administrator moves a client to another cashier. -/
def reassignAdministrative (db : Db) (clientUserId : Uuid) (now : ℕ) (draw : Draw) :
    Except HttpException (Db × List Reassignment) := do
  require (db.activeClient clientUserId) (.withMessage 404 "El cliente activo no existe.")
  match (db.pendingRequests fun request => request.clientUserId = clientUserId).head? with
  | some pending => do
    let done ← completePending db pending now draw
    return (done.1, [done.2])
  | none => do
    let assignment ← orThrow
      (db.activeAssignments fun assignment => assignment.clientUserId = clientUserId).head?
      (.conflict "El cliente no tiene una asignación activa ni una reasignación pendiente.")
    let done ← beginReassignment db ⟨assignment, .administrative, .administrative, none⟩ now draw
    return (done.1, [done.2])

/-- An administrator moves the client of an assignment. -/
def reassignAssignmentAdministrative (db : Db) (assignmentId : Uuid) (now : ℕ) (draw : Draw) :
    Except HttpException (Db × List Reassignment) := do
  let assignment ← orThrow ((db.assignments.find? assignmentId).filter fun assignment =>
      assignment.endedAt = none && (db.users.find? assignment.clientUserId).any fun user =>
        user.status = .active)
    (.withMessage 404 "La asignación activa no existe.")
  let done ← beginReassignment db ⟨assignment, .administrative, .administrative, none⟩ now draw
  return (done.1, [done.2])

/-- `reassignCashierClientsInTransaction`. -/
def reassignCashierClients (db : Db) (cashierUserId : Uuid)
    (assignmentEndReason : AssignmentEndReason) (now : ℕ) (draws : ℕ → Draw) :
    Except HttpException (Db × List Reassignment) :=
  runEach (fun db assignment => beginReassignment db
      ⟨assignment, .cashierUnavailable, assignmentEndReason, none⟩ now)
    db (db.activeAssignments fun assignment => assignment.cashierUserId = cashierUserId) draws

/-- `endClientRelationshipsForDeletionInTransaction`. -/
def endClientRelationshipsForDeletion (db : Db) (clientUserId : Uuid) (now : ℕ) : Db :=
  let active := db.assignments.rows.filter fun assignment =>
    assignment.clientUserId = clientUserId && assignment.endedAt = none
  { db with
    conversations := db.conversations.modify
      (fun c => if c.assignmentId ∈ active.map Assignment.id ∧ c.status = .active then
        { c with status := .closed } else c) (by intro c; split <;> rfl)
    assignments := db.assignments.modify
      (fun a => if a.id ∈ active.map Assignment.id ∧ a.endedAt = none then
        { a with endedAt := some now, endReason := some .accountDeleted } else a)
      (by intro a; split <;> rfl)
    lists := active.foldl (fun lists assignment =>
      lists.publishRelationshipChanged clientUserId assignment.cashierUserId .left) db.lists
    requests := db.requests.modify
      (fun r => if r.clientUserId = clientUserId ∧ r.status = .pending then
        { r with status := .cancelled, completedAt := some now
                 cancellationReasonCode := some "ACCOUNT_DELETED" } else r)
      (by intro r; split <;> rfl) }

/-- `retryPendingInTransaction`. -/
def retryPending (db : Db) (limit now : ℕ) (draws : ℕ → Draw) :
    Except HttpException (Db × List Reassignment) :=
  runEach (fun db request => completePending db request now) db
    ((db.pendingRequests fun request =>
      (db.users.find? request.clientUserId).any fun user => user.status = .active).take limit)
    draws

/-- `retryClientPendingInTransaction`. -/
def retryClientPending (db : Db) (clientUserId : Uuid) (now : ℕ) (draw : Draw) :
    Except HttpException (Db × List Reassignment) :=
  match (db.pendingRequests fun request => request.clientUserId = clientUserId).head? with
  | some request => do
    let done ← completePending db request now draw
    return (done.1, [done.2])
  | none => .ok (db, [])

/-- The wait after so many attempts, in milliseconds. -/
def retryDelay (attemptCount : ℕ) : ℕ := min 300 (5 * 2 ^ min attemptCount 6) * 1000

/-- The requests `reconcilePendingReassignments` may take at a time. -/
def dueRequests (db : Db) (now : ℕ) : List ReassignmentRequest :=
  db.pendingRequests fun request =>
    db.activeClient request.clientUserId &&
      request.lastAttemptAt.all fun last => last + retryDelay request.attemptCount ≤ now

/-- `reconcilePendingReassignments` on the due requests that no other
transaction has locked. -/
def reconcilePendingReassignments (db : Db) (unlocked : Uuid → Bool) (requestBatchSize : ℕ)
    (queryNow now : ℕ) (draws : ℕ → Draw) : Except HttpException (Db × List Reassignment) := do
  require (1 ≤ requestBatchSize && requestBatchSize ≤ 100)
    (.internal "El lote de pendientes debe estar entre 1 y 100.")
  runEach (fun db request => completePending db request now) db
    (((dueRequests db queryNow).filter fun request => unlocked request.id).take requestBatchSize)
    draws

/-- `reconcileNextExpiredSubscription` for the expired subscription whose turn
it is, on the assignments that no other transaction has locked. -/
def reconcileNextExpiredSubscription (db : Db) (subscriptionId : Uuid) (unlocked : Uuid → Bool)
    (assignmentBatchSize : ℕ) (queryNow now turnCompletedAt : ℕ) (draws : ℕ → Draw) :
    Except HttpException (Db × List Reassignment) := do
  require (1 ≤ assignmentBatchSize && assignmentBatchSize ≤ 100)
    (.internal "El lote de vencimientos debe estar entre 1 y 100.")
  match (db.subscriptions.find? subscriptionId).filter fun subscription =>
      subscription.status = .active && subscription.endsAt.any fun endsAt => endsAt ≤ queryNow with
  | none => .ok (db, [])
  | some subscription => do
    let done ← runEach (fun db assignment => beginReassignment db
        ⟨assignment, .cashierUnavailable, .cashierUnavailable, none⟩ now) db
      (((db.activeAssignments fun assignment =>
        assignment.cashierUserId = subscription.cashierUserId).filter fun assignment =>
          unlocked assignment.id).take assignmentBatchSize) draws
    require ((done.1.subscriptions.find? subscriptionId).any fun s =>
        s.status = .active && s.endsAt.any fun endsAt => endsAt ≤ turnCompletedAt)
      (.internal "El vencimiento cambio durante la conciliacion.")
    -- with clients left only the order of the next turns changes
    if done.1.load subscription.cashierUserId = 0 then do
      let subscriptions ← done.1.subscriptions.change subscriptionId
        (fun s => { s with status := .expired }) fun _ => rfl
      return ({ done.1 with subscriptions }, done.2)
    else return done

end Attendance

end SinoChat
