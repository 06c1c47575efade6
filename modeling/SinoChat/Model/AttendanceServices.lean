import SinoChat.Model.Attendance

/-!
# The services around the assignments

The operations of `moderation.service.ts`, `admin-users.service.ts`,
`auth.service.ts` and `cashier-invitations.service.ts` that begin, end or wait
for an assignment, or change what an assignment depends on: accounts,
approvals, subscriptions, invitations and published devices. Each is one
transaction. Its clock readings come in the order it takes them, `reads 0`
first.
-/

namespace SinoChat

open Js

namespace Attendance

/-! ## Shared checks -/

/-- The `catch` that turns a violated unique index into a conflict. -/
def orConflict {α : Type} (message : String) : Except HttpException α → Except HttpException α
  | .error (.internal cause) =>
    if cause = "Unique constraint failed." then .error (.conflict message)
    else .error (.internal cause)
  | result => result

theorem orConflict_eq_ok {α : Type} {message : String} {result : Except HttpException α} {a : α} :
    orConflict message result = .ok a ↔ result = .ok a := by
  unfold orConflict
  split
  · split <;> simp
  · exact Iff.rfl

/-- `assertPeriodStillActive`. -/
def assertPeriodStillActive (subscriptionEndsAt : Option ℕ) (now : ℕ) :
    Except HttpException Unit :=
  require (subscriptionEndsAt.all fun endsAt => now < endsAt)
    (.forbidden "La suscripcion del cajero vencio.")

namespace Db

variable (db : Db)

/-- The user an administrator acts on. -/
def getActionTarget (userId : Uuid) : Except HttpException User :=
  orThrow (db.users.find? userId) (.withMessage 404 "El usuario no existe.")

/-- Write a row of `users`. -/
def setUser (userId : Uuid) (f : User → User) (hf : ∀ u, (f u).id = u.id) : Db :=
  { db with users := db.users.update userId f hf }

/-- The cashier of the eligibility query: role, state and verified profile. -/
def availableCashier (cashierUserId : Uuid) : Bool :=
  (db.cashierProfiles.find? cashierUserId).any (fun profile =>
    profile.approvalStatus = .approved && profile.emailVerifiedAt.isSome &&
      profile.phoneVerifiedAt.isSome) &&
  (db.users.find? cashierUserId).any fun user =>
    user.role = .cashier && user.status = .active && !user.passwordResetRequired

/-- The rows of `lockCurrentByParticipants`: an assignment and the end of the
subscription it is current by. -/
def currentByParticipants (clientUserId cashierUserId : Uuid) (now : ℕ) :
    List (Assignment × Option ℕ) :=
  (db.assignments.rows.filter fun assignment =>
    assignment.clientUserId = clientUserId && assignment.cashierUserId = cashierUserId &&
      assignment.endedAt = none &&
      ((db.conversations.find? assignment.id).any fun c => c.status = .active) &&
      db.availableCashier cashierUserId && db.activeClient clientUserId).flatMap fun assignment =>
    (db.subscriptions.rows.filter fun subscription =>
      subscription.cashierUserId = cashierUserId && Accounts.inForce now subscription).map
      fun subscription => (assignment, subscription.endsAt)

/-- The one current assignment of a client and a cashier, with the end of the subscription. -/
def lockCurrentByParticipants (clientUserId cashierUserId : Uuid) (now : ℕ) :
    Except HttpException (Assignment × Option ℕ) :=
  match db.currentByParticipants clientUserId cashierUserId now with
  | [] => .error (.forbidden "Conversacion no disponible.")
  | [access] => .ok access
  | _ => .error (.internal "Se detecto mas de una elegibilidad activa.")

/-- `tx.block.create`: a client, a cashier and an initiator have one block. -/
def createBlock (block : Block) : Except HttpException Db := do
  require (db.blocks.rows.all fun other =>
      !(other.clientUserId = block.clientUserId && other.cashierUserId = block.cashierUserId &&
        other.initiatedBy = block.initiatedBy))
    (.internal "Unique constraint failed.")
  let blocks ← db.blocks.create block
  return { db with blocks }

/-- The cashiers that have blocked a client. -/
def blockingCashiers (clientUserId : Uuid) : List Uuid :=
  (db.blocks.rows.filter fun block =>
    block.clientUserId = clientUserId && block.initiatedBy = .cashier).map Block.cashierUserId

end Db

/-! ## Moderation -/

/-- `CASHIER_BLOCK_REVIEW_THRESHOLD`. -/
def cashierBlockReviewThreshold : ℕ := 5

/-- Enough different cashiers have blocked the client. -/
def requiresAccountReview (cashierUserIds : List Uuid) : Bool :=
  cashierBlockReviewThreshold ≤ cashierUserIds.dedup.length

/-- The transaction of `blockClient`. -/
def blockClient (db : Db) (cashierUserId clientUserId blockId : Uuid) (reads : ℕ → ℕ)
    (draw : Draw) : Except HttpException (Db × List Reassignment) :=
  orConflict "Este cajero ya bloqueó anteriormente al cliente." do
    let access ← db.lockCurrentByParticipants clientUserId cashierUserId (reads 0)
    let blocked ← db.createBlock ⟨blockId, clientUserId, cashierUserId, access.1.id, .cashier⟩
    assertPeriodStillActive access.2 (reads 1)
    if requiresAccountReview (blocked.blockingCashiers clientUserId) then do
      let ended ← endAssignment blocked access.1 .cashierBlockedClient (reads 1)
      assertPeriodStillActive access.2 (reads 2)
      return (ended.setUser clientUserId (fun u => { u with
        status := .suspended
        suspensionReasonCode := some .fiveDistinctCashierBlocks }) fun _ => rfl, [])
    else do
      let done ← beginReassignment blocked
        ⟨access.1, .cashierBlockedClient, .cashierBlockedClient, some blockId⟩ (reads 2) draw
      assertPeriodStillActive access.2 (reads 3)
      return (done.1, [done.2])

/-- The transaction of `reportCashier`, from the assignment on: its grant and
its reservation belong to the evidence. -/
def reportCashier (db : Db) (clientUserId assignmentId blockId reportId : Uuid) (now : ℕ)
    (draw : Draw) : Except HttpException (Db × List Reassignment) :=
  orConflict "Este cliente y cajero ya tienen un bloqueo equivalente." do
    let assignment ← orThrow ((db.assignments.find? assignmentId).filter fun assignment =>
        assignment.clientUserId = clientUserId && assignment.endedAt = none &&
          db.activeClient clientUserId &&
          ((db.conversations.find? assignmentId).any fun c => c.status = .active))
      (.conflict "La asignación cambió antes de completar el reporte.")
    let blocked ← db.createBlock
      ⟨blockId, clientUserId, assignment.cashierUserId, assignment.id, .client⟩
    let reports ← blocked.reports.create ⟨reportId, blockId⟩
    let done ← beginReassignment { blocked with reports }
      ⟨assignment, .clientReportedCashier, .clientReportedCashier, some blockId⟩ now draw
    return (done.1, [done.2])

/-! ## Administration of accounts -/

/-- Administrators are not managed here. -/
def assertManageableRole (role : UserRole) : Except HttpException Unit :=
  require (role ≠ .admin) (.forbidden "Este endpoint no modifica cuentas administradoras.")

/-- `validEnd`: an end behind the start. -/
def validEnd (startsAt proposed : ℕ) : ℕ := if startsAt < proposed then proposed else startsAt + 1

/-- Close the active subscriptions of a cashier. -/
def Db.endSubscriptions (db : Db) (cashierUserId : Uuid) (status : SubscriptionStatus)
    (proposed : CashierSubscription → ℕ) : Db :=
  { db with
    subscriptions := db.subscriptions.modify
      (fun s => if s.cashierUserId = cashierUserId ∧ s.status = .active then
        { s with status, endsAt := some (validEnd s.startsAt (proposed s)) } else s)
      (by intro s; split <;> rfl) }

/-- Revoke the open invitations of a cashier. -/
def Db.revokeInvitations (db : Db) (cashierUserId : Uuid) (now : ℕ) : Db :=
  { db with
    invitations := db.invitations.modify
      (fun i => if i.cashierUserId = cashierUserId ∧ i.revokedAt = none then
        { i with revokedAt := some now } else i)
      (by intro i; split <;> rfl) }

theorem userId_setApproval (status : CashierApprovalStatus) (p : CashierProfile) :
    ({ p with approvalStatus := status } : CashierProfile).userId = p.userId := rfl

/-- The relationships and rights a deleted account loses. -/
def endRelationships (db : Db) (user : User) (now now' : ℕ) (draws : ℕ → Draw) :
    Except HttpException (Db × List Reassignment) :=
  match user.role with
  | .client => .ok (endClientRelationshipsForDeletion db user.id now, [])
  | .cashier => do
    let done ← reassignCashierClients db user.id .accountDeleted now' draws
    let cancelled := (done.1.endSubscriptions user.id .cancelled fun _ => now).revokeInvitations
      user.id now
    let cashierProfiles ← cancelled.cashierProfiles.change user.id
      (fun p => { p with approvalStatus := .revoked }) (userId_setApproval .revoked)
    return ({ cancelled with cashierProfiles }, done.2)
  | .admin => .ok (db, [])

/-- An account is deleted: a client's assignment ends, a cashier's clients are reassigned. -/
def deleteUser (db : Db) (userId : Uuid) (reads : ℕ → ℕ) (draws : ℕ → Draw) :
    Except HttpException (Db × List Reassignment) := do
  let user ← db.getActionTarget userId
  assertManageableRole user.role
  require (user.status ≠ .deleted) (.conflict "La cuenta ya está eliminada.")
  require (user.role ≠ .cashier || (db.cashierProfiles.find? userId).isSome)
    (.conflict "El perfil del cajero está incompleto.")
  let done ← endRelationships db user (reads 0) (reads 1) draws
  return (done.1.setUser userId (fun u => { u with
    status := .deleted, suspensionReasonCode := none }) fun _ => rfl, done.2)

/-- An administrator has a cashier's password reset. -/
def resetPassword (db : Db) (userId : Uuid) : Except HttpException (Db × List Reassignment) := do
  let user ← db.getActionTarget userId
  assertManageableRole user.role
  require (user.role = .cashier) (.forbidden
    "Solo las cuentas de cajero admiten restablecimiento administrativo de contraseña.")
  require (user.status ≠ .deleted)
    (.conflict "No se puede restablecer la contraseña de una cuenta eliminada.")
  return ((db.setUser userId (fun u => { u with passwordResetRequired := true }) fun _ => rfl)
    |>.publishCurrentRelationshipsForUser userId .left, [])

/-- The effect of `completeAdminReset` for an open reset and a valid code. -/
def completeAdminReset (db : Db) (userId : Uuid) :
    Except HttpException (Db × List Reassignment) := do
  let user ← db.getActionTarget userId
  require (user.role = .cashier && user.passwordResetRequired && user.status ≠ .deleted)
    (.withBody 401 (.obj [
      (js "code", .str (js "ADMIN_PASSWORD_RESET_INVALID")),
      (js "message",
        .str (js "No se pudo completar el restablecimiento con los datos proporcionados."))]))
  return ((db.setUser userId (fun u => { u with passwordResetRequired := false }) fun _ => rfl)
    |>.publishCurrentRelationshipsForUser userId .changed, [])

/-- A cashier is approved, and the clients who wait are served. -/
def approveCashier (db : Db) (cashierUserId : Uuid) (reads : ℕ → ℕ) (draws : ℕ → Draw) :
    Except HttpException (Db × List Reassignment) := do
  let user ← db.getActionTarget cashierUserId
  require (user.role = .cashier) (.badRequest "El usuario no es cajero.")
  let profile ← orThrow (db.cashierProfiles.find? cashierUserId)
    (.conflict "El perfil del cajero está incompleto.")
  require (profile.approvalStatus ≠ .approved) (.conflict "El cajero ya está aprobado.")
  require (user.status ≠ .suspended && user.status ≠ .deleted)
    (.conflict "No se puede aprobar una cuenta suspendida o eliminada.")
  let cashierProfiles ← db.cashierProfiles.change cashierUserId
    (fun p => { p with
      approvalStatus := .approved, emailVerifiedAt := some (reads 0)
      phoneVerifiedAt := some (reads 0) }) fun _ => rfl
  retryPending (Db.setUser { db with cashierProfiles } cashierUserId
    (fun u => { u with status := .active, suspensionReasonCode := none }) fun _ => rfl)
    100 (reads 1) draws

/-- An account is suspended: a client's assignment ends, a cashier's clients are reassigned. -/
def suspend (db : Db) (userId : Uuid) (reads : ℕ → ℕ) (draws : ℕ → Draw) :
    Except HttpException (Db × List Reassignment) := do
  let user ← db.getActionTarget userId
  assertManageableRole user.role
  require (user.status ≠ .suspended) (.conflict "La cuenta ya está suspendida.")
  require (user.status ≠ .deleted) (.conflict "La cuenta está eliminada.")
  let suspended := db.setUser userId (fun u => { u with
    status := .suspended, suspensionReasonCode := some .userSuspended }) fun _ => rfl
  match user.role with
  | .client => .ok (suspended.publishCurrentRelationshipsForUser userId .left, [])
  | .cashier => reassignCashierClients suspended userId .cashierSuspended (reads 1) draws
  | .admin => .ok (suspended, [])

/-- The state a reactivated account returns to. -/
def restoredStatus (db : Db) (user : User) : AccountStatus :=
  if user.role = .cashier ∧ (db.cashierProfiles.find? user.id).all fun profile =>
      profile.approvalStatus ≠ .approved then .pending else .active

/-- A suspended account is active again; a pending request of a client is retried. -/
def reactivate (db : Db) (userId : Uuid) (reads : ℕ → ℕ) (draws : ℕ → Draw) :
    Except HttpException (Db × List Reassignment) := do
  let user ← db.getActionTarget userId
  assertManageableRole user.role
  require (user.status = .suspended) (.conflict "La cuenta no está suspendida.")
  let restored := db.setUser userId (fun u => { u with
    status := restoredStatus db user, suspensionReasonCode := none }) fun _ => rfl
  if user.role = .cashier then
    if restoredStatus db user = .active then retryPending restored 100 (reads 1) draws
    else .ok (restored, [])
  else
    retryClientPending (restored.publishCurrentRelationshipsForUser userId .changed) userId
      (reads 1) (draws 0)

/-- The effect of `update` on the profile of a cashier whose email or phone changes. -/
def updateContact (db : Db) (userId : Uuid) (emailChanged phoneChanged : Bool) (now : ℕ) :
    Except HttpException (Db × List Reassignment) := do
  let user ← db.getActionTarget userId
  assertManageableRole user.role
  require (user.status ≠ .deleted) (.conflict "La cuenta está eliminada.")
  require (user.role = .cashier)
    (.badRequest "El correo y el teléfono solo corresponden a cuentas de cajero.")
  let profile ← orThrow (db.cashierProfiles.find? userId)
    (.conflict "El perfil del cajero está incompleto.")
  let verifiedAt := if profile.approvalStatus = .approved then some now else none
  let cashierProfiles ← db.cashierProfiles.change userId
    (fun p => { p with
      emailVerifiedAt := if emailChanged then verifiedAt else p.emailVerifiedAt
      phoneVerifiedAt := if phoneChanged then verifiedAt else p.phoneVerifiedAt }) fun _ => rfl
  return ({ db with cashierProfiles }, [])

/-! ## Subscriptions -/

/-- The user is a cashier who is not deleted. -/
def assertCashier (db : Db) (cashierUserId : Uuid) : Except HttpException Unit :=
  require ((db.cashierProfiles.find? cashierUserId).isSome &&
      (db.users.find? cashierUserId).any fun user =>
        user.role = .cashier && user.status ≠ .deleted)
    (.withMessage 404 "El cajero no existe.")

/-- The subscriptions of a cashier with state `ACTIVE`, in force or not. -/
def Db.activeSubscriptions (db : Db) (cashierUserId : Uuid) : List CashierSubscription :=
  db.subscriptions.rows.filter fun s => s.cashierUserId = cashierUserId && s.status = .active

/-- A cashier without an active subscription gets one, and the clients who wait are served. -/
def activateSubscription (db : Db) (cashierUserId subscriptionId : Uuid) (endsAt : Option ℕ)
    (reads : ℕ → ℕ) (draws : ℕ → Draw) : Except HttpException (Db × List Reassignment) := do
  assertCashier db cashierUserId
  require (endsAt.all fun endsAt => reads 0 < endsAt)
    (.badRequest "El vencimiento debe ser posterior al momento actual.")
  let active := db.activeSubscriptions cashierUserId
  require (!active.any fun s => Accounts.inForce (reads 0) s)
    (.conflict "La suscripción ya está activa.")
  require (!active.any fun s => s.endsAt.any fun endsAt => endsAt ≤ reads 0)
    (.conflict ("La suscripción vencida aún está conciliando su clientela. Espera al worker e " ++
      "inténtalo nuevamente."))
  require (active = []) (.conflict "Ya existe un período de suscripción activo o programado.")
  let subscriptions ← db.subscriptions.create
    ⟨subscriptionId, cashierUserId, .active, reads 0, endsAt⟩
  retryPending { db with subscriptions } 100 (reads 1) draws

/-- The active subscriptions end, and the clients are reassigned. -/
def deactivateSubscription (db : Db) (cashierUserId : Uuid) (reads : ℕ → ℕ) (draws : ℕ → Draw) :
    Except HttpException (Db × List Reassignment) := do
  assertCashier db cashierUserId
  require (db.activeSubscriptions cashierUserId ≠ [])
    (.conflict "El cajero no tiene una suscripción activa.")
  let ended := db.endSubscriptions cashierUserId .inactive fun s =>
    match s.endsAt with
    | some endsAt => if endsAt ≤ reads 0 then endsAt else reads 0
    | none => reads 0
  reassignCashierClients ended cashierUserId .cashierUnavailable (reads 1) draws

/-! ## Registration and invitations -/

/-- `registerClient` with an invitation that was found open before. -/
def registerClient (db : Db) (clientUserId invitationId : Uuid) (now : ℕ) (draw : Draw) :
    Except HttpException (Db × List Reassignment) := do
  let invitation ← orThrow (db.invitations.find? invitationId)
    (.badRequest "El código no es válido o el cajero no está disponible.")
  let users ← db.users.create ⟨clientUserId, .client, .active, false, none⟩
  let assignments ← db.assignments.create
    { id := draw.assignmentId, clientUserId, cashierUserId := invitation.cashierUserId
      invitationId := some invitationId, previousAssignmentId := none, startReason := .invitation
      startedAt := now, endedAt := none, endReason := none }
  let conversations ← db.conversations.create ⟨draw.conversationId, draw.assignmentId, .active⟩
  return ({ db with users, assignments, conversations }, [])

/-- `registerCashier` with an open onboarding invitation. -/
def registerCashier (db : Db) (cashierUserId : Uuid) :
    Except HttpException (Db × List Reassignment) := do
  let users ← db.users.create ⟨cashierUserId, .cashier, .pending, false, none⟩
  let cashierProfiles ← db.cashierProfiles.create ⟨cashierUserId, .pending, none, none⟩
  return ({ db with users, cashierProfiles }, [])

/-- `CashierInvitationsService.rotate`. -/
def rotateInvitation (db : Db) (cashierUserId invitationId : Uuid) (now : ℕ) :
    Except HttpException (Db × List Reassignment) := do
  require (db.availableCashier cashierUserId && db.subscribed cashierUserId now)
    (.forbidden "El cajero no esta disponible para esta accion.")
  let invitations ← (db.revokeInvitations cashierUserId now).invitations.create
    ⟨invitationId, cashierUserId, now, none⟩
  return ({ db with invitations }, [])

/-! ## Published devices -/

/-- The user and every current counterpart. -/
def Db.currentRelationshipRecipients (db : Db) (userId : Uuid) : List Uuid :=
  (userId :: (db.currentRelationships userId).map fun assignment =>
    if assignment.clientUserId = userId then assignment.cashierUserId
    else assignment.clientUserId).dedup

/-- A change of the device set: another device, a revocation or a cross-signing identity. -/
def changeDeviceSet (db : Db) (userId : Uuid) : Except HttpException (Db × List Reassignment) := do
  require (db.availableUser userId) (.unauthorized "La sesion ya no esta vigente.")
  return ({ db with
    lists := db.lists.publish userId (db.currentRelationshipRecipients userId) .changed true }, [])

/-- The first device of a user. -/
def publishFirstDevice (db : Db) (userId : Uuid) (matrixUserId : JsString) :
    Except HttpException (Db × List Reassignment) := do
  require (db.availableUser userId) (.unauthorized "La sesion ya no esta vigente.")
  require (db.lists.states userId).isNone (.conflict "La cuenta ya posee historial de dispositivo.")
  let recipients := db.currentRelationshipRecipients userId
  let announced := (db.lists.register userId matrixUserId).publish userId recipients .changed true
  return ({ db with
    lists := (recipients.filter fun peer => peer != userId).foldl
      (fun lists peer => lists.publish peer [userId] .changed false) announced }, [])

end Attendance

end SinoChat
