import SinoChat.Common.JsString
import SinoChat.Common.Table

/-!
# Accounts, relationships and the right to exchange events

The tables that decide who may talk to whom: users and their sessions and
devices, the published device identities, cashier profiles and
subscriptions, assignments and their conversations. Times are milliseconds.

Three conditions of the services are defined here over them: the session a
request comes from is current, two participants have one current
conversation (`lockCurrentByParticipants`), and a queued event is visible to
its recipient (the join of the sync query). They are close to each other but
not the same: the first two do not ask for the client's pending password
reset, the third does.
-/

namespace SinoChat

open Js

/-! ## Identifiers -/

/-- `/^[0-9a-f]{8}-[0-9a-f]{4}-[0-9a-f]{4}-[0-9a-f]{4}-[0-9a-f]{12}$/`. -/
def uuidPattern : List CharClass :=
  times 8 isLowerHex ++ lit "-" ++ times 4 isLowerHex ++ lit "-" ++ times 4 isLowerHex ++
    lit "-" ++ times 4 isLowerHex ++ lit "-" ++ times 12 isLowerHex

/-- The `uuid` test. -/
def uuid (value : JsString) : Bool := fixed uuidPattern value

/-- A UUID by its canonical text. -/
structure Uuid where
  text : JsString
  valid : uuid text = true
  deriving DecidableEq

namespace Uuid

theorem text_injective {a b : Uuid} (h : a.text = b.text) : a = b := by
  cases a
  cases b
  simpa using h

@[simp] theorem length_text (a : Uuid) : a.text.length = 36 := length_of_fixed a.valid

/-- The UUID a text is, if it is one. -/
def ofText? (text : JsString) : Option Uuid :=
  if h : uuid text = true then some ⟨text, h⟩ else none

@[simp] theorem ofText?_text (a : Uuid) : ofText? a.text = some a := by
  simp [ofText?, a.valid]

end Uuid

/-! ## Enumerations -/

/-- What a user is, client, cashier or administrator. -/
inductive UserRole where
  | client | cashier | admin
  deriving DecidableEq

/-- Where an account stands. No operation leaves `deleted`. -/
inductive AccountStatus where
  | pending | active | suspended | deleted
  deriving DecidableEq

/-- The verdict of the administrators on a cashier. -/
inductive CashierApprovalStatus where
  | pending | approved | rejected | revoked
  deriving DecidableEq

/-- The status of a subscription, beside which its times count. -/
inductive SubscriptionStatus where
  | active | inactive | expired | cancelled
  deriving DecidableEq

/-- A conversation is open until its assignment ends. -/
inductive ConversationStatus where
  | active | closed
  deriving DecidableEq

/-- A device is active until it is revoked. -/
inductive DeviceStatus where
  | active | revoked
  deriving DecidableEq

/-! ## Rows -/

/-- A row of `users`, as far as it decides who may do what. -/
structure User where
  id : Uuid
  role : UserRole
  status : AccountStatus
  passwordResetRequired : Bool
  sessionVersion : ℕ
  deriving DecidableEq

/-- A row of `devices`: whose it is, and whether it counts. -/
structure Device where
  id : Uuid
  userId : Uuid
  status : DeviceStatus
  deriving DecidableEq

/-- The identity a device published. -/
structure MatrixDeviceKey where
  deviceId : Uuid
  userId : Uuid
  matrixUserId : JsString
  matrixDeviceId : JsString
  curve25519Key : JsString
  deriving DecidableEq

/-- A row of `auth_sessions`, without its token. -/
structure AuthSession where
  id : Uuid
  userId : Uuid
  deviceId : Option Uuid
  sessionVersion : ℕ
  expiresAt : ℕ
  revokedAt : Option ℕ
  deriving DecidableEq

/-- A row of `cashier_profiles`: the approval and the two verifications. -/
structure CashierProfile where
  userId : Uuid
  approvalStatus : CashierApprovalStatus
  emailVerifiedAt : Option ℕ
  phoneVerifiedAt : Option ℕ
  deriving DecidableEq

/-- A row of `cashier_subscriptions`; one without an end never runs out. -/
structure CashierSubscription where
  id : Uuid
  cashierUserId : Uuid
  status : SubscriptionStatus
  startsAt : ℕ
  endsAt : Option ℕ
  deriving DecidableEq

/-- A client and the cashier who attends it; it is current until it ends. -/
structure Assignment where
  id : Uuid
  clientUserId : Uuid
  cashierUserId : Uuid
  endedAt : Option ℕ
  deriving DecidableEq

/-- The conversation of an assignment. -/
structure Conversation where
  id : Uuid
  assignmentId : Uuid
  status : ConversationStatus
  deriving DecidableEq

/-- The tables of accounts and relationships. -/
structure Accounts where
  users : Table Uuid User User.id
  devices : Table Uuid Device Device.id
  deviceKeys : Table Uuid MatrixDeviceKey MatrixDeviceKey.deviceId
  sessions : Table Uuid AuthSession AuthSession.id
  cashierProfiles : Table Uuid CashierProfile CashierProfile.userId
  subscriptions : Table Uuid CashierSubscription CashierSubscription.id
  assignments : Table Uuid Assignment Assignment.id
  conversations : Table Uuid Conversation Conversation.id

/-- The authenticated caller of a request. -/
structure SessionPrincipal where
  id : Uuid
  role : UserRole
  sessionId : Uuid
  deviceId : Option Uuid
  deriving DecidableEq

namespace Accounts

variable (accounts : Accounts)

/-! ## Sessions -/

/-- The user may act at all: `lockOperationalUser`. -/
def operational (userId : Uuid) : Bool :=
  match accounts.users.find? userId with
  | some user =>
    user.status != .suspended && user.status != .deleted && !user.passwordResetRequired
  | none => false

/-- The condition `requireCurrentSender` and `lockSyncContext` both put on the
session of the caller: it is bound to the device, neither revoked nor expired
nor outdated, and its user and device are active. -/
def currentSession (principal : SessionPrincipal) (deviceId : Uuid) (now : ℕ) : Bool :=
  match accounts.sessions.find? principal.sessionId, accounts.users.find? principal.id,
      accounts.devices.find? deviceId with
  | some session, some user, some device =>
    session.userId == principal.id && session.deviceId == some deviceId &&
      session.revokedAt == none && now < session.expiresAt &&
      session.sessionVersion == user.sessionVersion && user.status == .active &&
      !user.passwordResetRequired && device.status == .active
  | _, _, _ => false

/-- The condition `requireCurrentSession` of the key directory puts on the
session: the same, without the device's own state. -/
def currentUserSession (principal : SessionPrincipal) (deviceId : Uuid) (now : ℕ) : Bool :=
  match accounts.sessions.find? principal.sessionId, accounts.users.find? principal.id with
  | some session, some user =>
    session.userId == principal.id && session.deviceId == some deviceId &&
      session.revokedAt == none && now < session.expiresAt &&
      session.sessionVersion == user.sessionVersion && user.status == .active &&
      !user.passwordResetRequired
  | _, _ => false

/-! ## Current conversations -/

/-- A subscription row is in force. -/
def inForce (now : ℕ) (subscription : CashierSubscription) : Bool :=
  subscription.status == .active && subscription.startsAt ≤ now &&
    match subscription.endsAt with
    | some endsAt => now < endsAt
    | none => true

/-- The cashier may receive clients: role, state and verified profile. -/
def availableCashier (cashierUserId : Uuid) : Bool :=
  match accounts.cashierProfiles.find? cashierUserId, accounts.users.find? cashierUserId with
  | some profile, some user =>
    profile.approvalStatus == .approved && profile.emailVerifiedAt.isSome &&
      profile.phoneVerifiedAt.isSome && user.role == .cashier && user.status == .active &&
      !user.passwordResetRequired
  | _, _ => false

/-- `client_user."role" = 'CLIENT' AND client_user."status" = 'ACTIVE'`. -/
def activeClient (clientUserId : Uuid) : Bool :=
  match accounts.users.find? clientUserId with
  | some user => user.role == .client && user.status == .active
  | none => false

/-- The rows of the eligibility query for two participants: one for every
active conversation of a running assignment and every subscription in force. -/
def currentByParticipants (clientUserId cashierUserId : Uuid) (now : ℕ) : List Conversation :=
  accounts.conversations.rows.flatMap fun conversation =>
    match accounts.assignments.find? conversation.assignmentId with
    | some assignment =>
      if assignment.clientUserId = clientUserId ∧ assignment.cashierUserId = cashierUserId ∧
          assignment.endedAt = none ∧ conversation.status = .active ∧
          accounts.availableCashier cashierUserId ∧ accounts.activeClient clientUserId then
        (accounts.subscriptions.rows.filter fun subscription =>
          subscription.cashierUserId == cashierUserId && inForce now subscription).map
            fun _ => conversation
      else []
    | none => []

/-- The rows of the eligibility query for one conversation, a participant
and the participant's device: the two parties, once for every subscription
in force. -/
def currentOfConversation (userId conversationId deviceId : Uuid) (now : ℕ) :
    List (Uuid × Uuid) :=
  match accounts.conversations.find? conversationId, accounts.devices.find? deviceId with
  | some conversation, some device =>
    match accounts.assignments.find? conversation.assignmentId with
    | some assignment =>
      if conversation.status = .active ∧ assignment.endedAt = none ∧
          (userId = assignment.clientUserId ∨ userId = assignment.cashierUserId) ∧
          device.userId = userId ∧ device.status = .active ∧
          accounts.availableCashier assignment.cashierUserId ∧
          accounts.activeClient assignment.clientUserId then
        (accounts.subscriptions.rows.filter fun subscription =>
          subscription.cashierUserId == assignment.cashierUserId &&
            inForce now subscription).map
          fun _ => (assignment.clientUserId, assignment.cashierUserId)
      else []
    | none => []
  | _, _ => []

/-- The same rows for a participant, whatever the device. -/
def currentForParticipant (userId conversationId : Uuid) (now : ℕ) : List (Uuid × Uuid) :=
  match accounts.conversations.find? conversationId with
  | some conversation =>
    match accounts.assignments.find? conversation.assignmentId with
    | some assignment =>
      if conversation.status = .active ∧ assignment.endedAt = none ∧
          (userId = assignment.clientUserId ∨ userId = assignment.cashierUserId) ∧
          accounts.availableCashier assignment.cashierUserId ∧
          accounts.activeClient assignment.clientUserId then
        (accounts.subscriptions.rows.filter fun subscription =>
          subscription.cashierUserId == assignment.cashierUserId &&
            inForce now subscription).map
          fun _ => (assignment.clientUserId, assignment.cashierUserId)
      else []
    | none => []
  | none => []

/-! ## Visible events -/

/-- An active user without a pending reset. -/
def reachableUser (userId : Uuid) : Bool :=
  match accounts.users.find? userId with
  | some user => user.status == .active && !user.passwordResetRequired
  | none => false

/-- The `EXISTS` of the sync query: the conversation runs between the two
users and both of its parties are in good standing. -/
def liveConversation (conversationId senderUserId recipientUserId : Uuid) (now : ℕ) : Bool :=
  match accounts.conversations.find? conversationId with
  | none => false
  | some conversation =>
    match accounts.assignments.find? conversation.assignmentId with
    | none => false
    | some assignment =>
      conversation.status == .active && assignment.endedAt == none &&
        (senderUserId == assignment.clientUserId || senderUserId == assignment.cashierUserId) &&
        (recipientUserId == assignment.clientUserId ||
          recipientUserId == assignment.cashierUserId) &&
        senderUserId != recipientUserId &&
        accounts.activeClient assignment.clientUserId &&
        accounts.reachableUser assignment.clientUserId &&
        accounts.availableCashier assignment.cashierUserId &&
        accounts.subscriptions.rows.any fun subscription =>
          subscription.cashierUserId == assignment.cashierUserId && inForce now subscription

/-- The join and the conditions of the sync query for one event, given its
sender's device, its recipient and its conversation: the sender's Matrix id
where the event is visible. -/
def visibleSender (senderDeviceId recipientDeviceId recipientUserId : Uuid)
    (conversationId : Option Uuid) (now : ℕ) : Option JsString :=
  match accounts.devices.find? senderDeviceId, accounts.deviceKeys.find? senderDeviceId,
      accounts.devices.find? recipientDeviceId with
  | some senderDevice, some senderKeys, some recipientDevice =>
    if recipientDevice.userId = recipientUserId ∧ senderDevice.status = .active ∧
        recipientDevice.status = .active ∧ accounts.reachableUser senderDevice.userId ∧
        accounts.reachableUser recipientUserId ∧
        ((senderDevice.userId = recipientUserId ∧ conversationId = none) ∨
          (conversationId.any fun conversation =>
            accounts.liveConversation conversation senderDevice.userId recipientUserId now)) then
      some senderKeys.matrixUserId
    else none
  | _, _, _ => none

end Accounts

end SinoChat
