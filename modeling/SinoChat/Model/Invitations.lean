import SinoChat.Model.AttendanceTriggers

/-!
# Registrations and invitations, concurrently

The registration of a client, the rotation of an invitation and the deletion
of a cashier as transactions that take several steps each. Registrations and
deletions are serializable: they work on a snapshot, and one does not commit
after the other has changed what it read. A rotation is read committed; it
locks its cashier's rows, so no deletion of the cashier commits meanwhile.
-/

namespace SinoChat

namespace Attendance

/-- Where a transaction stands. -/
inductive Phase where
  /-- A registration has found its invitation open. -/
  | found (clientUserId invitationId : Uuid)
  /-- A registration has begun, with its start and its snapshot. -/
  | registering (clientUserId invitationId : Uuid) (startedAt : ℕ) (snapshot : Db)
  /-- A rotation has locked its cashier and read the clock. -/
  | rotating (cashierUserId invitationId : Uuid) (now : ℕ)
  /-- A deletion has its snapshot, then also its clock reading. -/
  | deleting (cashierUserId : Uuid) (snapshot : Db) (now : Option ℕ)

/-- A request with the step it is at. -/
structure InvitationAttempt where
  id : ℕ
  phase : Phase

/-- The clock, the tables and the requests under way. -/
structure InvitationWorld where
  clock : ℕ
  db : Db
  running : Table ℕ InvitationAttempt InvitationAttempt.id

namespace InvitationWorld

variable (w : InvitationWorld)

/-- The phase of a running transaction. -/
def phase (n : ℕ) : Option Phase := (w.running.find? n).map InvitationAttempt.phase

/-- A transaction starts. -/
def starts (n : ℕ) (phase : Phase) (h : w.running.find? n = none) : InvitationWorld :=
  { w with running := w.running.insert ⟨n, phase⟩ h }

/-- A transaction goes on. -/
def moves (n : ℕ) (phase : Phase) : InvitationWorld :=
  { w with running := w.running.update n (fun r => { r with phase }) fun _ => rfl }

/-- A transaction is over, with the tables it leaves. -/
def ends (n : ℕ) (db : Db) : InvitationWorld :=
  { w with db, running := w.running.remove n }

/-- Somebody rotates the invitation of the cashier. -/
def rotates (cashierUserId : Uuid) : Bool :=
  w.running.rows.any fun r => match r.phase with
    | .rotating k _ _ => k = cashierUserId
    | _ => false

end InvitationWorld

/-- The open invitation `registerClient` looks for, of a cashier in service. -/
def Db.findInvitation (db : Db) (invitationId : Uuid) (now : ℕ) : Option CashierInvitation :=
  (db.invitations.find? invitationId).filter fun invitation =>
    invitation.revokedAt = none && db.validAssignee invitation.cashierUserId now

/-- What happened, with the number of the request. -/
inductive InvitationAction where
  | found (n : ℕ)
  | began (n : ℕ)
  | registered (n : ℕ)
  | retried (n : ℕ)
  | rotationRead (n : ℕ)
  | rotated (n : ℕ)
  | deletionBegan (n : ℕ)
  | deletionRead (n : ℕ)
  | deleted (n : ℕ)
  | aborted (n : ℕ)
  | ticked

/-- **The steps.** -/
inductive InvitationStep : InvitationWorld → InvitationAction → InvitationWorld → Prop
  | find {w : InvitationWorld} {n : ℕ} {clientUserId invitationId : Uuid}
      {invitation : CashierInvitation} (hfree : w.running.find? n = none) :
      w.db.findInvitation invitationId w.clock = some invitation →
      InvitationStep w (.found n) (w.starts n (.found clientUserId invitationId) hfree)
  | begin {w : InvitationWorld} {n : ℕ} {clientUserId invitationId : Uuid} :
      w.phase n = some (.found clientUserId invitationId) →
      InvitationStep w (.began n)
        (w.moves n (.registering clientUserId invitationId w.clock w.db))
  /-- A registration commits: its rows pass the triggers in its snapshot, and
  no deletion of its cashier has committed since. -/
  | register {w : InvitationWorld} {n : ℕ} {clientUserId invitationId : Uuid} {startedAt : ℕ}
      {snapshot mine db' : Db} {invitation : CashierInvitation} {draw : Draw} :
      w.phase n = some (.registering clientUserId invitationId startedAt snapshot) →
      registerClient snapshot clientUserId invitationId startedAt draw = .ok (mine, []) →
      commitChecks w.clock snapshot mine = true →
      snapshot.invitations.find? invitationId = some invitation →
      w.db.users.find? invitation.cashierUserId =
        snapshot.users.find? invitation.cashierUserId →
      registerClient w.db clientUserId invitationId startedAt draw = .ok (db', []) →
      InvitationStep w (.registered n) (w.ends n db')
  /-- A registration fails to serialize and begins again. -/
  | retry {w : InvitationWorld} {n : ℕ} {clientUserId invitationId : Uuid} {startedAt : ℕ}
      {snapshot : Db} :
      w.phase n = some (.registering clientUserId invitationId startedAt snapshot) →
      InvitationStep w (.retried n) (w.moves n (.found clientUserId invitationId))
  | readRotation {w : InvitationWorld} {n : ℕ} {cashierUserId invitationId : Uuid}
      (hfree : w.running.find? n = none) :
      (w.db.availableCashier cashierUserId && w.db.subscribed cashierUserId w.clock) = true →
      InvitationStep w (.rotationRead n)
        (w.starts n (.rotating cashierUserId invitationId w.clock) hfree)
  /-- A rotation commits; no invitation is revoked before it was created. -/
  | rotate {w : InvitationWorld} {n : ℕ} {cashierUserId invitationId : Uuid} {now : ℕ} {db' : Db} :
      w.phase n = some (.rotating cashierUserId invitationId now) →
      (∀ invitation ∈ w.db.invitations, invitation.cashierUserId = cashierUserId →
        invitation.revokedAt = none → invitation.createdAt ≤ now) →
      rotateInvitation w.db cashierUserId invitationId now = .ok (db', []) →
      InvitationStep w (.rotated n) (w.ends n db')
  | beginDeletion {w : InvitationWorld} {n : ℕ} {cashierUserId : Uuid} {user : User}
      (hfree : w.running.find? n = none) :
      w.db.users.find? cashierUserId = some user → user.role = .cashier →
      InvitationStep w (.deletionBegan n) (w.starts n (.deleting cashierUserId w.db none) hfree)
  | readDeletion {w : InvitationWorld} {n : ℕ} {cashierUserId : Uuid} {snapshot : Db} :
      w.phase n = some (.deleting cashierUserId snapshot none) →
      InvitationStep w (.deletionRead n)
        (w.moves n (.deleting cashierUserId snapshot (some w.clock)))
  /-- A deletion commits when nobody rotates the invitation of its cashier and
  what it read of the cashier is as in its snapshot. -/
  | delete {w : InvitationWorld} {n : ℕ} {cashierUserId : Uuid} {snapshot db' : Db} {now : ℕ}
      {user : User} {draws : ℕ → Draw} {reassignments : List Reassignment} :
      w.phase n = some (.deleting cashierUserId snapshot (some now)) →
      w.rotates cashierUserId = false →
      w.db.users.find? cashierUserId = some user → user.role = .cashier →
      (∀ a, a.cashierUserId = cashierUserId →
        (a ∈ w.db.assignments ↔ a ∈ snapshot.assignments)) →
      (∀ invitation, invitation.cashierUserId = cashierUserId →
        (invitation ∈ w.db.invitations ↔ invitation ∈ snapshot.invitations)) →
      deleteUser w.db cashierUserId (fun _ => now) draws = .ok (db', reassignments) →
      commitChecks w.clock w.db db' = true →
      InvitationStep w (.deleted n) (w.ends n db')
  | abort {w : InvitationWorld} {n : ℕ} : InvitationStep w (.aborted n) (w.ends n w.db)
  | tick {w : InvitationWorld} {clock : ℕ} :
      w.clock ≤ clock → InvitationStep w .ticked { w with clock }

/-- Cashiers and clients as they may be, no invitation, no assignment and
nothing under way. -/
def InvitationInitial (w : InvitationWorld) : Prop :=
  w.db.invitations = Table.empty ∧ w.db.assignments = Table.empty ∧ w.running = Table.empty

/-- **Registrations, rotations and deletions.** -/
def invitations : Machine InvitationWorld InvitationAction where
  init := InvitationInitial
  step := InvitationStep

end Attendance

end SinoChat
