import SinoChat.Model.DeviceBinding

/-!
# What the requests of the authentication do

One lemma for each function: the checks that it passed and the tables that it left.
-/

namespace SinoChat

open Js

namespace Auth

variable {env : Env} {db db' : Db} {userId : Uuid} {seen : Uuid → Bool} {now : ℕ}

/-! ## Tables that stay -/

/-- No account, profile or credential changed. -/
structure SameAccounts (db db' : Db) : Prop where
  users : db'.users = db.users
  cashierProfiles : db'.cashierProfiles = db.cashierProfiles
  recoveryCodes : db'.recoveryCodes = db.recoveryCodes
  resets : db'.resets = db.resets

theorem SameAccounts.refl (db : Db) : SameAccounts db db := ⟨rfl, rfl, rfl, rfl⟩

theorem SameAccounts.trans {db'' : Db} (h : SameAccounts db db') (h' : SameAccounts db' db'') :
    SameAccounts db db'' :=
  ⟨h'.users.trans h.users, h'.cashierProfiles.trans h.cashierProfiles,
    h'.recoveryCodes.trans h.recoveryCodes, h'.resets.trans h.resets⟩

/-- No device or reservation changed. -/
structure SameDevices (db db' : Db) : Prop where
  devices : db'.devices = db.devices
  registrations : db'.registrations = db.registrations

theorem SameDevices.refl (db : Db) : SameDevices db db := ⟨rfl, rfl⟩

section Outdate

variable {f : User → User} {hf : ∀ u, (f u).id = u.id}

@[simp] theorem users_outdate :
    (db.outdate userId seen now f hf).users = db.users.update userId f hf := rfl

@[simp] theorem recoveryCodes_outdate :
    (db.outdate userId seen now f hf).recoveryCodes = db.recoveryCodes := rfl

@[simp] theorem resets_outdate : (db.outdate userId seen now f hf).resets = db.resets := rfl

@[simp] theorem sessions_outdate :
    (db.outdate userId seen now f hf).sessions =
      (revokeSessions db (fun s => seen s.id && s.userId == userId) now).sessions := rfl

end Outdate

/-! ## The administration -/

/-- **What a suspension writes**, and when. -/
theorem suspend_eq_ok (h : suspend db userId seen now = .ok db') :
    (∃ user, db.users.find? userId = some user ∧ user.role ≠ .admin ∧
      user.status ≠ .suspended ∧ user.status ≠ .deleted) ∧
    db' = db.outdate userId seen now
      (fun u => { u with status := .suspended, sessionVersion := u.sessionVersion + 1 })
      fun _ => rfl := by
  simp only [suspend, Db.getActionTarget, assertManageableRole, bind_eq_ok, orThrow_eq_ok,
    require_eq_ok, bne_iff_ne] at h
  obtain ⟨user, hfind, _, hrole, _, hsuspended, _, hdeleted, hdb⟩ := h
  exact ⟨⟨user, hfind, hrole, hsuspended, hdeleted⟩, (Except.ok.inj hdb).symm⟩

/-- **What a review writes**, and when. -/
theorem suspendForReview_eq_ok (h : suspendForReview db userId seen now = .ok db') :
    (∃ user, db.users.find? userId = some user ∧ user.role = .client ∧ user.status = .active) ∧
    db' = db.outdate userId seen now
      (fun u => { u with status := .suspended, sessionVersion := u.sessionVersion + 1 })
      fun _ => rfl := by
  simp only [suspendForReview, bind_eq_ok, orThrow_eq_ok, require_eq_ok, Bool.and_eq_true,
    beq_iff_eq] at h
  obtain ⟨user, hfind, _, ⟨hrole, hstatus⟩, hdb⟩ := h
  exact ⟨⟨user, hfind, hrole, hstatus⟩, (Except.ok.inj hdb).symm⟩

/-- **What a reactivation writes**, and when. -/
theorem reactivate_eq_ok (h : reactivate db userId = .ok db') :
    ∃ user, db.users.find? userId = some user ∧ user.status = .suspended ∧
      db' = { db with
        users := db.users.update userId
          (fun u => { u with status := db.restoredStatus user,
                             sessionVersion := u.sessionVersion + 1 }) fun _ => rfl } := by
  simp only [reactivate, Db.getActionTarget, assertManageableRole, bind_eq_ok, orThrow_eq_ok,
    require_eq_ok, beq_iff_eq] at h
  obtain ⟨user, hfind, _, -, _, hstatus, hdb⟩ := h
  exact ⟨user, hfind, hstatus, (Except.ok.inj hdb).symm⟩

/-- An approval writes the profile. -/
theorem approveCashier_eq_ok (h : approveCashier db userId now = .ok db') :
    db' = { db with
      cashierProfiles := db.cashierProfiles.update userId
        (fun p => { p with approvalStatus := .approved, emailVerifiedAt := some now,
                           phoneVerifiedAt := some now }) fun _ => rfl
      users := db.users.update userId (fun u => { u with status := .active }) fun _ => rfl } := by
  simp only [approveCashier, Db.getActionTarget, bind_eq_ok, orThrow_eq_ok, require_eq_ok] at h
  obtain ⟨user, -, _, -, profile, -, _, -, _, -, hdb⟩ := h
  exact (Except.ok.inj hdb).symm

/-- **What a deletion writes**, and when. -/
theorem deleteUser_eq_ok (h : deleteUser db userId seen now = .ok db') :
    (∃ user, db.users.find? userId = some user ∧ user.role ≠ .admin ∧ user.status ≠ .deleted) ∧
    db' = { db with
      cashierProfiles := db.cashierProfiles.update userId
        (fun p => { p with approvalStatus := .revoked }) fun _ => rfl }.outdate userId seen now
      (fun u => { u with status := .deleted, sessionVersion := u.sessionVersion + 1 })
      fun _ => rfl := by
  simp only [deleteUser, Db.getActionTarget, assertManageableRole, bind_eq_ok, orThrow_eq_ok,
    require_eq_ok, bne_iff_ne] at h
  obtain ⟨user, hfind, _, hrole, _, hstatus, _, -, hdb⟩ := h
  exact ⟨⟨user, hfind, hrole, hstatus⟩, (Except.ok.inj hdb).symm⟩

/-- A superseded reset is the same one. -/
theorem id_superseded (userId : Uuid) (now : ℕ) (r : CashierPasswordReset) :
    (if r.cashierUserId == userId && r.unsettled then { r with supersededAt := some now }
      else r).id = r.id := by
  split_ifs <;> rfl

/-- The resets after the open ones of a cashier are superseded. -/
def Db.supersede (db : Db) (userId : Uuid) (now : ℕ) :
    Table Uuid CashierPasswordReset CashierPasswordReset.id :=
  db.resets.modify
    (fun r => if r.cashierUserId == userId && r.unsettled then { r with supersededAt := some now }
      else r) (id_superseded userId now)

/-- The row of a reset that begins. -/
def newReset (userId resetId : Uuid) (now : ℕ) : CashierPasswordReset :=
  { id := resetId, cashierUserId := userId, createdAt := now, expiresAt := now + resetLifetime,
    consumedAt := none, supersededAt := none, recoveryCodeId := none }

/-- **What a reset writes**, and when. -/
theorem resetPassword_eq_ok {resetId : Uuid}
    (h : resetPassword db userId resetId seen now = .ok db') :
    (∃ user, db.users.find? userId = some user ∧ user.role = .cashier ∧ user.status ≠ .deleted) ∧
    ∃ hfree : (db.supersede userId now).find? resetId = none,
      db' = { db with
        resets := (db.supersede userId now).insert (newReset userId resetId now) hfree }.outdate
          userId seen now
        (fun u => { u with passwordResetRequired := true, sessionVersion := u.sessionVersion + 1,
                           failedLoginAttempts := 0, lockedUntil := none }) fun _ => rfl := by
  simp only [resetPassword, Db.getActionTarget, assertManageableRole, bind_eq_ok, orThrow_eq_ok,
    require_eq_ok, beq_iff_eq, bne_iff_ne, Table.create_eq_ok] at h
  obtain ⟨user, hfind, _, -, _, hrole, _, hstatus, resets, ⟨hfree, rfl⟩, hdb⟩ := h
  exact ⟨⟨user, hfind, hrole, hstatus⟩, hfree, (Except.ok.inj hdb).symm⟩

/-! ## The login -/

/-- A login that is recorded was admitted. -/
theorem recordSuccessfulLogin_eq_ok (h : recordSuccessfulLogin db userId now = .ok db') :
    (∃ user, db.users.find? userId = some user ∧ user.admitsLogin now = true) ∧
    db' = { db with
      users := db.users.update userId
        (fun u => { u with failedLoginAttempts := 0, lockedUntil := none }) fun _ => rfl } := by
  simp only [recordSuccessfulLogin, bind_eq_ok, orThrow_eq_ok, require_eq_ok] at h
  obtain ⟨user, hfind, _, hadmits, hdb⟩ := h
  exact ⟨⟨user, hfind, hadmits⟩, (Except.ok.inj hdb).symm⟩

/-- The row of a session that begins. -/
def newSession (env : Env) (user : User) (id : Uuid) (tokenHash : JsString) (issuedAt now : ℕ) :
    Session :=
  { id, userId := user.id, deviceId := none, sessionVersion := user.sessionVersion,
    expiresAt := issuedAt + env.sessionTtl user.role, revokedAt := none, tokenHash,
    lastSeenAt := now }

/-- A session is created under a token that is new. -/
theorem createSession_eq_ok {user : User} {id : Uuid} {tokenHash : JsString} {issuedAt : ℕ}
    (h : createSession env db user id tokenHash issuedAt now = .ok db') :
    (∀ s ∈ db.sessions, s.tokenHash ≠ tokenHash) ∧
    ∃ hfree : db.sessions.find? id = none,
      db'.sessions.find? id = some (newSession env user id tokenHash issuedAt now) ∧
      db' = { db with
        sessions := db.sessions.insert (newSession env user id tokenHash issuedAt now) hfree } := by
  simp only [createSession, bind_eq_ok, require_eq_ok, List.all_eq_true, bne_iff_ne,
    Table.create_eq_ok] at h
  obtain ⟨_, hfresh, sessions, ⟨hfree, rfl⟩, hdb⟩ := h
  obtain rfl := Except.ok.inj hdb
  refine ⟨hfresh, hfree, ?_, rfl⟩
  exact (Table.find?_insert (h := hfree)).trans (if_pos rfl)

/-- A session is refreshed if it is still valid. -/
theorem refreshAdminSession_eq_some {l : Lookup}
    (h : refreshAdminSession env db l now = some db') :
    ∃ session, db.sessions.find? l.session.id = some session ∧
      db.validSession l now session = true ∧
      db' = { db with
        sessions := db.sessions.update session.id
          (fun s => { s with lastSeenAt := now }) fun _ => rfl } := by
  unfold refreshAdminSession at h
  split at h
  · rename_i session hfind
    split_ifs at h with hvalid
    simp only [Bool.and_eq_true] at hvalid
    exact ⟨session, hfind, hvalid.1.1, (Option.some.inj h).symm⟩
  · cases h

/-! ## The sessions of an administrator -/

/-- An administrator revokes a session of their own. -/
theorem revokeOwnAdminSession_eq_ok {principal : SessionPrincipal} {sessionId : Uuid}
    (h : revokeOwnAdminSession db principal sessionId now = .ok db') :
    db' = revokeSessions db (fun s => s.id == sessionId && s.userId == principal.id) now := by
  simp only [revokeOwnAdminSession, bind_eq_ok, require_eq_ok, orThrow_eq_ok] at h
  obtain ⟨_, -, session, -, _, -, hdb⟩ := h
  exact (Except.ok.inj hdb).symm

/-- An administrator revokes all sessions but this one. -/
theorem revokeOtherAdminSessions_eq_ok {principal : SessionPrincipal}
    (h : revokeOtherAdminSessions db principal seen now = .ok db') :
    db' = revokeSessions db
      (fun s => seen s.id && s.userId == principal.id && s.id != principal.sessionId) now := by
  simp only [revokeOtherAdminSessions, bind_eq_ok, require_eq_ok] at h
  obtain ⟨_, -, hdb⟩ := h
  exact (Except.ok.inj hdb).symm

/-! ## The password reset -/

theorem id_used (now : ℕ) (c : CashierRecoveryCode) :
    ({ c with usedAt := some now } : CashierRecoveryCode).id = c.id := rfl

/-- The codes after one is used. -/
def Db.useCode (db : Db) (codeId : Uuid) (now : ℕ) :
    Table Uuid CashierRecoveryCode CashierRecoveryCode.id :=
  db.recoveryCodes.update codeId (fun c => { c with usedAt := some now }) (id_used now)

/-- The resets after one is consumed by a code. -/
def Db.consumeReset (db : Db) (resetId codeId : Uuid) (now : ℕ) :
    Table Uuid CashierPasswordReset CashierPasswordReset.id :=
  db.resets.update resetId
    (fun r => { r with consumedAt := some now, recoveryCodeId := some codeId }) fun _ => rfl

/-- **What a completed reset spends**, and what it sets. -/
theorem completeAdminReset_eq_ok {read : User} {recoveryCode newPassword passwordHash : JsString}
    (h : completeAdminReset env db read recoveryCode newPassword passwordHash seen now = .ok db') :
    ∃ reset code user, db.findReset read.id now = some reset ∧
      db.findRecoveryCode read.id (hashRecoveryCode env read.id recoveryCode) now = some code ∧
      db.users.find? read.id = some user ∧ read.completes now user = true ∧
      db' = { db with
        recoveryCodes := db.useCode code.id now
        resets := db.consumeReset reset.id code.id now }.outdate read.id seen now
        (fun u => { u with passwordHash, passwordResetRequired := false,
                           sessionVersion := u.sessionVersion + 1, failedLoginAttempts := 0,
                           lockedUntil := none }) fun _ => rfl := by
  simp only [completeAdminReset, bind_eq_ok, require_eq_ok, orThrow_eq_ok] at h
  obtain ⟨reset, hreset, code, hcode, _, -, user, hfind, _, hcompletes, hdb⟩ := h
  exact ⟨reset, code, user, hreset, hcode, hfind, hcompletes, (Except.ok.inj hdb).symm⟩

/-- The codes after the open ones of a cashier are revoked. -/
def Db.revokeCodes (db : Db) (userId : Uuid) (now : ℕ) :
    Table Uuid CashierRecoveryCode CashierRecoveryCode.id :=
  db.recoveryCodes.modify
    (fun c => if c.cashierUserId == userId && c.unspent then { c with revokedAt := some now }
      else c) (by intro c; split_ifs <;> rfl)

/-- New codes replace the old ones. -/
theorem rotateCashierRecoveryCodes_eq_ok {read : User} {issued : List (Uuid × JsString)}
    (h : rotateCashierRecoveryCodes env db read issued now = .ok db') :
    ∃ recoveryCodes, createRecoveryCodes (db.revokeCodes read.id now)
        (issued.map (issuedCode env read.id)) = .ok recoveryCodes ∧
      db' = { db with recoveryCodes } := by
  simp only [rotateCashierRecoveryCodes, bind_eq_ok, require_eq_ok, orThrow_eq_ok] at h
  obtain ⟨user, -, _, -, recoveryCodes, hcodes, hdb⟩ := h
  exact ⟨recoveryCodes, hcodes, (Except.ok.inj hdb).symm⟩

/-- An account is created under an id that is free. -/
theorem createAccount_eq_ok {user : User} {issued : List (Uuid × JsString)}
    (h : createAccount env db user issued = .ok db') :
    ∃ (hfree : db.users.find? user.id = none) (cashierProfiles recoveryCodes : _),
      createRecoveryCodes db.recoveryCodes (issued.map (issuedCode env user.id)) =
        .ok recoveryCodes ∧
      db' = { db with users := db.users.insert user hfree, cashierProfiles, recoveryCodes } := by
  simp only [createAccount, bind_eq_ok, require_eq_ok, Table.create_eq_ok] at h
  obtain ⟨_, -, users, ⟨hfree, rfl⟩, cashierProfiles, -, recoveryCodes, hcodes, hdb⟩ := h
  exact ⟨hfree, cashierProfiles, recoveryCodes, hcodes, (Except.ok.inj hdb).symm⟩

end Auth

end SinoChat
