import SinoChat.Model.Account
import SinoChat.Model.Rows

/-!
# Accounts, passwords and sessions

`auth.service.ts` and the parts of `admin-users.service.ts` and
`moderation.service.ts` that end sessions: the account with its password and its
lock, the sessions, and the two credentials of a cashier's password reset. A
function here is one statement or one transaction; what happens between them is
in `Model/AuthRuns.lean`.

A serializable transaction that ends the sessions of a user sees those of its
snapshot: `createSession` is not serializable, so a session that it inserts
meanwhile is not among them. The argument `seen` says which ones are.
-/

namespace SinoChat

open Js

namespace Auth

/-! ## Rows -/

/-- An account. -/
structure User extends SinoChat.User where
  normalizedUsername : JsString
  passwordHash : JsString
  failedLoginAttempts : ℕ
  lockedUntil : Option ℕ
  deriving DecidableEq

/-- A row of `auth_sessions` with its token and when it was last seen. -/
structure Session extends AuthSession where
  tokenHash : JsString
  lastSeenAt : ℕ
  deriving DecidableEq

/-- A row of `devices` with the secret that binds it to sessions. -/
structure Device extends SinoChat.Device where
  bindingSecretHash : JsString
  protocolVersion : JsString
  deriving DecidableEq

/-- A row of `matrix_device_registrations`: a device id kept for a session. -/
structure MatrixDeviceRegistration where
  id : Uuid
  userId : Uuid
  sessionId : Uuid
  expiresAt : ℕ
  consumedAt : Option ℕ
  initialUploadSha256 : Option JsString
  initialOneTimeKeyCount : Option ℕ
  deriving DecidableEq

/-- A row of `cashier_recovery_codes`; a used or revoked one is spent. -/
structure CashierRecoveryCode where
  id : Uuid
  cashierUserId : Uuid
  codeHash : JsString
  expiresAt : Option ℕ
  usedAt : Option ℕ
  revokedAt : Option ℕ
  deriving DecidableEq

/-- A row of `cashier_password_resets`, with the code it came from. -/
structure CashierPasswordReset where
  id : Uuid
  cashierUserId : Uuid
  createdAt : ℕ
  expiresAt : ℕ
  consumedAt : Option ℕ
  supersededAt : Option ℕ
  recoveryCodeId : Option Uuid
  deriving DecidableEq

/-- The tables of the service. -/
structure Db where
  users : Table Uuid User fun u => u.id
  cashierProfiles : Table Uuid CashierProfile CashierProfile.userId
  sessions : Table Uuid Session fun s => s.id
  devices : Table Uuid Device fun d => d.id
  registrations : Table Uuid MatrixDeviceRegistration MatrixDeviceRegistration.id
  recoveryCodes : Table Uuid CashierRecoveryCode CashierRecoveryCode.id
  resets : Table Uuid CashierPasswordReset CashierPasswordReset.id

/-- The database without rows. -/
def Db.empty : Db :=
  ⟨Table.empty, Table.empty, Table.empty, Table.empty, Table.empty, Table.empty, Table.empty⟩

/-- The libraries and the configuration. -/
structure Env where
  toLowerCase : JsString → JsString
  toUpperCase : JsString → JsString
  /-- `PasswordService.verify`, of a hash and a password. -/
  verify : JsString → JsString → Bool
  /-- `SessionTokenService.hash`. -/
  hashToken : JsString → JsString
  /-- The digest of `hashCashierRecoveryCode`. -/
  recoveryDigest : Uuid → JsString → JsString
  sessionTtl : UserRole → ℕ
  adminSessionIdleTimeout : ℕ
  /-- `hashDeviceBindingSecret`. -/
  hashBindingSecret : JsString → JsString
  /-- `deriveMatrixDeviceBindingSecret`. -/
  deriveBindingSecret : Uuid → JsString

/-! ## The login -/

/-- `normalizeUsername`. -/
def normalizeUsername (env : Env) (username : JsString) : JsString :=
  env.toLowerCase (trim username)

/-- `user.findUnique({ where: { normalizedUsername } })`. -/
def Db.findUser (db : Db) (normalizedUsername : JsString) : Option User :=
  db.users.rows.find? fun u => u.normalizedUsername = normalizedUsername

/-- `MAX_FAILED_LOGINS`. -/
def maxFailedLogins : ℕ := 5

/-- `LOCK_MINUTES`, in milliseconds. -/
def lockDuration : ℕ := 15 * 60 * 1000

/-- `"locked_until" > now`. -/
def User.lockedAt (user : User) (now : ℕ) : Bool := user.lockedUntil.any fun until_ => now < until_

/-- Neither suspended nor deleted. -/
def User.available (user : User) : Bool := user.status != .suspended && user.status != .deleted

/-- The row after `recordFailedLoginAttempt`. -/
def User.failed (now : ℕ) (user : User) : User :=
  if user.lockedAt now then user
  else if user.failedLoginAttempts + 1 ≥ maxFailedLogins then
    { user with failedLoginAttempts := 0, lockedUntil := some (now + lockDuration) }
  else { user with failedLoginAttempts := user.failedLoginAttempts + 1, lockedUntil := none }

@[simp] theorem User.id_failed (now : ℕ) (user : User) : (user.failed now).id = user.id := by
  unfold User.failed
  split_ifs <;> rfl

/-- `recordFailedLoginAttempt`. -/
def recordFailedLoginAttempt (db : Db) (userId : Uuid) (now : ℕ) : Db :=
  { db with users := db.users.update userId (User.failed now) (User.id_failed now) }

/-- The answer to a wrong user name, a wrong password and a locked account. -/
def invalidCredentials : HttpException := .unauthorized "Credenciales inválidas."

/-- What `login` asks of the account it read, once the password is right. -/
def assertMayLogin (user : User) : Except HttpException Unit := do
  require user.available (.unauthorized "La cuenta no está disponible.")
  require (!user.passwordResetRequired) (.withBody 401 (.obj
    [(js "code", .str (js "ADMIN_PASSWORD_CHANGE_REQUIRED")),
      (js "message", .str (js ("Debes completar el restablecimiento de contraseña " ++
        "antes de iniciar sesión.")))]))

/-- The condition of the update that records a success. -/
def User.admitsLogin (now : ℕ) (user : User) : Bool :=
  !user.lockedAt now && !user.passwordResetRequired && user.available

/-- The update that records a success. -/
def recordSuccessfulLogin (db : Db) (userId : Uuid) (now : ℕ) : Except HttpException Db := do
  let user ← orThrow (db.users.find? userId) invalidCredentials
  require (user.admitsLogin now) invalidCredentials
  .ok { db with
    users := db.users.update userId
      (fun u => { u with failedLoginAttempts := 0, lockedUntil := none }) fun _ => rfl }

/-- The insertion of `createSession`: the session carries the version that was
read of the account. -/
def createSession (env : Env) (db : Db) (user : User) (id : Uuid) (tokenHash : JsString)
    (issuedAt now : ℕ) : Except HttpException Db := do
  require (db.sessions.rows.all fun s => s.tokenHash != tokenHash)
    (.internal "Unique constraint failed.")
  let sessions ← db.sessions.create
    { id, userId := user.id, deviceId := none, sessionVersion := user.sessionVersion,
      expiresAt := issuedAt + env.sessionTtl user.role, revokedAt := none, tokenHash,
      lastSeenAt := now }
  .ok { db with sessions }

/-! ## Sessions -/

/-- The rows that `getSessionPrincipal` reads. -/
structure Lookup where
  session : Session
  user : User
  device : Option Device
  deriving DecidableEq

/-- `authSession.findUnique` with the user and the device. -/
def Db.findSession (db : Db) (tokenHash : JsString) : Option Lookup := do
  let session ← db.sessions.rows.find? fun s => s.tokenHash = tokenHash
  let user ← db.users.find? session.userId
  pure ⟨session, user, session.deviceId.bind db.devices.find?⟩

/-- `isSessionInvalid`. -/
def Lookup.invalid (l : Lookup) (now : ℕ) : Bool :=
  l.session.revokedAt.isSome || l.session.expiresAt ≤ now ||
    l.session.sessionVersion != l.user.sessionVersion || l.user.passwordResetRequired ||
    !l.user.available ||
    (l.session.deviceId.isSome &&
      !l.device.any fun d => d.userId == l.session.userId && d.status == .active)

/-- `validSessionWhere`, for the row of the session as it is now. -/
def Db.validSession (db : Db) (l : Lookup) (now : ℕ) (session : Session) : Bool :=
  session.userId == l.session.userId && session.revokedAt == none && now < session.expiresAt &&
    session.sessionVersion == l.user.sessionVersion &&
    ((db.users.find? session.userId).any fun u => u.role == .admin && !u.passwordResetRequired &&
      u.available && u.sessionVersion == l.user.sessionVersion) &&
    session.deviceId == l.session.deviceId &&
    match l.session.deviceId with
    | none => true
    | some deviceId => (db.devices.find? deviceId).any fun d =>
        d.userId == l.session.userId && d.status == .active

/-- The update of `refreshAdminSessionActivity`: where it finds its row, the session
was seen `now`. -/
def refreshAdminSession (env : Env) (db : Db) (l : Lookup) (now : ℕ) : Option Db :=
  match db.sessions.find? l.session.id with
  | some session =>
    if db.validSession l now session && now < session.lastSeenAt + env.adminSessionIdleTimeout &&
        session.lastSeenAt ≤ now then
      some { db with
        sessions := db.sessions.update session.id
          (fun s => { s with lastSeenAt := now }) fun _ => rfl }
    else none
  | none => none

/-- `refreshedConcurrently`. -/
def refreshedConcurrently (db : Db) (l : Lookup) (now : ℕ) : Bool :=
  (db.sessions.find? l.session.id).any fun session =>
    db.validSession l now session && now < session.lastSeenAt

/-- `updateMany` of the sessions a condition selects among those not revoked. -/
def revokeSessions (db : Db) (selects : Session → Bool) (now : ℕ) : Db :=
  { db with
    sessions := db.sessions.modify
      (fun s => if selects s && s.revokedAt == none then { s with revokedAt := some now } else s)
      (by intro s; split_ifs <;> rfl) }

/-- `revokeInvalidAdminSession`. -/
def revokeInvalidAdminSession (db : Db) (sessionId : Uuid) (now : ℕ) : Db :=
  revokeSessions db (fun s => s.id == sessionId) now

/-- `logout`. -/
def logout (env : Env) (db : Db) (token : JsString) (now : ℕ) : Db :=
  revokeSessions db (fun s => s.tokenHash == env.hashToken token) now

/-- `revokeOwnAdminSession`. -/
def revokeOwnAdminSession (db : Db) (principal : SessionPrincipal) (sessionId : Uuid) (now : ℕ) :
    Except HttpException Db := do
  require (principal.role == .admin) (.forbidden "Forbidden")
  let session ← orThrow (db.sessions.find? sessionId)
    (.withMessage 404 "La sesión no existe.")
  require (session.userId == principal.id) (.withMessage 404 "La sesión no existe.")
  .ok (revokeSessions db (fun s => s.id == sessionId && s.userId == principal.id) now)

/-- `revokeOtherAdminSessions`. -/
def revokeOtherAdminSessions (db : Db) (principal : SessionPrincipal) (seen : Uuid → Bool)
    (now : ℕ) : Except HttpException Db := do
  require (principal.role == .admin) (.forbidden "Forbidden")
  .ok (revokeSessions db
    (fun s => seen s.id && s.userId == principal.id && s.id != principal.sessionId) now)

/-! ## The administration -/

/-- `assertManageableRole`. -/
def assertManageableRole (role : UserRole) : Except HttpException Unit :=
  require (role != .admin) (.forbidden "Este endpoint no modifica cuentas administradoras.")

/-- `getActionTarget`. -/
def Db.getActionTarget (db : Db) (userId : Uuid) : Except HttpException User :=
  orThrow (db.users.find? userId) (.withMessage 404 "Usuario no encontrado.")

/-- An update of an account that also ends its open sessions. -/
def Db.outdate (db : Db) (userId : Uuid) (seen : Uuid → Bool) (now : ℕ) (f : User → User)
    (hf : ∀ u, (f u).id = u.id) : Db :=
  revokeSessions { db with users := db.users.update userId f hf }
    (fun s => seen s.id && s.userId == userId) now

/-- `suspend`. -/
def suspend (db : Db) (userId : Uuid) (seen : Uuid → Bool) (now : ℕ) :
    Except HttpException Db := do
  let user ← db.getActionTarget userId
  assertManageableRole user.role
  require (user.status != .suspended) (.conflict "La cuenta ya está suspendida.")
  require (user.status != .deleted) (.conflict "La cuenta está eliminada.")
  .ok (db.outdate userId seen now
    (fun u => { u with status := .suspended, sessionVersion := u.sessionVersion + 1 })
    fun _ => rfl)

/-- The suspension of `blockClient` after five blocks. -/
def suspendForReview (db : Db) (clientUserId : Uuid) (seen : Uuid → Bool) (now : ℕ) :
    Except HttpException Db := do
  let user ← orThrow (db.users.find? clientUserId)
    (.internal "No record was found for an update.")
  require (user.role == .client && user.status == .active)
    (.forbidden "La conversación ya no está disponible.")
  .ok (db.outdate clientUserId seen now
    (fun u => { u with status := .suspended, sessionVersion := u.sessionVersion + 1 })
    fun _ => rfl)

/-- The status `reactivate` restores. -/
def Db.restoredStatus (db : Db) (user : User) : AccountStatus :=
  if user.role = .cashier ∧
      ((db.cashierProfiles.find? user.id).map CashierProfile.approvalStatus) ≠ some .approved then
    .pending
  else .active

/-- `reactivate`. -/
def reactivate (db : Db) (userId : Uuid) : Except HttpException Db := do
  let user ← db.getActionTarget userId
  assertManageableRole user.role
  require (user.status == .suspended) (.conflict "La cuenta no está suspendida.")
  .ok { db with
    users := db.users.update userId
      (fun u => { u with status := db.restoredStatus user,
                         sessionVersion := u.sessionVersion + 1 }) fun _ => rfl }

/-- `approveCashier`. -/
def approveCashier (db : Db) (userId : Uuid) (now : ℕ) : Except HttpException Db := do
  let user ← db.getActionTarget userId
  require (user.role == .cashier) (.badRequest "El usuario no es cajero.")
  let profile ← orThrow (db.cashierProfiles.find? userId)
    (.conflict "El perfil del cajero está incompleto.")
  require (profile.approvalStatus != .approved) (.conflict "El cajero ya está aprobado.")
  require user.available (.conflict "No se puede aprobar una cuenta suspendida o eliminada.")
  .ok { db with
    cashierProfiles := db.cashierProfiles.update userId
      (fun p => { p with approvalStatus := .approved, emailVerifiedAt := some now,
                         phoneVerifiedAt := some now }) fun _ => rfl
    users := db.users.update userId (fun u => { u with status := .active }) fun _ => rfl }

/-- `deleteUser`. -/
def deleteUser (db : Db) (userId : Uuid) (seen : Uuid → Bool) (now : ℕ) :
    Except HttpException Db := do
  let user ← db.getActionTarget userId
  assertManageableRole user.role
  require (user.status != .deleted) (.conflict "La cuenta ya está eliminada.")
  require (user.role != .cashier || (db.cashierProfiles.find? userId).isSome)
    (.conflict "El perfil del cajero está incompleto.")
  .ok ({ db with
    cashierProfiles := db.cashierProfiles.update userId
      (fun p => { p with approvalStatus := .revoked }) fun _ => rfl }.outdate userId seen now
    (fun u => { u with status := .deleted, sessionVersion := u.sessionVersion + 1 })
    fun _ => rfl)

/-! ## The password reset of a cashier -/

/-- `CASHIER_PASSWORD_RESET_LIFETIME_HOURS`, in milliseconds. -/
def resetLifetime : ℕ := 24 * 60 * 60 * 1000

/-- A reset that is neither consumed nor superseded. -/
def CashierPasswordReset.unsettled (reset : CashierPasswordReset) : Bool :=
  reset.consumedAt == none && reset.supersededAt == none

/-- A reset that can be completed. -/
def CashierPasswordReset.live (now : ℕ) (reset : CashierPasswordReset) : Bool :=
  reset.unsettled && now < reset.expiresAt

/-- A code that is neither used nor revoked. -/
def CashierRecoveryCode.unspent (code : CashierRecoveryCode) : Bool :=
  code.usedAt == none && code.revokedAt == none

/-- A code that is accepted. -/
def CashierRecoveryCode.live (now : ℕ) (code : CashierRecoveryCode) : Bool :=
  code.unspent && code.expiresAt.all fun expiresAt => now < expiresAt

/-- `resetPassword`. -/
def resetPassword (db : Db) (userId resetId : Uuid) (seen : Uuid → Bool) (now : ℕ) :
    Except HttpException Db := do
  let user ← db.getActionTarget userId
  assertManageableRole user.role
  require (user.role == .cashier) (.forbidden
    "Solo las cuentas de cajero admiten restablecimiento administrativo de contraseña.")
  require (user.status != .deleted)
    (.conflict "No se puede restablecer la contraseña de una cuenta eliminada.")
  let superseded := db.resets.modify
    (fun r => if r.cashierUserId == userId && r.unsettled then { r with supersededAt := some now }
      else r) (by intro r; split_ifs <;> rfl)
  let resets ← superseded.create
    { id := resetId, cashierUserId := userId, createdAt := now, expiresAt := now + resetLifetime,
      consumedAt := none, supersededAt := none, recoveryCodeId := none }
  .ok ({ db with resets }.outdate userId seen now
    (fun u => { u with passwordResetRequired := true, sessionVersion := u.sessionVersion + 1,
                       failedLoginAttempts := 0, lockedUntil := none }) fun _ => rfl)

/-- `invalidAdminReset`. -/
def invalidAdminReset : HttpException :=
  .withBody 401 (.obj [(js "code", .str (js "ADMIN_PASSWORD_RESET_INVALID")),
    (js "message", .str (js ("No se pudo completar el restablecimiento con los datos " ++
      "proporcionados.")))])

/-- `[2-9A-HJ-NP-Z]`. -/
def isRecoverySymbol : CharClass := fun u =>
  (0x32 ≤ u && u ≤ 0x39) || (0x41 ≤ u && u ≤ 0x48) || (0x4A ≤ u && u ≤ 0x4E) ||
    (0x50 ≤ u && u ≤ 0x5A)

/-- `CASHIER_RECOVERY_CODE_PATTERN`. -/
def recoveryCodePattern : List CharClass :=
  lit "SC-" ++ times 5 isRecoverySymbol ++
    (List.replicate 3 (lit "-" ++ times 5 isRecoverySymbol)).flatten

/-- `normalizeCashierRecoveryCode`. -/
def normalizeRecoveryCode (env : Env) (code : JsString) : JsString := env.toUpperCase (trim code)

/-- `hashCashierRecoveryCode`. -/
def hashRecoveryCode (env : Env) (cashierUserId : Uuid) (code : JsString) : JsString :=
  env.recoveryDigest cashierUserId (normalizeRecoveryCode env code)

/-- What `completeAdminReset` asks of the account it read. -/
def User.mayCompleteReset (user : User) : Bool :=
  user.role == .cashier && user.passwordResetRequired && user.status != .deleted

/-- The newest reset that can be completed: `orderBy: [{ createdAt: "desc" }, { id: "desc" }]`.
A cashier has at most one that is neither consumed nor superseded. -/
def Db.findReset (db : Db) (cashierUserId : Uuid) (now : ℕ) : Option CashierPasswordReset :=
  db.resets.rows.find? fun r => r.cashierUserId == cashierUserId && r.live now

/-- The live code of a cashier with this hash. -/
def Db.findRecoveryCode (db : Db) (cashierUserId : Uuid) (codeHash : JsString) (now : ℕ) :
    Option CashierRecoveryCode :=
  db.recoveryCodes.rows.find? fun c =>
    c.cashierUserId == cashierUserId && c.codeHash == codeHash && c.live now

/-- The condition of the update of the account: the row is as it was read. -/
def User.completes (read : User) (changedAt : ℕ) (user : User) : Bool :=
  user.role == .cashier && user.passwordHash == read.passwordHash &&
    user.passwordResetRequired && user.status != .deleted && !user.lockedAt changedAt

/-- The transaction of `completeAdminReset`, for the account as it was read and the
hash of the new password. -/
def completeAdminReset (env : Env) (db : Db) (read : User) (recoveryCode newPassword : JsString)
    (passwordHash : JsString) (seen : Uuid → Bool) (changedAt : ℕ) : Except HttpException Db := do
  let reset ← orThrow (db.findReset read.id changedAt) invalidAdminReset
  let code ← orThrow (db.findRecoveryCode read.id (hashRecoveryCode env read.id recoveryCode)
    changedAt) invalidAdminReset
  require (!env.verify read.passwordHash newPassword)
    (.badRequest "La nueva contraseña debe ser diferente de la anterior.")
  let recoveryCodes := db.recoveryCodes.update code.id
    (fun c => { c with usedAt := some changedAt }) fun _ => rfl
  let resets := db.resets.update reset.id
    (fun r => { r with consumedAt := some changedAt, recoveryCodeId := some code.id }) fun _ => rfl
  let user ← orThrow (db.users.find? read.id) invalidAdminReset
  require (read.completes changedAt user) invalidAdminReset
  .ok ({ db with recoveryCodes, resets }.outdate read.id seen changedAt
    (fun u => { u with passwordHash, passwordResetRequired := false,
                       sessionVersion := u.sessionVersion + 1, failedLoginAttempts := 0,
                       lockedUntil := none }) fun _ => rfl)

/-- What `rotateCashierRecoveryCodes` asks of the account, twice. -/
def User.mayRotate (user : User) : Bool :=
  user.role == .cashier && user.available && !user.passwordResetRequired

/-- `createMany` of the codes of a package: the hashes are unique. -/
def createRecoveryCodes (codes : Table Uuid CashierRecoveryCode CashierRecoveryCode.id) :
    List CashierRecoveryCode →
      Except HttpException (Table Uuid CashierRecoveryCode CashierRecoveryCode.id)
  | [] => .ok codes
  | code :: rest => do
    require (codes.rows.all fun c => c.codeHash != code.codeHash)
      (.internal "Unique constraint failed.")
    let codes ← codes.create code
    createRecoveryCodes codes rest

/-- The row of a code that was issued, which does not expire. -/
def issuedCode (env : Env) (cashierUserId : Uuid) (issued : Uuid × JsString) :
    CashierRecoveryCode :=
  { id := issued.1, cashierUserId, codeHash := hashRecoveryCode env cashierUserId issued.2,
    expiresAt := none, usedAt := none, revokedAt := none }

/-- The transaction of `rotateCashierRecoveryCodes`, for the account as it was read and
the codes that were issued. -/
def rotateCashierRecoveryCodes (env : Env) (db : Db) (read : User)
    (issued : List (Uuid × JsString)) (rotatedAt : ℕ) : Except HttpException Db := do
  let user ← orThrow (db.users.find? read.id)
    (.unauthorized "No se pudo rotar los códigos de recuperación.")
  require (user.mayRotate && user.passwordHash == read.passwordHash)
    (.unauthorized "No se pudo rotar los códigos de recuperación.")
  let revoked := db.recoveryCodes.modify
    (fun c => if c.cashierUserId == read.id && c.unspent then { c with revokedAt := some rotatedAt }
      else c) (by intro c; split_ifs <;> rfl)
  let recoveryCodes ← createRecoveryCodes revoked (issued.map (issuedCode env read.id))
  .ok { db with recoveryCodes }

/-! ## Registrations -/

/-- The profile of a cashier. -/
def Db.createProfile (db : Db) (user : User) :
    Except HttpException (Table Uuid CashierProfile CashierProfile.userId) :=
  if user.role = .cashier then
    db.cashierProfiles.create
      { userId := user.id, approvalStatus := .pending, emailVerifiedAt := none,
        phoneVerifiedAt := none }
  else .ok db.cashierProfiles

/-- What the transaction of a registration leaves here: the account, and for a
cashier the profile and the first recovery codes. -/
def createAccount (env : Env) (db : Db) (user : User) (issued : List (Uuid × JsString)) :
    Except HttpException Db := do
  require (db.users.rows.all fun u => u.normalizedUsername != user.normalizedUsername)
    (.internal "Unique constraint failed.")
  let users ← db.users.create user
  let cashierProfiles ← db.createProfile user
  let recoveryCodes ← createRecoveryCodes db.recoveryCodes (issued.map (issuedCode env user.id))
  .ok { db with users, cashierProfiles, recoveryCodes }

/-- An account as `user.create` of a registration makes it. -/
def newUser (id : Uuid) (role : UserRole) (normalizedUsername passwordHash : JsString) : User :=
  { id, role, status := if role = .cashier then .pending else .active,
    passwordResetRequired := false, sessionVersion := 1, normalizedUsername, passwordHash,
    failedLoginAttempts := 0, lockedUntil := none }

end Auth

end SinoChat
