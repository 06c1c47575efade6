import SinoChat.Common.Run
import SinoChat.Model.DeviceBinding

/-!
# Runs of the authentication

The requests that are one transaction are served at once. A login, a registration, the
check of an administrator's session, a password reset and a rotation of recovery codes
read, compute and write at different times, and anything may happen in between: each is
a call that remembers what it has read, and whose next statement is a step.
-/

namespace SinoChat

open Js

namespace Auth

/-! ## Requests of one transaction -/

/-- The requests that are one transaction. -/
inductive Request where
  /-- The command that makes the first administrator. -/
  | bootstrapAdmin (id : Uuid) (normalizedUsername passwordHash : JsString)
  | logout (token : JsString)
  | revokeOwnAdminSession (principal : SessionPrincipal) (sessionId : Uuid)
  | revokeOtherAdminSessions (principal : SessionPrincipal) (seen : Uuid → Bool)
  | suspend (userId : Uuid) (seen : Uuid → Bool)
  | suspendForReview (userId : Uuid) (seen : Uuid → Bool)
  | reactivate (userId : Uuid)
  | approveCashier (userId : Uuid)
  | deleteUser (userId : Uuid) (seen : Uuid → Bool)
  | resetPassword (userId resetId : Uuid) (seen : Uuid → Bool)
  | registerDevice (principal : SessionPrincipal) (deviceId : Uuid)
      (bindingSecret protocolVersion : JsString)
  | bindSession (principal : SessionPrincipal) (deviceId : Uuid) (bindingSecret : JsString)
  | revokeDevice (userId deviceId : Uuid)
  | reserveDevice (principal : SessionPrincipal) (registrationId : Uuid)
  | completeInitialUpload (principal : SessionPrincipal) (registrationId : Uuid)
      (uploadSha256 : JsString) (oneTimeKeys : Option ℕ)
  /-- The retention job. -/
  | purgeRegistrations

/-- What a request does to the database. -/
def Request.run (env : Env) (now : ℕ) (db : Db) : Request → Except HttpException Db
  | .bootstrapAdmin id normalizedUsername passwordHash =>
    createAccount env db (newUser id .admin normalizedUsername passwordHash) []
  | .logout token => .ok (Auth.logout env db token now)
  | .revokeOwnAdminSession principal sessionId =>
    Auth.revokeOwnAdminSession db principal sessionId now
  | .revokeOtherAdminSessions principal seen =>
    Auth.revokeOtherAdminSessions db principal seen now
  | .suspend userId seen => Auth.suspend db userId seen now
  | .suspendForReview userId seen => Auth.suspendForReview db userId seen now
  | .reactivate userId => Auth.reactivate db userId
  | .approveCashier userId => Auth.approveCashier db userId now
  | .deleteUser userId seen => Auth.deleteUser db userId seen now
  | .resetPassword userId resetId seen => Auth.resetPassword db userId resetId seen now
  | .registerDevice principal deviceId bindingSecret protocolVersion =>
    Auth.registerDevice env db principal deviceId bindingSecret protocolVersion now
  | .bindSession principal deviceId bindingSecret =>
    Auth.bindSession env db principal deviceId bindingSecret now
  | .revokeDevice userId deviceId => Auth.revokeDevice db userId deviceId now
  | .reserveDevice principal registrationId => do
    let reserved ← Auth.reserveDevice db principal registrationId now
    .ok reserved.1
  | .completeInitialUpload principal registrationId uploadSha256 oneTimeKeys =>
    Auth.completeInitialUpload env db principal registrationId uploadSha256 oneTimeKeys now
  | .purgeRegistrations => .ok (deleteExpiredRegistrations db (fun _ => true) now)

/-! ## Calls under way -/

/-- What a call remembers between two of its statements. -/
inductive Call where
  /-- `login` read the account. -/
  | loginRead (user : User) (password : JsString)
  /-- It read the clock, and the account was not locked. -/
  | loginTimed (user : User) (password : JsString) (now : ℕ)
  /-- The password was wrong. -/
  | loginFailed (userId : Uuid)
  /-- The password was right and the account could log in. -/
  | loginPassed (user : User) (now : ℕ)
  /-- The account was made, or the success was recorded: `createSession` begins. -/
  | sessionDue (user : User)
  | sessionTimed (user : User) (issuedAt : ℕ)
  /-- `getSessionPrincipal` read the session of an administrator. -/
  | lookedUp (token : JsString) (rows : Lookup)
  | lookupTimed (token : JsString) (rows : Lookup) (now : ℕ)
  /-- The refresh found no row. -/
  | notRefreshed (token : JsString) (rows : Lookup) (now : ℕ)
  /-- The session is to be revoked. -/
  | lookupRefused (sessionId : Uuid) (now : ℕ)
  /-- `completeAdminReset` read the account and hashed the new password. -/
  | resetRead (user : User) (recoveryCode newPassword passwordHash : JsString)
  /-- `rotateCashierRecoveryCodes` verified the password and issued the codes. -/
  | rotationRead (user : User) (issued : List (Uuid × JsString))
  | answered

/-- The clock, the rows, and the requests that take several steps. -/
structure World where
  now : ℕ
  db : Db
  calls : List Call

/-- A call begins. -/
def World.begins (w : World) (call : Call) : World := { w with calls := w.calls ++ [call] }

/-- A call goes on, with what it wrote. -/
def World.goesOn (w : World) (n : ℕ) (call : Call) (db : Db) : World :=
  { w with db, calls := w.calls.set n call }

/-! ## Steps -/

/-- What `recordFailedLoginAttempt` does to the account. -/
inductive FailureEffect where
  /-- A lock is running: nothing changes. -/
  | ignored
  | counted
  /-- The last failure that is allowed begins a lock. -/
  | locks
  deriving DecidableEq

/-- The branch of `recordFailedLoginAttempt` for a row. -/
def User.failureEffect (now : ℕ) (user : User) : FailureEffect :=
  if user.lockedAt now then .ignored
  else if user.failedLoginAttempts + 1 ≥ maxFailedLogins then .locks
  else .counted

/-- The steps, a call by its number. -/
inductive Event where
  | tick (now : ℕ)
  | served (request : Request)
  | refused (request : Request) (error : HttpException)
  /-- The transaction of a registration commits; its call goes on to `createSession`. -/
  | registered (call : ℕ) (user : User)
  | loginRead (call : ℕ) (user : User) (password : JsString)
  | loginTimed (call : ℕ)
  | passwordVerified (call : ℕ) (correct : Bool)
  | failureRecorded (call : ℕ) (userId : Uuid) (effect : FailureEffect)
  | successRecorded (call : ℕ) (userId : Uuid)
  | sessionTimed (call : ℕ)
  | sessionCreated (call : ℕ) (session : Session)
  /-- `getSessionPrincipal` answers with a principal, by its clock. -/
  | accepted (token : JsString) (session : Session) (clock : ℕ)
  | lookedUp (call : ℕ)
  | lookupTimed (call : ℕ)
  | notRefreshed (call : ℕ)
  | sessionInvalidated (call : ℕ) (sessionId : Uuid)
  | resetRead (call : ℕ) (user : User)
  | resetCompleted (call : ℕ) (userId resetId codeId : Uuid)
  | rotationRead (call : ℕ) (user : User)
  | rotated (call : ℕ) (userId : Uuid)
  /-- A call is answered with an error. -/
  | failed (call : ℕ)

variable (env : Env)

/-- The condition on which the password decides: the rest of `login` until its update. -/
def loginVerdict (user : User) (now : ℕ) (correct : Bool) : Call :=
  if correct then
    match assertMayLogin user with
    | .ok () => .loginPassed user now
    | .error _ => .answered
  else .loginFailed user.id

/-- What `refreshAdminSessionActivity` decides before its update. -/
def lookupVerdict (token : JsString) (rows : Lookup) (now : ℕ) : Call :=
  if rows.invalid now || now < rows.session.lastSeenAt ||
      rows.session.lastSeenAt + env.adminSessionIdleTimeout ≤ now then
    .lookupRefused rows.session.id now
  else .lookupTimed token rows now

/-- What the clock, a request or a step of one does. -/
inductive Step : World → Event → World → Prop
  | tick {w : World} {now : ℕ} (hnow : w.now ≤ now) : Step w (.tick now) { w with now }
  | served {w : World} {request : Request} {db : Db} (hrun : request.run env w.now w.db = .ok db) :
      Step w (.served request) { w with db }
  | refused {w : World} {request : Request} {error : HttpException}
      (hrun : request.run env w.now w.db = .error error) : Step w (.refused request error) w
  | registered {w : World} {user : User} {issued : List (Uuid × JsString)} {db : Db}
      (hnew : ∃ id role name hash, user = newUser id role name hash ∧ role ≠ .admin)
      (hrun : createAccount env w.db user issued = .ok db) :
      Step w (.registered w.calls.length user) { w.begins (.sessionDue user) with db }
  | loginRead {w : World} {user : User} {username password : JsString}
      (hread : w.db.findUser (normalizeUsername env username) = some user) :
      Step w (.loginRead w.calls.length user password) (w.begins (.loginRead user password))
  | loginTimed {w : World} {n : ℕ} {user : User} {password : JsString}
      (hcall : w.calls[n]? = some (.loginRead user password)) (hlock : ¬ user.lockedAt w.now) :
      Step w (.loginTimed n) (w.goesOn n (.loginTimed user password w.now) w.db)
  | loginLocked {w : World} {n : ℕ} {user : User} {password : JsString}
      (hcall : w.calls[n]? = some (.loginRead user password)) (hlock : user.lockedAt w.now) :
      Step w (.failed n) (w.goesOn n .answered w.db)
  | passwordVerified {w : World} {n : ℕ} {user : User} {password : JsString} {now : ℕ}
      (hcall : w.calls[n]? = some (.loginTimed user password now)) :
      Step w (.passwordVerified n (env.verify user.passwordHash password))
        (w.goesOn n (loginVerdict user now (env.verify user.passwordHash password)) w.db)
  | failureRecorded {w : World} {n : ℕ} {user : User}
      (hcall : w.calls[n]? = some (.loginFailed user.id)) (huser : user ∈ w.db.users) :
      Step w (.failureRecorded n user.id (user.failureEffect w.now))
        (w.goesOn n .answered (recordFailedLoginAttempt w.db user.id w.now))
  | successRecorded {w : World} {n : ℕ} {user : User} {now : ℕ} {db : Db}
      (hcall : w.calls[n]? = some (.loginPassed user now))
      (hrun : recordSuccessfulLogin w.db user.id now = .ok db) :
      Step w (.successRecorded n user.id) (w.goesOn n (.sessionDue user) db)
  | successRefused {w : World} {n : ℕ} {user : User} {now : ℕ} {error : HttpException}
      (hcall : w.calls[n]? = some (.loginPassed user now))
      (hrun : recordSuccessfulLogin w.db user.id now = .error error) :
      Step w (.failed n) (w.goesOn n .answered w.db)
  | sessionTimed {w : World} {n : ℕ} {user : User}
      (hcall : w.calls[n]? = some (.sessionDue user)) :
      Step w (.sessionTimed n) (w.goesOn n (.sessionTimed user w.now) w.db)
  | sessionCreated {w : World} {n : ℕ} {user : User} {issuedAt : ℕ} {token : JsString}
      {session : Session} {db : Db} (hcall : w.calls[n]? = some (.sessionTimed user issuedAt))
      (hrun : createSession env w.db user session.id (env.hashToken token) issuedAt w.now = .ok db)
      (hsession : db.sessions.find? session.id = some session) :
      Step w (.sessionCreated n session) (w.goesOn n .answered db)
  | sessionLost {w : World} {n : ℕ} {user : User} {issuedAt : ℕ}
      (hcall : w.calls[n]? = some (.sessionTimed user issuedAt)) :
      Step w (.failed n) (w.goesOn n .answered w.db)
  | accepted {w : World} {token : JsString} {rows : Lookup}
      (hread : w.db.findSession (env.hashToken token) = some rows) (hrole : rows.user.role ≠ .admin)
      (hvalid : ¬ rows.invalid w.now) : Step w (.accepted token rows.session w.now) w
  | lookedUp {w : World} {token : JsString} {rows : Lookup}
      (hread : w.db.findSession (env.hashToken token) = some rows)
      (hrole : rows.user.role = .admin) :
      Step w (.lookedUp w.calls.length) (w.begins (.lookedUp token rows))
  | lookupTimed {w : World} {n : ℕ} {token : JsString} {rows : Lookup}
      (hcall : w.calls[n]? = some (.lookedUp token rows)) :
      Step w (.lookupTimed n) (w.goesOn n (lookupVerdict env token rows w.now) w.db)
  | refreshed {w : World} {n : ℕ} {token : JsString} {rows : Lookup} {now : ℕ} {db : Db}
      (hcall : w.calls[n]? = some (.lookupTimed token rows now))
      (hrun : refreshAdminSession env w.db rows now = some db) :
      Step w (.accepted token rows.session now) (w.goesOn n .answered db)
  | notRefreshed {w : World} {n : ℕ} {token : JsString} {rows : Lookup} {now : ℕ}
      (hcall : w.calls[n]? = some (.lookupTimed token rows now))
      (hrun : refreshAdminSession env w.db rows now = none) :
      Step w (.notRefreshed n) (w.goesOn n (.notRefreshed token rows now) w.db)
  | refreshedConcurrently {w : World} {n : ℕ} {token : JsString} {rows : Lookup} {now : ℕ}
      (hcall : w.calls[n]? = some (.notRefreshed token rows now))
      (hrun : refreshedConcurrently w.db rows now) :
      Step w (.accepted token rows.session now) (w.goesOn n .answered w.db)
  | lookupLost {w : World} {n : ℕ} {token : JsString} {rows : Lookup} {now : ℕ}
      (hcall : w.calls[n]? = some (.notRefreshed token rows now))
      (hrun : ¬ refreshedConcurrently w.db rows now) :
      Step w (.notRefreshed n) (w.goesOn n (.lookupRefused rows.session.id now) w.db)
  | sessionInvalidated {w : World} {n : ℕ} {sessionId : Uuid} {now : ℕ}
      (hcall : w.calls[n]? = some (.lookupRefused sessionId now)) :
      Step w (.sessionInvalidated n sessionId)
        (w.goesOn n .answered (revokeInvalidAdminSession w.db sessionId now))
  | resetRead {w : World} {user : User} {username recoveryCode newPassword passwordHash : JsString}
      (hread : w.db.findUser (normalizeUsername env username) = some user)
      (hcode : fixed recoveryCodePattern (normalizeRecoveryCode env recoveryCode) = true)
      (hmay : user.mayCompleteReset) :
      Step w (.resetRead w.calls.length user)
        (w.begins (.resetRead user recoveryCode newPassword passwordHash))
  | resetCompleted {w : World} {n : ℕ} {user : User}
      {recoveryCode newPassword passwordHash : JsString} {seen : Uuid → Bool} {db : Db}
      {reset : CashierPasswordReset} {code : CashierRecoveryCode}
      (hcall : w.calls[n]? = some (.resetRead user recoveryCode newPassword passwordHash))
      (hreset : w.db.findReset user.id w.now = some reset)
      (hcode : w.db.findRecoveryCode user.id (hashRecoveryCode env user.id recoveryCode) w.now =
        some code)
      (hrun : completeAdminReset env w.db user recoveryCode newPassword passwordHash seen w.now =
        .ok db) :
      Step w (.resetCompleted n user.id reset.id code.id) (w.goesOn n .answered db)
  | resetRefused {w : World} {n : ℕ} {user : User}
      {recoveryCode newPassword passwordHash : JsString} {seen : Uuid → Bool}
      {error : HttpException}
      (hcall : w.calls[n]? = some (.resetRead user recoveryCode newPassword passwordHash))
      (hrun : completeAdminReset env w.db user recoveryCode newPassword passwordHash seen w.now =
        .error error) :
      Step w (.failed n) (w.goesOn n .answered w.db)
  | rotationRead {w : World} {user : User} {principal : SessionPrincipal}
      {currentPassword : JsString} {issued : List (Uuid × JsString)}
      (hrole : principal.role = .cashier) (hread : w.db.users.find? principal.id = some user)
      (hmay : user.mayRotate) (hverify : env.verify user.passwordHash currentPassword) :
      Step w (.rotationRead w.calls.length user) (w.begins (.rotationRead user issued))
  | rotated {w : World} {n : ℕ} {user : User} {issued : List (Uuid × JsString)} {db : Db}
      (hcall : w.calls[n]? = some (.rotationRead user issued))
      (hrun : rotateCashierRecoveryCodes env w.db user issued w.now = .ok db) :
      Step w (.rotated n user.id) (w.goesOn n .answered db)
  | rotationRefused {w : World} {n : ℕ} {user : User} {issued : List (Uuid × JsString)}
      {error : HttpException} (hcall : w.calls[n]? = some (.rotationRead user issued))
      (hrun : rotateCashierRecoveryCodes env w.db user issued w.now = .error error) :
      Step w (.failed n) (w.goesOn n .answered w.db)

/-- The authentication service over an empty database. -/
def authentication : Machine World Event where
  init w := w.db = Db.empty ∧ w.calls = []
  step := Step env

end Auth

end SinoChat
