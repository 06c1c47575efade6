import SinoChat.Model.Auth

/-!
# The device of an account and the sessions bound to it

`devices.service.ts` and the registration of `matrix-key-directory.service.ts`. The
transactions of one account run one after the other, under its device lock
(`lockDeviceSet`). The keys that `completeInitialUpload` publishes are in tables of
their own: here their publication either fails or leaves a number of one-time keys.
-/

namespace SinoChat

open Js

namespace Auth

/-- `REGISTRATION_TTL_MS`. -/
def registrationTtl : ℕ := 10 * 60000

/-- `MATRIX_PROTOCOL_VERSION`. -/
def matrixProtocolVersion : JsString := js "matrix-olm-v1"

/-- `SECOND_DEVICE_REGISTRATION_MESSAGE`. -/
def secondDevice : HttpException :=
  .conflict ("Esta cuenta ya tuvo un dispositivo. El alta de otro dispositivo está bloqueada " ++
    "hasta que el ADR E2EE implemente aprobación firmada o recuperación segura.")

/-- The session ended or changed. -/
def staleSession : HttpException := .unauthorized "La sesión ya no está vigente."

/-- The session of a request, as `getCurrentSession` and `requireCurrentSession` check
it; they differ in the accounts they admit. -/
def Db.currentSession (db : Db) (admits : User → Bool) (principal : SessionPrincipal) (now : ℕ) :
    Except HttpException Session := do
  let session ← orThrow (db.sessions.find? principal.sessionId) staleSession
  let user ← orThrow (db.users.find? session.userId) staleSession
  require (session.userId == principal.id && session.revokedAt == none &&
    now < session.expiresAt && session.sessionVersion == user.sessionVersion &&
    !user.passwordResetRequired && admits user) staleSession
  .ok session

/-- The update of a session to its device, with the trigger that asks for an active
device of the same account. -/
def linkSession (db : Db) (admits : User → Bool) (error : HttpException)
    (principal : SessionPrincipal) (sessionVersion : ℕ) (deviceId : Uuid) (now : ℕ) :
    Except HttpException Db := do
  let session ← orThrow (db.sessions.find? principal.sessionId) error
  let user ← orThrow (db.users.find? session.userId) error
  require (session.userId == principal.id && session.deviceId == none &&
    session.revokedAt == none && now < session.expiresAt &&
    session.sessionVersion == sessionVersion && user.sessionVersion == sessionVersion &&
    !user.passwordResetRequired && admits user) error
  require ((db.devices.find? deviceId).any fun d =>
    d.userId == session.userId && d.status == .active)
    (.internal "referenced active device must belong to the same user")
  .ok { db with
    sessions := db.sessions.update session.id
      (fun s => { s with deviceId := some deviceId }) fun _ => rfl }

/-- How many devices the account ever had. -/
def Db.historicalDevices (db : Db) (userId : Uuid) : ℕ :=
  db.devices.count fun d => d.userId == userId

/-- `device.create`. -/
def createDevice (db : Db) (id userId : Uuid) (bindingSecretHash protocolVersion : JsString) :
    Except HttpException Db := do
  let devices ← db.devices.create
    { id, userId, status := .active, bindingSecretHash, protocolVersion }
  .ok { db with devices }

/-! ## The registration of a bundle -/

/-- `register`, with the id and the binding secret it draws. -/
def registerDevice (env : Env) (db : Db) (principal : SessionPrincipal) (deviceId : Uuid)
    (bindingSecret protocolVersion : JsString) (now : ℕ) : Except HttpException Db := do
  let session ← db.currentSession User.available principal now
  -- `evaluateFirstDeviceRegistration`
  require (db.historicalDevices principal.id == 0) secondDevice
  require (session.deviceId == none)
    (.conflict "Esta sesión ya está vinculada a un dispositivo.")
  let db ← createDevice db deviceId principal.id (env.hashBindingSecret bindingSecret)
    protocolVersion
  linkSession db User.available
    (.unauthorized "La sesión ya no está disponible para vinculación.") principal
    session.sessionVersion deviceId now

/-! ## The binding of a session -/

/-- `verifyDeviceBindingSecret`. -/
def verifyDeviceBindingSecret (env : Env) (secret expectedHash : JsString) : Bool :=
  env.hashBindingSecret secret == expectedHash && fixed (times 64 isLowerHex) expectedHash

/-- The answer to a device or a secret that does not fit. -/
def unboundDevice : HttpException :=
  .unauthorized "No se pudo vincular la sesión al dispositivo."

/-- `bindSession`. -/
def bindSession (env : Env) (db : Db) (principal : SessionPrincipal) (deviceId : Uuid)
    (bindingSecret : JsString) (now : ℕ) : Except HttpException Db := do
  let session ← db.currentSession User.available principal now
  require (session.deviceId == none)
    (.conflict "Esta sesión ya está vinculada a un dispositivo.")
  let device ← orThrow (db.devices.find? deviceId) unboundDevice
  require (device.userId == principal.id && device.status == .active) unboundDevice
  require (verifyDeviceBindingSecret env bindingSecret device.bindingSecretHash) unboundDevice
  linkSession db User.available
    (.unauthorized "La sesión ya no está disponible para vinculación.") principal
    session.sessionVersion deviceId now

/-- `revoke`. -/
def revokeDevice (db : Db) (userId deviceId : Uuid) (now : ℕ) : Except HttpException Db := do
  let device ← orThrow (db.devices.find? deviceId)
    (.withMessage 404 "Dispositivo activo no encontrado.")
  require (device.userId == userId && device.status == .active)
    (.withMessage 404 "Dispositivo activo no encontrado.")
  .ok (revokeSessions { db with
    devices := db.devices.update deviceId (fun d => { d with status := .revoked }) fun _ => rfl }
    (fun s => s.deviceId == some deviceId) now)

/-! ## The Matrix registration -/

/-- `lockOperationalUser`. -/
def Db.lockOperationalUser (db : Db) (userId : Uuid) : Except HttpException Unit :=
  require ((db.users.find? userId).any fun u => u.available && !u.passwordResetRequired)
    (.forbidden "La cuenta no está disponible para esta acción.")

/-- The account `requireCurrentSession` admits. -/
def User.isActive (user : User) : Bool := user.status == .active

/-- `requireCurrentSession`. -/
def Db.requireCurrentSession (db : Db) (principal : SessionPrincipal) (now : ℕ)
    (expectedDeviceId : Option Uuid) : Except HttpException Session := do
  let session ← db.currentSession User.isActive principal now
  require (session.deviceId == expectedDeviceId) staleSession
  .ok session

/-- A reservation that can still be completed. -/
def MatrixDeviceRegistration.isOpen (now : ℕ) (r : MatrixDeviceRegistration) : Bool :=
  r.consumedAt == none && now < r.expiresAt

/-- `deleteMany` of the reservations that ran out, of one session or of all. -/
def deleteExpiredRegistrations (db : Db) (selects : MatrixDeviceRegistration → Bool) (now : ℕ) :
    Db :=
  { db with
    registrations := db.registrations.filter fun r =>
      !(selects r && r.consumedAt == none && r.expiresAt ≤ now) }

/-- `reserveDevice`: the reservation, new or still open. -/
def reserveDevice (db : Db) (principal : SessionPrincipal) (registrationId : Uuid) (now : ℕ) :
    Except HttpException (Db × MatrixDeviceRegistration) := do
  require (principal.deviceId == none)
    (.conflict "Esta sesion ya esta vinculada a un dispositivo.")
  db.lockOperationalUser principal.id
  let _ ← db.requireCurrentSession principal now none
  let db := deleteExpiredRegistrations db (fun r => r.sessionId == principal.sessionId) now
  match db.registrations.rows.find? fun r => r.sessionId == principal.sessionId &&
      r.userId == principal.id && r.isOpen now with
  | some registration => .ok (db, registration)
  | none => do
    require (db.historicalDevices principal.id == 0) (.conflict ("El alta de otro dispositivo " ++
      "requiere la ceremonia de autorizacion E2EE pendiente."))
    let registration : MatrixDeviceRegistration :=
      { id := registrationId, userId := principal.id, sessionId := principal.sessionId,
        expiresAt := now + registrationTtl, consumedAt := none, initialUploadSha256 := none,
        initialOneTimeKeyCount := none }
    let registrations ← db.registrations.create registration
    .ok ({ db with registrations }, registration)

/-- The answer to a reservation that is not the caller's. -/
def unknownReservation : HttpException :=
  .withMessage 404 "Reserva de dispositivo no encontrada."

/-- The reservation of the caller. -/
def Db.ownRegistration (db : Db) (principal : SessionPrincipal) (registrationId : Uuid) :
    Except HttpException MatrixDeviceRegistration := do
  let registration ← orThrow (db.registrations.find? registrationId) unknownReservation
  require (registration.userId == principal.id && registration.sessionId == principal.sessionId)
    unknownReservation
  .ok registration

/-- The transaction of `completeInitialUpload`, for an upload with its digest and, where
its keys can be published, their number. -/
def completeRegistration (env : Env) (db : Db) (principal : SessionPrincipal)
    (registrationId : Uuid) (uploadSha256 : JsString) (oneTimeKeys : Option ℕ) (now : ℕ) :
    Except HttpException Db := do
  db.lockOperationalUser principal.id
  require (db.registrations.find? registrationId).isSome unknownReservation
  let session ← db.requireCurrentSession principal now none
  let registration ← db.ownRegistration principal registrationId
  require (registration.isOpen now)
    (.conflict "La reserva de dispositivo ya no esta disponible.")
  require (db.historicalDevices principal.id == 0)
    (.conflict "La cuenta ya posee historial de dispositivo.")
  let db ← createDevice db registrationId principal.id
    (env.hashBindingSecret (env.deriveBindingSecret registrationId)) matrixProtocolVersion
  let oneTimeKeyCount ← orThrow oneTimeKeys
    (.conflict "El dispositivo o alguna de sus claves Matrix ya fue publicado.")
  let db ← linkSession db User.isActive
    (.unauthorized "La sesion dejo de estar disponible para vincular el dispositivo.") principal
    session.sessionVersion registrationId now
  .ok { db with
    registrations := db.registrations.update registrationId
      (fun r => { r with consumedAt := some now, initialUploadSha256 := some uploadSha256,
                         initialOneTimeKeyCount := some oneTimeKeyCount }) fun _ => rfl }

/-- `replayInitialUpload`: the number of keys and the time of the first completion. -/
def replayInitialUpload (env : Env) (db : Db) (principal : SessionPrincipal)
    (registrationId : Uuid) (uploadSha256 : JsString) (now : ℕ) :
    Except HttpException (ℕ × ℕ) := do
  db.lockOperationalUser principal.id
  require (db.registrations.find? registrationId).isSome unknownReservation
  let _ ← db.requireCurrentSession principal now (some registrationId)
  let registration ← db.ownRegistration principal registrationId
  let mismatch : HttpException := .conflict ("La confirmacion del dispositivo no coincide con " ++
    "el alta original o ya no puede repetirse.")
  let publishedAt ← orThrow registration.consumedAt mismatch
  require (now < registration.expiresAt && registration.initialUploadSha256 == some uploadSha256)
    mismatch
  let oneTimeKeyCount ← orThrow registration.initialOneTimeKeyCount mismatch
  require ((db.devices.find? registrationId).any fun d => d.userId == principal.id &&
      d.status == .active && d.protocolVersion == matrixProtocolVersion &&
      d.bindingSecretHash == env.hashBindingSecret (env.deriveBindingSecret registrationId))
    (.conflict "El dispositivo publicado no coincide con la reserva.")
  .ok (oneTimeKeyCount, publishedAt)

/-- `completeInitialUpload`: a bound session asks for the answer again. -/
def completeInitialUpload (env : Env) (db : Db) (principal : SessionPrincipal)
    (registrationId : Uuid) (uploadSha256 : JsString) (oneTimeKeys : Option ℕ) (now : ℕ) :
    Except HttpException Db :=
  match principal.deviceId with
  | some deviceId => do
    require (deviceId == registrationId)
      (.conflict "Esta sesion ya esta vinculada a otro dispositivo.")
    let _ ← replayInitialUpload env db principal registrationId uploadSha256 now
    .ok db
  | none => completeRegistration env db principal registrationId uploadSha256 oneTimeKeys now

end Auth

end SinoChat
