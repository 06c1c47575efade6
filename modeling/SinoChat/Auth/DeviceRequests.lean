import SinoChat.Auth.Requests

/-!
# What the requests about devices do

A session is bound by `linkSession` alone, a device made by `createDevice` alone: the
requests are these two behind their checks.
-/

namespace SinoChat

open Js

namespace Auth

variable {env : Env} {db db' : Db} {principal : SessionPrincipal} {now : ℕ} {deviceId : Uuid}

theorem id_bound (deviceId : Uuid) (s : Session) :
    ({ s with deviceId := some deviceId } : Session).id = s.id := rfl

/-- The sessions after one is bound to a device. -/
def Db.bind (db : Db) (sessionId deviceId : Uuid) : Db :=
  { db with
    sessions := db.sessions.update sessionId
      (fun s => { s with deviceId := some deviceId }) (id_bound deviceId) }

/-- The row of a device that is made. -/
def newDevice (id userId : Uuid) (bindingSecretHash protocolVersion : JsString) : Device :=
  { id, userId, status := .active, bindingSecretHash, protocolVersion }

/-- The session that a request binds, and the device. -/
structure Binds (db : Db) (principal : SessionPrincipal) (deviceId : Uuid) (now : ℕ)
    (session : Session) (device : Device) : Prop where
  found : db.sessions.find? principal.sessionId = some session
  owner : session.userId = principal.id
  unbound : session.deviceId = none
  unrevoked : session.revokedAt = none
  unexpired : now < session.expiresAt
  foundDevice : db.devices.find? deviceId = some device
  own : device.userId = principal.id
  active : device.status = .active

theorem linkSession_eq_ok {admits : User → Bool} {error : HttpException} {version : ℕ}
    (h : linkSession db admits error principal version deviceId now = .ok db') :
    ∃ session device, Binds db principal deviceId now session device ∧
      db' = db.bind principal.sessionId deviceId := by
  simp only [linkSession, bind_eq_ok, orThrow_eq_ok, require_eq_ok, Option.any_eq_true,
    Bool.and_eq_true, beq_iff_eq, decide_eq_true_eq] at h
  obtain ⟨session, hsession, user, -, _, hchecks, _, ⟨device, hdevice, hown, hactive⟩, hdb⟩ := h
  obtain ⟨⟨⟨⟨⟨⟨⟨howner, hunbound⟩, hunrevoked⟩, hunexpired⟩, -⟩, -⟩, -⟩, -⟩ := hchecks
  obtain ⟨hmem, hid⟩ := Table.find?_eq_some.mp hsession
  obtain rfl := Except.ok.inj hdb
  refine ⟨session, device, ⟨hsession, howner, hunbound, hunrevoked, hunexpired, hdevice,
    hown.trans howner, hactive⟩, ?_⟩
  rw [Db.bind, ← hid]

theorem currentSession_eq_ok {admits : User → Bool} {session : Session}
    (h : db.currentSession admits principal now = .ok session) :
    db.sessions.find? principal.sessionId = some session ∧ session.userId = principal.id := by
  simp only [Db.currentSession, bind_eq_ok, orThrow_eq_ok, require_eq_ok, Bool.and_eq_true,
    beq_iff_eq] at h
  obtain ⟨found, hsession, user, -, _, hchecks, hfound⟩ := h
  obtain rfl := Except.ok.inj hfound
  exact ⟨hsession, hchecks.1.1.1.1.1⟩

theorem historicalDevices_eq_zero {userId : Uuid} (h : db.historicalDevices userId = 0) :
    ∀ d ∈ db.devices, d.userId ≠ userId := by
  intro d hd hown
  have hnone := Table.count_eq_zero.mp h d hd
  simp [hown] at hnone

/-- A request that makes the first device of an account and binds the session to it. -/
structure MakesDevice (db : Db) (principal : SessionPrincipal) (device : Device) (now : ℕ)
    (db' : Db) : Prop where
  own : device.userId = principal.id
  first : ∀ d ∈ db.devices, d.userId ≠ principal.id
  made : ∃ hfree : db.devices.find? device.id = none, ∃ session,
    Binds { db with devices := db.devices.insert device hfree } principal device.id now session
      device ∧
    db' = { db with devices := db.devices.insert device hfree }.bind principal.sessionId device.id

theorem registerDevice_eq_ok {bindingSecret protocolVersion : JsString}
    (h : registerDevice env db principal deviceId bindingSecret protocolVersion now = .ok db') :
    MakesDevice db principal
      (newDevice deviceId principal.id (env.hashBindingSecret bindingSecret) protocolVersion) now
      db' := by
  simp only [registerDevice, bind_eq_ok, require_eq_ok, beq_iff_eq, createDevice,
    Table.create_eq_ok] at h
  obtain ⟨session, -, _, hfirst, _, -, made, ⟨devices, ⟨hfree, rfl⟩, hmade⟩, hlink⟩ := h
  obtain rfl := Except.ok.inj hmade
  obtain ⟨session, device, hbinds, rfl⟩ := linkSession_eq_ok hlink
  refine ⟨rfl, historicalDevices_eq_zero hfirst, hfree, session, ?_, rfl⟩
  have hdevice := hbinds.foundDevice
  rw [Table.find?_insert (h := hfree), if_pos rfl, Option.some.injEq] at hdevice
  obtain rfl := hdevice
  exact hbinds

theorem bindSession_eq_ok {bindingSecret : JsString}
    (h : bindSession env db principal deviceId bindingSecret now = .ok db') :
    ∃ session device, Binds db principal deviceId now session device ∧
      verifyDeviceBindingSecret env bindingSecret device.bindingSecretHash = true ∧
      db' = db.bind principal.sessionId deviceId := by
  simp only [bindSession, bind_eq_ok, require_eq_ok, orThrow_eq_ok] at h
  obtain ⟨session, -, _, -, device, hdevice, _, -, _, hverify, hlink⟩ := h
  obtain ⟨session, found, hbinds, rfl⟩ := linkSession_eq_ok hlink
  obtain rfl : found = device := Option.some.inj (hbinds.foundDevice.symm.trans hdevice)
  exact ⟨session, found, hbinds, hverify, rfl⟩

theorem revokeDevice_eq_ok {userId : Uuid} (h : revokeDevice db userId deviceId now = .ok db') :
    (∃ device, db.devices.find? deviceId = some device ∧ device.userId = userId ∧
      device.status = .active) ∧
    db' = revokeSessions { db with
      devices := db.devices.update deviceId (fun d => { d with status := .revoked })
        fun _ => rfl } (fun s => s.deviceId == some deviceId) now := by
  simp only [revokeDevice, bind_eq_ok, require_eq_ok, orThrow_eq_ok, Bool.and_eq_true,
    beq_iff_eq] at h
  obtain ⟨device, hdevice, _, ⟨hown, hactive⟩, hdb⟩ := h
  exact ⟨⟨device, hdevice, hown, hactive⟩, (Except.ok.inj hdb).symm⟩

/-- The reservations that remain. -/
def Db.remaining (db : Db) (selects : MatrixDeviceRegistration → Bool) (now : ℕ) :
    Table Uuid MatrixDeviceRegistration MatrixDeviceRegistration.id :=
  db.registrations.filter fun r => !(selects r && r.consumedAt == none && r.expiresAt ≤ now)

/-- The row of a reservation that is made. -/
def newRegistration (principal : SessionPrincipal) (id : Uuid) (now : ℕ) :
    MatrixDeviceRegistration :=
  { id, userId := principal.id, sessionId := principal.sessionId,
    expiresAt := now + registrationTtl, consumedAt := none, initialUploadSha256 := none,
    initialOneTimeKeyCount := none }

theorem reserveDevice_eq_ok {registrationId : Uuid} {reserved : Db × MatrixDeviceRegistration}
    (h : reserveDevice db principal registrationId now = .ok reserved) :
    reserved.1 = { db with
      registrations := db.remaining (fun r => r.sessionId == principal.sessionId) now } ∨
    ∃ hfree, reserved.1 = { db with
      registrations := (db.remaining (fun r => r.sessionId == principal.sessionId) now).insert
        (newRegistration principal registrationId now) hfree } := by
  simp only [reserveDevice, bind_eq_ok, require_eq_ok] at h
  obtain ⟨_, -, _, -, session, -, h⟩ := h
  split at h
  · obtain rfl := Except.ok.inj h
    exact .inl rfl
  · simp only [bind_eq_ok, require_eq_ok, Table.create_eq_ok] at h
    obtain ⟨_, -, registrations, ⟨hfree, rfl⟩, h⟩ := h
    obtain rfl := Except.ok.inj h
    exact .inr ⟨hfree, rfl⟩

/-- The device that a reservation becomes. -/
def registeredDevice (env : Env) (principal : SessionPrincipal) (registrationId : Uuid) : Device :=
  newDevice registrationId principal.id
    (env.hashBindingSecret (env.deriveBindingSecret registrationId)) matrixProtocolVersion

/-- The reservations after one is completed. -/
def Db.consume (db : Db) (registrationId : Uuid) (uploadSha256 : JsString) (count now : ℕ) : Db :=
  { db with
    registrations := db.registrations.update registrationId
      (fun r => { r with consumedAt := some now, initialUploadSha256 := some uploadSha256,
                         initialOneTimeKeyCount := some count }) fun _ => rfl }

theorem completeRegistration_eq_ok {registrationId : Uuid} {uploadSha256 : JsString}
    {oneTimeKeys : Option ℕ}
    (h : completeRegistration env db principal registrationId uploadSha256 oneTimeKeys now =
      .ok db') :
    ∃ registration count bound, db.registrations.find? registrationId = some registration ∧
      registration.userId = principal.id ∧ registration.sessionId = principal.sessionId ∧
      registration.isOpen now = true ∧
      MakesDevice db principal (registeredDevice env principal registrationId) now bound ∧
      db' = bound.consume registrationId uploadSha256 count now := by
  simp only [completeRegistration, bind_eq_ok, require_eq_ok, orThrow_eq_ok, beq_iff_eq,
    createDevice, Table.create_eq_ok, Db.ownRegistration, Bool.and_eq_true] at h
  obtain ⟨_, -, _, -, session, -, registration, ⟨found, hfound, _, ⟨huser, hsession⟩, hregistration⟩,
    _, hopen, _, hfirst, made, ⟨devices, ⟨hfree, rfl⟩, hmade⟩, count, -, bound, hlink, hdb⟩ := h
  obtain rfl := Except.ok.inj hregistration
  obtain rfl := Except.ok.inj hmade
  obtain ⟨session, device, hbinds, rfl⟩ := linkSession_eq_ok hlink
  refine ⟨found, count, _, hfound, huser, hsession, hopen,
    ⟨rfl, historicalDevices_eq_zero hfirst, hfree, session, ?_, rfl⟩,
    (Except.ok.inj hdb).symm⟩
  have hdevice := hbinds.foundDevice
  rw [Table.find?_insert (h := hfree), if_pos rfl, Option.some.injEq] at hdevice
  obtain rfl := hdevice
  exact hbinds

/-- A bound session only reads. -/
theorem completeInitialUpload_eq_ok {registrationId : Uuid} {uploadSha256 : JsString}
    {oneTimeKeys : Option ℕ}
    (h : completeInitialUpload env db principal registrationId uploadSha256 oneTimeKeys now =
      .ok db') :
    db' = db ∨
      completeRegistration env db principal registrationId uploadSha256 oneTimeKeys now =
        .ok db' := by
  unfold completeInitialUpload at h
  split at h
  · simp only [bind_eq_ok] at h
    obtain ⟨_, -, _, -, hdb⟩ := h
    exact .inl (Except.ok.inj hdb).symm
  · exact .inr h

/-! ## What they leave alone -/

theorem sameAccounts_bind {sessionId : Uuid} : SameAccounts db (db.bind sessionId deviceId) :=
  ⟨rfl, rfl, rfl, rfl⟩

/-- A new device leaves the accounts alone. -/
theorem MakesDevice.sameAccounts {device : Device} (h : MakesDevice db principal device now db') :
    SameAccounts db db' := by
  obtain ⟨hfree, session, -, rfl⟩ := h.made
  exact ⟨rfl, rfl, rfl, rfl⟩

/-- So does a registration. -/
theorem sameAccounts_registerDevice {bindingSecret protocolVersion : JsString}
    (h : registerDevice env db principal deviceId bindingSecret protocolVersion now = .ok db') :
    SameAccounts db db' := (registerDevice_eq_ok h).sameAccounts

/-- So does a binding. -/
theorem sameAccounts_bindSession {bindingSecret : JsString}
    (h : bindSession env db principal deviceId bindingSecret now = .ok db') :
    SameAccounts db db' := by
  obtain ⟨session, device, -, -, rfl⟩ := bindSession_eq_ok h
  exact sameAccounts_bind

/-- So does a revocation. -/
theorem sameAccounts_revokeDevice {userId : Uuid}
    (h : revokeDevice db userId deviceId now = .ok db') : SameAccounts db db' := by
  obtain ⟨-, rfl⟩ := revokeDevice_eq_ok h
  exact ⟨rfl, rfl, rfl, rfl⟩

/-- So does a reservation. -/
theorem sameAccounts_reserveDevice {registrationId : Uuid}
    {reserved : Db × MatrixDeviceRegistration}
    (h : reserveDevice db principal registrationId now = .ok reserved) :
    SameAccounts db reserved.1 := by
  rcases reserveDevice_eq_ok h with heq | ⟨hfree, heq⟩
  · rw [heq]
    exact ⟨rfl, rfl, rfl, rfl⟩
  · rw [heq]
    exact ⟨rfl, rfl, rfl, rfl⟩

/-- So does the first upload. -/
theorem sameAccounts_completeInitialUpload {registrationId : Uuid} {uploadSha256 : JsString}
    {oneTimeKeys : Option ℕ}
    (h : completeInitialUpload env db principal registrationId uploadSha256 oneTimeKeys now =
      .ok db') : SameAccounts db db' := by
  rcases completeInitialUpload_eq_ok h with rfl | h
  · exact .refl db'
  · obtain ⟨registration, count, bound, -, -, -, -, hmakes, rfl⟩ := completeRegistration_eq_ok h
    exact hmakes.sameAccounts.trans ⟨rfl, rfl, rfl, rfl⟩

end Auth

end SinoChat
