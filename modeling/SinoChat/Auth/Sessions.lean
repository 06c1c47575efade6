import SinoChat.Common.Evolve
import SinoChat.Auth.DeviceRequests
import SinoChat.Model.AuthRuns

/-!
# What a step does to the sessions and the devices

Neither is ever removed. A session keeps its account, its token and its version; once
revoked or bound it stays so. A device keeps everything but its status, and once revoked
it stays revoked.
-/

namespace SinoChat

open Js

namespace Auth

variable {env : Env} {db db' : Db} {now : ℕ} {w w' : World} {event : Event} {session : Session}

/-! ## Sessions -/

/-- The step revokes the session as such: a logout, a revocation by an administrator, or
an invalid session that `getSessionPrincipal` meets. -/
def Event.revokes (env : Env) (session : Session) : Event → Prop
  | .served (.logout token) => session.tokenHash = env.hashToken token
  | .served (.revokeOwnAdminSession principal id) =>
    session.id = id ∧ session.userId = principal.id
  | .served (.revokeOtherAdminSessions principal seen) =>
    seen session.id = true ∧ session.userId = principal.id ∧ session.id ≠ principal.sessionId
  | .sessionInvalidated _ id => session.id = id
  | _ => False

/-- The step revokes the device. -/
def Event.revokesDevice (deviceId : Uuid) : Event → Prop
  | .served (.revokeDevice _ id) => id = deviceId
  | _ => False

/-- How a step may bind a session to a device. -/
inductive BoundBy (env : Env) (db : Db) (session : Session) (deviceId : Uuid) : Event → Prop
  /-- By the binding secret of an active device of the same account. -/
  | secret {principal : SessionPrincipal} {bindingSecret : JsString} {device : Device}
      (hsession : principal.sessionId = session.id)
      (hdevice : db.devices.find? deviceId = some device) (hown : device.userId = session.userId)
      (hactive : device.status = .active)
      (hverify : verifyDeviceBindingSecret env bindingSecret device.bindingSecretHash = true) :
      BoundBy env db session deviceId (.served (.bindSession principal deviceId bindingSecret))
  /-- By the registration that makes the device. -/
  | bundle {principal : SessionPrincipal} {bindingSecret protocolVersion : JsString}
      (hsession : principal.sessionId = session.id) (hown : principal.id = session.userId)
      (hnew : db.devices.find? deviceId = none) :
      BoundBy env db session deviceId
        (.served (.registerDevice principal deviceId bindingSecret protocolVersion))
  /-- By the completion of the reservation of the session, which makes the device. -/
  | reservation {principal : SessionPrincipal} {uploadSha256 : JsString} {oneTimeKeys : Option ℕ}
      {registration : MatrixDeviceRegistration}
      (hsession : principal.sessionId = session.id) (hown : principal.id = session.userId)
      (hnew : db.devices.find? deviceId = none)
      (hreservation : db.registrations.find? deviceId = some registration)
      (hreserved : registration.sessionId = session.id) :
      BoundBy env db session deviceId
        (.served (.completeInitialUpload principal deviceId uploadSha256 oneTimeKeys))

/-- A session before and after a step. -/
structure SessionStep (env : Env) (db db' : Db) (event : Event) (s s' : Session) : Prop where
  userId : s'.userId = s.userId
  tokenHash : s'.tokenHash = s.tokenHash
  sessionVersion : s'.sessionVersion = s.sessionVersion
  expiresAt : s'.expiresAt = s.expiresAt
  revoked : s.revokedAt ≠ none → s'.revokedAt = s.revokedAt
  revokes : event.revokes env s → s'.revokedAt ≠ none
  bound : s.deviceId ≠ none → s'.deviceId = s.deviceId
  binds : ∀ d, s.deviceId = none → s'.deviceId = some d →
    BoundBy env db s d event ∧ ∃ device ∈ db'.devices,
      device.id = d ∧ device.userId = s.userId ∧ device.status = .active
  loses : ∀ d, s.deviceId = some d → event.revokesDevice d → s'.revokedAt ≠ none

/-- The step revokes the session, as such or with its device. -/
def Event.ends (env : Env) (session : Session) (event : Event) : Prop :=
  event.revokes env session ∨ ∃ d, session.deviceId = some d ∧ event.revokesDevice d

/-- A step that revokes nothing. -/
theorem not_ends (hrevokes : ¬ event.revokes env session)
    (hdevice : ∀ d, ¬ event.revokesDevice d) : ¬ event.ends env session := by
  rintro (hends | ⟨d, -, hends⟩)
  · exact hrevokes hends
  · exact hdevice d hends

/-- A session that a step makes. -/
def NewSession (event : Event) (s : Session) : Prop :=
  s.revokedAt = none ∧ s.deviceId = none ∧ ∃ n, event = .sessionCreated n s

/-- The sessions evolve over a step. -/
abbrev SessionsEvolve (env : Env) (event : Event) (db db' : Db) : Prop :=
  db.sessions.Evolves (SessionStep env db db' event) (NewSession event) db'.sessions

/-- A session that a step leaves as it is, or only revokes. -/
theorem SessionStep.revoking {s s' : Session} {revokedAt : Option ℕ}
    (h : s' = { s with revokedAt }) (hkeep : s.revokedAt ≠ none → revokedAt = s.revokedAt)
    (hrevokes : event.ends env s → revokedAt ≠ none) : SessionStep env db db' event s s' := by
  subst h
  refine ⟨rfl, rfl, rfl, rfl, hkeep, fun hevent => hrevokes (.inl hevent), fun _ => rfl,
    fun d hnone hsome => ?_, fun d hd hevent => hrevokes (.inr ⟨d, hd, hevent⟩)⟩
  rw [hnone] at hsome
  cases hsome

theorem SessionStep.same {s : Session} (h : ¬ event.ends env s) : SessionStep env db db' event s s :=
  .revoking rfl (fun _ => rfl) fun hends => absurd hends h

theorem sessionsEvolve_of_eq (h : db'.sessions = db.sessions) (hends : ∀ s, ¬ event.ends env s) :
    SessionsEvolve env event db db' := by
  unfold SessionsEvolve
  rw [h]
  exact .refl fun s _ => .same (hends s)

/-- A step that revokes the sessions a condition selects. -/
theorem sessionsEvolve_revoke {selects : Session → Bool} {revokedAt : ℕ}
    (h : db'.sessions = (revokeSessions db selects revokedAt).sessions)
    (hends : ∀ s, event.ends env s → selects s = true) : SessionsEvolve env event db db' := by
  unfold SessionsEvolve
  rw [h]
  refine .modify (fun s => by split_ifs <;> rfl) fun s _ => ?_
  split_ifs with hselected
  · simp only [Bool.and_eq_true, beq_iff_eq] at hselected
    exact .revoking rfl (fun hrevoked => absurd hselected.2 hrevoked) fun _ => nofun
  · refine .revoking rfl (fun _ => rfl) fun hevent => ?_
    simp only [Bool.and_eq_true, beq_iff_eq, not_and] at hselected
    exact hselected (hends s hevent)

/-- A step that binds one session. -/
theorem sessionsEvolve_bind {principal : SessionPrincipal} {deviceId : Uuid} {device : Device}
    {db₀ : Db} (hbinds : Binds db₀ principal deviceId now session device)
    (hsessions : db₀.sessions = db.sessions)
    (h : db'.sessions = (db₀.bind principal.sessionId deviceId).sessions)
    (hdevices : db'.devices = db₀.devices) (hends : ∀ s, ¬ event.ends env s) (hbound : BoundBy env db session deviceId event) : SessionsEvolve env event db db' := by
  have hactive : ∃ device ∈ db'.devices,
      device.id = deviceId ∧ device.userId = session.userId ∧ device.status = .active := by
    obtain ⟨hmem, hid⟩ := Table.find?_eq_some.mp hbinds.foundDevice
    exact ⟨device, hdevices ▸ hmem, hid, hbinds.own.trans hbinds.owner.symm, hbinds.active⟩
  unfold SessionsEvolve
  rw [h, Db.bind, hsessions]
  refine .update (fun _ => by rfl) (fun s hs hid => ?_) fun s _ _ => .same (hends s)
  have hfound := hbinds.found
  rw [hsessions, Table.find?_eq_some.mpr ⟨hs, hid⟩] at hfound
  obtain rfl := Option.some.inj hfound
  refine ⟨rfl, rfl, rfl, rfl, fun _ => rfl, fun hevent => absurd (.inl hevent) (hends s),
    fun hnot => absurd hbinds.unbound hnot, fun d _ hd => ?_, fun d hd hevent =>
    absurd (.inr ⟨d, hd, hevent⟩) (hends s)⟩
  obtain rfl := Option.some.inj hd
  exact ⟨hbound, hactive⟩

/-- A step that makes a device and binds one session to it. -/
theorem sessionsEvolve_make {principal : SessionPrincipal} {device : Device} {made : Db}
    (hmakes : MakesDevice db principal device now made) (h : db'.sessions = made.sessions)
    (hdevices : db'.devices = made.devices) (hends : ∀ s, ¬ event.ends env s)
    (hbound : ∀ s : Session, principal.sessionId = s.id → principal.id = s.userId →
      db.devices.find? device.id = none → BoundBy env db s device.id event) :
    SessionsEvolve env event db db' := by
  obtain ⟨hfree, found, hbinds, rfl⟩ := hmakes.made
  refine sessionsEvolve_bind hbinds rfl h hdevices hends
    (hbound found ?_ hbinds.owner.symm hfree)
  exact (Table.find?_eq_some.mp hbinds.found).2.symm

theorem sessionsEvolve_request {request : Request} (h : request.run env now db = .ok db') :
    SessionsEvolve env (.served request) db db' := by
  cases request with
  | bootstrapAdmin userId name hash =>
    obtain ⟨hfree, profiles, codes, -, rfl⟩ := createAccount_eq_ok h
    exact sessionsEvolve_of_eq rfl fun _ => not_ends id fun _ => id
  | logout token =>
    obtain rfl := Except.ok.inj h
    refine sessionsEvolve_revoke rfl fun s hs => ?_
    exact beq_iff_eq.mpr (hs.resolve_right fun ⟨_, _, hdevice⟩ => hdevice)
  | revokeOwnAdminSession principal sessionId =>
    obtain rfl := revokeOwnAdminSession_eq_ok h
    refine sessionsEvolve_revoke rfl fun s hs => ?_
    simp only [Bool.and_eq_true, beq_iff_eq]
    exact hs.resolve_right fun ⟨_, _, hdevice⟩ => hdevice
  | revokeOtherAdminSessions principal seen =>
    obtain rfl := revokeOtherAdminSessions_eq_ok h
    refine sessionsEvolve_revoke rfl fun s hs => ?_
    obtain ⟨hseen, hown, hother⟩ := hs.resolve_right fun ⟨_, _, hdevice⟩ => hdevice
    simp only [Bool.and_eq_true, beq_iff_eq, bne_iff_ne]
    exact ⟨⟨hseen, hown⟩, hother⟩
  | suspend userId seen =>
    obtain ⟨-, rfl⟩ := suspend_eq_ok h
    exact sessionsEvolve_revoke sessions_outdate fun _ h => absurd h (not_ends id fun _ => id)
  | suspendForReview userId seen =>
    obtain ⟨-, rfl⟩ := suspendForReview_eq_ok h
    exact sessionsEvolve_revoke sessions_outdate fun _ h => absurd h (not_ends id fun _ => id)
  | reactivate userId =>
    obtain ⟨user, -, -, rfl⟩ := reactivate_eq_ok h
    exact sessionsEvolve_of_eq rfl fun _ => not_ends id fun _ => id
  | approveCashier userId =>
    obtain rfl := approveCashier_eq_ok h
    exact sessionsEvolve_of_eq rfl fun _ => not_ends id fun _ => id
  | deleteUser userId seen =>
    obtain ⟨-, rfl⟩ := deleteUser_eq_ok h
    exact sessionsEvolve_revoke sessions_outdate fun _ h => absurd h (not_ends id fun _ => id)
  | resetPassword userId resetId seen =>
    obtain ⟨-, hfree, rfl⟩ := resetPassword_eq_ok h
    exact sessionsEvolve_revoke sessions_outdate fun _ h => absurd h (not_ends id fun _ => id)
  | registerDevice principal deviceId secret protocol =>
    exact sessionsEvolve_make (registerDevice_eq_ok h) rfl rfl (fun _ => not_ends id fun _ => id)
      fun s hsession hown hnew => .bundle hsession hown hnew
  | bindSession principal deviceId secret =>
    obtain ⟨found, device, hbinds, hverify, rfl⟩ := bindSession_eq_ok h
    refine sessionsEvolve_bind hbinds rfl rfl rfl (fun _ => not_ends id fun _ => id)
      (.secret ?_ hbinds.foundDevice (hbinds.own.trans hbinds.owner.symm) hbinds.active hverify)
    exact (Table.find?_eq_some.mp hbinds.found).2.symm
  | revokeDevice userId deviceId =>
    obtain ⟨-, rfl⟩ := revokeDevice_eq_ok h
    refine sessionsEvolve_revoke rfl fun s hs => ?_
    obtain ⟨d, hd, rfl⟩ := hs.resolve_left id
    exact beq_iff_eq.mpr hd
  | reserveDevice principal registrationId =>
    obtain ⟨reserved, hreserved, hdb⟩ := bind_eq_ok.mp h
    obtain rfl := Except.ok.inj hdb
    refine sessionsEvolve_of_eq ?_ fun _ => not_ends id fun _ => id
    rcases reserveDevice_eq_ok hreserved with heq | ⟨hfree, heq⟩ <;> rw [heq]
  | completeInitialUpload principal registrationId upload keys =>
    rcases completeInitialUpload_eq_ok h with rfl | h
    · exact sessionsEvolve_of_eq rfl fun _ => not_ends id fun _ => id
    · obtain ⟨registration, count, bound, hfound, huser, hsession, hopen, hmakes, rfl⟩ :=
        completeRegistration_eq_ok h
      exact sessionsEvolve_make hmakes rfl rfl (fun _ => not_ends id fun _ => id) fun s hprincipal hown hnew =>
        .reservation hprincipal hown hnew hfound (hsession.trans hprincipal)
  | purgeRegistrations =>
    obtain rfl := Except.ok.inj h
    exact sessionsEvolve_of_eq rfl fun _ => not_ends id fun _ => id

/-- **What a step does to the sessions.** -/
theorem sessionsEvolve_step (h : Step env w event w') : SessionsEvolve env event w.db w'.db := by
  cases h with
  | served hrun => exact sessionsEvolve_request hrun
  | registered hnew hrun =>
    obtain ⟨hfree, profiles, codes, -, rfl⟩ := createAccount_eq_ok hrun
    exact sessionsEvolve_of_eq rfl fun _ => not_ends id fun _ => id
  | successRecorded hcall hrun =>
    obtain ⟨-, rfl⟩ := recordSuccessfulLogin_eq_ok hrun
    exact sessionsEvolve_of_eq rfl fun _ => not_ends id fun _ => id
  | sessionCreated hcall hrun hsession =>
    obtain ⟨-, hfree, hfound, rfl⟩ := createSession_eq_ok hrun
    have hnew := Option.some.inj (hsession.symm.trans hfound)
    refine Table.Evolves.insert (a := newSession env _ _ _ _ _) hfree
      (fun s _ => .same (not_ends id fun _ => id)) ⟨rfl, rfl, ?_⟩
    exact ⟨_, congrArg _ hnew⟩
  | refreshed hcall hrun =>
    obtain ⟨found, -, -, rfl⟩ := refreshAdminSession_eq_some hrun
    exact .update (fun _ => by rfl) (fun s _ _ => ⟨rfl, rfl, rfl, rfl, fun _ => rfl, False.elim,
      fun _ => rfl, fun _ hnone hsome => absurd (hnone.symm.trans hsome) nofun, fun _ _ => False.elim⟩)
      fun s _ _ => .same (not_ends id fun _ => id)
  | sessionInvalidated hcall =>
    refine sessionsEvolve_revoke rfl fun s hs => ?_
    exact beq_iff_eq.mpr (hs.resolve_right fun ⟨_, _, hdevice⟩ => hdevice)
  | resetCompleted hcall hreset hcode hrun =>
    obtain ⟨_, _, user, -, -, -, -, rfl⟩ := completeAdminReset_eq_ok hrun
    exact sessionsEvolve_revoke sessions_outdate fun _ h => absurd h (not_ends id fun _ => id)
  | rotated hcall hrun =>
    obtain ⟨codes, -, rfl⟩ := rotateCashierRecoveryCodes_eq_ok hrun
    exact sessionsEvolve_of_eq rfl fun _ => not_ends id fun _ => id
  | _ => exact sessionsEvolve_of_eq rfl fun _ => not_ends id fun _ => id

/-! ## Devices -/

/-- A device before and after a step. -/
structure DeviceStep (event : Event) (d d' : Device) : Prop where
  userId : d'.userId = d.userId
  bindingSecretHash : d'.bindingSecretHash = d.bindingSecretHash
  protocolVersion : d'.protocolVersion = d.protocolVersion
  revoked : d.status = .revoked → d'.status = .revoked
  revokes : event.revokesDevice d.id → d'.status = .revoked
  status : ¬ event.revokesDevice d.id → d'.status = d.status

/-- The step may make the device. -/
def Event.makesDevice (deviceId : Uuid) : Event → Prop
  | .served (.registerDevice _ id _ _) | .served (.completeInitialUpload _ id _ _) =>
    id = deviceId
  | _ => False

/-- A device that a step makes is the first of its account. -/
def NewDevice (db : Db) (event : Event) (device : Device) : Prop :=
  device.status = .active ∧ (∀ d ∈ db.devices, d.userId ≠ device.userId) ∧
    event.makesDevice device.id

/-- The devices evolve over a step. -/
abbrev DevicesEvolve (event : Event) (db db' : Db) : Prop :=
  db.devices.Evolves (DeviceStep event) (NewDevice db event) db'.devices

/-- A step makes at most one device. -/
theorem makesDevice_inj {id id' : Uuid} (h : event.makesDevice id) (h' : event.makesDevice id') :
    id = id' := by
  cases event with
  | served request =>
    cases request with
    | registerDevice | completeInitialUpload => exact Eq.trans (Eq.symm h) h'
    | _ => exact h.elim
  | _ => exact h.elim

theorem DeviceStep.same {d : Device} (h : ¬ event.revokesDevice d.id) : DeviceStep event d d :=
  ⟨rfl, rfl, rfl, id, fun hrevokes => absurd hrevokes h, fun _ => rfl⟩

theorem devicesEvolve_of_eq (h : db'.devices = db.devices)
    (hrevokes : ∀ id, ¬ event.revokesDevice id) : DevicesEvolve event db db' := by
  unfold DevicesEvolve
  rw [h]
  exact .refl fun d _ => .same (hrevokes d.id)

theorem devicesEvolve_make {principal : SessionPrincipal} {device : Device} {made : Db}
    (hmakes : MakesDevice db principal device now made) (hactive : device.status = .active)
    (h : db'.devices = made.devices) (hrevokes : ∀ id, ¬ event.revokesDevice id)
    (hmade : event.makesDevice device.id) : DevicesEvolve event db db' := by
  obtain ⟨hfree, found, hbinds, rfl⟩ := hmakes.made
  unfold DevicesEvolve
  rw [h]
  refine .insert hfree (fun d _ => .same (hrevokes d.id)) ⟨hactive, fun d hd => ?_, hmade⟩
  rw [hmakes.own]
  exact hmakes.first d hd

theorem devicesEvolve_request {request : Request} (h : request.run env now db = .ok db') :
    DevicesEvolve (.served request) db db' := by
  cases request with
  | bootstrapAdmin userId name hash =>
    obtain ⟨hfree, profiles, codes, -, rfl⟩ := createAccount_eq_ok h
    exact devicesEvolve_of_eq rfl fun _ => id
  | logout token =>
    obtain rfl := Except.ok.inj h
    exact devicesEvolve_of_eq rfl fun _ => id
  | revokeOwnAdminSession principal sessionId =>
    obtain rfl := revokeOwnAdminSession_eq_ok h
    exact devicesEvolve_of_eq rfl fun _ => id
  | revokeOtherAdminSessions principal seen =>
    obtain rfl := revokeOtherAdminSessions_eq_ok h
    exact devicesEvolve_of_eq rfl fun _ => id
  | suspend userId seen =>
    obtain ⟨-, rfl⟩ := suspend_eq_ok h
    exact devicesEvolve_of_eq rfl fun _ => id
  | suspendForReview userId seen =>
    obtain ⟨-, rfl⟩ := suspendForReview_eq_ok h
    exact devicesEvolve_of_eq rfl fun _ => id
  | reactivate userId =>
    obtain ⟨user, -, -, rfl⟩ := reactivate_eq_ok h
    exact devicesEvolve_of_eq rfl fun _ => id
  | approveCashier userId =>
    obtain rfl := approveCashier_eq_ok h
    exact devicesEvolve_of_eq rfl fun _ => id
  | deleteUser userId seen =>
    obtain ⟨-, rfl⟩ := deleteUser_eq_ok h
    exact devicesEvolve_of_eq rfl fun _ => id
  | resetPassword userId resetId seen =>
    obtain ⟨-, hfree, rfl⟩ := resetPassword_eq_ok h
    exact devicesEvolve_of_eq rfl fun _ => id
  | registerDevice principal deviceId secret protocol =>
    exact devicesEvolve_make (registerDevice_eq_ok h) rfl rfl (fun _ => id) rfl
  | bindSession principal deviceId secret =>
    obtain ⟨found, device, -, -, rfl⟩ := bindSession_eq_ok h
    exact devicesEvolve_of_eq rfl fun _ => id
  | revokeDevice userId deviceId =>
    obtain ⟨-, rfl⟩ := revokeDevice_eq_ok h
    exact .update (fun _ => by rfl) (fun d _ hid => ⟨rfl, rfl, rfl, fun _ => rfl, fun _ => rfl,
      fun hnot => absurd hid.symm hnot⟩) fun d _ hid => .same (Ne.symm hid)
  | reserveDevice principal registrationId =>
    obtain ⟨reserved, hreserved, hdb⟩ := bind_eq_ok.mp h
    obtain rfl := Except.ok.inj hdb
    refine devicesEvolve_of_eq ?_ fun _ => id
    rcases reserveDevice_eq_ok hreserved with heq | ⟨hfree, heq⟩ <;> rw [heq]
  | completeInitialUpload principal registrationId upload keys =>
    rcases completeInitialUpload_eq_ok h with rfl | h
    · exact devicesEvolve_of_eq rfl fun _ => id
    · obtain ⟨registration, count, bound, -, -, -, -, hmakes, rfl⟩ := completeRegistration_eq_ok h
      exact devicesEvolve_make hmakes rfl rfl (fun _ => id) rfl
  | purgeRegistrations =>
    obtain rfl := Except.ok.inj h
    exact devicesEvolve_of_eq rfl fun _ => id

/-- **What a step does to the devices.** -/
theorem devicesEvolve_step (h : Step env w event w') : DevicesEvolve event w.db w'.db := by
  cases h with
  | served hrun => exact devicesEvolve_request hrun
  | registered hnew hrun =>
    obtain ⟨hfree, profiles, codes, -, rfl⟩ := createAccount_eq_ok hrun
    exact devicesEvolve_of_eq rfl fun _ => id
  | successRecorded hcall hrun =>
    obtain ⟨-, rfl⟩ := recordSuccessfulLogin_eq_ok hrun
    exact devicesEvolve_of_eq rfl fun _ => id
  | sessionCreated hcall hrun hsession =>
    obtain ⟨-, hfree, -, rfl⟩ := createSession_eq_ok hrun
    exact devicesEvolve_of_eq rfl fun _ => id
  | refreshed hcall hrun =>
    obtain ⟨found, -, -, rfl⟩ := refreshAdminSession_eq_some hrun
    exact devicesEvolve_of_eq rfl fun _ => id
  | resetCompleted hcall hreset hcode hrun =>
    obtain ⟨_, _, user, -, -, -, -, rfl⟩ := completeAdminReset_eq_ok hrun
    exact devicesEvolve_of_eq rfl fun _ => id
  | rotated hcall hrun =>
    obtain ⟨codes, -, rfl⟩ := rotateCashierRecoveryCodes_eq_ok hrun
    exact devicesEvolve_of_eq rfl fun _ => id
  | _ => exact devicesEvolve_of_eq rfl fun _ => id

end Auth

end SinoChat
