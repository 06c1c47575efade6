import SinoChat.Model.AuthRuns
import SinoChat.ToDevice.Script

/-!
# Runs of the authentication by scripts

A script begins calls and gives each its turns, in any order. The scene is one cashier
with a password, two recovery codes, two tokens and a device, with the real hashes.
-/

namespace SinoChat

open Js

namespace Auth

/-! ## Commands -/

/-- A move of the run. -/
inductive Command where
  | wait (now : ℕ)
  | serve (request : Request)
  | register (id : Uuid) (role : UserRole) (name passwordHash : JsString)
      (issued : List (Uuid × JsString))
  | login (username password : JsString)
  | access (token : JsString)
  | completeReset (username recoveryCode newPassword passwordHash : JsString)
  /-- The next statement of a call, with the id and the token that it draws. -/
  | turn (call : ℕ) (id : Uuid) (token : JsString)

/-- The next statement of a login, of a registration or of a password reset. -/
def World.turn (env : Env) (w : World) (n : ℕ) (id : Uuid) (token : JsString) :
    Option (Event × World) :=
  match w.calls[n]? with
  | some (.loginRead user password) =>
    if user.lockedAt w.now then some (.failed n, w.goesOn n .answered w.db)
    else some (.loginTimed n, w.goesOn n (.loginTimed user password w.now) w.db)
  | some (.loginTimed user password now) =>
    some (.passwordVerified n (env.verify user.passwordHash password),
      w.goesOn n (loginVerdict user now (env.verify user.passwordHash password)) w.db)
  | some (.loginFailed userId) =>
    match w.db.users.find? userId with
    | some user => some (.failureRecorded n user.id (user.failureEffect w.now),
        w.goesOn n .answered (recordFailedLoginAttempt w.db user.id w.now))
    | none => none
  | some (.loginPassed user now) =>
    match recordSuccessfulLogin w.db user.id now with
    | .ok db => some (.successRecorded n user.id, w.goesOn n (.sessionDue user) db)
    | .error _ => some (.failed n, w.goesOn n .answered w.db)
  | some (.sessionDue user) => some (.sessionTimed n, w.goesOn n (.sessionTimed user w.now) w.db)
  | some (.sessionTimed user issuedAt) =>
    match createSession env w.db user id (env.hashToken token) issuedAt w.now with
    | .ok db =>
      match db.sessions.find? id with
      | some session => some (.sessionCreated n session, w.goesOn n .answered db)
      | none => none
    | .error _ => some (.failed n, w.goesOn n .answered w.db)
  | some (.resetRead user recoveryCode newPassword passwordHash) =>
    match w.db.findReset user.id w.now,
      w.db.findRecoveryCode user.id (hashRecoveryCode env user.id recoveryCode) w.now,
      completeAdminReset env w.db user recoveryCode newPassword passwordHash (fun _ => true)
        w.now with
    | some reset, some code, .ok db =>
      some (.resetCompleted n user.id reset.id code.id, w.goesOn n .answered db)
    | _, _, .error _ => some (.failed n, w.goesOn n .answered w.db)
    | _, _, _ => none
  | _ => none

/-- Carry out a command. -/
def Command.exec (env : Env) (command : Command) (w : World) : Option (Event × World) :=
  match command with
  | .wait now => if w.now ≤ now then some (.tick now, { w with now }) else none
  | .serve request =>
    match request.run env w.now w.db with
    | .ok db => some (.served request, { w with db })
    | .error error => some (.refused request error, w)
  | .register id role name passwordHash issued =>
    if role ≠ .admin then
      match createAccount env w.db (newUser id role name passwordHash) issued with
      | .ok db => some (.registered w.calls.length (newUser id role name passwordHash),
          { w.begins (.sessionDue (newUser id role name passwordHash)) with db })
      | .error _ => none
    else none
  | .login username password =>
    match w.db.findUser (normalizeUsername env username) with
    | some user => some (.loginRead w.calls.length user password,
        w.begins (.loginRead user password))
    | none => none
  | .access token =>
    match w.db.findSession (env.hashToken token) with
    | some rows =>
      if rows.user.role ≠ .admin ∧ ¬ rows.invalid w.now then
        some (.accepted token rows.session w.now, w)
      else none
    | none => none
  | .completeReset username recoveryCode newPassword passwordHash =>
    match w.db.findUser (normalizeUsername env username) with
    | some user =>
      if fixed recoveryCodePattern (normalizeRecoveryCode env recoveryCode) = true ∧
          user.mayCompleteReset then
        some (.resetRead w.calls.length user,
          w.begins (.resetRead user recoveryCode newPassword passwordHash))
      else none
    | none => none
  | .turn n id token => w.turn env n id token

section Steps

variable {env : Env} {w w' : World} {event : Event}

theorem World.turn_step {n : ℕ} {id : Uuid} {token : JsString}
    (h : w.turn env n id token = some (event, w')) : Step env w event w' := by
  unfold World.turn at h
  split at h
  · rename_i user password hcall
    split_ifs at h with hlock
    · cases h
      exact .loginLocked hcall hlock
    · cases h
      exact .loginTimed hcall hlock
  · rename_i hcall
    cases h
    exact .passwordVerified hcall
  · rename_i userId hcall
    split at h
    · rename_i user hfound
      cases h
      obtain ⟨huser, rfl⟩ := Table.find?_eq_some.mp hfound
      exact .failureRecorded hcall huser
    · cases h
  · rename_i hcall
    split at h
    · rename_i hrun
      cases h
      exact .successRecorded hcall hrun
    · rename_i hrun
      cases h
      exact .successRefused hcall hrun
  · rename_i hcall
    cases h
    exact .sessionTimed hcall
  · rename_i hcall
    split at h
    · rename_i db hrun
      split at h
      · rename_i session hsession
        cases h
        obtain ⟨-, rfl⟩ := Table.find?_eq_some.mp hsession
        exact .sessionCreated hcall hrun hsession
      · cases h
    · cases h
      exact .sessionLost hcall
  · rename_i hcall
    split at h
    · rename_i hreset hcode hrun
      cases h
      exact .resetCompleted hcall hreset hcode hrun
    · rename_i hrun
      cases h
      exact .resetRefused hcall hrun
    · cases h
  · cases h

/-- **A command makes a step.** -/
theorem Command.exec_step (command : Command) (w : World) (event : Event) (w' : World)
    (h : command.exec env w = some (event, w')) : (authentication env).step w event w' := by
  cases command with
  | wait now =>
    obtain ⟨hnow, h⟩ := Option.ite_none_right_eq_some.mp h
    cases h
    exact .tick hnow
  | serve request =>
    simp only [Command.exec] at h
    split at h
    · rename_i hrun
      cases h
      exact .served hrun
    · rename_i hrun
      cases h
      exact .refused hrun
  | register id role name passwordHash issued =>
    obtain ⟨hrole, h⟩ := Option.ite_none_right_eq_some.mp h
    split at h
    · rename_i hrun
      cases h
      exact .registered ⟨id, role, name, passwordHash, rfl, hrole⟩ hrun
    · cases h
  | login username password =>
    simp only [Command.exec] at h
    split at h
    · rename_i hread
      cases h
      exact .loginRead hread
    · cases h
  | access token =>
    simp only [Command.exec] at h
    split at h
    · rename_i hread
      split_ifs at h with hvalid
      cases h
      exact .accepted hread hvalid.1 hvalid.2
    · cases h
  | completeReset username recoveryCode newPassword passwordHash =>
    simp only [Command.exec] at h
    split at h
    · rename_i hread
      split_ifs at h with hmay
      cases h
      exact .resetRead hread hmay.1 hmay.2
    · cases h
  | turn n id token => exact World.turn_step h

end Steps

/-! ## The scene -/

namespace Scene

open SinoChat.Sample (uuidOf hex digestAt cashierId cashierDevice)

/-- A text with `A` to `Z` in the other case. -/
def mapCase (low high : UInt16) (f : UInt16 → UInt16) (text : JsString) : JsString :=
  text.map fun u => if low ≤ u ∧ u ≤ high then f u else u

/-- The two passwords. -/
def password : JsString := js "Primera-clave-1"
def newPassword : JsString := js "Segunda-clave-2"

/-- Their hashes by Argon2id. -/
def passwordHash : JsString :=
  js ("$argon2id$v=19$m=19456,t=2,p=1$AAECAwQFBgcICQoLDA0ODw$" ++
    "75r84a62pOAHrf6OHgTdVOxbvNLDTRscaBjWQ3IDpuA")

/-- The hash of the second one. -/
def newPasswordHash : JsString :=
  js ("$argon2id$v=19$m=19456,t=2,p=1$EBESExQVFhcYGRobHB0eHw$" ++
    "nj0G/YQ/BPWqPtyxz8F/2zLV+S2THnHWEh2R3/gIj9g")

/-- The two tokens. -/
def token : JsString := js "AQEBAQEBAQEBAQEBAQEBAQEBAQEBAQEBAQEBAQEBAQE"
def newToken : JsString := js "AgICAgICAgICAgICAgICAgICAgICAgICAgICAgICAgI"

/-- A recovery code, as the cashier types it, and another. -/
def typedCode : JsString := js " sc-23456-789ab-cdefg-hjkmn "

/-- A code that is issued, and one that is not. -/
def recoveryCode : JsString := js "SC-23456-789AB-CDEFG-HJKMN"
def otherCode : JsString := js "SC-PQRST-UVWXY-Z2345-6789A"

/-- The secret of the device. -/
def bindingSecret : JsString := js "AwMDAwMDAwMDAwMDAwMDAwMDAwMDAwMDAwMDAwMDAwM"

/-- The libraries, by their values in the scene, with the default configuration. -/
def env : Env where
  toLowerCase := mapCase 0x41 0x5A (· + 0x20)
  toUpperCase := mapCase 0x61 0x7A (· - 0x20)
  verify hash given :=
    (hash == passwordHash && given == password) ||
      (hash == newPasswordHash && given == newPassword)
  hashToken text := hex 64 (digestAt
    [(token, 0x56d5fa7333f6d747db42c239407e5da4c32f4c79f35d092b134fd35a402d9c5c),
      (newToken, 0x6c1d63bbdab437c54368cbbd8886a886a79ad977297e265eebf1f5f5f01533b9)] text)
  recoveryDigest _ code := hex 64 (digestAt
    [(recoveryCode, 0x30f68ad29d2699200b204ff3c0e9c4ce66ce683d89022c2e864ed1f8c3773f70),
      (otherCode, 0x8fccff7a9e777b0df20c8f82490223f44fa5e1c7d5e93c6ac91031cf3314a321)] code)
  sessionTtl role := (if role = .admin then 12 else 168) * 3600000
  adminSessionIdleTimeout := 30 * 60000
  hashBindingSecret text := hex 64 (digestAt
    [(bindingSecret, 0x0a66d67506cecea150d2c98745e5448a0b435e1b27981fef7529d7ccced0a871)] text)
  deriveBindingSecret _ := js "LnmlUQ64ntFwC-io4Jaq0RwqKV2EsOhgLRq0sXFGe6c"

/-- No account, at the beginning of time. -/
def start : World := ⟨0, Db.empty, []⟩

theorem start_initial : (authentication env).init start := ⟨rfl, rfl⟩

/-- The ids of the rows. -/
def session : Uuid := uuidOf 0x0a000000000040008000000000000003
def newSession : Uuid := uuidOf 0x0a000000000040008000000000000004
def reset : Uuid := uuidOf 0x0a000000000040008000000000000005
def code (n : ℕ) : Uuid := uuidOf (0x0a000000000040008000000000000010 + n)

/-- The principal of a session of the cashier. -/
def principal (sessionId : Uuid) (deviceId : Option Uuid) : SessionPrincipal :=
  ⟨cashierId, .cashier, sessionId, deviceId⟩

/-- A call goes on a number of times. -/
def turns (n times : ℕ) (id : Uuid) (token : JsString) : List Command :=
  List.replicate times (.turn n id token)

/-- The cashier registers, and the first session makes the device. -/
def registers : List Command :=
  .register cashierId .cashier (js "ana") passwordHash
      [(code 0, recoveryCode), (code 1, otherCode)] ::
    turns 0 2 session token ++
      [.access token, .serve (.registerDevice (principal session none) cashierDevice bindingSecret
        (js "legacy-v1"))]

/-- Five wrong passwords, one after the other. -/
def attempts : List Command :=
  (List.range 5).flatMap fun i => .login (js "Ana") newPassword :: turns (1 + i) 3 session token

/-- The password is reset, with a code, and the cashier logs in with the new one. -/
def recovers : List Command :=
  [.wait 1000, .serve (.resetPassword cashierId reset fun _ => true),
    .completeReset (js "Ana") typedCode newPassword newPasswordHash] ++
    turns 6 1 session token ++ .login (js "Ana") newPassword :: turns 7 5 newSession newToken ++
      [.access newToken]

/-- The new session is bound to the device, which is then revoked. -/
def binds : List Command :=
  [.serve (.bindSession (principal newSession none) cashierDevice bindingSecret),
    .serve (.revokeDevice cashierId cashierDevice)]

end Scene

end Auth

end SinoChat
