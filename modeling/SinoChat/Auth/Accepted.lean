import SinoChat.Auth.Calls
import SinoChat.Auth.Lockout
import SinoChat.Auth.Bindings

/-!
# The sessions that are accepted

A session carries the version its account had when the login read it. Every step that
ends the sessions of an account raises the version, so a session that is accepted has
seen none since that reading. What ends one session alone is written in its row.
-/

namespace SinoChat

open Js

namespace Auth

variable {env : Env} {w w' t : World} {event : Event} {trace later : List Event} {user : User}

/-! ## Versions -/

/-- A step that changes the password also ends the sessions. -/
theorem outdates_of_setsPassword {userId : Uuid} (h : event.setsPassword userId = true) :
    event.outdates userId = true := by
  cases event with
  | resetCompleted => exact h
  | _ => cases h

/-- **The version of an account counts the steps that ended its sessions.** -/
theorem version_of_steps (h : (authentication env).Steps t later w) (huser : user ∈ t.db.users) :
    ∃ user' ∈ w.db.users, user'.id = user.id ∧
      user'.sessionVersion = user.sessionVersion + later.countP (Event.outdates user.id) ∧
      ((∀ e ∈ later, e.outdates user.id = false) → user'.passwordHash = user.passwordHash) := by
  induction h with
  | refl => exact ⟨user, huser, rfl, rfl, fun _ => rfl⟩
  | @step later s s' event hsteps hstep ih =>
    obtain ⟨user', huser', hid, hversion, hpassword⟩ := ih
    obtain ⟨user'', huser'', hid', hus⟩ := (usersEvolve_step hstep).kept user' huser'
    refine ⟨user'', huser'', hid'.trans hid, ?_, fun hnone => ?_⟩
    · rw [hus.sessionVersion, hversion, hid, List.countP_cons]
      cases event.outdates user.id <;> simp [Nat.add_assoc]
    · have hset : event.setsPassword user'.id = false := by
        rw [hid]
        cases hsets : event.setsPassword user.id with
        | false => rfl
        | true =>
          have := hnone event List.mem_cons_self
          rw [outdates_of_setsPassword hsets] at this
          cases this
      rw [hus.passwordHash hset]
      exact hpassword fun e he => hnone e (List.mem_cons_of_mem _ he)

/-! ## Rows over steps -/

/-- A session keeps what identifies it. -/
theorem session_of_steps (h : (authentication env).Steps t later w) {s : Session}
    (hs : s ∈ t.db.sessions) : ∃ s' ∈ w.db.sessions, s'.id = s.id ∧ s'.tokenHash = s.tokenHash := by
  induction h with
  | refl => exact ⟨s, hs, rfl, rfl⟩
  | step hsteps hstep ih =>
    obtain ⟨s', hs', hid, htoken⟩ := ih
    obtain ⟨s'', hs'', hid', hss⟩ := (sessionsEvolve_step hstep).kept s' hs'
    exact ⟨s'', hs'', hid'.trans hid, hss.tokenHash.trans htoken⟩

/-- No step of a run revoked a device that is active. -/
theorem not_revokesDevice (h : (authentication env).Run trace w) {d : Device}
    (hd : d ∈ w.db.devices) (hactive : d.status = .active) :
    ∀ e ∈ trace, ¬ e.revokesDevice d.id := by
  intro e he hevent
  obtain ⟨later, earlier, t, t', rfl, -, hstep, hsteps⟩ := h.of_mem he
  obtain ⟨d₁, hd₁, hid₁, hrevoked⟩ := device_of_revocation hstep hevent
  obtain ⟨d₂, hd₂, hid₂, hstill⟩ := revokedDevice_of_steps hsteps hd₁ hrevoked
  obtain rfl := Table.eq_of_key_eq hd hd₂ (hid₂.trans hid₁).symm
  rw [hactive] at hstill
  cases hstill

/-! ## Where a session comes from -/

/-- The session was created for an account that a login verified or a registration made,
with the version of that account, and no step since revoked it. -/
def Born (env : Env) (trace : List Event) (w : World) (s : Session) : Prop :=
  ∃ later earlier t t' n created user,
    Past env trace w later (.sessionCreated n created :: earlier) t' ∧
    (authentication env).Run earlier t ∧ Step env t (.sessionCreated n created) t' ∧
    AdmittedBy env earlier t n user ∧ created.id = s.id ∧ user.id = s.userId ∧
    user.sessionVersion = s.sessionVersion ∧
    (s.revokedAt = none → ∀ e ∈ later, ¬ e.revokes env s)

/-- What revokes a session as such depends on what identifies it. -/
theorem revokes_congr {s s' : Session} (hid : s'.id = s.id) (huser : s'.userId = s.userId)
    (htoken : s'.tokenHash = s.tokenHash) : event.revokes env s' ↔ event.revokes env s := by
  cases event with
  | served request => cases request <;> simp only [Event.revokes, hid, huser, htoken]
  | _ => simp only [Event.revokes, hid]

/-- The call that creates a session was admitted. -/
theorem admitted_of_created {n : ℕ} {created : Session}
    (hrun : (authentication env).Run trace w) (h : Step env w (.sessionCreated n created) w') :
    ∃ user, AdmittedBy env trace w n user ∧ user.id = created.userId ∧
      user.sessionVersion = created.sessionVersion := by
  cases h with
  | @sessionCreated _ user issuedAt token _ db hcall hok hsession =>
    obtain ⟨-, hfree, hfound, rfl⟩ := createSession_eq_ok hok
    have hnew := Option.some.inj (hsession.symm.trans hfound)
    refine ⟨user, known_of_run hrun _ _ hcall, ?_, ?_⟩
    · rw [hnew]
      rfl
    · rw [hnew]
      rfl

/-- **Every session of a run comes from a login or a registration.** -/
theorem born_of_run (h : (authentication env).Run trace w) :
    ∀ s ∈ w.db.sessions, Born env trace w s := by
  refine h.invariant (I := fun trace w => ∀ s ∈ w.db.sessions, Born env trace w s)
    (fun w hinit s hs => ?_) fun trace w event w' hrun hI hstep s' hs' => ?_
  · rw [hinit.1] at hs
    cases hs
  · rcases (sessionsEvolve_step hstep).origin s' hs' with ⟨s, hs, hid, hss⟩ | ⟨hnew, -⟩
    · obtain ⟨later, earlier, t, t', n, created, user, hpast, hbefore, hcreate, hadmitted, hcid,
        huser, hversion, hnone⟩ := hI s hs
      refine ⟨event :: later, earlier, t, t', n, created, user, hpast.cons hstep, hbefore, hcreate,
        hadmitted, hcid.trans hid.symm, huser.trans hss.userId.symm,
        hversion.trans hss.sessionVersion.symm, fun hrevoked e he => ?_⟩
      have hold : s.revokedAt = none := by
        by_contra hsome
        rw [hss.revoked hsome] at hrevoked
        exact hsome hrevoked
      rw [revokes_congr hid hss.userId hss.tokenHash]
      rcases List.mem_cons.mp he with rfl | he
      · exact fun hevent => hss.revokes hevent hrevoked
      · exact hnone hold e he
    · obtain ⟨-, -, n, rfl⟩ := hnew
      obtain ⟨user, hadmitted, huser, hversion⟩ := admitted_of_created hrun hstep
      exact ⟨[], trace, w, w', n, s', user, .now (hrun.step hstep), hrun, hstep, hadmitted, rfl,
        huser, hversion, fun _ e he => by cases he⟩

/-! ## Acceptance -/

/-- What `getSessionPrincipal` has established when it accepts. -/
structure Accepts (env : Env) (w : World) (token : JsString) (clock : ℕ) (row : Session)
    (user : User) : Prop where
  found : row ∈ w.db.sessions
  token : row.tokenHash = env.hashToken token
  unrevoked : row.revokedAt = none
  unexpired : clock < row.expiresAt
  account : user ∈ w.db.users
  owner : user.id = row.userId
  version : row.sessionVersion = user.sessionVersion
  device : ∀ d, row.deviceId = some d → ∃ device ∈ w.db.devices, device.id = d ∧
    device.status = .active

/-- The conditions of the refresh hold of the row that it finds. -/
theorem accepts_of_validSession {rows : Lookup} {clock : ℕ} {token : JsString} {row : Session}
    (hrow : w.db.sessions.find? rows.session.id = some row)
    (htoken : row.tokenHash = env.hashToken token)
    (hvalid : w.db.validSession rows clock row = true) :
    ∃ user, Accepts env w token clock row user := by
  simp only [Db.validSession, Bool.and_eq_true, beq_iff_eq, decide_eq_true_eq,
    Option.any_eq_true] at hvalid
  obtain ⟨⟨⟨⟨⟨⟨-, hrevoked⟩, hexpires⟩, hversion⟩, user, hfound, ⟨-, huserVersion⟩⟩, hdevice⟩,
    hactive⟩ := hvalid
  obtain ⟨huser, howner⟩ := Table.find?_eq_some.mp hfound
  refine ⟨user, (Table.find?_eq_some.mp hrow).1, htoken, hrevoked, hexpires, huser, howner,
    hversion.trans huserVersion.symm, fun d hd => ?_⟩
  rw [hdevice] at hd
  rw [hd] at hactive
  simp only [Option.any_eq_true, Bool.and_eq_true, beq_iff_eq] at hactive
  obtain ⟨device, hdeviceFound, -, hstatus⟩ := hactive
  obtain ⟨hmem, hid⟩ := Table.find?_eq_some.mp hdeviceFound
  exact ⟨device, hmem, hid, hstatus⟩

/-- The rows that are read of a token. -/
theorem findSession_eq_some {db : Db} {tokenHash : JsString} {rows : Lookup}
    (h : db.findSession tokenHash = some rows) :
    rows.session ∈ db.sessions ∧ rows.session.tokenHash = tokenHash ∧
      db.users.find? rows.session.userId = some rows.user ∧
      rows.device = rows.session.deviceId.bind db.devices.find? := by
  simp only [Db.findSession, Option.bind_eq_bind, Option.bind_eq_some_iff, Option.pure_def,
    Option.some.injEq] at h
  obtain ⟨session, hsession, user, huser, rfl⟩ := h
  exact ⟨List.mem_of_find?_eq_some hsession, by simpa using List.find?_some hsession, huser, rfl⟩

/-- The row of a session that was looked up, as it is now. -/
theorem row_of_lookedUp {token : JsString} {rows : Lookup}
    (h : LookedUp env trace w token rows) {row : Session}
    (hrow : w.db.sessions.find? rows.session.id = some row) :
    row.tokenHash = env.hashToken token := by
  obtain ⟨later, tail, t, hpast, hfind⟩ := h
  obtain ⟨hmem, htoken, -, -⟩ := findSession_eq_some hfind
  obtain ⟨s, hs, hid, hsame⟩ := session_of_steps hpast.steps hmem
  obtain ⟨hrowMem, hrowId⟩ := Table.find?_eq_some.mp hrow
  obtain rfl := Table.eq_of_key_eq hrowMem hs (hrowId.trans hid.symm)
  exact hsame.trans htoken

/-- **What holds when a token is accepted.** -/
theorem accepts_of_step {token : JsString} {session : Session} {clock : ℕ}
    (hrun : (authentication env).Run trace w) (h : Step env w (.accepted token session clock) w') :
    ∃ row user, row.id = session.id ∧ Accepts env w token clock row user := by
  cases h with
  | @accepted _ rows hread hrole hvalid =>
    obtain ⟨hmem, htoken, huser, hdevice⟩ := findSession_eq_some hread
    obtain ⟨huserMem, howner⟩ := Table.find?_eq_some.mp huser
    simp only [Lookup.invalid, Bool.or_eq_true, Bool.and_eq_true, Option.isSome_iff_ne_none,
      decide_eq_true_eq, bne_iff_ne, Bool.not_eq_true', not_or, not_and, ne_eq, not_not,
      not_le, Option.any_eq_false] at hvalid
    obtain ⟨⟨⟨⟨⟨hrevoked, hexpires⟩, hversion⟩, -⟩, -⟩, hbound⟩ := hvalid
    refine ⟨rows.session, rows.user, rfl, hmem, htoken, hrevoked, hexpires, huserMem, howner,
      hversion, fun d hd => ?_⟩
    have hnot := hbound (by rw [hd]; nofun)
    rw [hdevice, hd, Option.bind_some] at hnot
    cases hfound : w.db.devices.find? d with
    | none => simp [hfound] at hnot
    | some device =>
      obtain ⟨hdeviceMem, hid⟩ := Table.find?_eq_some.mp hfound
      refine ⟨device, hdeviceMem, hid, ?_⟩
      rw [hfound] at hnot
      simp only [Option.some.injEq, forall_eq', Bool.and_eq_false_iff, not_or] at hnot
      simpa using hnot.2
  | refreshed hcall hok =>
    obtain ⟨row, hrow, hvalid, -⟩ := refreshAdminSession_eq_some hok
    obtain ⟨user, haccepts⟩ := accepts_of_validSession hrow
      (row_of_lookedUp (known_of_run hrun _ _ hcall) hrow) hvalid
    exact ⟨row, user, (Table.find?_eq_some.mp hrow).2, haccepts⟩
  | refreshedConcurrently hcall hok =>
    simp only [refreshedConcurrently, Option.any_eq_true, Bool.and_eq_true] at hok
    obtain ⟨row, hrow, hvalid, -⟩ := hok
    obtain ⟨user, haccepts⟩ := accepts_of_validSession hrow
      (row_of_lookedUp (known_of_run hrun _ _ hcall) hrow) hvalid
    exact ⟨row, user, (Table.find?_eq_some.mp hrow).2, haccepts⟩

end Auth

end SinoChat
