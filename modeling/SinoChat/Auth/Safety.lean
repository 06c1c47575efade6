import SinoChat.Auth.Accepted
import SinoChat.Auth.Script

/-!
# Sessions and locks in every run

Two results about the runs of the authentication: a token that is accepted belongs to a
session that nothing has ended since its login read the account, and the lock of an
account counts every failure and keeps every login out.
-/

namespace SinoChat

open Js

namespace Auth

variable {env : Env} {trace : List Event} {w : World}

/-! ## Accepted sessions -/

/-- How the account of a session was admitted: by the registration that made it, or by a
login that read it and then verified the password against the hash that was stored at
that moment. `between` are the steps from there to the session. -/
inductive Origin (env : Env) (n : ℕ) (userId : Uuid) (between before : List Event) : Event → Prop
  | registration {user : User} (huser : user.id = userId) :
      Origin env n userId between before (.registered n user)
  | login {user stored : User} {password : JsString} {later earlier : List Event} {t : World}
      (huser : user.id = userId)
      (hbetween : between = later ++ .passwordVerified n true :: earlier)
      (hrun : (authentication env).Run (earlier ++ .loginRead n user password :: before) t)
      (hstored : stored ∈ t.db.users) (hid : stored.id = userId)
      (hverify : env.verify stored.passwordHash password = true) :
      Origin env n userId between before (.loginRead n user password)

/-- What an accepted session has behind it. -/
def SoundSession (env : Env) (trace : List Event) (row : Session) : Prop :=
  ∃ n created since between origin before,
    trace = since ++ .sessionCreated n created :: (between ++ origin :: before) ∧
    created.id = row.id ∧ Origin env n row.userId between before origin ∧
    (∀ e ∈ since ++ between, e.outdates row.userId = false) ∧ ∀ e ∈ since, ¬ e.ends env row

/-- No step since the account was read has ended its sessions. -/
theorem outdates_of_version {later : List Event} {t : World} {user user' : User}
    (hsteps : (authentication env).Steps t later w) (huser : user ∈ t.db.users)
    (huser' : user' ∈ w.db.users) (hid : user'.id = user.id)
    (hversion : user'.sessionVersion = user.sessionVersion) :
    ∀ e ∈ later, e.outdates user.id = false := by
  obtain ⟨found, hfound, hfoundId, hcount, -⟩ := version_of_steps hsteps huser
  obtain rfl := Table.eq_of_key_eq huser' hfound (hid.trans hfoundId.symm)
  have hzero : later.countP (Event.outdates user.id) = 0 := by omega
  simpa using List.countP_eq_zero.mp hzero

/-- **A session that is accepted is sound.** -/
theorem soundSession_of_accepts {token : JsString} {clock : ℕ} {row : Session} {user : User}
    (hrun : (authentication env).Run trace w) (haccepts : Accepts env w token clock row user) :
    SoundSession env trace row := by
  obtain ⟨since, earlier, t, t', n, created, read, hpast, hbefore, hcreate, hadmitted, hid, howner,
    hversion, hnone⟩ := born_of_run hrun row haccepts.found
  have hends : ∀ e ∈ since, ¬ e.ends env row := by
    intro e he hend
    rcases hend with hrevokes | ⟨d, hd, hrevokes⟩
    · exact hnone haccepts.unrevoked e he hrevokes
    · obtain ⟨device, hdevice, rfl, hactive⟩ := haccepts.device d hd
      refine not_revokesDevice hrun hdevice hactive e ?_ hrevokes
      rw [hpast.trace]
      exact List.mem_append_left _ he
  have hsame : user.id = read.id := haccepts.owner.trans howner.symm
  have hequal : user.sessionVersion = read.sessionVersion :=
    haccepts.version.symm.trans hversion.symm
  have hcreated := (Machine.Steps.refl (M := authentication env) (s := t)).step hcreate
  rcases hadmitted with ⟨⟨later, before, s, s', password, hverified, hrunBefore, hverifies,
    ⟨between, before', r, hread, hmem⟩, hverify⟩, -⟩ | ⟨between, before, r, hmade, hmem⟩
  · -- a login: from its reading to its check of the password, to the session, to now
    have htoCheck := hread.steps.append
      ((Machine.Steps.refl (M := authentication env) (s := s)).step hverifies)
    have hall := ((htoCheck.append hverified.steps).append hcreated).append hpast.steps
    have hquiet := outdates_of_version hall hmem haccepts.account hsame hequal
    obtain ⟨stored, hstored, hstoredId, -, hpassword⟩ := version_of_steps hread.steps hmem
    have hhash : stored.passwordHash = read.passwordHash := by
      refine hpassword fun e he => hquiet e ?_
      simp [he]
    refine ⟨n, created, since, later ++ .passwordVerified n true :: between, _, before', ?_, hid,
      .login howner rfl (by rw [← hread.trace]; exact hrunBefore) hstored
        (hstoredId.trans howner) (by rw [hhash]; exact hverify), fun e he => ?_, hends⟩
    · rw [hpast.trace, hverified.trace, hread.trace]
      simp
    · rw [← howner]
      refine hquiet e ?_
      rcases List.mem_append.mp he with he | he
      · simp [he]
      · rcases List.mem_append.mp he with he | he
        · simp [he]
        · rcases List.mem_cons.mp he with rfl | he <;> simp [*]
  · -- a registration: from the account it made to the session, to now
    have hall := (hmade.steps.append hcreated).append hpast.steps
    have hquiet := outdates_of_version hall hmem haccepts.account hsame hequal
    refine ⟨n, created, since, between, _, before, ?_, hid, .registration howner, fun e he => ?_,
      hends⟩
    · rw [hpast.trace, hmade.trace]
    · rw [← howner]
      refine hquiet e ?_
      rcases List.mem_append.mp he with he | he <;> simp [he]

/-- The clock by which a session is accepted has passed. -/
theorem clock_of_accepted {token : JsString} {session : Session} {clock : ℕ} {w' : World}
    (hrun : (authentication env).Run trace w) (h : Step env w (.accepted token session clock) w') :
    clock ≤ w.now := by
  cases h with
  | accepted => exact le_rfl
  | refreshed hcall | refreshedConcurrently hcall => exact timely_of_run hrun _ _ hcall

/-- **Session soundness.** Whenever `getSessionPrincipal` accepts a token, in any run, the
token is that of a session that has not expired by the clock of the check; the session
was created by a registration or by a login that verified the password against the hash
stored at that moment; and since the login read the account, or the registration made it,
no step has suspended, reset, completed a reset of or deleted the account, and none since
the session was created has revoked it, as such or with its device. -/
theorem accepted_session_sound {token : JsString} {session : Session} {clock : ℕ}
    (h : (authentication env).Run (.accepted token session clock :: trace) w) :
    ∃ s row, (authentication env).Run trace s ∧ row ∈ s.db.sessions ∧ row.id = session.id ∧
      row.tokenHash = env.hashToken token ∧ clock ≤ s.now ∧ clock < row.expiresAt ∧
      SoundSession env trace row := by
  cases h with
  | step hrun hstep =>
    obtain ⟨row, user, hid, haccepts⟩ := accepts_of_step hrun hstep
    exact ⟨_, row, hrun, haccepts.found, hid, haccepts.token, clock_of_accepted hrun hstep,
      haccepts.unexpired, soundSession_of_accepts hrun haccepts⟩

/-- The last step accepts a token. -/
def acceptedLast : List Event → Bool
  | .accepted _ _ _ :: _ => true
  | _ => false

theorem acceptedLast_eq_true (h : acceptedLast trace = true) :
    ∃ token session clock earlier, trace = .accepted token session clock :: earlier := by
  unfold acceptedLast at h
  split at h
  · exact ⟨_, _, _, _, rfl⟩
  · cases h

/-- A cashier who was locked out and recovered the account logs in with the new password. -/
theorem accepted_session_sound_recovered :
    ∃ token, ∃ session : Session, ∃ clock trace s row,
      (authentication Scene.env).Run trace s ∧ row ∈ s.db.sessions ∧ row.id = session.id ∧
      row.tokenHash = Scene.env.hashToken token ∧ clock ≤ s.now ∧ clock < row.expiresAt ∧
      SoundSession Scene.env trace row := by
  obtain ⟨trace, w, hrun, hcheck⟩ := Machine.exists_run_of_perform
    (M := authentication Scene.env) Command.exec_step Scene.start_initial
    (Scene.registers ++ Scene.attempts ++ Scene.recovers) (fun trace _ => acceptedLast trace)
    (by decide +kernel)
  obtain ⟨token, session, clock, earlier, rfl⟩ := acceptedLast_eq_true hcheck
  exact ⟨token, session, clock, earlier, accepted_session_sound hrun⟩

/-! ## Locks -/

/-- What a run shows of the attempts on an account. -/
structure LockoutSound (env : Env) (trace : List Event) (w : World) : Prop where
  /-- No recorded failure is lost, and fewer than five are open. -/
  count : ∀ user ∈ w.db.users, user.failedLoginAttempts = failuresSince user.id trace ∧
    failuresSince user.id trace < maxFailedLogins
  /-- A failure is recorded unless a lock is running, and the fifth begins a lock. -/
  failure : ∀ later n userId effect earlier,
    trace = later ++ .failureRecorded n userId effect :: earlier →
    ∃ t user, (authentication env).Run earlier t ∧ t.db.users.find? userId = some user ∧
      (effect = .ignored ↔ user.lockedAt t.now = true) ∧
      (effect = .locks ↔
        ¬ user.lockedAt t.now = true ∧ failuresSince userId earlier + 1 = maxFailedLogins) ∧
      (effect = .locks → (∀ e ∈ later, e.resetsPassword userId = false) →
        w.now < t.now + lockDuration →
        (∃ user', w.db.users.find? userId = some user' ∧
          user'.lockedUntil = some (t.now + lockDuration)) ∧
        ∀ m, .successRecorded m userId ∉ later)
  /-- A session is created for a success that was recorded, or by a registration. -/
  success : ∀ later n session earlier, trace = later ++ .sessionCreated n session :: earlier →
    .successRecorded n session.userId ∈ earlier ∨
      ∃ user, user.id = session.userId ∧ .registered n user ∈ earlier

/-- **The lockout is sound.** In every run, of any attempts in any order: the count of an
account is that of the failures recorded since its last success, lock or reset; a failure
is recorded unless a lock is running; the one that makes five locks the account for the
whole of `lockDuration`, and until then, unless an administrator resets the password, the
end of the lock stays as it is and no login succeeds. -/
theorem login_lockout_sound (h : (authentication env).Run trace w) :
    LockoutSound env trace w := by
  refine ⟨fun user huser => ?_, fun later n userId effect earlier htrace => ?_,
    fun later n session earlier htrace => ?_⟩
  · have hcounted := counted_of_run h
    have hcount := hcounted.count user huser
    exact ⟨hcount, hcount ▸ hcounted.few user huser⟩
  · obtain ⟨t', hbefore, hsteps⟩ := Machine.Run.split (htrace ▸ h)
    cases hbefore with
    | @step _ t _ _ hrun hstep =>
      obtain ⟨user, hfound, rfl⟩ := failureEffect_of_step hstep
      obtain ⟨huser, rfl⟩ := Table.find?_eq_some.mp hfound
      have hcounted := counted_of_run hrun
      have hcount := hcounted.count user huser
      have hfew := hcounted.few user huser
      refine ⟨t, user, hrun, hfound, failureEffect_ignored, ?_, fun hlocks hreset hnow => ?_⟩
      · rw [failureEffect_locks, hcount]
        constructor
        · rintro ⟨hunlocked, hfifth⟩
          exact ⟨hunlocked, by omega⟩
        · rintro ⟨hunlocked, hfifth⟩
          exact ⟨hunlocked, by omega⟩
      · rw [hlocks] at hstep
        obtain ⟨-, hlock⟩ := locks_of_step hstep
        exact locked_until hlock (hrun.step hstep) hsteps hreset hnow
  · obtain ⟨t', hbefore, hsteps⟩ := Machine.Run.split (htrace ▸ h)
    cases hbefore with
    | step hrun hstep =>
      obtain ⟨user, hadmitted, hid, -⟩ := admitted_of_created hrun hstep
      rcases hadmitted with ⟨-, hmem⟩ | ⟨later, earlier, t, hpast, -⟩
      · exact .inl (hid ▸ hmem)
      · refine .inr ⟨user, hid, ?_⟩
        rw [hpast.trace]
        simp

/-- The step begins a lock. -/
def Event.beginsLock : Event → Bool
  | .failureRecorded _ _ effect => effect = .locks
  | _ => false

/-- Five wrong passwords. -/
theorem login_lockout_sound_attempts :
    ∃ trace w, trace.any Event.beginsLock = true ∧ LockoutSound Scene.env trace w := by
  obtain ⟨trace, w, hrun, hcheck⟩ := Machine.exists_run_of_perform
    (M := authentication Scene.env) Command.exec_step Scene.start_initial
    (Scene.registers ++ Scene.attempts) (fun trace _ => trace.any Event.beginsLock)
    (by decide +kernel)
  exact ⟨trace, w, hcheck, login_lockout_sound hrun⟩

end Auth

end SinoChat
