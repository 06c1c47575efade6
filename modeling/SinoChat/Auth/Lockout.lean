import SinoChat.Auth.Calls
import SinoChat.Auth.Users

/-!
# The lock of an account

The failures of an account since its last success are counted exactly, the fifth begins
a lock, and until the lock ends no login succeeds and no attempt moves its end. A login
that succeeds does so at its update (`recordSuccessfulLogin`), which judges the lock as
it is then by a clock that was read before.
-/

namespace SinoChat

open Js

namespace Auth

variable {env : Env} {w w' : World} {event : Event} {trace : List Event} {now : ℕ} {user : User}

/-! ## Clocks -/

/-- The clock values that a call remembers have passed. -/
def Call.Timely (now : ℕ) : Call → Prop
  | .loginTimed _ _ clock | .loginPassed _ clock | .lookupTimed _ _ clock
  | .notRefreshed _ _ clock => clock ≤ now
  | _ => True

theorem Call.Timely.mono {call : Call} {later : ℕ} (h : call.Timely now) (hle : now ≤ later) :
    call.Timely later := by
  cases call <;> first | exact h | exact le_trans h hle

/-- The clock is monotone. -/
theorem now_le_step (h : Step env w event w') : w.now ≤ w'.now := by
  cases h with
  | tick hnow => exact hnow
  | _ => exact le_rfl

theorem timely_step (hcalls : ∀ (n : ℕ) (c : Call), w.calls[n]? = some c → c.Timely w.now)
    (h : Step env w event w') : ∀ (n : ℕ) (c : Call), w'.calls[n]? = some c → c.Timely w'.now := by
  cases h with
  | tick hnow => exact fun n c hc => (hcalls n c hc).mono hnow
  | served | refused | accepted => exact hcalls
  | registered | loginRead | lookedUp | resetRead | rotationRead =>
    exact World.calls_begins hcalls trivial
  | loginTimed => exact World.calls_goesOn hcalls le_rfl
  | passwordVerified hcall =>
    refine World.calls_goesOn hcalls ?_
    have hclock := hcalls _ _ hcall
    unfold loginVerdict
    split
    · split
      · exact hclock
      · trivial
    · trivial
  | lookupTimed hcall =>
    refine World.calls_goesOn hcalls ?_
    unfold lookupVerdict
    split_ifs
    · trivial
    · exact le_rfl
  | notRefreshed hcall =>
    have hclock := hcalls _ _ hcall
    exact World.calls_goesOn hcalls hclock
  | _ => exact World.calls_goesOn hcalls trivial

theorem timely_of_run (h : (authentication env).Run trace w) :
    ∀ (n : ℕ) (c : Call), w.calls[n]? = some c → c.Timely w.now :=
  h.stateInvariant (I := fun w => ∀ (n : ℕ) (c : Call), w.calls[n]? = some c → c.Timely w.now)
    (fun _ hinit n c hc => by rw [hinit.2] at hc; cases hc) fun _ _ _ hI hs => timely_step hI hs

/-! ## Failures -/

/-- The failures of an account that were recorded since its last success, its last lock
and its last password reset. -/
def failuresSince (userId : Uuid) : List Event → ℕ
  | [] => 0
  | .failureRecorded _ id .counted :: earlier =>
    if id = userId then failuresSince userId earlier + 1 else failuresSince userId earlier
  | .failureRecorded _ id .locks :: earlier | .successRecorded _ id :: earlier
  | .served (.resetPassword id _ _) :: earlier | .resetCompleted _ id _ _ :: earlier =>
    if id = userId then 0 else failuresSince userId earlier
  | _ :: earlier => failuresSince userId earlier

/-- An administrative reset of the account, or its completion. -/
def Event.resetsPassword (userId : Uuid) : Event → Bool
  | .served (.resetPassword id _ _) | .resetCompleted _ id _ _ => id == userId
  | _ => false

/-- What a failure leaves of an account. -/
def FailureEffect.lock (now : ℕ) (user : User) : FailureEffect → ℕ × Option ℕ
  | .ignored => user.lockState
  | .counted => (user.failedLoginAttempts + 1, none)
  | .locks => (0, some (now + lockDuration))

theorem lockState_failed (now : ℕ) (user : User) :
    (user.failed now).lockState = (user.failureEffect now).lock now user := by
  unfold User.failed User.failureEffect
  split_ifs <;> rfl

/-- A failure has the effect of the row of its account. -/
theorem failureEffect_of_step {n : ℕ} {userId : Uuid} {effect : FailureEffect}
    (h : Step env w (.failureRecorded n userId effect) w') :
    ∃ user, w.db.users.find? userId = some user ∧ effect = user.failureEffect w.now := by
  cases h with
  | failureRecorded hcall huser => exact ⟨_, Table.find?_eq_some.mpr ⟨huser, rfl⟩, rfl⟩

/-- The effect of a failure for the row of its account. -/
theorem failureEffect_eq {n : ℕ} {effect : FailureEffect}
    (h : Step env w (.failureRecorded n user.id effect) w') (huser : user ∈ w.db.users) :
    effect = user.failureEffect w.now := by
  obtain ⟨found, hfound, heffect⟩ := failureEffect_of_step h
  rw [Table.find?_eq_some.mpr ⟨huser, rfl⟩] at hfound
  obtain rfl := Option.some.inj hfound
  exact heffect

/-- A step counts the failures of an account as the trace does. -/
theorem lock_failures (h : Step env w event w') (huser : user ∈ w.db.users)
    (hcount : user.failedLoginAttempts = failuresSince user.id trace) :
    (event.lock w.now user).1 = failuresSince user.id (event :: trace) := by
  have hreset : ∀ id : Uuid, (if id = user.id then (0, none) else user.lockState).1 =
      if id = user.id then 0 else failuresSince user.id trace := by
    intro id
    split_ifs
    · rfl
    · exact hcount
  cases event with
  | failureRecorded n id effect =>
    by_cases hid : id = user.id
    · subst hid
      have heffect := failureEffect_eq h huser
      rw [Event.lock, if_pos rfl, lockState_failed, ← heffect]
      cases effect with
      | ignored => exact hcount
      | counted => simp [failuresSince, FailureEffect.lock, hcount]
      | locks => simp [failuresSince, FailureEffect.lock]
    · rw [Event.lock, if_neg hid]
      cases effect with
      | ignored => exact hcount
      | counted => rw [failuresSince, if_neg hid]; exact hcount
      | locks => rw [failuresSince, if_neg hid]; exact hcount
  | successRecorded n id => exact hreset id
  | resetCompleted n id resetId codeId => exact hreset id
  | served request =>
    cases request with
    | resetPassword id resetId seen => exact hreset id
    | _ => exact hcount
  | _ => exact hcount

/-- A step leaves fewer failures than begin a lock. -/
theorem lock_lt (event : Event) (now : ℕ) (h : user.failedLoginAttempts < maxFailedLogins) :
    (event.lock now user).1 < maxFailedLogins := by
  have hreset : ∀ id : Uuid, (if id = user.id then (0, none) else user.lockState).1 <
      maxFailedLogins := by
    intro id
    split_ifs
    · exact Nat.zero_lt_succ _
    · exact h
  cases event with
  | failureRecorded n id effect =>
    rw [Event.lock]
    split_ifs
    · unfold User.failed
      split_ifs with hlocked hfifth
      · exact h
      · exact Nat.zero_lt_succ _
      · exact not_le.mp hfifth
    · exact h
  | successRecorded n id => exact hreset id
  | resetCompleted n id resetId codeId => exact hreset id
  | served request =>
    cases request with
    | resetPassword id resetId seen => exact hreset id
    | _ => exact h
  | _ => exact h

/-- A step about an account that is not there counts no failure. -/
theorem failuresSince_absent {userId : Uuid} (h : Step env w event w')
    (habsent : w.db.users.find? userId = none) (hzero : failuresSince userId trace = 0) :
    failuresSince userId (event :: trace) = 0 := by
  have hif : ∀ id : Uuid, (if id = userId then 0 else failuresSince userId trace) = 0 := by
    intro id
    split_ifs
    · rfl
    · exact hzero
  cases event with
  | failureRecorded n id effect =>
    have hid : id ≠ userId := by
      rintro rfl
      obtain ⟨user, hfound, -⟩ := failureEffect_of_step h
      rw [habsent] at hfound
      cases hfound
    cases effect with
    | ignored => exact hzero
    | counted => rw [failuresSince, if_neg hid]; exact hzero
    | locks => exact hif id
  | successRecorded n id => exact hif id
  | resetCompleted n id resetId codeId => exact hif id
  | served request =>
    cases request with
    | resetPassword id resetId seen => exact hif id
    | _ => exact hzero
  | _ => exact hzero

/-- The failures of the accounts, and of those that are not there yet. -/
structure Counted (trace : List Event) (db : Db) : Prop where
  count : ∀ user ∈ db.users, user.failedLoginAttempts = failuresSince user.id trace
  few : ∀ user ∈ db.users, user.failedLoginAttempts < maxFailedLogins
  absent : ∀ userId, db.users.find? userId = none → failuresSince userId trace = 0

theorem Counted.step (hI : Counted trace w.db) (h : Step env w event w') :
    Counted (event :: trace) w'.db := by
  have hevolve := usersEvolve_step h
  refine ⟨fun user' huser' => ?_, fun user' huser' => ?_, fun userId hnone => ?_⟩
  · rcases hevolve.origin user' huser' with ⟨user, huser, hid, hstep⟩ | ⟨hnew, hfresh⟩
    · have hlock : user'.failedLoginAttempts = (event.lock w.now user).1 :=
        congrArg Prod.fst hstep.lock
      rw [hlock, lock_failures h huser (hI.count user huser), hid]
    · have hzero : user'.failedLoginAttempts = 0 := congrArg Prod.fst hnew
      have habsent := Table.find?_eq_none.mpr hfresh
      rw [hzero, failuresSince_absent h habsent (hI.absent _ habsent)]
  · rcases hevolve.origin user' huser' with ⟨user, huser, hid, hstep⟩ | ⟨hnew, hfresh⟩
    · have hlock : user'.failedLoginAttempts = (event.lock w.now user).1 :=
        congrArg Prod.fst hstep.lock
      rw [hlock]
      exact lock_lt event w.now (hI.few user huser)
    · have hzero : user'.failedLoginAttempts = 0 := congrArg Prod.fst hnew
      rw [hzero]
      exact Nat.zero_lt_succ _
  · have habsent : w.db.users.find? userId = none := by
      refine Table.find?_eq_none.mpr fun user huser hid => ?_
      obtain ⟨user', huser', hid', -⟩ := hevolve.kept user huser
      exact Table.find?_eq_none.mp hnone user' huser' (hid'.trans hid)
    exact failuresSince_absent h habsent (hI.absent userId habsent)

theorem counted_of_run (h : (authentication env).Run trace w) : Counted trace w.db := by
  refine h.invariant (I := fun trace w => Counted trace w.db) (fun s hinit => ?_)
    fun trace s a s' _ hI hs => hI.step hs
  rw [hinit.1]
  exact ⟨nofun, nofun, fun _ _ => rfl⟩

/-! ## Locks -/

/-- The branch that an attempt takes. -/
theorem failureEffect_ignored : user.failureEffect now = .ignored ↔ user.lockedAt now = true := by
  unfold User.failureEffect
  split_ifs <;> simp_all

theorem failureEffect_locks : user.failureEffect now = .locks ↔
    ¬ user.lockedAt now = true ∧ user.failedLoginAttempts + 1 ≥ maxFailedLogins := by
  unfold User.failureEffect
  split_ifs <;> simp_all

/-- A success is recorded where no lock is running. -/
theorem unlocked_of_success {n : ℕ} {userId : Uuid} (hrun : (authentication env).Run trace w)
    (h : Step env w (.successRecorded n userId) w') :
    ∃ user, w.db.users.find? userId = some user ∧ ¬ user.lockedAt w.now = true := by
  cases h with
  | successRecorded hcall hok =>
    obtain ⟨⟨user, hfound, hadmits⟩, -⟩ := recordSuccessfulLogin_eq_ok hok
    refine ⟨user, hfound, fun hlocked => ?_⟩
    have hclock := timely_of_run hrun _ _ hcall
    simp only [User.admitsLogin, Bool.and_eq_true, Bool.not_eq_true', User.lockedAt,
      Option.any_eq_false, decide_eq_false_iff_not] at hadmits
    simp only [User.lockedAt, Option.any_eq_true, decide_eq_true_eq] at hlocked
    obtain ⟨until_, huntil, hlt⟩ := hlocked
    have hpassed := hadmits.1.1 until_ huntil
    change _ ≤ w.now at hclock
    omega

/-- A running lock stays as it is at every step that resets no password. -/
theorem lock_of_locked (h : Step env w event w') (hrun : (authentication env).Run trace w)
    (huser : user ∈ w.db.users) (hlocked : user.lockedAt w.now = true)
    (hreset : event.resetsPassword user.id = false) :
    event.lock w.now user = user.lockState ∧ ∀ n, event ≠ .successRecorded n user.id := by
  have hfound := Table.find?_eq_some.mpr ⟨huser, rfl⟩
  have hsuccess : ∀ n, event ≠ .successRecorded n user.id := by
    rintro n rfl
    obtain ⟨found, hother, hunlocked⟩ := unlocked_of_success hrun h
    rw [hfound] at hother
    obtain rfl := Option.some.inj hother
    exact hunlocked hlocked
  refine ⟨?_, hsuccess⟩
  cases event with
  | failureRecorded n id effect =>
    rw [Event.lock]
    split_ifs
    · rw [lockState_failed, failureEffect_ignored.mpr hlocked]
      rfl
    · rfl
  | successRecorded n id =>
    exact if_neg fun hid => hsuccess n (by rw [hid])
  | resetCompleted n id resetId codeId => exact if_neg (beq_eq_false_iff_ne.mp hreset)
  | served request =>
    cases request with
    | resetPassword id resetId seen => exact if_neg (beq_eq_false_iff_ne.mp hreset)
    | _ => rfl
  | _ => rfl

/-- **A lock holds until its end.** -/
theorem locked_until {userId : Uuid} {ends : ℕ} {earlier later : List Event} {t : World}
    (ht : ∃ user, t.db.users.find? userId = some user ∧ user.lockedUntil = some ends)
    (hrun : (authentication env).Run earlier t)
    (hsteps : (authentication env).Steps t later w)
    (hreset : ∀ e ∈ later, e.resetsPassword userId = false) (hnow : w.now < ends) :
    (∃ user, w.db.users.find? userId = some user ∧ user.lockedUntil = some ends) ∧
      ∀ n, .successRecorded n userId ∉ later := by
  induction hsteps with
  | refl => exact ⟨ht, fun n hn => by cases hn⟩
  | @step later s s' event hsteps hstep ih =>
    have hle : s.now ≤ s'.now := now_le_step hstep
    obtain ⟨⟨user, hfound, huntil⟩, hnone⟩ :=
      ih (fun e he => hreset e (List.mem_cons_of_mem _ he)) (by omega)
    obtain ⟨huser, rfl⟩ := Table.find?_eq_some.mp hfound
    have hlocked : user.lockedAt s.now = true := by
      rw [User.lockedAt, huntil]
      exact decide_eq_true (by omega)
    obtain ⟨hlock, hsuccess⟩ := lock_of_locked hstep (hrun.append hsteps) huser hlocked
      (hreset event List.mem_cons_self)
    refine ⟨?_, fun n hn => ?_⟩
    · obtain ⟨user', hfound', hstep'⟩ := (usersEvolve_step hstep).find?_kept hfound
      refine ⟨user', hfound', ?_⟩
      have hstate : user'.lockState = user.lockState := hstep'.lock.trans hlock
      exact (congrArg Prod.snd hstate).trans huntil
    · rcases List.mem_cons.mp hn with heq | hn
      · exact hsuccess n heq.symm
      · exact hnone n hn

/-- The lock that the fifth failure begins. -/
theorem locks_of_step {n : ℕ} {userId : Uuid} (h : Step env w (.failureRecorded n userId .locks) w') :
    w'.now = w.now ∧
    ∃ user, w'.db.users.find? userId = some user ∧
      user.lockedUntil = some (w.now + lockDuration) := by
  have hnow : w'.now = w.now := by
    generalize hevent : Event.failureRecorded n userId .locks = event at h
    cases h with
    | failureRecorded => rfl
    | _ => cases hevent
  obtain ⟨user, hfound, heffect⟩ := failureEffect_of_step h
  obtain ⟨user', hfound', hstep⟩ := (usersEvolve_step h).find?_kept hfound
  obtain ⟨-, rfl⟩ := Table.find?_eq_some.mp hfound
  refine ⟨hnow, user', hfound', ?_⟩
  have hlock := hstep.lock
  rw [Event.lock, if_pos rfl, lockState_failed, ← heffect] at hlock
  exact congrArg Prod.snd hlock

end Auth

end SinoChat
