import SinoChat.Common.Evolve
import SinoChat.Auth.DeviceRequests
import SinoChat.Model.AuthRuns

/-!
# What a step does to the accounts

An account is never removed. Its session version goes up at the steps that end its
sessions and stays at the others, its password changes where a reset is completed, and
its failures and lock change as `Event.lock` says.
-/

namespace SinoChat

open Js

namespace Auth

/-! ## Steps and accounts -/

/-- The step ends the sessions of the account by their version. -/
def Event.outdates (userId : Uuid) : Event → Bool
  | .served (.suspend id _) | .served (.suspendForReview id _) | .served (.reactivate id)
  | .served (.deleteUser id _) | .served (.resetPassword id _ _) | .resetCompleted _ id _ _ =>
    id == userId
  | _ => false

/-- The step changes the password of the account. -/
def Event.setsPassword (userId : Uuid) : Event → Bool
  | .resetCompleted _ id _ _ => id == userId
  | _ => false

/-- The failures and the lock of an account. -/
def User.lockState (user : User) : ℕ × Option ℕ := (user.failedLoginAttempts, user.lockedUntil)

/-- What the step leaves of them. -/
def Event.lock (now : ℕ) (user : User) : Event → ℕ × Option ℕ
  | .failureRecorded _ id _ =>
    if id = user.id then (user.failed now).lockState else user.lockState
  | .successRecorded _ id | .served (.resetPassword id _ _) | .resetCompleted _ id _ _ =>
    if id = user.id then (0, none) else user.lockState
  | _ => user.lockState

/-- An account before and after a step. -/
structure UserStep (event : Event) (now : ℕ) (user user' : User) : Prop where
  role : user'.role = user.role
  sessionVersion : user'.sessionVersion =
    user.sessionVersion + (event.outdates user.id).toNat
  passwordHash : event.setsPassword user.id = false → user'.passwordHash = user.passwordHash
  lock : user'.lockState = event.lock now user

/-- An account that a step makes. -/
def NewUser (user : User) : Prop := user.lockState = (0, none)

theorem newUser_newUser (id : Uuid) (role : UserRole) (name hash : JsString) :
    NewUser (newUser id role name hash) := rfl

/-- A step that is not about the account. -/
theorem UserStep.same {event : Event} {now : ℕ} {user : User}
    (houtdates : event.outdates user.id = false) (hlock : event.lock now user = user.lockState) :
    UserStep event now user user :=
  ⟨rfl, by rw [houtdates]; rfl, fun _ => rfl, hlock.symm⟩

/-- The accounts evolve over a step. -/
abbrev UsersEvolve (event : Event) (now : ℕ) (db db' : Db) : Prop :=
  db.users.Evolves (UserStep event now) NewUser db'.users

variable {env : Env} {db db' : Db} {now : ℕ}

/-- A step about no account. -/
theorem usersEvolve_of_eq {event : Event} (h : db'.users = db.users)
    (houtdates : ∀ id, event.outdates id = false)
    (hlock : ∀ user, event.lock now user = user.lockState) : UsersEvolve event now db db' := by
  unfold UsersEvolve
  rw [h]
  exact .refl fun user _ => .same (houtdates user.id) (hlock user)

/-- A request that ends the sessions of one account and leaves its lock. -/
theorem usersEvolve_outdate {event : Event} {userId : Uuid} {f : User → User}
    (hf : ∀ u, (f u).id = u.id) (h : db'.users = db.users.update userId f hf)
    (hrole : ∀ u, (f u).role = u.role)
    (hversion : ∀ u, (f u).sessionVersion = u.sessionVersion + 1)
    (houtdates : ∀ id, event.outdates id = (userId == id))
    (hpassword : ∀ u, event.setsPassword userId = false → (f u).passwordHash = u.passwordHash)
    (hlock : ∀ u : User, (u.id = userId → (f u).lockState = event.lock now u) ∧
      (u.id ≠ userId → event.lock now u = u.lockState)) :
    UsersEvolve event now db db' := by
  unfold UsersEvolve
  rw [h]
  refine .update _ (fun u _ hid => ⟨hrole u, ?_, fun hset => hpassword u (hid ▸ hset),
    (hlock u).1 hid⟩) fun u _ hid => .same ?_ ((hlock u).2 hid)
  · rw [hversion, houtdates, hid, beq_self_eq_true]
    rfl
  · rw [houtdates]
    exact beq_eq_false_iff_ne.mpr (Ne.symm hid)

/-! ## Requests -/

theorem usersEvolve_request {request : Request} (h : request.run env now db = .ok db') :
    UsersEvolve (.served request) now db db' := by
  cases request with
  | bootstrapAdmin id name hash =>
    obtain ⟨hfree, profiles, codes, -, rfl⟩ := createAccount_eq_ok h
    exact .insert hfree (fun user _ => .same rfl rfl) (newUser_newUser _ _ _ _)
  | logout token =>
    obtain rfl := Except.ok.inj h
    exact usersEvolve_of_eq rfl (fun _ => rfl) fun _ => rfl
  | revokeOwnAdminSession principal sessionId =>
    obtain rfl := revokeOwnAdminSession_eq_ok h
    exact usersEvolve_of_eq rfl (fun _ => rfl) fun _ => rfl
  | revokeOtherAdminSessions principal seen =>
    obtain rfl := revokeOtherAdminSessions_eq_ok h
    exact usersEvolve_of_eq rfl (fun _ => rfl) fun _ => rfl
  | suspend userId seen =>
    obtain ⟨-, rfl⟩ := suspend_eq_ok h
    exact usersEvolve_outdate (fun _ => by rfl) rfl (fun _ => rfl) (fun _ => rfl) (fun _ => rfl) (fun _ _ => rfl)
      fun _ => ⟨fun _ => rfl, fun _ => rfl⟩
  | suspendForReview userId seen =>
    obtain ⟨-, rfl⟩ := suspendForReview_eq_ok h
    exact usersEvolve_outdate (fun _ => by rfl) rfl (fun _ => rfl) (fun _ => rfl) (fun _ => rfl) (fun _ _ => rfl)
      fun _ => ⟨fun _ => rfl, fun _ => rfl⟩
  | reactivate userId =>
    obtain ⟨user, -, -, rfl⟩ := reactivate_eq_ok h
    exact usersEvolve_outdate (fun _ => by rfl) rfl (fun _ => rfl) (fun _ => rfl) (fun _ => rfl) (fun _ _ => rfl)
      fun _ => ⟨fun _ => rfl, fun _ => rfl⟩
  | approveCashier userId =>
    obtain rfl := approveCashier_eq_ok h
    exact .update (fun _ => by rfl) (fun u _ _ => ⟨rfl, rfl, fun _ => rfl, rfl⟩) fun u _ _ => .same rfl rfl
  | deleteUser userId seen =>
    obtain ⟨-, rfl⟩ := deleteUser_eq_ok h
    exact usersEvolve_outdate (fun _ => by rfl) rfl (fun _ => rfl) (fun _ => rfl) (fun _ => rfl) (fun _ _ => rfl)
      fun _ => ⟨fun _ => rfl, fun _ => rfl⟩
  | resetPassword userId resetId seen =>
    obtain ⟨-, hfree, rfl⟩ := resetPassword_eq_ok h
    refine usersEvolve_outdate (fun _ => by rfl) rfl (fun _ => rfl) (fun _ => rfl) (fun _ => rfl) (fun _ _ => rfl)
      fun u => ⟨fun hid => ?_, fun hid => ?_⟩
    · exact (if_pos hid.symm).symm
    · exact if_neg (Ne.symm hid)
  | registerDevice principal deviceId secret protocol =>
    exact usersEvolve_of_eq (sameAccounts_registerDevice h).users (fun _ => rfl) fun _ => rfl
  | bindSession principal deviceId secret =>
    exact usersEvolve_of_eq (sameAccounts_bindSession h).users (fun _ => rfl) fun _ => rfl
  | revokeDevice userId deviceId =>
    exact usersEvolve_of_eq (sameAccounts_revokeDevice h).users (fun _ => rfl) fun _ => rfl
  | reserveDevice principal registrationId =>
    obtain ⟨reserved, hreserved, hdb⟩ := bind_eq_ok.mp h
    obtain rfl := Except.ok.inj hdb
    exact usersEvolve_of_eq (sameAccounts_reserveDevice hreserved).users (fun _ => rfl)
      fun _ => rfl
  | completeInitialUpload principal registrationId upload keys =>
    exact usersEvolve_of_eq (sameAccounts_completeInitialUpload h).users (fun _ => rfl)
      fun _ => rfl
  | purgeRegistrations =>
    obtain rfl := Except.ok.inj h
    exact usersEvolve_of_eq rfl (fun _ => rfl) fun _ => rfl

/-! ## Steps -/

/-- **What a step does to the accounts.** -/
theorem usersEvolve_step {w w' : World} {event : Event} (h : Step env w event w') :
    UsersEvolve event w.now w.db w'.db := by
  cases h with
  | served hrun => exact usersEvolve_request hrun
  | registered hnew hrun =>
    obtain ⟨id, role, name, hash, rfl, -⟩ := hnew
    obtain ⟨hfree, profiles, codes, -, rfl⟩ := createAccount_eq_ok hrun
    exact .insert hfree (fun user _ => .same rfl rfl) (newUser_newUser _ _ _ _)
  | failureRecorded hcall huser =>
    refine .update (User.id_failed w.now) (fun u _ hid => ?_) fun u _ hid => .same rfl (if_neg (Ne.symm hid))
    have hfailed : (u.failed w.now).role = u.role ∧
        (u.failed w.now).sessionVersion = u.sessionVersion ∧
        (u.failed w.now).passwordHash = u.passwordHash := by
      unfold User.failed
      split_ifs <;> exact ⟨rfl, rfl, rfl⟩
    exact ⟨hfailed.1, hfailed.2.1, fun _ => hfailed.2.2, (if_pos hid.symm).symm⟩
  | successRecorded hcall hrun =>
    obtain ⟨-, rfl⟩ := recordSuccessfulLogin_eq_ok hrun
    exact .update (fun _ => by rfl) (fun u _ hid => ⟨rfl, rfl, fun _ => rfl, (if_pos hid.symm).symm⟩)
      fun u _ hid => .same rfl (if_neg (Ne.symm hid))
  | sessionCreated hcall hrun hsession =>
    obtain ⟨-, hfree, -, rfl⟩ := createSession_eq_ok hrun
    exact usersEvolve_of_eq rfl (fun _ => rfl) fun _ => rfl
  | refreshed hcall hrun =>
    obtain ⟨session, -, -, rfl⟩ := refreshAdminSession_eq_some hrun
    exact usersEvolve_of_eq rfl (fun _ => rfl) fun _ => rfl
  | resetCompleted hcall hreset hcode hrun =>
    obtain ⟨_, _, user, -, -, -, -, rfl⟩ := completeAdminReset_eq_ok hrun
    refine usersEvolve_outdate (fun _ => by rfl) rfl (fun _ => rfl) (fun _ => rfl) (fun _ => rfl) (fun u hset => ?_)
      fun u => ⟨fun hid => ?_, fun hid => ?_⟩
    · cases (beq_self_eq_true _).symm.trans hset
    · exact (if_pos hid.symm).symm
    · exact if_neg (Ne.symm hid)
  | rotated hcall hrun =>
    obtain ⟨codes, -, rfl⟩ := rotateCashierRecoveryCodes_eq_ok hrun
    exact usersEvolve_of_eq rfl (fun _ => rfl) fun _ => rfl
  | _ => exact usersEvolve_of_eq rfl (fun _ => rfl) fun _ => rfl

end Auth

end SinoChat
