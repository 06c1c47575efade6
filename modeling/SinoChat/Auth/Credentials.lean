import SinoChat.Common.Evolve
import SinoChat.Auth.DeviceRequests
import SinoChat.Model.AuthRuns

/-!
# What a step does to the credentials of a password reset

A recovery code and a reset are each used once, at the step that completes a reset with
both of them. A rotation ends the codes that are there, a new reset the ones before it.
-/

namespace SinoChat

open Js

namespace Auth

variable {env : Env} {db db' : Db} {now : ℕ} {w w' : World} {event : Event}

/-! ## Recovery codes -/

/-- The step uses the code. -/
def Event.usesCode (codeId : Uuid) : Event → Prop
  | .resetCompleted _ _ _ id => id = codeId
  | _ => False

/-- The step ends the open codes of the cashier. -/
def Event.rotates (cashierUserId : Uuid) : Event → Prop
  | .rotated _ userId => userId = cashierUserId
  | _ => False

/-- A code before and after a step. -/
structure CodeStep (event : Event) (now : ℕ) (c c' : CashierRecoveryCode) : Prop where
  cashierUserId : c'.cashierUserId = c.cashierUserId
  spent : c.unspent = false → c'.unspent = false
  used : c.usedAt ≠ none → c'.usedAt = c.usedAt
  uses : event.usesCode c.id → c'.usedAt = some now
  onlyUse : ¬ event.usesCode c.id → c'.usedAt = c.usedAt
  rotated : event.rotates c.cashierUserId → c'.unspent = false

/-- The codes evolve over a step. -/
abbrev CodesEvolve (event : Event) (now : ℕ) (db db' : Db) : Prop :=
  db.recoveryCodes.Evolves (CodeStep event now) (fun c => c.unspent = true) db'.recoveryCodes

theorem CodeStep.same {c : CashierRecoveryCode} (huses : ¬ event.usesCode c.id)
    (hrotates : ¬ event.rotates c.cashierUserId) : CodeStep event now c c :=
  ⟨rfl, id, fun _ => rfl, fun h => absurd h huses, fun _ => rfl, fun h => absurd h hrotates⟩

theorem codesEvolve_of_eq (h : db'.recoveryCodes = db.recoveryCodes)
    (huses : ∀ id, ¬ event.usesCode id) (hrotates : ∀ id, ¬ event.rotates id) :
    CodesEvolve event now db db' := by
  unfold CodesEvolve
  rw [h]
  exact .refl fun c _ => .same (huses c.id) (hrotates c.cashierUserId)

/-- The codes that are issued are new rows. -/
theorem evolves_createRecoveryCodes {R : CashierRecoveryCode → CashierRecoveryCode → Prop}
    {N : CashierRecoveryCode → Prop}
    {t codes codes' : Table Uuid CashierRecoveryCode CashierRecoveryCode.id}
    {issued : List CashierRecoveryCode} (h : createRecoveryCodes codes issued = .ok codes')
    (hevolves : t.Evolves R N codes) (hnew : ∀ c ∈ issued, N c) : t.Evolves R N codes' := by
  induction issued generalizing codes with
  | nil =>
    obtain rfl := Except.ok.inj h
    exact hevolves
  | cons c rest ih =>
    simp only [createRecoveryCodes, bind_eq_ok, require_eq_ok, Table.create_eq_ok] at h
    obtain ⟨_, -, created, ⟨hfree, rfl⟩, hrest⟩ := h
    exact ih hrest (hevolves.then_insert hfree (hnew c List.mem_cons_self))
      fun c' hc' => hnew c' (List.mem_cons_of_mem _ hc')

/-- An issued code is unspent. -/
theorem unspent_issued {userId : Uuid} {issued : List (Uuid × JsString)} :
    ∀ c ∈ issued.map (issuedCode env userId), c.unspent = true := by
  intro c hc
  obtain ⟨pair, -, rfl⟩ := List.mem_map.mp hc
  rfl

theorem codesEvolve_createAccount {user : User} {issued : List (Uuid × JsString)}
    (h : createAccount env db user issued = .ok db') (huses : ∀ id, ¬ event.usesCode id)
    (hrotates : ∀ id, ¬ event.rotates id) : CodesEvolve event now db db' := by
  obtain ⟨hfree, profiles, codes, hcodes, rfl⟩ := createAccount_eq_ok h
  exact evolves_createRecoveryCodes hcodes
    (.refl fun c _ => .same (huses c.id) (hrotates c.cashierUserId)) unspent_issued

theorem codesEvolve_request {request : Request} (h : request.run env now db = .ok db') :
    CodesEvolve (.served request) now db db' := by
  cases request with
  | bootstrapAdmin userId name hash =>
    exact codesEvolve_createAccount h (fun _ => id) fun _ => id
  | logout token =>
    obtain rfl := Except.ok.inj h
    exact codesEvolve_of_eq rfl (fun _ => id) fun _ => id
  | revokeOwnAdminSession principal sessionId =>
    obtain rfl := revokeOwnAdminSession_eq_ok h
    exact codesEvolve_of_eq rfl (fun _ => id) fun _ => id
  | revokeOtherAdminSessions principal seen =>
    obtain rfl := revokeOtherAdminSessions_eq_ok h
    exact codesEvolve_of_eq rfl (fun _ => id) fun _ => id
  | suspend userId seen =>
    obtain ⟨-, rfl⟩ := suspend_eq_ok h
    exact codesEvolve_of_eq rfl (fun _ => id) fun _ => id
  | suspendForReview userId seen =>
    obtain ⟨-, rfl⟩ := suspendForReview_eq_ok h
    exact codesEvolve_of_eq rfl (fun _ => id) fun _ => id
  | reactivate userId =>
    obtain ⟨user, -, -, rfl⟩ := reactivate_eq_ok h
    exact codesEvolve_of_eq rfl (fun _ => id) fun _ => id
  | approveCashier userId =>
    obtain rfl := approveCashier_eq_ok h
    exact codesEvolve_of_eq rfl (fun _ => id) fun _ => id
  | deleteUser userId seen =>
    obtain ⟨-, rfl⟩ := deleteUser_eq_ok h
    exact codesEvolve_of_eq rfl (fun _ => id) fun _ => id
  | resetPassword userId resetId seen =>
    obtain ⟨-, hfree, rfl⟩ := resetPassword_eq_ok h
    exact codesEvolve_of_eq rfl (fun _ => id) fun _ => id
  | registerDevice principal deviceId secret protocol =>
    exact codesEvolve_of_eq (sameAccounts_registerDevice h).recoveryCodes (fun _ => id) fun _ => id
  | bindSession principal deviceId secret =>
    exact codesEvolve_of_eq (sameAccounts_bindSession h).recoveryCodes (fun _ => id) fun _ => id
  | revokeDevice userId deviceId =>
    exact codesEvolve_of_eq (sameAccounts_revokeDevice h).recoveryCodes (fun _ => id) fun _ => id
  | reserveDevice principal registrationId =>
    obtain ⟨reserved, hreserved, hdb⟩ := bind_eq_ok.mp h
    obtain rfl := Except.ok.inj hdb
    exact codesEvolve_of_eq (sameAccounts_reserveDevice hreserved).recoveryCodes (fun _ => id)
      fun _ => id
  | completeInitialUpload principal registrationId upload keys =>
    exact codesEvolve_of_eq (sameAccounts_completeInitialUpload h).recoveryCodes (fun _ => id)
      fun _ => id
  | purgeRegistrations =>
    obtain rfl := Except.ok.inj h
    exact codesEvolve_of_eq rfl (fun _ => id) fun _ => id

/-- **What a step does to the recovery codes.** -/
theorem codesEvolve_step (h : Step env w event w') : CodesEvolve event w.now w.db w'.db := by
  cases h with
  | served hrun => exact codesEvolve_request hrun
  | registered hnew hrun => exact codesEvolve_createAccount hrun (fun _ => id) fun _ => id
  | successRecorded hcall hrun =>
    obtain ⟨-, rfl⟩ := recordSuccessfulLogin_eq_ok hrun
    exact codesEvolve_of_eq rfl (fun _ => id) fun _ => id
  | sessionCreated hcall hrun hsession =>
    obtain ⟨-, hfree, -, rfl⟩ := createSession_eq_ok hrun
    exact codesEvolve_of_eq rfl (fun _ => id) fun _ => id
  | refreshed hcall hrun =>
    obtain ⟨found, -, -, rfl⟩ := refreshAdminSession_eq_some hrun
    exact codesEvolve_of_eq rfl (fun _ => id) fun _ => id
  | resetCompleted hcall hreset hcode hrun =>
    obtain ⟨_, code, user, -, hfound, -, -, rfl⟩ := completeAdminReset_eq_ok hrun
    obtain rfl := Option.some.inj (hcode.symm.trans hfound)
    have hlive := List.find?_some hfound
    simp only [CashierRecoveryCode.live, Bool.and_eq_true] at hlive
    refine .update (fun _ => by rfl) (fun c hc hid => ?_) fun c _ hid =>
      .same (Ne.symm hid) id
    obtain rfl := Table.eq_of_key_eq hc (List.mem_of_find?_eq_some hfound) hid
    have hunused : c.usedAt = none := by
      have := hlive.2.1
      simp only [CashierRecoveryCode.unspent, Bool.and_eq_true, beq_iff_eq] at this
      exact this.1
    exact ⟨rfl, fun _ => rfl, fun hused => absurd hunused hused, fun _ => rfl,
      fun hnot => absurd rfl hnot, False.elim⟩
  | rotated hcall hrun =>
    obtain ⟨codes, hcodes, rfl⟩ := rotateCashierRecoveryCodes_eq_ok hrun
    refine evolves_createRecoveryCodes hcodes
      (.modify (fun c => by split_ifs <;> rfl) fun c _ => ?_) unspent_issued
    split_ifs with hopen
    · simp only [Bool.and_eq_true, beq_iff_eq] at hopen
      have hspent : ({ c with revokedAt := some w.now } : CashierRecoveryCode).unspent = false := by
        simp [CashierRecoveryCode.unspent]
      exact ⟨rfl, fun _ => hspent, fun _ => rfl, False.elim, fun _ => rfl, fun _ => hspent⟩
    · refine ⟨rfl, id, fun _ => rfl, False.elim, fun _ => rfl, fun hown => ?_⟩
      simp only [Bool.and_eq_true, beq_iff_eq, not_and, Bool.not_eq_true] at hopen
      exact hopen hown.symm
  | _ => exact codesEvolve_of_eq rfl (fun _ => id) fun _ => id

/-! ## Resets -/

/-- The step consumes the reset. -/
def Event.consumesReset (resetId : Uuid) : Event → Prop
  | .resetCompleted _ _ id _ => id = resetId
  | _ => False

/-- The step begins a reset of the cashier, which supersedes the open one. -/
def Event.beginsReset (cashierUserId : Uuid) : Event → Prop
  | .served (.resetPassword userId _ _) => userId = cashierUserId
  | _ => False

/-- The step inserts the reset. -/
def Event.makesReset (reset : CashierPasswordReset) : Event → Prop
  | .served (.resetPassword userId resetId _) =>
    userId = reset.cashierUserId ∧ resetId = reset.id
  | _ => False

/-- A reset before and after a step. -/
structure ResetStep (event : Event) (now : ℕ) (r r' : CashierPasswordReset) : Prop where
  cashierUserId : r'.cashierUserId = r.cashierUserId
  settled : r.unsettled = false → r'.unsettled = false
  consumed : r.consumedAt ≠ none → r'.consumedAt = r.consumedAt
  consumes : event.consumesReset r.id → r'.consumedAt = some now
  onlyUse : ¬ event.consumesReset r.id → r'.consumedAt = r.consumedAt
  superseded : event.beginsReset r.cashierUserId → r'.unsettled = false

/-- The resets evolve over a step. -/
abbrev ResetsEvolve (event : Event) (now : ℕ) (db db' : Db) : Prop :=
  db.resets.Evolves (ResetStep event now) (Event.makesReset · event) db'.resets

theorem ResetStep.same {r : CashierPasswordReset} (hconsumes : ¬ event.consumesReset r.id)
    (hbegins : ¬ event.beginsReset r.cashierUserId) : ResetStep event now r r :=
  ⟨rfl, id, fun _ => rfl, fun h => absurd h hconsumes, fun _ => rfl, fun h => absurd h hbegins⟩

theorem resetsEvolve_of_eq (h : db'.resets = db.resets)
    (hconsumes : ∀ id, ¬ event.consumesReset id) (hbegins : ∀ id, ¬ event.beginsReset id) :
    ResetsEvolve event now db db' := by
  unfold ResetsEvolve
  rw [h]
  exact .refl fun r _ => .same (hconsumes r.id) (hbegins r.cashierUserId)

/-- A new reset supersedes the open ones. -/
theorem evolves_supersede (userId resetId : Uuid) (seen : Uuid → Bool)
    {N : CashierPasswordReset → Prop} :
    db.resets.Evolves (ResetStep (.served (.resetPassword userId resetId seen)) now) N
      (db.supersede userId now) := by
  refine .modify (fun r => by split_ifs <;> rfl) fun r _ => ?_
  split_ifs with hopen
  · have hsettled : ({ r with supersededAt := some now } : CashierPasswordReset).unsettled =
        false := by
      simp [CashierPasswordReset.unsettled]
    exact ⟨rfl, fun _ => hsettled, fun _ => rfl, False.elim, fun _ => rfl, fun _ => hsettled⟩
  · refine ⟨rfl, id, fun _ => rfl, False.elim, fun _ => rfl, fun hown => ?_⟩
    simp only [Bool.and_eq_true, beq_iff_eq, not_and, Bool.not_eq_true] at hopen
    exact hopen hown.symm

theorem resetsEvolve_request {request : Request} (h : request.run env now db = .ok db') :
    ResetsEvolve (.served request) now db db' := by
  cases request with
  | bootstrapAdmin userId name hash =>
    obtain ⟨hfree, profiles, codes, -, rfl⟩ := createAccount_eq_ok h
    exact resetsEvolve_of_eq rfl (fun _ => id) fun _ => id
  | logout token =>
    obtain rfl := Except.ok.inj h
    exact resetsEvolve_of_eq rfl (fun _ => id) fun _ => id
  | revokeOwnAdminSession principal sessionId =>
    obtain rfl := revokeOwnAdminSession_eq_ok h
    exact resetsEvolve_of_eq rfl (fun _ => id) fun _ => id
  | revokeOtherAdminSessions principal seen =>
    obtain rfl := revokeOtherAdminSessions_eq_ok h
    exact resetsEvolve_of_eq rfl (fun _ => id) fun _ => id
  | suspend userId seen =>
    obtain ⟨-, rfl⟩ := suspend_eq_ok h
    exact resetsEvolve_of_eq rfl (fun _ => id) fun _ => id
  | suspendForReview userId seen =>
    obtain ⟨-, rfl⟩ := suspendForReview_eq_ok h
    exact resetsEvolve_of_eq rfl (fun _ => id) fun _ => id
  | reactivate userId =>
    obtain ⟨user, -, -, rfl⟩ := reactivate_eq_ok h
    exact resetsEvolve_of_eq rfl (fun _ => id) fun _ => id
  | approveCashier userId =>
    obtain rfl := approveCashier_eq_ok h
    exact resetsEvolve_of_eq rfl (fun _ => id) fun _ => id
  | deleteUser userId seen =>
    obtain ⟨-, rfl⟩ := deleteUser_eq_ok h
    exact resetsEvolve_of_eq rfl (fun _ => id) fun _ => id
  | resetPassword userId resetId seen =>
    obtain ⟨-, hfree, rfl⟩ := resetPassword_eq_ok h
    exact (evolves_supersede userId resetId seen).then_insert (a := newReset userId resetId now)
      hfree ⟨rfl, rfl⟩
  | registerDevice principal deviceId secret protocol =>
    exact resetsEvolve_of_eq (sameAccounts_registerDevice h).resets (fun _ => id) fun _ => id
  | bindSession principal deviceId secret =>
    exact resetsEvolve_of_eq (sameAccounts_bindSession h).resets (fun _ => id) fun _ => id
  | revokeDevice userId deviceId =>
    exact resetsEvolve_of_eq (sameAccounts_revokeDevice h).resets (fun _ => id) fun _ => id
  | reserveDevice principal registrationId =>
    obtain ⟨reserved, hreserved, hdb⟩ := bind_eq_ok.mp h
    obtain rfl := Except.ok.inj hdb
    exact resetsEvolve_of_eq (sameAccounts_reserveDevice hreserved).resets (fun _ => id)
      fun _ => id
  | completeInitialUpload principal registrationId upload keys =>
    exact resetsEvolve_of_eq (sameAccounts_completeInitialUpload h).resets (fun _ => id)
      fun _ => id
  | purgeRegistrations =>
    obtain rfl := Except.ok.inj h
    exact resetsEvolve_of_eq rfl (fun _ => id) fun _ => id

/-- **What a step does to the resets.** -/
theorem resetsEvolve_step (h : Step env w event w') : ResetsEvolve event w.now w.db w'.db := by
  cases h with
  | served hrun => exact resetsEvolve_request hrun
  | registered hnew hrun =>
    obtain ⟨hfree, profiles, codes, -, rfl⟩ := createAccount_eq_ok hrun
    exact resetsEvolve_of_eq rfl (fun _ => id) fun _ => id
  | successRecorded hcall hrun =>
    obtain ⟨-, rfl⟩ := recordSuccessfulLogin_eq_ok hrun
    exact resetsEvolve_of_eq rfl (fun _ => id) fun _ => id
  | sessionCreated hcall hrun hsession =>
    obtain ⟨-, hfree, -, rfl⟩ := createSession_eq_ok hrun
    exact resetsEvolve_of_eq rfl (fun _ => id) fun _ => id
  | refreshed hcall hrun =>
    obtain ⟨found, -, -, rfl⟩ := refreshAdminSession_eq_some hrun
    exact resetsEvolve_of_eq rfl (fun _ => id) fun _ => id
  | resetCompleted hcall hreset hcode hrun =>
    obtain ⟨reset, _, user, hfound, -, -, -, rfl⟩ := completeAdminReset_eq_ok hrun
    obtain rfl := Option.some.inj (hreset.symm.trans hfound)
    have hlive := List.find?_some hfound
    simp only [CashierPasswordReset.live, CashierPasswordReset.unsettled, Bool.and_eq_true,
      beq_iff_eq] at hlive
    refine .update (fun _ => by rfl) (fun r hr hid => ?_) fun r _ hid => .same (Ne.symm hid) id
    obtain rfl := Table.eq_of_key_eq hr (List.mem_of_find?_eq_some hfound) hid
    exact ⟨rfl, fun _ => rfl, fun hconsumed => absurd hlive.2.1.1 hconsumed, fun _ => rfl,
      fun hnot => absurd rfl hnot, False.elim⟩
  | rotated hcall hrun =>
    obtain ⟨codes, -, rfl⟩ := rotateCashierRecoveryCodes_eq_ok hrun
    exact resetsEvolve_of_eq rfl (fun _ => id) fun _ => id
  | _ => exact resetsEvolve_of_eq rfl (fun _ => id) fun _ => id

end Auth

end SinoChat
