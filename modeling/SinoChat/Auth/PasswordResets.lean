import SinoChat.Auth.Bindings
import SinoChat.Auth.Credentials
import SinoChat.Auth.Users

/-!
# The password reset of a cashier, in every run

A reset ends by one step, which spends the reset and a recovery code of the cashier
together with the change of the password. What is spent is never accepted again: a live
code is unspent, and a live reset unsettled.
-/

namespace SinoChat

open Js

namespace Auth

variable {env : Env} {trace later : List Event} {w w' t t' : World} {event : Event}
variable {userId resetId codeId : Uuid}

/-! ## One step -/

/-- A step consumes a live reset and a live recovery code of a cashier. -/
structure Consumes (t t' : World) (userId resetId codeId : Uuid) : Prop where
  cashier : ∃ user ∈ t.db.users, user.id = userId ∧ user.role = .cashier
  reset : ∃ r ∈ t.db.resets, r.id = resetId ∧ r.cashierUserId = userId ∧ r.live t.now = true
  code : ∃ c ∈ t.db.recoveryCodes, c.id = codeId ∧ c.cashierUserId = userId ∧
    c.live t.now = true
  consumed : ∃ r ∈ t'.db.resets, r.id = resetId ∧ r.consumedAt = some t.now
  used : ∃ c ∈ t'.db.recoveryCodes, c.id = codeId ∧ c.usedAt = some t.now

theorem findReset_eq_some {db : Db} {now : ℕ} {r : CashierPasswordReset}
    (h : db.findReset userId now = some r) :
    r ∈ db.resets ∧ r.cashierUserId = userId ∧ r.live now = true := by
  have hfound := List.find?_some h
  simp only [Bool.and_eq_true, beq_iff_eq] at hfound
  exact ⟨List.mem_of_find?_eq_some h, hfound⟩

theorem findRecoveryCode_eq_some {db : Db} {now : ℕ} {codeHash : JsString}
    {c : CashierRecoveryCode} (h : db.findRecoveryCode userId codeHash now = some c) :
    c ∈ db.recoveryCodes ∧ c.cashierUserId = userId ∧ c.live now = true := by
  have hfound := List.find?_some h
  simp only [Bool.and_eq_true, beq_iff_eq] at hfound
  exact ⟨List.mem_of_find?_eq_some h, hfound.1.1, hfound.2⟩

/-- **What a completion consumes.** -/
theorem consumes_of_step {n : ℕ} (h : Step env t (.resetCompleted n userId resetId codeId) t') :
    Consumes t t' userId resetId codeId := by
  have hcodes := codesEvolve_step h
  have hresets := resetsEvolve_step h
  cases h with
  | @resetCompleted n read recoveryCode newPassword passwordHash seen db reset code hcall hreset
      hcode hrun =>
    obtain ⟨_, _, user, -, -, hfound, hcompletes, -⟩ := completeAdminReset_eq_ok hrun
    obtain ⟨hresetMem, hresetOwn, hresetLive⟩ := findReset_eq_some hreset
    obtain ⟨hcodeMem, hcodeOwn, hcodeLive⟩ := findRecoveryCode_eq_some hcode
    obtain ⟨huser, hid⟩ := Table.find?_eq_some.mp hfound
    simp only [User.completes, Bool.and_eq_true, beq_iff_eq] at hcompletes
    obtain ⟨reset', hmem, hkey, hstep⟩ := hresets.kept reset hresetMem
    obtain ⟨code', hmem', hkey', hstep'⟩ := hcodes.kept code hcodeMem
    exact ⟨⟨user, huser, hid, hcompletes.1.1.1.1⟩, ⟨reset, hresetMem, rfl, hresetOwn, hresetLive⟩,
      ⟨code, hcodeMem, rfl, hcodeOwn, hcodeLive⟩, ⟨reset', hmem, hkey, hstep.consumes rfl⟩,
      ⟨code', hmem', hkey', hstep'.uses rfl⟩⟩

/-- The password of an account changes only where a reset is completed. -/
theorem completed_of_passwordHash (h : Step env t event t') {user user' : User}
    (huser : user ∈ t.db.users) (huser' : user' ∈ t'.db.users) (hid : user'.id = user.id)
    (hchanged : user'.passwordHash ≠ user.passwordHash) :
    ∃ n resetId codeId, event = .resetCompleted n user.id resetId codeId := by
  have hstep := (usersEvolve_step h).kept_of_key huser huser' hid
  cases event with
  | resetCompleted n userId resetId codeId =>
    by_cases hown : userId = user.id
    · exact ⟨n, resetId, codeId, by rw [hown]⟩
    · have hother : Event.setsPassword user.id (.resetCompleted n userId resetId codeId) =
          false := by
        simpa [Event.setsPassword] using hown
      exact absurd (hstep.passwordHash hother) hchanged
  | _ => exact absurd (hstep.passwordHash rfl) hchanged

theorem consumes_of_usesCode (h : Step env t event t') (huses : event.usesCode codeId) :
    ∃ c ∈ t.db.recoveryCodes, c.id = codeId ∧ c.unspent = true := by
  cases event with
  | resetCompleted n userId resetId id =>
    obtain rfl : id = codeId := huses
    obtain ⟨c, hc, hid, -, hlive⟩ := (consumes_of_step h).code
    simp only [CashierRecoveryCode.live, Bool.and_eq_true] at hlive
    exact ⟨c, hc, hid, hlive.1⟩
  | _ => exact huses.elim

theorem consumes_of_consumesReset (h : Step env t event t')
    (hconsumes : event.consumesReset resetId) :
    ∃ r ∈ t.db.resets, r.id = resetId ∧ r.unsettled = true := by
  cases event with
  | resetCompleted n userId id codeId =>
    obtain rfl : id = resetId := hconsumes
    obtain ⟨r, hr, hid, -, hlive⟩ := (consumes_of_step h).reset
    simp only [CashierPasswordReset.live, Bool.and_eq_true] at hlive
    exact ⟨r, hr, hid, hlive.1⟩
  | _ => exact hconsumes.elim

/-! ## Over steps -/

/-- A code that is spent stays so. -/
theorem spentCode_of_steps (h : (authentication env).Steps t later w) {c : CashierRecoveryCode}
    (hc : c ∈ t.db.recoveryCodes) (hspent : c.unspent = false) :
    ∃ c' ∈ w.db.recoveryCodes, c'.id = c.id ∧ c'.unspent = false := by
  induction h with
  | refl => exact ⟨c, hc, rfl, hspent⟩
  | step hsteps hstep ih =>
    obtain ⟨c', hc', hid, hspent'⟩ := ih
    obtain ⟨c'', hc'', hid', hcc⟩ := (codesEvolve_step hstep).kept c' hc'
    exact ⟨c'', hc'', hid'.trans hid, hcc.spent hspent'⟩

/-- A reset that is settled stays so. -/
theorem settledReset_of_steps (h : (authentication env).Steps t later w)
    {r : CashierPasswordReset} (hr : r ∈ t.db.resets) (hsettled : r.unsettled = false) :
    ∃ r' ∈ w.db.resets, r'.id = r.id ∧ r'.unsettled = false := by
  induction h with
  | refl => exact ⟨r, hr, rfl, hsettled⟩
  | step hsteps hstep ih =>
    obtain ⟨r', hr', hid, hsettled'⟩ := ih
    obtain ⟨r'', hr'', hid', hrr⟩ := (resetsEvolve_step hstep).kept r' hr'
    exact ⟨r'', hr'', hid'.trans hid, hrr.settled hsettled'⟩

/-- **A spent code is not accepted.** -/
theorem not_usesCode_of_spent (h : (authentication env).Steps t later w) {c : CashierRecoveryCode}
    (hc : c ∈ t.db.recoveryCodes) (hspent : c.unspent = false) :
    ∀ e ∈ later, ¬ e.usesCode c.id := by
  induction h with
  | refl => exact fun e he => absurd he List.not_mem_nil
  | step hsteps hstep ih =>
    intro e he huses
    rcases List.mem_cons.mp he with rfl | he
    · obtain ⟨c', hc', hid, hspent'⟩ := spentCode_of_steps hsteps hc hspent
      obtain ⟨found, hfound, hid', hunspent⟩ := consumes_of_usesCode hstep huses
      obtain rfl := Table.eq_of_key_eq hc' hfound (hid.trans hid'.symm)
      rw [hspent'] at hunspent
      cases hunspent
    · exact ih e he huses

/-- **A settled reset is not accepted.** -/
theorem not_consumesReset_of_settled (h : (authentication env).Steps t later w)
    {r : CashierPasswordReset} (hr : r ∈ t.db.resets) (hsettled : r.unsettled = false) :
    ∀ e ∈ later, ¬ e.consumesReset r.id := by
  induction h with
  | refl => exact fun e he => absurd he List.not_mem_nil
  | step hsteps hstep ih =>
    intro e he hconsumes
    rcases List.mem_cons.mp he with rfl | he
    · obtain ⟨r', hr', hid, hsettled'⟩ := settledReset_of_steps hsteps hr hsettled
      obtain ⟨found, hfound, hid', hopen⟩ := consumes_of_consumesReset hstep hconsumes
      obtain rfl := Table.eq_of_key_eq hr' hfound (hid.trans hid'.symm)
      rw [hsettled'] at hopen
      cases hopen
    · exact ih e he hconsumes

/-- The code that a step uses is spent from then on. -/
theorem spentCode_of_use (h : Step env t event t') (huses : event.usesCode codeId) :
    ∃ c ∈ t'.db.recoveryCodes, c.id = codeId ∧ c.unspent = false := by
  obtain ⟨c, hc, rfl, -⟩ := consumes_of_usesCode h huses
  obtain ⟨c', hc', hid, hstep⟩ := (codesEvolve_step h).kept c hc
  refine ⟨c', hc', hid, ?_⟩
  simp [CashierRecoveryCode.unspent, hstep.uses huses]

/-- The reset that a step consumes is settled from then on. -/
theorem settledReset_of_consumption (h : Step env t event t')
    (hconsumes : event.consumesReset resetId) :
    ∃ r ∈ t'.db.resets, r.id = resetId ∧ r.unsettled = false := by
  obtain ⟨r, hr, rfl, -⟩ := consumes_of_consumesReset h hconsumes
  obtain ⟨r', hr', hid, hstep⟩ := (resetsEvolve_step h).kept r hr
  refine ⟨r', hr', hid, ?_⟩
  simp [CashierPasswordReset.unsettled, hstep.consumes hconsumes]

/-! ## One open reset -/

/-- A cashier has one reset that is neither consumed nor superseded. -/
def OneReset (db : Db) : Prop :=
  ∀ r ∈ db.resets, ∀ r' ∈ db.resets, r.cashierUserId = r'.cashierUserId → r.unsettled = true →
    r'.unsettled = true → r = r'

/-- A reset that a step makes supersedes those of its cashier. -/
theorem settled_of_makesReset {r r' made : CashierPasswordReset} {now : ℕ}
    (hmade : Event.makesReset made event) (hown : made.cashierUserId = r.cashierUserId)
    (h : ResetStep event now r r') : r'.unsettled = false := by
  cases event with
  | served request =>
    cases request with
    | resetPassword userId resetId seen => exact h.superseded (hmade.1.trans hown)
    | _ => exact hmade.elim
  | _ => exact hmade.elim

theorem makesReset_inj {r r' : CashierPasswordReset} (h : Event.makesReset r event)
    (h' : Event.makesReset r' event) : r.id = r'.id := by
  cases event with
  | served request =>
    cases request with
    | resetPassword userId resetId seen => exact h.2.symm.trans h'.2
    | _ => exact h.elim
  | _ => exact h.elim

theorem OneReset.step (hI : OneReset w.db) (h : Step env w event w') : OneReset w'.db := by
  have hresets := resetsEvolve_step h
  intro r' hr' s' hs' hown hopen hopen'
  rcases hresets.origin r' hr' with ⟨r, hr, hid, hrr⟩ | ⟨hmade, -⟩ <;>
    rcases hresets.origin s' hs' with ⟨s, hs, hsid, hss⟩ | ⟨hmade', -⟩
  · have hropen : r.unsettled = true := by
      by_contra hnot
      rw [hrr.settled (Bool.not_eq_true _ ▸ hnot)] at hopen
      cases hopen
    have hsopen : s.unsettled = true := by
      by_contra hnot
      rw [hss.settled (Bool.not_eq_true _ ▸ hnot)] at hopen'
      cases hopen'
    have hsame := hI r hr s hs (by rw [← hrr.cashierUserId, ← hss.cashierUserId, hown]) hropen
      hsopen
    subst hsame
    exact Table.eq_of_key_eq hr' hs' (hid.trans hsid.symm)
  · rw [settled_of_makesReset hmade' (hown.symm.trans hrr.cashierUserId) hrr] at hopen
    cases hopen
  · rw [settled_of_makesReset hmade (hown.trans hss.cashierUserId) hss] at hopen'
    cases hopen'
  · exact Table.eq_of_key_eq hr' hs' (makesReset_inj hmade hmade')

theorem oneReset_of_run (h : (authentication env).Run trace w) : OneReset w.db := by
  refine h.stateInvariant (I := fun w => OneReset w.db) (fun s hinit => ?_)
    fun s a s' hI hs => hI.step hs
  rw [hinit.1]
  exact nofun

/-! ## Every run -/

/-- What a run shows of the password resets. -/
structure ResetSound (env : Env) (trace : List Event) (w : World) : Prop where
  /-- The password of an account changes only in a step that consumes a live reset and a
  live recovery code of that cashier. -/
  password : ∀ {later event earlier t t'}, StepOf env trace w later event earlier t t' →
    ∀ user ∈ t.db.users, ∀ user' ∈ t'.db.users, user'.id = user.id →
      user'.passwordHash ≠ user.passwordHash → ∃ n resetId codeId,
        event = .resetCompleted n user.id resetId codeId ∧ Consumes t t' user.id resetId codeId
  /-- A reset is consumed, and a code used, by no other step. -/
  consumed : ∀ {later event earlier t t'}, StepOf env trace w later event earlier t t' →
    ∀ r ∈ t.db.resets, ∀ r' ∈ t'.db.resets, r'.id = r.id → r'.consumedAt ≠ r.consumedAt →
      event.consumesReset r.id
  used : ∀ {later event earlier t t'}, StepOf env trace w later event earlier t t' →
    ∀ c ∈ t.db.recoveryCodes, ∀ c' ∈ t'.db.recoveryCodes, c'.id = c.id → c'.usedAt ≠ c.usedAt →
      event.usesCode c.id
  /-- A completion consumes the two that it names. -/
  completes : ∀ {later n userId resetId codeId earlier t t'},
    StepOf env trace w later (.resetCompleted n userId resetId codeId) earlier t t' →
      Consumes t t' userId resetId codeId
  /-- Each reset is consumed once, and each code used once. -/
  resetOnce : ∀ {later event earlier t t'}, StepOf env trace w later event earlier t t' →
    ∀ resetId, event.consumesReset resetId → ∀ e ∈ later, ¬ e.consumesReset resetId
  codeOnce : ∀ {later event earlier t t'}, StepOf env trace w later event earlier t t' →
    ∀ codeId, event.usesCode codeId → ∀ e ∈ later, ¬ e.usesCode codeId
  /-- An attempt that fails leaves the database as it was. -/
  failed : ∀ {later n earlier t t'}, StepOf env trace w later (.failed n) earlier t t' →
    t'.db = t.db
  refused : ∀ {later request error earlier t t'},
    StepOf env trace w later (.refused request error) earlier t t' → t' = t
  /-- After a rotation no code that was there before is used. -/
  rotated : ∀ {later n userId earlier t t'},
    StepOf env trace w later (.rotated n userId) earlier t t' →
      ∀ c ∈ t.db.recoveryCodes, c.cashierUserId = userId → ∀ e ∈ later, ¬ e.usesCode c.id
  /-- After a new reset none that was there before is consumed. -/
  superseded : ∀ {later userId resetId seen earlier t t'},
    StepOf env trace w later (.served (.resetPassword userId resetId seen)) earlier t t' →
      ∀ r ∈ t.db.resets, r.cashierUserId = userId → ∀ e ∈ later, ¬ e.consumesReset r.id
  /-- A cashier has at most one open reset. -/
  alone : OneReset w.db

/-- **The credentials of a password reset are consumed once.** In every run of resets,
rotations and completions, in any order. -/
theorem password_reset_sound (h : (authentication env).Run trace w) :
    ResetSound env trace w where
  password := by
    intro later event earlier t t' hstep user huser user' huser' hid hchanged
    obtain ⟨n, resetId, codeId, rfl⟩ :=
      completed_of_passwordHash hstep.step huser huser' hid hchanged
    exact ⟨n, resetId, codeId, rfl, consumes_of_step hstep.step⟩
  consumed := by
    intro later event earlier t t' hstep r hr r' hr' hid hchanged
    by_contra hnot
    exact hchanged (((resetsEvolve_step hstep.step).kept_of_key hr hr' hid).onlyUse hnot)
  used := by
    intro later event earlier t t' hstep c hc c' hc' hid hchanged
    by_contra hnot
    exact hchanged (((codesEvolve_step hstep.step).kept_of_key hc hc' hid).onlyUse hnot)
  completes := fun hstep => consumes_of_step hstep.step
  resetOnce := by
    intro later event earlier t t' hstep resetId hconsumes
    obtain ⟨r, hr, rfl, hsettled⟩ := settledReset_of_consumption hstep.step hconsumes
    exact not_consumesReset_of_settled hstep.steps hr hsettled
  codeOnce := by
    intro later event earlier t t' hstep codeId huses
    obtain ⟨c, hc, rfl, hspent⟩ := spentCode_of_use hstep.step huses
    exact not_usesCode_of_spent hstep.steps hc hspent
  failed := by
    intro later n earlier t t' hstep
    cases hstep.step <;> rfl
  refused := by
    intro later request error earlier t t' hstep
    cases hstep.step with
    | refused => rfl
  rotated := by
    intro later n userId earlier t t' hstep c hc hown
    obtain ⟨c', hc', hid, hcc⟩ := (codesEvolve_step hstep.step).kept c hc
    rw [← hid]
    exact not_usesCode_of_spent hstep.steps hc' (hcc.rotated hown.symm)
  superseded := by
    intro later userId resetId seen earlier t t' hstep r hr hown
    obtain ⟨r', hr', hid, hrr⟩ := (resetsEvolve_step hstep.step).kept r hr
    rw [← hid]
    exact not_consumesReset_of_settled hstep.steps hr' (hrr.superseded hown.symm)
  alone := oneReset_of_run h

/-- The step completes a reset. -/
def Event.completesReset : Event → Bool
  | .resetCompleted .. => true
  | _ => false

/-- A cashier completes the reset of an administrator with a recovery code. -/
theorem password_reset_sound_completed :
    ∃ trace w, trace.any Event.completesReset = true ∧ ResetSound Scene.env trace w := by
  obtain ⟨trace, w, hrun, hcheck⟩ := Machine.exists_run_of_perform
    (M := authentication Scene.env) Command.exec_step Scene.start_initial
    (Scene.registers ++ Scene.attempts ++ Scene.recovers)
    (fun trace _ => trace.any Event.completesReset) (by decide +kernel)
  exact ⟨trace, w, hcheck, password_reset_sound hrun⟩

end Auth

end SinoChat
