import SinoChat.Auth.Script
import SinoChat.Auth.Sessions

/-!
# The device of an account, in every run

An account has at most one device ever. A session is bound to it once, behind its binding
secret or by the registration that makes it, and the revocation of the device ends every
session that is bound to it.
-/

namespace SinoChat

open Js

namespace Auth

variable {env : Env} {trace later : List Event} {w w' t : World} {event : Event}

/-! ## Invariants -/

/-- An account has one device, and a revoked device has no open session. -/
structure OneDevice (db : Db) : Prop where
  unique : ∀ d ∈ db.devices, ∀ d' ∈ db.devices, d.userId = d'.userId → d = d'
  closed : ∀ s ∈ db.sessions, ∀ d ∈ db.devices, s.deviceId = some d.id → d.status = .revoked →
    s.revokedAt ≠ none

theorem OneDevice.step (hI : OneDevice w.db) (h : Step env w event w') : OneDevice w'.db := by
  have hdevices := devicesEvolve_step h
  have hsessions := sessionsEvolve_step h
  refine ⟨fun d' hd' e' he' hown => ?_, fun s' hs' d' hd' hbound hrevoked => ?_⟩
  · rcases hdevices.origin d' hd' with ⟨d, hd, hdid, hdd⟩ | ⟨hdnew, -⟩ <;>
      rcases hdevices.origin e' he' with ⟨e, he, heid, hee⟩ | ⟨henew, -⟩
    · have hsame := hI.unique d hd e he (by rw [← hdd.userId, ← hee.userId, hown])
      subst hsame
      exact Table.eq_of_key_eq hd' he' (hdid.trans heid.symm)
    · exact absurd (hdd.userId.symm.trans hown) (henew.2.1 d hd)
    · exact absurd (hee.userId.symm.trans hown.symm) (hdnew.2.1 e he)
    · exact Table.eq_of_key_eq hd' he' (makesDevice_inj hdnew.2.2 henew.2.2)
  · rcases hsessions.origin s' hs' with ⟨s, hs, -, hss⟩ | ⟨⟨-, hnone, -⟩, -⟩
    · cases hdevice : s.deviceId with
      | none =>
        obtain ⟨-, device, hmem, hid, -, hactive⟩ := hss.binds d'.id hdevice hbound
        obtain rfl := Table.eq_of_key_eq hd' hmem hid.symm
        rw [hactive] at hrevoked
        cases hrevoked
      | some id =>
        have hkept := hss.bound (by rw [hdevice]; nofun)
        rw [hbound, hdevice] at hkept
        obtain rfl := Option.some.inj hkept
        rcases hdevices.origin d' hd' with ⟨d, hd, hid, hdd⟩ | ⟨⟨hactive, -⟩, -⟩
        · by_cases hbefore : d.status = .revoked
          · have hended := hI.closed s hs d hd (by rw [hdevice, hid]) hbefore
            rw [hss.revoked hended]
            exact hended
          · refine hss.loses d'.id hdevice ?_
            by_contra hnot
            rw [hid] at hnot
            exact hbefore ((hdd.status hnot).symm.trans hrevoked)
        · rw [hactive] at hrevoked
          cases hrevoked
    · rw [hnone] at hbound
      cases hbound

theorem oneDevice_of_run (h : (authentication env).Run trace w) : OneDevice w.db := by
  refine h.stateInvariant (I := fun w => OneDevice w.db) (fun s hinit => ?_)
    fun s a s' hI hs => hI.step hs
  rw [hinit.1]
  exact ⟨nofun, nofun⟩

/-! ## Bindings over steps -/

/-- A session stays bound to its device. -/
theorem bound_of_steps (h : (authentication env).Steps t later w) {s : Session} {d : Uuid}
    (hs : s ∈ t.db.sessions) (hd : s.deviceId = some d) :
    ∃ s' ∈ w.db.sessions, s'.id = s.id ∧ s'.deviceId = some d := by
  induction h with
  | refl => exact ⟨s, hs, rfl, hd⟩
  | step hsteps hstep ih =>
    obtain ⟨s', hs', hid, hd'⟩ := ih
    obtain ⟨s'', hs'', hid', hss⟩ := (sessionsEvolve_step hstep).kept s' hs'
    exact ⟨s'', hs'', hid'.trans hid, (hss.bound (by rw [hd']; nofun)).trans hd'⟩

/-- A device that is revoked stays so. -/
theorem revokedDevice_of_steps (h : (authentication env).Steps t later w) {d : Device}
    (hd : d ∈ t.db.devices) (hrevoked : d.status = .revoked) :
    ∃ d' ∈ w.db.devices, d'.id = d.id ∧ d'.status = .revoked := by
  induction h with
  | refl => exact ⟨d, hd, rfl, hrevoked⟩
  | step hsteps hstep ih =>
    obtain ⟨d', hd', hid, hstatus⟩ := ih
    obtain ⟨d'', hd'', hid', hdd⟩ := (devicesEvolve_step hstep).kept d' hd'
    exact ⟨d'', hd'', hid'.trans hid, hdd.revoked hstatus⟩

/-- Where a device is revoked, a session that is bound to it later was bound before. -/
theorem bound_before_of_steps (h : (authentication env).Steps t later w) {d : Device}
    (hd : d ∈ t.db.devices) (hrevoked : d.status = .revoked) {s : Session}
    (hs : s ∈ w.db.sessions) (hbound : s.deviceId = some d.id) :
    ∃ s₀ ∈ t.db.sessions, s₀.id = s.id ∧ s₀.deviceId = some d.id := by
  induction h generalizing s with
  | refl => exact ⟨s, hs, rfl, hbound⟩
  | step hsteps hstep ih =>
    obtain ⟨d', hd', hid, hstatus⟩ := revokedDevice_of_steps (hsteps.step hstep) hd hrevoked
    rcases (sessionsEvolve_step hstep).origin s hs with ⟨s₁, hs₁, hsid, hss⟩ | ⟨⟨-, hnone, -⟩, -⟩
    · cases hdevice : s₁.deviceId with
      | none =>
        obtain ⟨-, device, hmem, hdid, -, hactive⟩ := hss.binds d.id hdevice hbound
        obtain rfl := Table.eq_of_key_eq hd' hmem (hid.trans hdid.symm)
        rw [hactive] at hstatus
        cases hstatus
      | some other =>
        have hkept := hss.bound (by rw [hdevice]; nofun)
        rw [hbound, hdevice] at hkept
        obtain ⟨s₀, hs₀, hid₀, hbound₀⟩ := ih hs₁ (hdevice.trans hkept.symm)
        exact ⟨s₀, hs₀, hid₀.trans hsid.symm, hbound₀⟩
    · rw [hnone] at hbound
      cases hbound

/-- The device of a revocation is there, and revoked from then on. -/
theorem device_of_revocation (h : Step env w event w') {deviceId : Uuid}
    (hevent : event.revokesDevice deviceId) :
    ∃ d ∈ w'.db.devices, d.id = deviceId ∧ d.status = .revoked := by
  have hdevices := devicesEvolve_step h
  cases h with
  | @served request db hrun =>
    cases request with
    | revokeDevice userId id =>
      obtain rfl : id = deviceId := hevent
      obtain ⟨⟨device, hfound, -, -⟩, -⟩ := revokeDevice_eq_ok hrun
      obtain ⟨hmem, rfl⟩ := Table.find?_eq_some.mp hfound
      obtain ⟨d, hd, hid, hstep⟩ := hdevices.kept device hmem
      exact ⟨d, hd, hid, hstep.revokes rfl⟩
    | _ => exact hevent.elim
  | _ => exact hevent.elim

/-! ## Every run -/

/-- A step of a run, with what follows it. -/
structure StepOf (env : Env) (trace : List Event) (w : World) (later : List Event) (event : Event)
    (earlier : List Event) (t t' : World) : Prop where
  trace : trace = later ++ event :: earlier
  run : (authentication env).Run earlier t
  step : Step env t event t'
  steps : (authentication env).Steps t' later w

/-- What a run shows of the devices and the sessions bound to them. -/
structure BindingSound (env : Env) (trace : List Event) (w : World) : Prop where
  /-- At most one device is ever made for an account. -/
  unique : ∀ d ∈ w.db.devices, ∀ d' ∈ w.db.devices, d.userId = d'.userId → d = d'
  kept : ∀ {later event earlier t t'}, StepOf env trace w later event earlier t t' →
    ∀ d ∈ t'.db.devices, ∃ d' ∈ w.db.devices, d'.id = d.id ∧ d'.userId = d.userId
  /-- A session's device, once set, never changes. -/
  stable : ∀ {later event earlier t t'}, StepOf env trace w later event earlier t t' →
    ∀ s ∈ t'.db.sessions, ∀ d, s.deviceId = some d →
      ∃ s' ∈ w.db.sessions, s'.id = s.id ∧ s'.deviceId = some d
  /-- A session becomes bound to an active device of its own account, by the binding secret
  of the device or by the registration that makes it. -/
  binds : ∀ {later event earlier t t'}, StepOf env trace w later event earlier t t' →
    ∀ s ∈ t.db.sessions, ∀ s' ∈ t'.db.sessions, s'.id = s.id → s.deviceId = none →
      ∀ d, s'.deviceId = some d → BoundBy env t.db s d event ∧ ∃ device ∈ t'.db.devices,
        device.id = d ∧ device.userId = s.userId ∧ device.status = .active
  /-- A session begins without a device. -/
  begins : ∀ {later event earlier t t'}, StepOf env trace w later event earlier t t' →
    ∀ s' ∈ t'.db.sessions, (∀ s ∈ t.db.sessions, s.id ≠ s'.id) → s'.deviceId = none
  /-- After a revocation no open session is bound to the device, and no session was bound to
  it since. -/
  revoked : ∀ {later userId d earlier t t'},
    StepOf env trace w later (.served (.revokeDevice userId d)) earlier t t' →
    ∀ s ∈ w.db.sessions, s.deviceId = some d → s.revokedAt ≠ none ∧
      ∃ s₀ ∈ t'.db.sessions, s₀.id = s.id ∧ s₀.deviceId = some d
  /-- A call that fails changes nothing. -/
  refused : ∀ {later request error earlier t t'},
    StepOf env trace w later (.refused request error) earlier t t' → t' = t

/-- A device stays. -/
theorem device_of_steps (h : (authentication env).Steps t later w) {d : Device}
    (hd : d ∈ t.db.devices) : ∃ d' ∈ w.db.devices, d'.id = d.id ∧ d'.userId = d.userId := by
  induction h with
  | refl => exact ⟨d, hd, rfl, rfl⟩
  | step hsteps hstep ih =>
    obtain ⟨d', hd', hid, hown⟩ := ih
    obtain ⟨d'', hd'', hid', hdd⟩ := (devicesEvolve_step hstep).kept d' hd'
    exact ⟨d'', hd'', hid'.trans hid, hdd.userId.trans hown⟩

/-- **One device for an account, one binding for a session.** In every run of the legacy
registration, the Matrix registration, the bindings and the revocations, over all the
sessions of all accounts. -/
theorem device_binding_sound (h : (authentication env).Run trace w) :
    BindingSound env trace w := by
  have hone := oneDevice_of_run h
  refine ⟨hone.unique, fun hstep d hd => device_of_steps hstep.steps hd,
    fun hstep s hs d hd => bound_of_steps hstep.steps hs hd,
    fun hstep s hs s' hs' hid hnone d hd => ?_, fun hstep s' hs' hnew => ?_,
    fun hstep s hs hbound => ?_, fun hstep => ?_⟩
  · exact ((sessionsEvolve_step hstep.step).kept_of_key hs hs' hid).binds d hnone hd
  · rcases (sessionsEvolve_step hstep.step).origin s' hs' with ⟨s, hs, hid, -⟩ | ⟨⟨-, hnone, -⟩, -⟩
    · exact absurd hid.symm (hnew s hs)
    · exact hnone
  · obtain ⟨d, hd, rfl, hrevoked⟩ := device_of_revocation hstep.step rfl
    obtain ⟨d', hd', hid, hstill⟩ := revokedDevice_of_steps hstep.steps hd hrevoked
    exact ⟨hone.closed s hs d' hd' (by rw [hbound, hid]) hstill,
      bound_before_of_steps hstep.steps hd hrevoked hs hbound⟩
  · cases hstep.step with
    | refused => rfl

/-- Two sessions are bound to the device of the cashier, by its registration and by its
secret, and end when it is revoked. -/
theorem device_binding_sound_revoked :
    ∃ trace w, w.db.sessions.count (fun s => s.deviceId.isSome && s.revokedAt.isSome) = 2 ∧
      BindingSound Scene.env trace w := by
  obtain ⟨trace, w, hrun, hcheck⟩ := Machine.exists_run_of_perform
    (M := authentication Scene.env) Command.exec_step Scene.start_initial
    (Scene.registers ++ Scene.attempts ++ Scene.recovers ++ Scene.binds)
    (fun _ w => w.db.sessions.count (fun s => s.deviceId.isSome && s.revokedAt.isSome) == 2)
    (by decide +kernel)
  exact ⟨trace, w, beq_iff_eq.mp hcheck, device_binding_sound hrun⟩

end Auth

end SinoChat
