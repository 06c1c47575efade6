import SinoChat.Auth.Accepted
import SinoChat.Model.AdminActivity

/-!
# What the requests on one session do to it

All that the requests of `Model/AdminActivity.lean` change is when the session
was last seen and whether it is revoked (`dbAt`). In these two values the
statements of a request are simple conditions (`refreshAdminSession_dbAt` and
the lemmas beside it), from which the invariant of a run follows (`Inv`): the
session is seen later and later, and a request holds an older reading of it.

A request that reads the row, and then the clock, judges the session by a row
that another request may have refreshed meanwhile. It revokes it all the same
(`revoked_though_seen`). Where no idle revocation is of a row refreshed since
it was read (`UpToDate`), a session that is revoked for idleness was idle
(`activity_is_kept`).
-/

namespace Table

/-- A table is its rows. -/
theorem eq_of_rows {κ α : Type*} {key : α → κ} {s t : Table κ α key} (h : s.rows = t.rows) :
    s = t := by
  cases s
  cases t
  cases h
  rfl

end Table

namespace SinoChat

open Js

namespace Auth

namespace Activity

variable {env : Env} {tokenHash : JsString}

/-! ## The session in two values -/

/-- The row of a session, seen and revoked at other times. -/
def seenAt (seen : ℕ) (revoked : Option ℕ) (session : Session) : Session :=
  { session with lastSeenAt := seen, revokedAt := revoked }

theorem id_seenAt (seen : ℕ) (revoked : Option ℕ) (session : Session) :
    (seenAt seen revoked session).id = session.id := rfl

@[simp] theorem lastSeenAt_seenAt (seen : ℕ) (revoked : Option ℕ) (session : Session) :
    (seenAt seen revoked session).lastSeenAt = seen := rfl

/-- The rows of a session with its row at other times. -/
def rowsAt (base : Lookup) (seen : ℕ) (revoked : Option ℕ) : Lookup :=
  { base with session := seenAt seen revoked base.session }

/-- The database with the row of a session at other times. -/
def dbAt (db : Db) (base : Lookup) (seen : ℕ) (revoked : Option ℕ) : Db :=
  { db with sessions := db.sessions.update base.session.id (seenAt seen revoked) (id_seenAt _ _) }

/-- What the rows of a valid session of an administrator are. -/
structure Base (tokenHash : JsString) (db : Db) (base : Lookup) (now : ℕ) : Prop where
  found : db.findSession tokenHash = some base
  role : base.user.role = .admin
  valid : base.invalid now = false

section Rows

variable {db : Db} {base : Lookup} {now₀ : ℕ}

theorem Base.find? (h : Base tokenHash db base now₀) :
    db.sessions.find? base.session.id = some base.session := by
  obtain ⟨hmem, -, -, -⟩ := findSession_eq_some h.found
  exact Table.find?_eq_some.mpr ⟨hmem, rfl⟩

/-- The row of the session at other times. -/
theorem find?_dbAt (h : Base tokenHash db base now₀) (seen : ℕ) (revoked : Option ℕ) :
    (dbAt db base seen revoked).sessions.find? base.session.id =
      some (seenAt seen revoked base.session) := by
  have hupdate : (db.sessions.update base.session.id (seenAt seen revoked) (id_seenAt _ _)).find?
      base.session.id = some (seenAt seen revoked base.session) := by
    rw [Table.find?_update, if_pos rfl, h.find?]
    rfl
  exact hupdate

/-- The row as it was. -/
theorem dbAt_self (h : Base tokenHash db base now₀) :
    dbAt db base base.session.lastSeenAt base.session.revokedAt = db := by
  have hsessions : (db.sessions.update base.session.id
      (seenAt base.session.lastSeenAt base.session.revokedAt) (id_seenAt _ _)) = db.sessions := by
    refine Table.modify_eq_self fun session hsession => ?_
    split_ifs with hid
    · obtain ⟨hmem, -⟩ := Table.find?_eq_some.mp h.find?
      obtain rfl := Table.eq_of_key_eq hsession hmem hid
      rfl
    · rfl
  unfold dbAt
  rw [hsessions]

/-- What a lookup by the token reads. -/
theorem findSession_dbAt (h : Base tokenHash db base now₀) (seen : ℕ) (revoked : Option ℕ) :
    (dbAt db base seen revoked).findSession tokenHash = some (rowsAt base seen revoked) := by
  have hfound := h.found
  simp only [Db.findSession, Option.bind_eq_bind, Option.bind_eq_some_iff, Option.pure_def,
    Option.some.injEq] at hfound
  obtain ⟨session, hsession, user, huser, rfl⟩ := hfound
  have hrow : (dbAt db ⟨session, user, session.deviceId.bind db.devices.find?⟩ seen
      revoked).sessions.rows.find? (fun s => s.tokenHash = tokenHash) =
        some (seenAt seen revoked session) := by
    have hkeeps : ∀ s : Session, (if s.id = session.id then seenAt seen revoked s else s).tokenHash =
        s.tokenHash := by
      intro s
      split_ifs <;> rfl
    simp only [dbAt, Table.update, Table.rows_modify, List.find?_map, Function.comp_def, hkeeps,
      hsession, Option.map_some, if_true]
  simp only [Db.findSession, hrow, Option.bind_eq_bind, Option.bind_some]
  have huser' : (dbAt db ⟨session, user, session.deviceId.bind db.devices.find?⟩ seen
      revoked).users.find? (seenAt seen revoked session).userId = some user := huser
  rw [huser']
  rfl

/-- When the rows of the session are invalid. -/
theorem invalid_rowsAt (h : Base tokenHash db base now₀) (seen : ℕ) (revoked : Option ℕ) (now : ℕ) :
    (rowsAt base seen revoked).invalid now =
      (revoked.isSome || decide (base.session.expiresAt ≤ now)) := by
  have hvalid := h.valid
  simp only [Lookup.invalid, Bool.or_eq_false_iff] at hvalid
  obtain ⟨⟨⟨⟨⟨-, -⟩, hversion⟩, hreset⟩, havailable⟩, hdevice⟩ := hvalid
  simp only [Lookup.invalid, rowsAt, seenAt, hversion, hreset, havailable, Bool.or_false]
  rw [hdevice, Bool.or_false]
  rfl

/-- When the row of the session is the one an update asks for. -/
theorem validSession_dbAt (h : Base tokenHash db base now₀) (seen seen' : ℕ)
    (revoked revoked' : Option ℕ) (now : ℕ) :
    (dbAt db base seen revoked).validSession (rowsAt base seen' revoked') now
        (seenAt seen revoked base.session) =
      (revoked == none && decide (now < base.session.expiresAt)) := by
  have hvalid := h.valid
  simp only [Lookup.invalid, Bool.or_eq_false_iff] at hvalid
  obtain ⟨⟨⟨⟨⟨-, -⟩, hversion⟩, hreset⟩, havailable⟩, hdevice⟩ := hvalid
  obtain ⟨-, -, huser, hdevices⟩ := findSession_eq_some h.found
  have huser' : (dbAt db base seen revoked).users.find? (seenAt seen revoked base.session).userId =
      some base.user := huser
  simp only [bne_eq_false_iff_eq] at hversion
  simp only [Bool.not_eq_false'] at havailable
  unfold Db.validSession
  rw [huser']
  cases hid : base.session.deviceId with
  | none =>
    simp [rowsAt, seenAt, hid, hversion, hreset, havailable, h.role]
  | some deviceId =>
    simp only [hid, Option.isSome_some, Bool.true_and, Bool.not_eq_false', hdevices,
      Option.bind_some] at hdevice
    have hdevice' : ((dbAt db base seen revoked).devices.find? deviceId).any (fun d =>
        d.userId == base.session.userId && d.status == .active) = true := hdevice
    simp [rowsAt, seenAt, hid, hversion, hreset, havailable, h.role, hdevice']

/-- The update of a request. -/
theorem refreshAdminSession_dbAt (h : Base tokenHash db base now₀) (seen seen' : ℕ)
    (revoked revoked' : Option ℕ) (now : ℕ) :
    refreshAdminSession env (dbAt db base seen revoked) (rowsAt base seen' revoked') now =
      if revoked = none ∧ now < base.session.expiresAt ∧
          now < seen + env.adminSessionIdleTimeout ∧ seen ≤ now then
        some (dbAt db base now revoked)
      else none := by
  have hagain : (dbAt db base seen revoked).sessions.update base.session.id
      (fun s => { s with lastSeenAt := now }) (fun _ => rfl) =
        (dbAt db base now revoked).sessions := by
    refine Table.eq_of_rows ?_
    simp only [dbAt, Table.update, Table.rows_modify, List.map_map]
    refine List.map_congr_left fun session _ => ?_
    by_cases hid : session.id = base.session.id
    · simp [hid, seenAt]
    · simp [hid]
  have hfind : (dbAt db base seen revoked).sessions.find? (rowsAt base seen' revoked').session.id =
      some (seenAt seen revoked base.session) := find?_dbAt h seen revoked
  have hcondition : ((dbAt db base seen revoked).validSession (rowsAt base seen' revoked') now
        (seenAt seen revoked base.session) &&
      decide (now < (seenAt seen revoked base.session).lastSeenAt + env.adminSessionIdleTimeout) &&
      decide ((seenAt seen revoked base.session).lastSeenAt ≤ now)) = true ↔
        revoked = none ∧ now < base.session.expiresAt ∧
          now < seen + env.adminSessionIdleTimeout ∧ seen ≤ now := by
    rw [validSession_dbAt h]
    simp only [Bool.and_eq_true, beq_iff_eq, decide_eq_true_eq, and_assoc]
    exact Iff.rfl
  unfold refreshAdminSession
  rw [hfind]
  dsimp only
  by_cases hmay : revoked = none ∧ now < base.session.expiresAt ∧
      now < seen + env.adminSessionIdleTimeout ∧ seen ≤ now
  · rw [if_pos (hcondition.mpr hmay), if_pos hmay]
    exact congrArg (fun sessions => some { dbAt db base seen revoked with sessions }) hagain
  · rw [if_neg (mt hcondition.mp hmay), if_neg hmay]

/-- Whether another request was faster. -/
theorem refreshedConcurrently_dbAt (h : Base tokenHash db base now₀) (seen seen' : ℕ)
    (revoked revoked' : Option ℕ) (now : ℕ) :
    refreshedConcurrently (dbAt db base seen revoked) (rowsAt base seen' revoked') now = true ↔
      revoked = none ∧ now < base.session.expiresAt ∧ now < seen := by
  have hfind : (dbAt db base seen revoked).sessions.find? (rowsAt base seen' revoked').session.id =
      some (seenAt seen revoked base.session) := find?_dbAt h seen revoked
  unfold refreshedConcurrently
  rw [hfind, Option.any_some, validSession_dbAt h]
  simp only [Bool.and_eq_true, beq_iff_eq, decide_eq_true_eq, and_assoc]
  rw [lastSeenAt_seenAt]

/-- The revocation of a request: the first one counts. -/
theorem revokeInvalidAdminSession_dbAt (seen : ℕ) (revoked : Option ℕ) (now : ℕ) :
    revokeInvalidAdminSession (dbAt db base seen revoked) base.session.id now =
      dbAt db base seen (revoked.or (some now)) := by
  have hsessions : (revokeInvalidAdminSession (dbAt db base seen revoked) base.session.id
      now).sessions = (dbAt db base seen (revoked.or (some now))).sessions := by
    refine Table.eq_of_rows ?_
    simp only [revokeInvalidAdminSession, revokeSessions, dbAt, Table.update, Table.rows_modify,
      List.map_map]
    refine List.map_congr_left fun session _ => ?_
    by_cases hid : session.id = base.session.id
    · cases revoked <;> simp [hid, seenAt]
    · simp [hid]
  unfold revokeInvalidAdminSession revokeSessions at hsessions ⊢
  dsimp only at hsessions
  rw [hsessions]
  rfl

end Rows

/-! ## The invariant -/

/-- What a request holds, of a session last seen at `seen`: an older reading
of the row, and with it the reason for what it goes on to do. -/
def CallOk (env : Env) (base : Lookup) (seen : ℕ) (revoked : Option ℕ) (clock : ℕ) : Call → Prop
  | .lookedUp rows => ∃ seen' revoked', rows = rowsAt base seen' revoked' ∧ seen' ≤ seen ∧
      (revoked'.isSome → revoked.isSome)
  | .timed rows now => ∃ seen', rows = rowsAt base seen' none ∧ seen' ≤ seen ∧ seen' ≤ now ∧
      now < seen' + env.adminSessionIdleTimeout ∧ now < base.session.expiresAt ∧ now ≤ clock
  | .notRefreshed rows now => ∃ seen', rows = rowsAt base seen' none ∧
      now < base.session.expiresAt ∧ now ≤ clock ∧ (revoked.isSome ∨ now < seen)
  | .refused rows now reason => ∃ seen' revoked', rows = rowsAt base seen' revoked' ∧ now ≤ clock ∧
      (reason = .idleTimeout → seen' + env.adminSessionIdleTimeout ≤ now) ∧
      (reason = .absoluteTimeout → base.session.expiresAt ≤ now) ∧
      reason ≠ .invalidActivityClock ∧
      (reason = .invalidated ∨ reason = .validationFailed → revoked.isSome)
  | .accepted => True
  | .rejected => True

theorem CallOk.mono {base : Lookup} {seen seen₁ clock clock₁ : ℕ} {revoked revoked₁ : Option ℕ}
    {call : Call} (h : CallOk env base seen revoked clock call) (hseen : seen ≤ seen₁)
    (hrevoked : revoked.isSome → revoked₁.isSome) (hclock : clock ≤ clock₁) :
    CallOk env base seen₁ revoked₁ clock₁ call := by
  cases call with
  | lookedUp rows =>
    obtain ⟨seen', revoked', hrows, hle, hold⟩ := h
    exact ⟨seen', revoked', hrows, hle.trans hseen, fun hsome => hrevoked (hold hsome)⟩
  | timed rows now =>
    obtain ⟨seen', hrows, hle, hnow, hidle, hexpires, hpast⟩ := h
    exact ⟨seen', hrows, hle.trans hseen, hnow, hidle, hexpires, hpast.trans hclock⟩
  | notRefreshed rows now =>
    obtain ⟨seen', hrows, hexpires, hpast, hcase⟩ := h
    refine ⟨seen', hrows, hexpires, hpast.trans hclock, ?_⟩
    rcases hcase with hsome | hlt
    · exact .inl (hrevoked hsome)
    · exact .inr (hlt.trans_le hseen)
  | refused rows now reason =>
    obtain ⟨seen', revoked', hrows, hpast, hidle, hexpires, hclockReason, hinvalid⟩ := h
    exact ⟨seen', revoked', hrows, hpast.trans hclock, hidle, hexpires, hclockReason,
      fun hreason => hrevoked (hinvalid hreason)⟩
  | accepted => trivial
  | rejected => trivial

/-- **The invariant**: the database is the first one with the session last
seen at some earlier time, and what every request holds agrees with it. -/
structure Holds (env : Env) (db : Db) (base : Lookup) (w : World) (seen : ℕ)
    (revoked : Option ℕ) : Prop where
  db : w.db = dbAt db base seen revoked
  clock : seen ≤ w.now
  calls : ∀ call ∈ w.calls, CallOk env base seen revoked w.now call

/-- What justifies an event: an idle session is revoked for idleness, an
expired one for its age, and for another reason only one that is revoked. -/
def Justified (env : Env) : Event → Prop
  | .revoked _ clock .idleTimeout session =>
    session.lastSeenAt + env.adminSessionIdleTimeout ≤ clock
  | .revoked _ clock .absoluteTimeout session => session.expiresAt ≤ clock
  | .revoked _ _ .invalidActivityClock _ => False
  | .revoked _ _ .invalidated session => session.revokedAt.isSome
  | .revoked _ _ .validationFailed session => session.revokedAt.isSome
  | _ => True

/-- No session is revoked for idleness by a row of it that was refreshed
since it was read. -/
def UpToDate (w : World) : Event → Prop
  | .revoked n _ .idleTimeout session => ∀ rows now,
    w.calls[n]? = some (.refused rows now .idleTimeout) →
      session.lastSeenAt = rows.session.lastSeenAt
  | _ => True

section Steps

variable {db : Db} {base : Lookup} {now₀ : ℕ}

/-- One request goes on, and nothing else changes. -/
theorem Holds.goesOn {w : World} {seen seen' : ℕ} {revoked revoked' : Option ℕ} {n : ℕ} {call : Call}
    {db' : Db} (h : Holds env db base w seen revoked) (hdb : db' = dbAt db base seen' revoked')
    (hseen : seen ≤ seen') (hclock : seen' ≤ w.now) (hrevoked : revoked.isSome → revoked'.isSome)
    (hcall : CallOk env base seen' revoked' w.now call) :
    Holds env db base (w.goesOn n call db') seen' revoked' where
  db := hdb
  clock := hclock
  calls := by
    intro other hother
    rcases List.mem_or_eq_of_mem_set hother with hmem | rfl
    · exact (h.calls other hmem).mono hseen hrevoked le_rfl
    · exact hcall

/-- What the checks make of an older reading. -/
theorem verdict_ok (h : Base tokenHash db base now₀) {seen seen' clock : ℕ}
    {revoked revoked' : Option ℕ} (hseen : seen' ≤ seen) (hclock : seen ≤ clock)
    (hrevoked : revoked'.isSome → revoked.isSome) :
    CallOk env base seen revoked clock (verdict env (rowsAt base seen' revoked') clock) := by
  unfold verdict
  rw [invalid_rowsAt h]
  have hlast : (rowsAt base seen' revoked').session.lastSeenAt = seen' := rfl
  have hexpiry : (rowsAt base seen' revoked').session.expiresAt = base.session.expiresAt := rfl
  rw [hlast, hexpiry]
  split_ifs with hinvalid hexpired hahead hidle
  · exact ⟨seen', revoked', rfl, le_rfl, by simp, fun _ => hexpired, by simp, by simp⟩
  · have hsome : revoked'.isSome = true := by simpa [hexpired] using hinvalid
    exact ⟨seen', revoked', rfl, le_rfl, by simp, by simp, by simp, fun _ => hrevoked hsome⟩
  · omega
  · exact ⟨seen', revoked', rfl, le_rfl, fun _ => hidle, by simp, by simp, by simp⟩
  · have hnone : revoked' = none := by
      cases revoked' with
      | none => rfl
      | some _ => simp at hinvalid
    have hexpires : clock < base.session.expiresAt := by
      simp [hnone] at hinvalid
      exact hinvalid
    subst hnone
    exact ⟨seen', rfl, hseen, by omega, by omega, hexpires, le_rfl⟩

/-- **What a step does**: the session is seen no earlier than before, and
what the step does is justified where it is up to date. -/
theorem Step.holds (hbase : Base tokenHash db base now₀) {w w' : World} {a : Event} {seen : ℕ}
    {revoked : Option ℕ} (h : Holds env db base w seen revoked) (hstep : Step env tokenHash w a w') :
    ∃ seen' revoked', Holds env db base w' seen' revoked' ∧ seen ≤ seen' ∧
      (UpToDate w a → Justified env a) := by
  cases hstep with
  | tick hnow =>
    refine ⟨seen, revoked, ⟨h.db, h.clock.trans hnow, ?_⟩, le_rfl, fun _ => trivial⟩
    exact fun call hcall => (h.calls call hcall).mono le_rfl id hnow
  | lookedUp hread hrole =>
    refine ⟨seen, revoked, ⟨h.db, h.clock, ?_⟩, le_rfl, fun _ => trivial⟩
    intro call hcall
    rcases List.mem_append.mp hcall with hold | hnew
    · exact h.calls call hold
    · rw [h.db, findSession_dbAt hbase] at hread
      obtain rfl := Option.some.inj hread
      obtain rfl := List.mem_singleton.mp hnew
      exact ⟨seen, revoked, rfl, le_rfl, id⟩
  | timed hcall =>
    obtain ⟨seen', revoked', rfl, hle, hrevoked⟩ := h.calls _ (List.mem_of_getElem? hcall)
    exact ⟨seen, revoked, h.goesOn h.db le_rfl h.clock id (verdict_ok hbase hle h.clock hrevoked),
      le_rfl, fun _ => trivial⟩
  | refreshed hcall hrun =>
    obtain ⟨seen', rfl, hle, hnow, hidle, hexpires, hpast⟩ := h.calls _ (List.mem_of_getElem? hcall)
    rw [h.db, refreshAdminSession_dbAt hbase] at hrun
    split_ifs at hrun with hmay
    exact ⟨_, revoked, h.goesOn (Option.some.inj hrun).symm hmay.2.2.2 hpast id trivial,
      hmay.2.2.2, fun _ => trivial⟩
  | notRefreshed hcall hrun =>
    obtain ⟨seen', rfl, hle, hnow, hidle, hexpires, hpast⟩ := h.calls _ (List.mem_of_getElem? hcall)
    rw [h.db, refreshAdminSession_dbAt hbase] at hrun
    split_ifs at hrun with hmay
    refine ⟨seen, revoked, h.goesOn h.db le_rfl h.clock id ⟨seen', rfl, hexpires, hpast, ?_⟩, le_rfl,
      fun _ => trivial⟩
    -- the row is newer than the reading, so only the clock can be behind it
    cases revoked with
    | some _ => exact .inl rfl
    | none => exact .inr (by by_contra hnot; exact hmay ⟨rfl, hexpires, by omega, by omega⟩)
  | refreshedConcurrently hcall hrun =>
    exact ⟨seen, revoked, h.goesOn h.db le_rfl h.clock id trivial, le_rfl, fun _ => trivial⟩
  | lost hcall hrun =>
    obtain ⟨seen', rfl, hexpires, hpast, hcase⟩ := h.calls _ (List.mem_of_getElem? hcall)
    rw [h.db, refreshedConcurrently_dbAt hbase] at hrun
    refine ⟨seen, revoked, h.goesOn h.db le_rfl h.clock id
      ⟨seen', none, rfl, hpast, by simp, by simp, by simp, fun _ => ?_⟩, le_rfl, fun _ => trivial⟩
    rcases hcase with hsome | hlt
    · exact hsome
    · cases revoked with
      | some _ => rfl
      | none => exact absurd ⟨rfl, hexpires, hlt⟩ hrun
  | @revoked n rows now reason session hcall hsession =>
    obtain ⟨seen', revoked', rfl, hpast, hidle, hexpires, hclock, hinvalid⟩ :=
      h.calls _ (List.mem_of_getElem? hcall)
    have hid : (rowsAt base seen' revoked').session.id = base.session.id := rfl
    rw [h.db, hid, find?_dbAt hbase] at hsession
    obtain rfl := Option.some.inj hsession
    refine ⟨seen, revoked.or (some now), h.goesOn ?_ le_rfl h.clock ?_ trivial, le_rfl, ?_⟩
    · rw [h.db, hid, revokeInvalidAdminSession_dbAt]
    · cases revoked <;> simp
    · intro hcurrent
      cases reason with
      | idleTimeout =>
        have hsame := hcurrent _ _ hcall
        have hseen : (seenAt seen revoked base.session).lastSeenAt = seen := rfl
        have hread : (rowsAt base seen' revoked').session.lastSeenAt = seen' := rfl
        have hpassed := hidle rfl
        show (seenAt seen revoked base.session).lastSeenAt + env.adminSessionIdleTimeout ≤ now
        omega
      | absoluteTimeout => exact hexpires rfl
      | invalidActivityClock => exact absurd rfl hclock
      | invalidated => exact hinvalid (.inl rfl)
      | validationFailed => exact hinvalid (.inr rfl)

end Steps

/-! ## Among all requests -/

/-- The verdict without its reason. -/
theorem toAuth_verdict (token : JsString) (rows : Lookup) (now : ℕ) :
    (verdict env rows now).toAuth token = lookupVerdict env token rows now := by
  unfold verdict lookupVerdict
  by_cases hinvalid : rows.invalid now = true
  · simp [hinvalid, Call.toAuth]
  by_cases hahead : now < rows.session.lastSeenAt
  · simp [hinvalid, hahead, Call.toAuth]
  by_cases hidle : rows.session.lastSeenAt + env.adminSessionIdleTimeout ≤ now
  · simp [hinvalid, hahead, hidle, Call.toAuth]
  · simp [hinvalid, hahead, hidle, Call.toAuth]

/-- **A step of a request is one of the authentication service**, whose
requests do not keep the reason. -/
theorem Step.toAuth {token : JsString} {w w' : World} {a : Event}
    (h : Step env (env.hashToken token) w a w') :
    ∃ event, Auth.Step env (w.toAuth token) event (w'.toAuth token) := by
  have hcalls : ∀ {n : ℕ} {call : Call}, w.calls[n]? = some call →
      (w.toAuth token).calls[n]? = some (call.toAuth token) := by
    intro n call hcall
    simp [World.toAuth, List.getElem?_map, hcall]
  have hgoesOn : ∀ (n : ℕ) (call : Call) (db : Db), (w.goesOn n call db).toAuth token =
      (w.toAuth token).goesOn n (call.toAuth token) db := by
    intro n call db
    simp [World.toAuth, World.goesOn, Auth.World.goesOn, List.map_set]
  cases h with
  | tick hnow => exact ⟨_, .tick hnow⟩
  | @lookedUp rows hread hrole =>
    have hstep := @Auth.Step.lookedUp env (w.toAuth token) token rows hread hrole
    have hbegins : World.toAuth token { w with calls := w.calls ++ [.lookedUp rows] } =
        (w.toAuth token).begins (.lookedUp token rows) := by
      simp [World.toAuth, Auth.World.begins, Call.toAuth]
    rw [hbegins]
    exact ⟨_, hstep⟩
  | @timed n rows hcall =>
    rw [hgoesOn, toAuth_verdict]
    exact ⟨_, .lookupTimed (hcalls hcall)⟩
  | refreshed hcall hrun =>
    rw [hgoesOn]
    exact ⟨_, .refreshed (hcalls hcall) hrun⟩
  | notRefreshed hcall hrun =>
    rw [hgoesOn]
    exact ⟨_, .notRefreshed (hcalls hcall) hrun⟩
  | refreshedConcurrently hcall hrun =>
    rw [hgoesOn]
    exact ⟨_, .refreshedConcurrently (hcalls hcall) hrun⟩
  | lost hcall hrun =>
    rw [hgoesOn]
    exact ⟨_, .lookupLost (hcalls hcall) hrun⟩
  | revoked hcall hsession =>
    rw [hgoesOn]
    exact ⟨_, .sessionInvalidated (hcalls hcall)⟩

/-! ## Over a run -/

/-- A run begins where the invariant holds. -/
theorem Started.holds {w : World} (h : Started tokenHash w) :
    ∃ base, Base tokenHash w.db base w.now ∧
      Holds env w.db base w base.session.lastSeenAt base.session.revokedAt := by
  obtain ⟨base, hfound, hrole, hvalid, hseen⟩ := h.session
  have hbase : Base tokenHash w.db base w.now := ⟨hfound, hrole, hvalid⟩
  refine ⟨base, hbase, (dbAt_self hbase).symm, hseen, ?_⟩
  rw [h.calls]
  simp

/-- The invariant of a run, with what the run has done. -/
theorem holds_of_run {trace : List Event} {w : World}
    (h : ((activity env tokenHash).guarded UpToDate).Run trace w) :
    ∃ db base now seen revoked, Base tokenHash db base now ∧ Holds env db base w seen revoked ∧
      ∀ a ∈ trace, Justified env a := by
  refine h.invariant (I := fun trace w => ∃ db base now seen revoked, Base tokenHash db base now ∧
    Holds env db base w seen revoked ∧ ∀ a ∈ trace, Justified env a) ?_ ?_
  · intro w hstarted
    obtain ⟨base, hbase, hholds⟩ := Started.holds hstarted
    exact ⟨w.db, base, w.now, _, _, hbase, hholds, by simp⟩
  · intro trace w a w' _ ih hstep
    obtain ⟨db, base, now, seen, revoked, hbase, hholds, htrace⟩ := ih
    obtain ⟨seen', revoked', hholds', -, hjustified⟩ := Step.holds hbase hholds hstep.1
    refine ⟨db, base, now, seen', revoked', hbase, hholds', ?_⟩
    intro event hevent
    rcases List.mem_cons.mp hevent with rfl | hmem
    · exact hjustified hstep.2
    · exact htrace event hmem

/-- Between two states the session is seen later and later. -/
theorem holds_of_steps {db : Db} {base : Lookup} {now : ℕ} (hbase : Base tokenHash db base now)
    {w w' : World} {later : List Event} {seen : ℕ} {revoked : Option ℕ}
    (h : Holds env db base w seen revoked) (hsteps : (activity env tokenHash).Steps w later w') :
    ∃ seen' revoked', Holds env db base w' seen' revoked' ∧ seen ≤ seen' := by
  induction hsteps with
  | refl => exact ⟨seen, revoked, h, le_rfl⟩
  | step _ hstep ih =>
    obtain ⟨seen₁, revoked₁, hholds, hle⟩ := ih
    obtain ⟨seen₂, revoked₂, hholds', hle', -⟩ := Step.holds hbase hholds hstep
    exact ⟨seen₂, revoked₂, hholds', hle.trans hle'⟩

/-- **Activity is kept.** In a run whose idle revocations are of rows that
were not refreshed since they were read, a session is revoked for idleness
only if it is idle, for its age only if it has expired, and otherwise only if
it is revoked already; and the time it was last seen at never decreases. -/
theorem activity_is_kept {trace : List Event} {w : World}
    (h : ((activity env tokenHash).guarded UpToDate).Run trace w) :
    (∀ a ∈ trace, Justified env a) ∧
    ∀ later w', (activity env tokenHash).Steps w later w' →
      ∀ rows rows', w.db.findSession tokenHash = some rows →
        w'.db.findSession tokenHash = some rows' →
        rows.session.lastSeenAt ≤ rows'.session.lastSeenAt := by
  obtain ⟨db, base, now, seen, revoked, hbase, hholds, htrace⟩ := holds_of_run h
  refine ⟨htrace, ?_⟩
  intro later w' hsteps rows rows' hrows hrows'
  obtain ⟨seen', revoked', hholds', hle⟩ := holds_of_steps hbase hholds hsteps
  rw [hholds.db, findSession_dbAt hbase] at hrows
  rw [hholds'.db, findSession_dbAt hbase] at hrows'
  obtain rfl := Option.some.inj hrows
  obtain rfl := Option.some.inj hrows'
  exact hle

/-! ## A session revoked though it was seen -/

namespace Sample

open SinoChat.Sample (uuidOf)

/-- An administrator. -/
def admin : User where
  id := uuidOf 0x0d000000000040008000000000000001
  role := .admin
  status := .active
  passwordResetRequired := false
  sessionVersion := 1
  normalizedUsername := js "root"
  passwordHash := js "$argon2id$"
  failedLoginAttempts := 0
  lockedUntil := none

/-- A session that was last seen at the start. -/
def session : Session where
  id := uuidOf 0x0d000000000040008000000000000002
  userId := admin.id
  deviceId := none
  sessionVersion := 1
  expiresAt := 43200000
  revokedAt := none
  tokenHash := js "hash"
  lastSeenAt := 0

/-- The tables with that session. -/
def db : Db :=
  { Db.empty with
    users := ⟨[admin], List.nodup_singleton _⟩
    sessions := ⟨[session], List.nodup_singleton _⟩ }

/-- An idle timeout of thirty minutes. -/
def deployment : Env where
  toLowerCase := id
  toUpperCase := id
  verify := fun _ _ => false
  hashToken := fun _ => js "hash"
  recoveryDigest := fun _ _ => []
  sessionTtl := fun _ => 43200000
  adminSessionIdleTimeout := 1800000
  hashBindingSecret := id
  deriveBindingSecret := fun _ => []

/-- What a request reads of it. -/
def rows : Lookup := ⟨session, admin, none⟩

/-- A millisecond before the session is idle. -/
def world : World := ⟨1799999, db, []⟩

theorem started : Started (js "hash") world where
  session := ⟨rows, rfl, rfl, rfl, by decide⟩
  calls := rfl

/-- The rows after a request at the start has refreshed the session. -/
def seen : Session := { session with lastSeenAt := 1799999 }

/-- Two requests read the session. The second refreshes it; then the first
reads the clock and takes the session for idle. -/
theorem run_of_two : ∃ trace w, (activity deployment (js "hash")).Run trace w ∧
    Event.revoked 0 1800000 .idleTimeout seen ∈ trace := by
  have h₁ := (Machine.Run.init started : (activity deployment (js "hash")).Run [] world).step
    (@Step.lookedUp deployment _ _ rows rfl rfl)
  have h₂ := h₁.step (@Step.lookedUp deployment _ _ rows rfl rfl)
  have h₃ := h₂.step (@Step.timed deployment (js "hash") _ 1 rows rfl)
  have h₄ := h₃.step (@Step.refreshed deployment (js "hash") _ 1 rows 1799999 _ rfl rfl)
  have h₅ := h₄.step (@Step.tick deployment (js "hash") _ 1800000 (by decide))
  have h₆ := h₅.step (@Step.timed deployment (js "hash") _ 0 rows rfl)
  have h₇ := h₆.step (@Step.revoked deployment (js "hash") _ 0 rows 1800000 .idleTimeout seen rfl rfl)
  exact ⟨_, _, h₇, List.mem_cons_self⟩

/-- **A session that was seen a millisecond ago is revoked for idleness.** -/
theorem revoked_though_seen : ∃ trace w, (activity deployment (js "hash")).Run trace w ∧
    ∃ a ∈ trace, ¬ Justified deployment a := by
  obtain ⟨trace, w, hrun, hmem⟩ := run_of_two
  have hrecent : ¬ seen.lastSeenAt + deployment.adminSessionIdleTimeout ≤ 1800000 := by decide
  exact ⟨trace, w, hrun, _, hmem, hrecent⟩

/-- A second after the session was last seen. -/
def secondLater : World := ⟨1000, db, []⟩

/-- The rows when a request has refreshed the session a second later still. -/
def refreshedRows : Lookup := ⟨{ session with lastSeenAt := 2000 }, admin, none⟩

/-- Two requests read the session. The one that reads the clock last refreshes it first, and the
other finds it refreshed; half an hour later a third one finds it idle. -/
theorem activity_is_kept_alone : ∃ trace : List Event,
    Event.refreshedConcurrently 1 ∈ trace ∧
    Event.revoked 2 1802000 .idleTimeout refreshedRows.session ∈ trace ∧
      ∀ a ∈ trace, Justified deployment a := by
  have hstarted : Started (js "hash") secondLater :=
    { session := ⟨rows, rfl, rfl, rfl, by decide⟩, calls := rfl }
  have h₁ := (Machine.Run.init hstarted :
    ((activity deployment (js "hash")).guarded UpToDate).Run [] secondLater).step
    ⟨@Step.lookedUp deployment _ _ rows rfl rfl, trivial⟩
  have h₂ := h₁.step ⟨@Step.lookedUp deployment _ _ rows rfl rfl, trivial⟩
  have h₃ := h₂.step ⟨@Step.timed deployment (js "hash") _ 1 rows rfl, trivial⟩
  have h₄ := h₃.step ⟨@Step.tick deployment (js "hash") _ 2000 (by decide), trivial⟩
  have h₅ := h₄.step ⟨@Step.timed deployment (js "hash") _ 0 rows rfl, trivial⟩
  have h₆ := h₅.step ⟨@Step.refreshed deployment (js "hash") _ 0 rows 2000 _ rfl rfl, trivial⟩
  have h₇ := h₆.step ⟨@Step.notRefreshed deployment (js "hash") _ 1 rows 1000 rfl rfl, trivial⟩
  have h₈ := h₇.step
    ⟨@Step.refreshedConcurrently deployment (js "hash") _ 1 rows 1000 rfl rfl, trivial⟩
  have h₉ := h₈.step ⟨@Step.tick deployment (js "hash") _ 1802000 (by decide), trivial⟩
  have h₁₀ := h₉.step ⟨@Step.lookedUp deployment _ _ refreshedRows rfl rfl, trivial⟩
  have h₁₁ := h₁₀.step ⟨@Step.timed deployment (js "hash") _ 2 refreshedRows rfl, trivial⟩
  have h₁₂ := h₁₁.step ⟨@Step.revoked deployment (js "hash") _ 2 refreshedRows 1802000 .idleTimeout
    refreshedRows.session rfl rfl, fun _ _ hcall => by cases hcall; rfl⟩
  exact ⟨_, by simp, List.mem_cons_self, (activity_is_kept h₁₂).1⟩

end Sample

end Activity

end Auth

end SinoChat
