import SinoChat.Model.AuthRuns

/-!
# The activity of an administrator

`refreshAdminSessionActivity`, for any number of requests that present the
same session token at the same time. A request reads the row of the session,
reads the clock of the database, updates the row where it is still valid, and
otherwise looks whether another request was faster; a session that it finds
invalid it revokes, with the reason. Other requests may come between any two
of these statements.
-/

namespace SinoChat

open Js

namespace Auth

namespace Activity

/-- Why a session is revoked. -/
inductive Reason where
  | absoluteTimeout
  | invalidated
  | invalidActivityClock
  | idleTimeout
  | validationFailed
  deriving DecidableEq

/-- `revocationReason`. -/
def Reason.text : Reason → String
  | absoluteTimeout => "ADMIN_SESSION_ABSOLUTE_TIMEOUT"
  | invalidated => "ADMIN_SESSION_INVALIDATED"
  | invalidActivityClock => "ADMIN_SESSION_INVALID_ACTIVITY_CLOCK"
  | idleTimeout => "ADMIN_SESSION_IDLE_TIMEOUT"
  | validationFailed => "ADMIN_SESSION_VALIDATION_FAILED"

/-- A request by its next statement. -/
inductive Call where
  /-- It read the rows of the session. -/
  | lookedUp (rows : Lookup)
  /-- It read the clock, and the rows passed the checks. -/
  | timed (rows : Lookup) (now : ℕ)
  /-- Its update found no row. -/
  | notRefreshed (rows : Lookup) (now : ℕ)
  /-- It is to revoke the session. -/
  | refused (rows : Lookup) (now : ℕ) (reason : Reason)
  | accepted
  | rejected
  deriving DecidableEq

/-- The clock, the rows, and the requests in the order they came. -/
structure World where
  now : ℕ
  db : Db
  calls : List Call

/-- A request goes on, with what it wrote. -/
def World.goesOn (w : World) (n : ℕ) (call : Call) (db : Db) : World :=
  { w with db, calls := w.calls.set n call }

/-- The steps, a request by its number. -/
inductive Event where
  | tick (now : ℕ)
  | lookedUp (call : ℕ)
  | timed (call : ℕ)
  | refreshed (call : ℕ)
  | notRefreshed (call : ℕ)
  | refreshedConcurrently (call : ℕ)
  | lost (call : ℕ)
  /-- The session is revoked, by the clock the request has read; its row at that moment. -/
  | revoked (call : ℕ) (clock : ℕ) (reason : Reason) (session : Session)

variable (env : Env) (tokenHash : JsString)

/-- The checks between the reading of the clock and the update. -/
def verdict (rows : Lookup) (now : ℕ) : Call :=
  if rows.invalid now then
    .refused rows now
      (if rows.session.expiresAt ≤ now then .absoluteTimeout else .invalidated)
  else if now < rows.session.lastSeenAt then .refused rows now .invalidActivityClock
  else if rows.session.lastSeenAt + env.adminSessionIdleTimeout ≤ now then
    .refused rows now .idleTimeout
  else .timed rows now

/-- What one request, or the clock, does next. -/
inductive Step : World → Event → World → Prop
  | tick {w : World} {now : ℕ} (hnow : w.now ≤ now) : Step w (.tick now) { w with now }
  | lookedUp {w : World} {rows : Lookup} (hread : w.db.findSession tokenHash = some rows)
      (hrole : rows.user.role = .admin) :
      Step w (.lookedUp w.calls.length) { w with calls := w.calls ++ [.lookedUp rows] }
  | timed {w : World} {n : ℕ} {rows : Lookup} (hcall : w.calls[n]? = some (.lookedUp rows)) :
      Step w (.timed n) (w.goesOn n (verdict env rows w.now) w.db)
  | refreshed {w : World} {n : ℕ} {rows : Lookup} {now : ℕ} {db : Db}
      (hcall : w.calls[n]? = some (.timed rows now))
      (hrun : refreshAdminSession env w.db rows now = some db) :
      Step w (.refreshed n) (w.goesOn n .accepted db)
  | notRefreshed {w : World} {n : ℕ} {rows : Lookup} {now : ℕ}
      (hcall : w.calls[n]? = some (.timed rows now))
      (hrun : refreshAdminSession env w.db rows now = none) :
      Step w (.notRefreshed n) (w.goesOn n (.notRefreshed rows now) w.db)
  | refreshedConcurrently {w : World} {n : ℕ} {rows : Lookup} {now : ℕ}
      (hcall : w.calls[n]? = some (.notRefreshed rows now))
      (hrun : Auth.refreshedConcurrently w.db rows now) :
      Step w (.refreshedConcurrently n) (w.goesOn n .accepted w.db)
  | lost {w : World} {n : ℕ} {rows : Lookup} {now : ℕ}
      (hcall : w.calls[n]? = some (.notRefreshed rows now))
      (hrun : ¬ Auth.refreshedConcurrently w.db rows now) :
      Step w (.lost n) (w.goesOn n (.refused rows now .validationFailed) w.db)
  | revoked {w : World} {n : ℕ} {rows : Lookup} {now : ℕ} {reason : Reason} {session : Session}
      (hcall : w.calls[n]? = some (.refused rows now reason))
      (hsession : w.db.sessions.find? rows.session.id = some session) :
      Step w (.revoked n now reason session)
        (w.goesOn n .rejected (revokeInvalidAdminSession w.db rows.session.id now))

/-- The token belongs to a valid session of an administrator. -/
structure Started (w : World) : Prop where
  session : ∃ rows, w.db.findSession tokenHash = some rows ∧ rows.user.role = .admin ∧
    rows.invalid w.now = false ∧ rows.session.lastSeenAt ≤ w.now
  calls : w.calls = []

/-- The requests that present one token. -/
def activity : Machine World Event where
  init := Started tokenHash
  step := Step env tokenHash

/-! ## Requests among all others -/

/-- A request as the authentication service keeps it. -/
def Call.toAuth (token : JsString) : Call → Auth.Call
  | lookedUp rows => .lookedUp token rows
  | timed rows now => .lookupTimed token rows now
  | notRefreshed rows now => .notRefreshed token rows now
  | refused rows now _ => .lookupRefused rows.session.id now
  | accepted => .answered
  | rejected => .answered

/-- The same rows and requests for the authentication service. -/
def World.toAuth (token : JsString) (w : World) : Auth.World :=
  ⟨w.now, w.db, w.calls.map (Call.toAuth token)⟩

end Activity

end Auth

end SinoChat
