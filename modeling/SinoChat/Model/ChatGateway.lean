import SinoChat.Common.Run
import Mathlib.Algebra.Order.Ring.Int

/-!
# The sockets of one user

`chat.gateway.ts`: `handleConnection` attaches the user to a socket, starts its two
timers and announces that the user is online; `handleDisconnect` clears the timers
and announces that the user is offline where no socket is left. The handlers run
interleaved. Each `await` is a program point, and what happens between two of them is
one step. `handleConnection` first asks the release gate of `e2ee-release.ts`, a constant
that is compiled in and that nothing else opens.

The sockets are those whose session is the user's. A disconnected socket has left its
rooms before its handler runs, and cannot join one. Several servers may serve them:
`fetchSockets` asks one after the other. A status is published when `publishPresence`
is done, whomever it reached.
-/

namespace SinoChat

namespace ChatGateway

/-! ## The release gate -/

/-- What `E2EE_RELEASE.state` can be compiled to. -/
inductive ReleaseState where
  | blocked
  | ready
  deriving DecidableEq

/-- `E2EE_RELEASE.state`. -/
def e2eeRelease : ReleaseState := .blocked

/-- `isE2eeReleased`, of the state that is compiled. -/
def isE2eeReleased (release : ReleaseState) : Bool := release = .ready

/-! ## Sockets -/

/-- The presence of a user. -/
inductive Status where
  | online
  | offline
  deriving DecidableEq

/-- The `await` at which `handleConnection` is. -/
inductive Connection where
  | limiting
  | authenticating
  | joining
  | announcing
  | finished
  deriving DecidableEq

/-- The `await` at which `handleDisconnect` is: the servers that have not answered yet, with the
sockets found on the others, or the publication. -/
inductive Disconnection where
  | idle
  | counting (asked : List ℕ) (found : ℕ)
  | publishing
  | finished
  deriving DecidableEq

/-- Who scheduled the expiry timer. -/
inductive Scheduler where
  | handleConnection
  | revalidateSession
  deriving DecidableEq

/-- A socket, and what is in progress for it. The timers are the scheduled ones:
`client.data` keeps only the last of each kind, and scheduling one clears the one before. -/
structure Socket where
  server : ℕ
  connected : Bool
  /-- `client.data.user` is set. -/
  user : Bool
  /-- The socket is in the room of the user. -/
  joined : Bool
  revalidationTimer : Bool
  expiryTimer : Option Scheduler
  /-- Calls of `revalidateSession` that wait for the session. -/
  revalidations : ℕ
  connection : Connection
  disconnection : Disconnection
  deriving DecidableEq

variable (release : ReleaseState) (servers : ℕ)

namespace Socket

/-- `client.disconnect(true)` before anything is attached: the handler of the disconnection finds
nothing. -/
def turnedAway (server : ℕ) : Socket where
  server := server
  connected := false
  user := false
  joined := false
  revalidationTimer := false
  expiryTimer := none
  revalidations := 0
  connection := .finished
  disconnection := .finished

/-- `handleConnection` up to its first `await`; `refused` for its origin or for want of a cookie. -/
def handleConnection (server : ℕ) (refused : Bool) : Socket :=
  if !isE2eeReleased release then turnedAway server
  else if refused then turnedAway server
  else
    { turnedAway server with
      connected := true
      connection := .limiting
      disconnection := .idle }

/-- `handleDisconnect` up to its first `await`. -/
def handleDisconnect (s : Socket) : Socket :=
  { s with
    revalidationTimer := false
    expiryTimer := none
    disconnection := if s.user then .counting (List.range servers) 0 else .finished }

/-- The transport closes, or `client.disconnect(true)`; the handler is called at once. -/
def disconnect (s : Socket) : Socket :=
  if s.connected then handleDisconnect servers { s with connected := false, joined := false }
  else s

/-- `handleConnection` returns after `client.disconnect(true)`, or ends in its `catch`. -/
def reject (s : Socket) : Socket := { s.disconnect servers with connection := .finished }

/-- `scheduleExpiry`. -/
def scheduleExpiry (scheduler : Scheduler) (remaining : ℤ) (s : Socket) : Socket :=
  if remaining ≤ 0 then disconnect servers { s with expiryTimer := none }
  else { s with expiryTimer := some scheduler }

/-- The rate limits have answered; where one of them fails, the `catch` does what a block does. -/
def limited (isBlocked : Bool) (s : Socket) : Socket :=
  if isBlocked then s.reject servers else { s with connection := .authenticating }

/-- `getSessionPrincipal` has answered: with the time the session has left, or with nothing where
it throws or the role or the device is refused. -/
def authenticated (principal : Option ℤ) (s : Socket) : Socket :=
  match principal with
  | none => s.reject servers
  | some remaining =>
    { { s with user := true, revalidationTimer := true }.scheduleExpiry servers
        .handleConnection remaining with
      connection := .joining }

/-- `client.join` is done. -/
def join (succeeds : Bool) (s : Socket) : Socket :=
  if succeeds then { s with joined := s.connected, connection := .announcing }
  else s.reject servers

/-- `publishPresence(user.id, "online")` is done. -/
def announced (succeeds : Bool) (s : Socket) : Socket :=
  if succeeds then { s with connection := .finished } else s.reject servers

/-- A server has answered `fetchSockets` with so many sockets. -/
def answered (server sockets : ℕ) (s : Socket) : Option Socket :=
  match s.disconnection with
  | .counting asked found =>
    if server ∈ asked then
      some { s with disconnection := .counting (asked.erase server) (found + sockets) }
    else none
  | _ => none

/-- `connectedSocketCount` is done. -/
def counted (s : Socket) : Option Socket :=
  match s.disconnection with
  | .counting [] found =>
    some { s with disconnection := if found = 0 then .publishing else .finished }
  | _ => none

/-- `handleDisconnect` waits for the count. -/
def isCounting (s : Socket) : Bool :=
  match s.disconnection with
  | .counting _ _ => true
  | _ => false

/-- `revalidateSession` has its answer: the time the session has left, or none where it throws or
is another user's. -/
def revalidated (refreshed : Option ℤ) (s : Socket) : Socket :=
  let s := { s with revalidations := s.revalidations - 1 }
  match refreshed with
  | none => s.disconnect servers
  | some remaining => s.scheduleExpiry servers .revalidateSession remaining

end Socket

/-- The sockets in the order of their connections, and the last status published. -/
structure State where
  sockets : List Socket
  published : Option Status
  deriving DecidableEq

/-- No socket, and nothing published. -/
def State.start : State := ⟨[], none⟩

/-- Change one socket. -/
def State.modify (w : State) (i : ℕ) (f : Socket → Option Socket) : Option State := do
  let s ← w.sockets[i]?
  let s' ← f s
  return { w with sockets := w.sockets.set i s' }

/-- The sockets in the room of the user on one server. -/
def State.roomSize (w : State) (server : ℕ) : ℕ :=
  w.sockets.countP fun s => s.connected && s.joined && s.server == server

/-- What can happen to the socket of an index. -/
inductive Action where
  | connect (server : ℕ) (refused : Bool)
  | close (i : ℕ)
  | limits (i : ℕ) (isBlocked : Bool)
  | principal (i : ℕ) (principal : Option ℤ)
  | join (i : ℕ) (succeeds : Bool)
  | announce (i : ℕ) (succeeds : Bool)
  | answer (i : ℕ) (server : ℕ)
  | count (i : ℕ)
  | countFails (i : ℕ)
  | retire (i : ℕ) (succeeds : Bool)
  | tick (i : ℕ)
  | expire (i : ℕ)
  | revalidate (i : ℕ) (refreshed : Option ℤ)

/-- `f` where a condition holds. -/
def when (condition : Socket → Bool) (f : Socket → Socket) (s : Socket) : Option Socket :=
  if condition s then some (f s) else none

/-- `revalidateSession` up to its `await`. -/
def Socket.revalidate (s : Socket) : Socket :=
  if s.user && s.connected then { s with revalidations := s.revalidations + 1 } else s

/-- One step of some handler, timer or connection. -/
def State.step (w : State) : Action → Option State
  | .connect server refused =>
    if server < servers then
      some { w with sockets := w.sockets ++ [.handleConnection release server refused] }
    else none
  | .close i => w.modify i (when (·.connected) (·.disconnect servers))
  | .limits i isBlocked =>
    w.modify i (when (·.connection == .limiting) (·.limited servers isBlocked))
  | .principal i principal =>
    w.modify i (when (·.connection == .authenticating) (·.authenticated servers principal))
  | .join i succeeds =>
    w.modify i (when (·.connection == .joining) (·.join servers succeeds))
  | .announce i succeeds => do
    let w ← w.modify i (when (·.connection == .announcing) (·.announced servers succeeds))
    return if succeeds then { w with published := some .online } else w
  | .answer i server => w.modify i (·.answered server (w.roomSize server))
  | .count i => w.modify i (·.counted)
  -- A rejected promise ends `handleDisconnect`, which catches nothing.
  | .countFails i => w.modify i (when (·.isCounting) ({ · with disconnection := .finished }))
  | .retire i succeeds => do
    let w ← w.modify i
      (when (·.disconnection == .publishing) ({ · with disconnection := .finished }))
    return if succeeds then { w with published := some .offline } else w
  -- The interval of the timer, or a packet.
  | .tick i => w.modify i (fun s => some s.revalidate)
  | .expire i =>
    w.modify i (when (·.expiryTimer.isSome) fun s => { s with expiryTimer := none }.revalidate)
  | .revalidate i refreshed =>
    w.modify i (when (0 < ·.revalidations) (·.revalidated servers refreshed))

/-- The handlers of the sockets of the user, with the gate that is compiled. -/
def gateway : Machine State Action where
  init w := w = .start
  step w action w' := w.step release servers action = some w'

end ChatGateway

end SinoChat
