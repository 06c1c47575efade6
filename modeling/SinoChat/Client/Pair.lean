import SinoChat.Client.Language
import SinoChat.Model.SyncLoop

/-!
# The client and the service

The sync loop of one device and the service, as one machine. The client
loads its position, asks, reads the reply, gives it to the crypto machine,
saves the new position and sends what is left to send; it may crash before
each of these, and each may fail. A request may be lost, come late or come
several times, and so may a reply; the client reads a reply only to the
request it waits for. Everything the service does for others happens in
between.

What the client was given is recorded, each time with the sync the reply is
of, of which the client sees the JSON only.
-/

namespace SinoChat

open Js

/-- What a client takes for a token, and for an unknown position. -/
structure ClientConfig where
  acceptsToken : JsString → Bool
  recognises : ClientError → Bool

/-- A response the crypto machine was given, with the sync that made it. -/
structure Given where
  parsed : ParsedSyncResponse
  result : SyncResult

/-- How far a client is in a sync. -/
inductive ClientPhase where
  | idle
  /-- It waits for the reply to a request. -/
  | waiting (request : ℕ)
  /-- It has a response to give to the crypto machine. -/
  | received (given : Given)
  /-- It has to save the position of the response it gave. -/
  | processed (given : Given)
  /-- It has requests to flush. -/
  | saved
  /-- The loop has ended. -/
  | stopped

/-- The client: its stored position and the variables of the running loop.
Of what it was given the latest comes first. -/
structure Client where
  stored : Option JsString
  phase : ClientPhase
  loop : LoopState
  given : List Given

/-- The two parties, and what is on its way between them: requests, syncs
the service began for a request, and replies. -/
structure Pair where
  world : World
  client : Client
  nextRequest : ℕ
  requests : List (ℕ × Option JsString)
  calls : List (ℕ × SyncCall)
  replies : List (ℕ × Except HttpException SyncResult)

/-- A step of the two, by who takes it. -/
inductive PairAction where
  /-- A step of the service, for this device or others. -/
  | server (a : Action)
  /-- A reply that is not a step of the service: the sync was refused as it began. -/
  | refused
  | requested
  | received
  | gave (given : Given)
  | saved
  | finished
  | crashed
  | failed
  /-- The client drops its stored position. -/
  | cleared

/-- The device a step of the service syncs. -/
def Action.syncs : Action → Option Uuid
  | .syncBegan call => some call.deviceId
  | .synced call _ => some call.deviceId
  | .syncFailed call _ => some call.deviceId
  | _ => none

/-- The HTTP reply of the service. -/
def replyOf : Except HttpException SyncResult → HttpReply
  | .ok result => syncReply result.response.toJson
  | .error error => error.reply

/-- The client in the middle of something that can fail. -/
def ClientPhase.busy : ClientPhase → Prop
  | .idle | .stopped => False
  | _ => True

/-- An error may come from where the client is: while it waits, from a reply
of the service to its request or from one that is not the service's, which
it does not take for an unknown position; otherwise from anywhere. -/
def Pair.mayFail (config : ClientConfig) (s : Pair) (error : ClientError) : Prop :=
  match s.client.phase with
  | .waiting request =>
    (∃ reply, (request, reply) ∈ s.replies ∧
      receiveReply config.acceptsToken (replyOf reply) = .error error) ∨
    config.recognises error = false
  | phase => phase.busy

variable {env : Deployment} {config : ClientConfig} {principal : SessionPrincipal}

/-- **The steps of the client and the service.** -/
inductive PairStep (env : Deployment) (config : ClientConfig) (principal : SessionPrincipal) :
    Pair → PairAction → Pair → Prop
  /-- The service works for others. -/
  | other {s : Pair} {a : Action} {w' : World} :
      ServiceStep env s.world a w' → (∀ device ∈ a.syncs, principal.deviceId ≠ some device) →
      PairStep env config principal s (.server a) { s with world := w' }
  /-- The client sends a request from the position it has. -/
  | request {s : Pair} {since : Option JsString} :
      s.client.phase = .idle →
      loadPosition config.acceptsToken s.client.stored = (s.client.stored, .ok since) →
      PairStep env config principal s .requested
        { s with
          client := { s.client with phase := .waiting s.nextRequest }
          nextRequest := s.nextRequest + 1
          requests := (s.nextRequest, since) :: s.requests }
  /-- The client does not take the position it has for a token. -/
  | drop {s : Pair} {stored : Option JsString} {code : ErrorCode} :
      s.client.phase = .idle →
      loadPosition config.acceptsToken s.client.stored = (stored, .error code) →
      PairStep env config principal s .cleared
        { s with client := { s.client with stored, phase := .stopped } }
  /-- A request reaches the service. -/
  | begin {s : Pair} {request : ℕ} {since : Option JsString} {rawTimeout : Option Json}
      {call : SyncCall} :
      (request, since) ∈ s.requests →
      beginSync principal (since.map .str) rawTimeout s.world.db = .ok call →
      PairStep env config principal s (.server (.syncBegan call))
        { s with
          world := { s.world with calls := call :: s.world.calls }
          calls := (request, call) :: s.calls }
  | refuse {s : Pair} {request : ℕ} {since : Option JsString} {rawTimeout : Option Json}
      {error : HttpException} :
      (request, since) ∈ s.requests →
      beginSync principal (since.map .str) rawTimeout s.world.db = .error error →
      PairStep env config principal s .refused
        { s with replies := (request, .error error) :: s.replies }
  /-- The service answers. -/
  | answer {s : Pair} {request : ℕ} {call : SyncCall} {result : SyncResult} {w' : World} :
      (request, call) ∈ s.calls → ServiceStep env s.world (.synced call result) w' →
      PairStep env config principal s (.server (.synced call result))
        { s with
          world := w'
          replies := (request, .ok result) :: s.replies }
  | answerFailed {s : Pair} {request : ℕ} {call : SyncCall} {error : HttpException} {w' : World} :
      (request, call) ∈ s.calls → ServiceStep env s.world (.syncFailed call error) w' →
      PairStep env config principal s (.server (.syncFailed call error))
        { s with
          world := w'
          replies := (request, .error error) :: s.replies }
  /-- The client reads the reply to its request. -/
  | receive {s : Pair} {request : ℕ} {result : SyncResult} {parsed : ParsedSyncResponse} :
      s.client.phase = .waiting request → (request, .ok result) ∈ s.replies →
      receiveReply config.acceptsToken (replyOf (.ok result)) = .ok parsed →
      PairStep env config principal s .received
        { s with client := { s.client with phase := .received ⟨parsed, result⟩ } }
  /-- `receiveSyncChanges`. -/
  | give {s : Pair} {given : Given} :
      s.client.phase = .received given →
      PairStep env config principal s (.gave given)
        { s with client := { s.client with
          phase := .processed given
          given := given :: s.client.given } }
  | save {s : Pair} {given : Given} {stored : Option JsString} :
      s.client.phase = .processed given →
      savePosition config.acceptsToken given.parsed.nextBatch = .ok stored →
      PairStep env config principal s .saved
        { s with client := { s.client with stored, phase := .saved } }
  /-- The requests are flushed and the loop goes on. -/
  | finish {s : Pair} :
      s.client.phase = .saved →
      PairStep env config principal s .finished
        { s with client := { s.client with phase := .idle, loop := LoopState.initial } }
  /-- The client starts again, with what it has stored. -/
  | crash {s : Pair} :
      PairStep env config principal s .crashed
        { s with client := { s.client with phase := .idle, loop := LoopState.initial } }
  /-- Something failed and the loop tries again, or ends. -/
  | retry {s : Pair} {error : ClientError} {aborted : Bool} {delayMs : ℕ} {loop : LoopState} :
      s.mayFail config error →
      catchSyncError config.recognises aborted s.client.loop error = .after delayMs loop →
      PairStep env config principal s .failed
        { s with client := { s.client with phase := .idle, loop } }
  | stop {s : Pair} {error : ClientError} {aborted : Bool} :
      s.mayFail config error →
      (catchSyncError config.recognises aborted s.client.loop error = .returned ∨
        catchSyncError config.recognises aborted s.client.loop error = .threw error) →
      PairStep env config principal s .failed
        { s with client := { s.client with phase := .stopped } }
  /-- The loop takes the error for an unknown position. -/
  | clear {s : Pair} {error : ClientError} {aborted : Bool} {loop : LoopState} :
      s.mayFail config error →
      catchSyncError config.recognises aborted s.client.loop error = .cleared loop →
      PairStep env config principal s .cleared
        { s with client := { s.client with stored := none, phase := .idle, loop } }

/-- Nothing has happened: the service is at its start and the client has no position. -/
structure Pair.Initial (s : Pair) : Prop where
  world : SinoChat.Initial s.world
  client : s.client = ⟨none, .idle, LoopState.initial, []⟩
  requests : s.requests = []
  calls : s.calls = []
  replies : s.replies = []

/-- **The client of a device and the service.** -/
def pair (env : Deployment) (config : ClientConfig) (principal : SessionPrincipal) :
    Machine Pair PairAction where
  init := Pair.Initial
  step := PairStep env config principal

/-- The step of the service behind a step of the two. -/
def PairAction.server? : PairAction → Option Action
  | .server a => some a
  | _ => none

/-- The steps of the service in a run of the two. -/
def serverTrace (trace : List PairAction) : List Action := trace.filterMap PairAction.server?

/-- A step of the two is a step of the service, or none of it. -/
theorem PairStep.server {s s' : Pair} {a : PairAction} (h : PairStep env config principal s a s') :
    match a.server? with
    | some b => (service env).step s.world b s'.world
    | none => s'.world = s.world := by
  cases h with
  | other hstep => exact hstep
  | begin hrequest hbegin => exact ServiceStep.syncBegin hbegin
  | answer hcall hstep => exact hstep
  | answerFailed hcall hstep => exact hstep
  | request | drop | refuse | receive | give | save | finish | crash | retry | stop | clear => rfl

/-- **The service runs as it does on its own.** -/
theorem pair_server {trace : List PairAction} {s : Pair}
    (h : (pair env config principal).Run trace s) :
    (service env).Run (serverTrace trace) s.world := by
  refine h.map Pair.world PairAction.server? ?_ ?_
  · intro s (hinit : s.Initial)
    exact hinit.world
  · intro s a s' (hstep : PairStep env config principal s a s')
    have hserver := hstep.server
    cases hb : a.server? <;> rw [hb] at hserver <;> exact hserver

end SinoChat
