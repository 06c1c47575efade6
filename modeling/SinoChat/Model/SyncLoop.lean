import SinoChat.Model.WebTransport

/-!
# The sync loop of the web client

`runMatrixSyncLoop` of `matrixSessionLifecycle.ts`, one turn at a time. A
turn ends with the next one, after a pause or after the stored position is
cleared, or it ends the loop. What the loop takes for an unknown position is
a parameter; the loop's own is `isUnknownPosition`.
-/

namespace SinoChat

open Js

/-- The variables of the loop. -/
structure LoopState where
  retryDelayMs : ℕ
  unknownPositionRecovered : Bool
  deriving DecidableEq

/-- The first delay, and no retry yet. -/
def LoopState.initial : LoopState := ⟨500, false⟩

/-- `isApiErrorLike`: the code is a text or absent. -/
def ApiError.isApiErrorLike (error : ApiError) : Bool :=
  error.code.all fun code => code.str?.isSome

/-- The code `M_UNKNOWN_POS`. -/
def isUnknownPosition : ClientError → Bool
  | .api error =>
    error.isApiErrorLike && error.code.bind Json.str? == some (js "M_UNKNOWN_POS")
  | _ => false

/-- `isTransientNetworkError`. -/
def isTransientNetworkError : ClientError → Bool
  | .api error => error.isApiErrorLike && (error.status == 0 || 500 ≤ error.status)
  | _ => false

/-- The loop was told to stop. -/
def isAbortError : ClientError → Bool
  | .abort => true
  | _ => false

/-- How a turn of the loop ends. -/
inductive LoopNext where
  | again (state : LoopState)
  /-- After a pause. -/
  | after (delayMs : ℕ) (state : LoopState)
  /-- With the stored position cleared. -/
  | cleared (state : LoopState)
  | returned
  | threw (error : ClientError)

/-- The `catch` of a turn; `aborted` is `signal.aborted`. -/
def catchSyncError (recognises : ClientError → Bool) (aborted : Bool) (state : LoopState)
    (error : ClientError) : LoopNext :=
  if isAbortError error || aborted then .returned
  else if recognises error && !state.unknownPositionRecovered then
    .cleared { state with unknownPositionRecovered := true }
  else if !isTransientNetworkError error then .threw error
  else .after state.retryDelayMs { state with retryDelayMs := min (state.retryDelayMs * 2) 30000 }

/-- **One turn of `runMatrixSyncLoop`**: the outcome of the sync and, behind
a sync that succeeded, of the consumer. -/
def syncTurn (recognises : ClientError → Bool) (aborted : Bool) (state : LoopState)
    (synced consumed : Except ClientError Unit) : LoopNext :=
  match synced with
  | .error error => catchSyncError recognises aborted state error
  | .ok _ =>
    match consumed with
    | .error error => catchSyncError recognises aborted LoopState.initial error
    | .ok _ => .again LoopState.initial

end SinoChat
