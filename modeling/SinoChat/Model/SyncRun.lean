import SinoChat.Common.Run
import SinoChat.Model.Coordinator
import SinoChat.Model.SyncLoop

/-!
# Runs of the sync loop

`runMatrixSyncLoop` of `matrixSessionLifecycle.ts` over the coordinator: a turn
syncs, passes the result to the consumer, releases the control events and, where
one of the first two failed, decides how to go on (`SyncLoop`).

Between two turns the page goes on with other things; what these may change is a
relation of the run.
-/

namespace SinoChat

open Js

/-- The variables a turn leaves to the next one, where there is one. -/
def LoopNext.state? : LoopNext → Option LoopState
  | .again state => some state
  | .after _ state => some state
  | .cleared state => some state
  | .returned => none
  | .threw _ => none

namespace Transport

namespace MatrixTransportCoordinator

/-- What the caller of the loop does with a page. -/
abbrev MatrixControlEventConsumer (σ : Type) := MatrixSyncResult → Client σ Unit

/-- How long a sync waits for events. -/
def syncTimeoutMs : ℕ := 30000

section

variable {σ : Type} (C : MatrixTransportCoordinator σ)

/-- The consumer and, however it ends, the release of the events. -/
def consumeResult (consume : Option (MatrixControlEventConsumer σ)) (result : MatrixSyncResult) :
    Client σ Unit := fun s =>
  let (consumed, t) := (consume.elim (pure ()) fun f => f result : Client σ Unit) s
  (consumed, C.freeEvents result.processedControlEvents t)

/-- What the `catch` of a turn does with the position; an error of it ends the loop. -/
def clearSyncPosition (next : LoopNext) (s : σ) : LoopNext × σ :=
  match next with
  | .cleared state =>
    match C.tokenStore.clear C.matrixDeviceId s with
    | (.ok _, t) => (.again state, t)
    | (.error error, t) => (.threw error, t)
  | next => (next, s)

/-- **One turn**: how the sync ended, and how the loop goes on. -/
def loopTurn (consume : Option (MatrixControlEventConsumer σ)) (aborted : Bool)
    (state : LoopState) (s : σ) : Except ClientError MatrixSyncResult × LoopNext × σ :=
  match C.performSync syncTimeoutMs s with
  | (.error error, t) =>
    (.error error, C.clearSyncPosition
      (syncTurn isUnknownPosition aborted state (.error error) (.ok ())) t)
  | (.ok result, t) =>
    let (consumed, u) := C.consumeResult consume result t
    (.ok result, C.clearSyncPosition
      (syncTurn isUnknownPosition aborted state (.ok ()) consumed) u)

variable {C} {consume : Option (MatrixControlEventConsumer σ)} {aborted : Bool}
  {state : LoopState} {s t : σ}

theorem loopTurn_of_error {error : ClientError}
    (h : C.performSync syncTimeoutMs s = (.error error, t)) :
    C.loopTurn consume aborted state s = (.error error, C.clearSyncPosition
      (syncTurn isUnknownPosition aborted state (.error error) (.ok ())) t) := by
  rw [loopTurn, h]

theorem loopTurn_of_ok {result : MatrixSyncResult}
    (h : C.performSync syncTimeoutMs s = (.ok result, t)) :
    C.loopTurn consume aborted state s = (.ok result, C.clearSyncPosition
      (syncTurn isUnknownPosition aborted state (.ok ()) (C.consumeResult consume result t).1)
      (C.consumeResult consume result t).2) := by
  rw [loopTurn, h]

/-- A relation that clearing the position respects, the end of a turn respects. -/
theorem clearSyncPosition_rel {R : σ → σ → Prop} (hrefl : ∀ s, R s s)
    (hclear : (C.tokenStore.clear C.matrixDeviceId).Respects R) (next : LoopNext) (s : σ) :
    R s (C.clearSyncPosition next s).2 := by
  cases next with
  | cleared state =>
    rcases hc : C.tokenStore.clear C.matrixDeviceId s with ⟨error | u, t⟩
    · simp only [clearSyncPosition, hc]
      exact hclear s _ t hc
    · simp only [clearSyncPosition, hc]
      exact hclear s _ t hc
  | again state => exact hrefl s
  | after delayMs state => exact hrefl s
  | returned => exact hrefl s
  | threw error => exact hrefl s

end

/-- A run of the loop: what is outside of it, and its variables as long as it goes on. -/
structure LoopRun (σ : Type) where
  outside : σ
  loop : Option LoopState

/-- What happened in a run. -/
inductive LoopLabel (σ : Type) where
  /-- A turn, with what was outside before and behind it and how its sync ended. -/
  | turned (before after : σ) (synced : Except ClientError MatrixSyncResult)
  | stopped
  | elsewhere

/-- **The steps of a run.** The signal may be raised at any time: in a turn, where the `catch`
reads it, and between turns. -/
inductive LoopStep {σ : Type} (C : MatrixTransportCoordinator σ)
    (consume : Option (MatrixControlEventConsumer σ)) (env : σ → σ → Prop) :
    LoopRun σ → LoopLabel σ → LoopRun σ → Prop where
  | turn {s t : σ} {state : LoopState} {aborted : Bool} {next : LoopNext}
      {synced : Except ClientError MatrixSyncResult} :
      C.loopTurn consume aborted state s = (synced, next, t) →
      LoopStep C consume env ⟨s, some state⟩ (.turned s t synced) ⟨t, next.state?⟩
  | stop {s : σ} {state : LoopState} :
      LoopStep C consume env ⟨s, some state⟩ .stopped ⟨s, none⟩
  | elsewhere {s t : σ} {loop : Option LoopState} : env s t →
      LoopStep C consume env ⟨s, loop⟩ .elsewhere ⟨t, loop⟩

/-- The loop, started in a state. -/
def syncLoop {σ : Type} (C : MatrixTransportCoordinator σ)
    (consume : Option (MatrixControlEventConsumer σ)) (env : σ → σ → Prop) (start : σ → Prop) :
    Machine (LoopRun σ) (LoopLabel σ) where
  init w := start w.outside ∧ w.loop = some LoopState.initial
  step := LoopStep C consume env

end MatrixTransportCoordinator

end Transport

end SinoChat
