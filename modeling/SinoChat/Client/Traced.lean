import SinoChat.Model.Coordinator

/-!
# The coordinator with its calls written down

`traced` is the same coordinator over a state that also holds a log. It does what
the coordinator does (`shadows_sendQueryChunks`); what is claimed about the calls of
a run is read off its log.
-/

namespace SinoChat

open Js

namespace Transport

/-- A call that is written down. -/
inductive Call where
  /-- A request for device keys with this body. -/
  | queried (body : JsonObject)
  /-- The machine gave out these events. -/
  | received (events : List ProcessedToDeviceEvent)
  /-- The position was stored. -/
  | saved (token : JsString)
  /-- The event was passed to the consumer. -/
  | consumed (event : ProcessedToDeviceEvent)
  | freed (event : ProcessedToDeviceEvent)

namespace MatrixTransportCoordinator

variable {σ : Type}

/-- The events an operation ended with. -/
def noteReceived : Except ClientError (List ProcessedToDeviceEvent) → List Call
  | .ok events => [.received events]
  | .error _ => []

/-- The token, where it was stored. -/
def noteSaved (token : JsString) : Except ClientError Unit → List Call
  | .ok _ => [.saved token]
  | .error _ => []

/-- An operation that is not written down. -/
def quiet {α : Type} (x : Client σ α) : Client (σ × List Call) α := x.noting fun _ => []

/-- **The coordinator with a log.** -/
def traced (C : MatrixTransportCoordinator σ) : MatrixTransportCoordinator (σ × List Call) where
  machine :=
    { outgoingRequests := quiet C.machine.outgoingRequests
      markRequestAsSent := fun id type response =>
        quiet (C.machine.markRequestAsSent id type response)
      receiveSyncChanges := fun events changed left counts types =>
        (C.machine.receiveSyncChanges events changed left counts types).noting noteReceived
      freeRequest := fun request p => (C.machine.freeRequest request p.1, p.2)
      freeEvent := fun event p => (C.machine.freeEvent event p.1, p.2 ++ [.freed event]) }
  matrixDeviceId := C.matrixDeviceId
  transport :=
    { uploadKeys := fun body => quiet (C.transport.uploadKeys body)
      queryKeys := fun body => (C.transport.queryKeys body).noting fun _ => [.queried body]
      claimKeys := fun requestId body => quiet (C.transport.claimKeys requestId body)
      sendToDevice := fun eventType txnId body =>
        quiet (C.transport.sendToDevice eventType txnId body)
      sync := fun since timeout => quiet (C.transport.sync since timeout) }
  tokenStore :=
    { load := fun deviceId => quiet (C.tokenStore.load deviceId)
      save := fun deviceId token =>
        (C.tokenStore.save deviceId token).noting (noteSaved token)
      clear := fun deviceId => quiet (C.tokenStore.clear deviceId) }
  round := C.round
  sha256 := C.sha256

variable {C : MatrixTransportCoordinator σ}

theorem shadows_check {α τ : Type} (x : Except ErrorCode α) :
    (check x : Client (σ × τ) α).Shadows (check x : Client σ α) :=
  Effect.shadows_lift _

theorem shadows_sendQueryChunks (timeout : JsonObject) (rest : List JsonObject)
    (merged : QueryResponse) :
    (C.traced.sendQueryChunks timeout rest merged).Shadows
      (C.sendQueryChunks timeout rest merged) := by
  induction rest generalizing merged with
  | nil => exact Effect.shadows_pure merged
  | cons chunk rest ih =>
    have hquery : ∀ body, (C.traced.transport.queryKeys body).Shadows
        (C.transport.queryKeys body) := fun body =>
      Effect.shadows_noting (fun _ => [Call.queried body]) (C.transport.queryKeys body)
    refine Effect.Shadows.bind ?_ ih
    exact (hquery _).bind fun _ => (shadows_check _).bind fun _ => (shadows_check _).bind fun _ =>
      shadows_check _

end MatrixTransportCoordinator

end Transport

end SinoChat
