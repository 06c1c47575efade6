import SinoChat.Model.SyncLoop
import SinoChat.ToDevice.Lineage
import SinoChat.ToDevice.Script

/-!
# Recovery from an unknown position

The service refuses a position with the code `M_UNKNOWN_POS` in the member
`errcode` of the body. The client takes the code of an error from `code` or
`error`, and there it finds the text of the message. So the loop does not
recognise the refusal, and as a status of 400 is not one it retries, it ends
with the error (`unknown_position_ends_loop`).
-/

namespace SinoChat

open Js

/-! ## A refused position -/

/-- The service's reply refuses a position: as the sync begins, or under its locks. -/
inductive RefusedPosition (crypto : Crypto) (since : JsString) : HttpReply → Prop
  | atOnce {principal : SessionPrincipal} {rawTimeout : Option Json} {db : Db} :
      beginSync principal (some (.str since)) rawTimeout db = .error unknownSyncPosition →
      RefusedPosition crypto since unknownSyncPosition.reply
  | locked {call : SyncCall} {id : Uuid} {db : Db} :
      call.since = some since → sync crypto call id db = .error unknownSyncPosition →
      RefusedPosition crypto since unknownSyncPosition.reply

/-- A text that is not a token is refused. -/
theorem sync_of_malformed {crypto : Crypto} {call : SyncCall} {id : Uuid} {db : Db}
    {since : JsString} {latestSequence : ℕ} (hcontext : lockSyncContext db call = .ok latestSequence)
    (hposition : call.position = some since) (hformat : fixed tokenPattern since = false) :
    sync crypto call id db = .error unknownSyncPosition := by
  have hparse : parseMatrixSyncTokenBatchId since = .error "MATRIX_SYNC_TOKEN_FORMAT_INVALID" := by
    simp [parseMatrixSyncTokenBatchId, hformat]
  have hrequire : requireSyncBatch crypto db.queue call.deviceId since call.now =
      .error unknownSyncPosition := by
    simp [requireSyncBatch, hparse]
  unfold sync
  simp [hcontext, selectBatch, hposition, selectSuccessor, hrequire, bind, Except.bind]

/-! ## What the loop makes of it -/

/-- The outcome of the sync whose request got this reply. -/
def syncOutcome (acceptsToken : JsString → Bool) (reply : HttpReply) : Except ClientError Unit :=
  (receiveReply acceptsToken reply).map fun _ => ()

/-- The loop recovers from a reply that follows a success: it clears the
position and goes on. -/
def Recovers (acceptsToken : JsString → Bool) (reply : HttpReply) : Prop :=
  ∀ state : LoopState, state.unknownPositionRecovered = false → ∀ consumed,
    ∃ state', syncTurn isUnknownPosition false state (syncOutcome acceptsToken reply) consumed =
      .cleared state'

/-- The error the client makes of a refused position. -/
def refusedPositionError : ApiError where
  message := .str (js "No pudimos completar la solicitud.")
  status := 400
  code := some (.str (js "Token de sincronizacion invalido o vencido."))

theorem syncOutcome_refused (acceptsToken : JsString → Bool) :
    syncOutcome acceptsToken unknownSyncPosition.reply = .error (.api refusedPositionError) := by
  have hnames : js "error" ≠ js "code" ∧ js "errcode" ≠ js "code" ∧ js "error" ≠ js "message" ∧
      js "errcode" ≠ js "message" := by decide +kernel
  obtain ⟨h₁, h₂, h₃, h₄⟩ := hnames
  simp [syncOutcome, receiveReply, apiRequest, HttpException.reply, unknownSyncPosition,
    HttpException.matrixError, HttpException.status, HttpException.body, payloadCode, payloadMessage,
    readProperty, Json.get?, notNullish, truthy, refusedPositionError, Except.map, h₁, h₂, h₃, h₄]

/-- The turn of the loop that gets the refusal. -/
theorem syncTurn_refused (acceptsToken : JsString → Bool) (state : LoopState)
    (consumed : Except ClientError Unit) :
    syncTurn isUnknownPosition false state
      (syncOutcome acceptsToken unknownSyncPosition.reply) consumed =
      .threw (.api refusedPositionError) := by
  have hcode : js "Token de sincronizacion invalido o vencido." ≠ js "M_UNKNOWN_POS" := by
    decide +kernel
  rw [syncOutcome_refused]
  simp [syncTurn, catchSyncError, isAbortError, isUnknownPosition, isTransientNetworkError,
    refusedPositionError, ApiError.isApiErrorLike, Json.str?, hcode]

theorem not_recovers_refused (acceptsToken : JsString → Bool) :
    ¬ Recovers acceptsToken unknownSyncPosition.reply := by
  intro hrecovers
  obtain ⟨state', hcleared⟩ := hrecovers LoopState.initial rfl (.ok ())
  rw [syncTurn_refused] at hcleared
  cases hcleared

/-- **A refused position ends the loop**, wherever the service refuses it and
whatever the loop did before. -/
theorem unknown_position_ends_loop {crypto : Crypto} {since : JsString} {reply : HttpReply}
    (h : RefusedPosition crypto since reply) (acceptsToken : JsString → Bool) :
    ¬ Recovers acceptsToken reply ∧ ∀ state consumed,
      syncTurn isUnknownPosition false state (syncOutcome acceptsToken reply) consumed =
        .threw (.api refusedPositionError) := by
  cases h with
  | atOnce => exact ⟨not_recovers_refused _, syncTurn_refused _⟩
  | locked => exact ⟨not_recovers_refused _, syncTurn_refused _⟩

/-- The client's device, with a valid session, sends a text that is not a token. -/
theorem malformed_refused : ∃ trace w call, (service Sample.deployment).Run trace w ∧
    call ∈ w.calls ∧ call.since = some (js "sct1") ∧
    sync Sample.crypto call Sample.spareId w.db = .error unknownSyncPosition := by
  obtain ⟨trace, w, hrun, hcheck⟩ := Sample.exists_run
    [.openCursor Sample.clientDevice, .syncBegin Sample.client (some (.str (js "sct1")))]
    (fun _ w => w.calls.any fun call =>
      call.position = some (js "sct1") && (lockSyncContext w.db call).toOption.isSome)
    (by decide +kernel)
  obtain ⟨call, hcall, hcheck⟩ := List.any_eq_true.mp hcheck
  simp only [Bool.and_eq_true, decide_eq_true_eq] at hcheck
  obtain ⟨hposition, hlocked⟩ := hcheck
  refine ⟨trace, w, call, hrun, hcall, SyncCall.since_of_position hposition, ?_⟩
  cases hcontext : lockSyncContext w.db call with
  | error error =>
    rw [hcontext] at hlocked
    cases hlocked
  | ok latestSequence => exact sync_of_malformed hcontext hposition (by decide +kernel)

theorem unknown_position_ends_loop_malformed : ∃ since reply,
    RefusedPosition Sample.crypto since reply ∧ ¬ Recovers acceptsSyncToken reply := by
  obtain ⟨trace, w, call, -, -, hsince, hsync⟩ := malformed_refused
  have hrefused : RefusedPosition Sample.crypto (js "sct1") unknownSyncPosition.reply :=
    .locked hsince hsync
  exact ⟨_, _, hrefused, (unknown_position_ends_loop hrefused acceptsSyncToken).1⟩

/-- **The claim on the loop as it is**: it recovers from every refused position. -/
def PositionsRecover (env : Deployment) : Prop :=
  ∀ trace w call id since, (service env).Run trace w → call ∈ w.calls → call.since = some since →
    sync env.crypto call id w.db = .error unknownSyncPosition →
    Recovers acceptsSyncToken unknownSyncPosition.reply

/-- It does not recover from a text that is not a token. -/
theorem not_positionsRecover : ¬ PositionsRecover Sample.deployment := by
  obtain ⟨trace, w, call, hrun, hcall, hsince, hsync⟩ := malformed_refused
  exact fun hclaim => not_recovers_refused acceptsSyncToken
    (hclaim trace w call Sample.spareId (js "sct1") hrun hcall hsince hsync)

end SinoChat
