import SinoChat.Model.Coordinator

/-!
# What a flush does to the state

A flush calls the crypto machine and the endpoints and nothing else. A reflexive
and transitive relation that each of these calls respects is respected by a
request and by the flush (`respects_flush`), however they end.
-/

namespace SinoChat

open Js

namespace Transport

namespace MatrixTransportCoordinator

variable {σ : Type} {C : MatrixTransportCoordinator σ} {R : σ → σ → Prop}

/-- The calls of a flush respect a relation. -/
structure Respecting (C : MatrixTransportCoordinator σ) (R : σ → σ → Prop) : Prop where
  outgoingRequests : C.machine.outgoingRequests.Respects R
  markRequestAsSent : ∀ id type response,
    (C.machine.markRequestAsSent id type response).Respects R
  freeRequest : ∀ request s, R s (C.machine.freeRequest request s)
  uploadKeys : ∀ body, (C.transport.uploadKeys body).Respects R
  queryKeys : ∀ body, (C.transport.queryKeys body).Respects R
  claimKeys : ∀ requestId body, (C.transport.claimKeys requestId body).Respects R
  sendToDevice : ∀ eventType txnId body, (C.transport.sendToDevice eventType txnId body).Respects R

/-- A check changes nothing. -/
theorem respects_check {α : Type} (hrefl : ∀ s, R s s) (x : Except ErrorCode α) :
    (check x : Client σ α).Respects R :=
  Effect.respects_lift hrefl _

/-- Neither does a failure. -/
theorem respects_fail {α : Type} (hrefl : ∀ s, R s s) (error : ClientError) :
    (Effect.fail error : Client σ α).Respects R := by
  intro s y t h
  cases h
  exact hrefl s

variable (hrefl : ∀ s, R s s) (htrans : ∀ s t u, R s t → R t u → R s u)
include hrefl htrans

/-- A key query changes the state as the SDK's calls do. -/
theorem respects_sendQueryChunks (h : C.Respecting R) (timeout : JsonObject)
    (rest : List JsonObject) (merged : QueryResponse) :
    (C.sendQueryChunks timeout rest merged).Respects R := by
  induction rest generalizing merged with
  | nil => exact Effect.respects_pure hrefl merged
  | cons chunk rest ih =>
    refine Effect.Respects.bind htrans ?_ ih
    exact (h.queryKeys _).bind htrans fun _ => (respects_check hrefl _).bind htrans fun _ =>
      (respects_check hrefl _).bind htrans fun _ => respects_check hrefl _

/-- So do claims. -/
theorem respects_sendClaimsOf (h : C.Respecting R) (id : JsString) (timeout rest : JsonObject)
    (merged : ClaimResponse) : (C.sendClaimsOf id timeout rest merged).Respects R := by
  induction rest generalizing merged with
  | nil => exact Effect.respects_pure hrefl merged
  | cons entry rest ih =>
    refine Effect.Respects.bind htrans ?_ ih
    exact (h.claimKeys _ _).bind htrans fun _ => (respects_check hrefl _).bind htrans fun _ =>
      respects_check hrefl _

/-- So does every request. -/
theorem respects_sendOutgoingRequest (h : C.Respecting R) (request : OutgoingRequest) :
    (C.sendOutgoingRequest request).Respects R := by
  refine (respects_check hrefl _).bind htrans fun body => ?_
  have hpure : ∀ value : Json, (pure value : Client σ Json).Respects R :=
    Effect.respects_pure hrefl
  cases request.type with
  | keysUpload =>
    exact (h.uploadKeys _).bind htrans fun _ => (respects_check hrefl _).bind htrans fun _ =>
      hpure _
  | keysQuery =>
    exact ((respects_check hrefl _).bind htrans fun _ =>
      respects_sendQueryChunks hrefl htrans h _ _ _).bind htrans fun _ => hpure _
  | keysClaim =>
    exact (respects_check hrefl _).bind htrans fun _ => ((respects_check hrefl _).bind htrans
      fun _ => respects_sendClaimsOf hrefl htrans h _ _ _ _).bind htrans fun _ => hpure _
  | toDevice =>
    exact (respects_check hrefl _).bind htrans fun _ => (respects_check hrefl _).bind htrans
      fun _ => (h.sendToDevice _ _ _).bind htrans fun _ => (respects_check hrefl _).bind htrans
      fun _ => hpure _
  | signatureUpload => exact respects_fail hrefl _
  | roomMessage => exact respects_fail hrefl _
  | keysBackup => exact respects_fail hrefl _

/-- So does its commit. -/
theorem respects_commitRequestUnlocked (h : C.Respecting R) (request : OutgoingRequest) :
    (C.commitRequestUnlocked request).Respects R :=
  (respects_check hrefl _).bind htrans fun _ =>
    (respects_sendOutgoingRequest hrefl htrans h request).bind htrans fun _ =>
    (h.markRequestAsSent _ _ _).bind htrans fun _ => respects_check hrefl _

/-- So does its release. -/
theorem respects_freeRequests (h : C.Respecting R) (requests : List OutgoingRequest) (s : σ) :
    R s (C.freeRequests requests s) := by
  induction requests generalizing s with
  | nil => exact hrefl s
  | cons request rest ih => exact htrans _ _ _ (h.freeRequest request s) (ih _)

/-- So does a round of requests. -/
theorem respects_sendRound (h : C.Respecting R) (requests : List OutgoingRequest) (sent : ℕ) :
    (C.sendRound requests sent).Respects R := by
  induction requests generalizing sent with
  | nil => exact Effect.respects_pure hrefl sent
  | cons request rest ih =>
    intro s y t hround
    rcases Nat.lt_or_ge sent maxOutgoingRequestsPerFlush with hbelow | hlimit
    · rcases hcommit : C.commitRequestUnlocked request s with ⟨error | u, v⟩
      · have hfirst := respects_commitRequestUnlocked hrefl htrans h request s _ v hcommit
        rw [sendRound_error hbelow hcommit] at hround
        cases hround
        exact htrans _ _ _ hfirst (respects_freeRequests hrefl htrans h _ v)
      · have hfirst := respects_commitRequestUnlocked hrefl htrans h request s _ v hcommit
        rw [sendRound_commit hbelow hcommit] at hround
        exact htrans _ _ _ hfirst
          (htrans _ _ _ (h.freeRequest request v) (ih (sent + 1) _ y t hround))
    · rw [sendRound_limit hlimit] at hround
      cases hround
      exact respects_freeRequests hrefl htrans h _ s

/-- **A flush respects what its calls respect.** -/
theorem respects_flush (h : C.Respecting R) : C.flushOutgoingRequestsUnlocked.Respects R := by
  have hrounds : ∀ turns sent, (C.flushRounds turns sent).Respects R := by
    intro turns
    induction turns with
    | zero => exact fun _ => respects_fail hrefl _
    | succ turns ih =>
      intro sent
      unfold flushRounds
      split_ifs
      · refine Effect.Respects.bind htrans h.outgoingRequests fun requests => ?_
        split_ifs
        · exact Effect.respects_pure hrefl _
        · exact (respects_sendRound hrefl htrans h _ _).bind htrans ih
      · exact respects_fail hrefl _
  exact hrounds _ _

end MatrixTransportCoordinator

end Transport

end SinoChat
