import Mathlib.Logic.Relation
import SinoChat.Client.Respecting

/-!
# The flush of the outgoing requests

`Reaches` follows the queue without any limit: which requests were sent and
marked, and what is left of the last reading. The flush goes along it
(`flush_passes`) to an empty queue (`flush_of_drained`) or to the limit
(`hundred_of_limit`). It stops behind the hundredth request without another look at
the queue, so a queue that holds a hundred requests in all ends in the error of
the limit although nothing is pending. Every other total is flushed as it should
be (`flush_boundary_iff`).
-/

namespace SinoChat

open Js

namespace Transport

namespace MatrixTransportCoordinator

variable {σ : Type} {C : MatrixTransportCoordinator σ} {s : σ}

/-! ## One request -/

/-- A request that was sent, answered and marked as sent. -/
structure Committed (C : MatrixTransportCoordinator σ) (request : OutgoingRequest) (s t : σ)
    (id : JsString) (response : Json) (u : σ) : Prop where
  named : requestId request = .ok id
  sent : C.sendOutgoingRequest request s = (.ok response, u)
  marked : C.machine.markRequestAsSent id request.type (stringify response) u = (.ok true, t)

/-- A request is committed if it is sent and marked. -/
theorem commitRequestUnlocked_eq_ok {request : OutgoingRequest} {t : σ} {u : Unit} :
    C.commitRequestUnlocked request s = (.ok u, t) ↔
      ∃ id response v, Committed C request s t id response v := by
  unfold commitRequestUnlocked
  constructor
  · intro h
    obtain ⟨id, _, hid, h⟩ := Effect.bind_eq_ok.mp h
    obtain ⟨hnamed, rfl⟩ := check_eq_ok.mp hid
    obtain ⟨response, v, hsent, h⟩ := Effect.bind_eq_ok.mp h
    obtain ⟨marked, w, hmarked, h⟩ := Effect.bind_eq_ok.mp h
    obtain ⟨htrue, rfl⟩ := check_eq_ok.mp h
    obtain rfl := require_eq_ok.mp htrue
    exact ⟨id, response, v, hnamed, hsent, hmarked⟩
  · rintro ⟨id, response, v, h⟩
    refine Effect.bind_eq_ok.mpr ⟨id, s, check_eq_ok.mpr ⟨h.named, rfl⟩, ?_⟩
    refine Effect.bind_eq_ok.mpr ⟨response, v, h.sent, ?_⟩
    exact Effect.bind_eq_ok.mpr ⟨true, t, h.marked, check_eq_ok.mpr ⟨rfl, rfl⟩⟩

/-- A committed request leaves the state behind its mark. -/
theorem Committed.commits {request : OutgoingRequest} {t u : σ} {id : JsString} {response : Json}
    (h : Committed C request s t id response u) :
    C.commitRequestUnlocked request s = (.ok (), t) :=
  commitRequestUnlocked_eq_ok.mpr ⟨id, response, u, h⟩

/-! ## The queue without a limit -/

/-- **Where a flush may stand**: the requests that were committed, oldest first, and those left
of the last reading of the queue. The queue is read again when a reading is committed whole. -/
inductive Reaches (C : MatrixTransportCoordinator σ) (s : σ) :
    List OutgoingRequest → List OutgoingRequest → σ → Prop
  | start : Reaches C s [] [] s
  | reading {log rest : List OutgoingRequest} {request : OutgoingRequest} {t t' : σ} :
      Reaches C s log [] t → C.machine.outgoingRequests t = (.ok (request :: rest), t') →
      Reaches C s log (request :: rest) t'
  | commit {log rest : List OutgoingRequest} {request : OutgoingRequest} {t t' u : σ}
      {id : JsString} {response : Json} :
      Reaches C s log (request :: rest) t → Committed C request t t' id response u →
      Reaches C s (log ++ [request]) rest (C.machine.freeRequest request t')

/-- The queue was emptied by the requests of `log`. -/
def Drained (C : MatrixTransportCoordinator σ) (s : σ) (log : List OutgoingRequest) (t : σ) :
    Prop :=
  ∃ u, Reaches C s log [] u ∧ C.machine.outgoingRequests u = (.ok [], t)

/-- Behind the requests of `log` another one is really pending. -/
def Pending (C : MatrixTransportCoordinator σ) (s : σ) (log : List OutgoingRequest) : Prop :=
  ∃ request rest t, Reaches C s log (request :: rest) t

/-! There is one way along the queue. -/

/-- The next point behind one. -/
inductive Next (C : MatrixTransportCoordinator σ) :
    List OutgoingRequest × List OutgoingRequest × σ →
    List OutgoingRequest × List OutgoingRequest × σ → Prop
  | reading {log rest : List OutgoingRequest} {request : OutgoingRequest} {t t' : σ} :
      C.machine.outgoingRequests t = (.ok (request :: rest), t') →
      Next C (log, [], t) (log, request :: rest, t')
  | commit {log rest : List OutgoingRequest} {request : OutgoingRequest} {t t' u : σ}
      {id : JsString} {response : Json} : Committed C request t t' id response u →
      Next C (log, request :: rest, t) (log ++ [request], rest, C.machine.freeRequest request t')

/-- A flush goes on in one way only. -/
theorem rightUnique_next : Relator.RightUnique (Next C) := by
  intro a b c hb hc
  cases hb with
  | reading hb =>
    cases hc with
    | reading hc =>
      rw [hb] at hc
      cases hc
      rfl
  | commit hb =>
    cases hc with
    | commit hc =>
      have hsame := hb.commits
      rw [hc.commits] at hsame
      rw [(Prod.mk.inj hsame).2]

/-- What a flush reaches it reaches by steps. -/
theorem Reaches.steps {log rest : List OutgoingRequest} {t : σ} (h : Reaches C s log rest t) :
    Relation.ReflTransGen (Next C) ([], [], s) (log, rest, t) := by
  induction h with
  | start => exact .refl
  | reading _ hread ih => exact ih.tail (.reading hread)
  | commit _ hcommit ih => exact ih.tail (.commit hcommit)

/-- The log never gets shorter. -/
theorem length_le_of_steps {a b : List OutgoingRequest × List OutgoingRequest × σ}
    (h : Relation.ReflTransGen (Next C) a b) : a.1.length ≤ b.1.length := by
  induction h with
  | refl => exact le_rfl
  | tail _ hnext ih =>
    cases hnext with
    | reading => exact ih
    | commit => exact ih.trans (by simp)

/-- Where the same number of requests was sent at the end of a reading and elsewhere, the queue
was read in between. -/
theorem reading_of_pending {log log' rest : List OutgoingRequest} {request : OutgoingRequest}
    {t u : σ} (h : Reaches C s log [] t) (h' : Reaches C s log' (request :: rest) u)
    (hlength : log.length = log'.length) :
    ∃ request rest v, C.machine.outgoingRequests t = (.ok (request :: rest), v) := by
  rcases Relation.ReflTransGen.total_of_right_unique rightUnique_next h.steps h'.steps with
    hon | hback
  · rcases hon.cases_head with heq | ⟨_, hnext, -⟩
    · cases heq
    · cases hnext with
      | reading hread => exact ⟨_, _, _, hread⟩
  · rcases hback.cases_head with heq | ⟨_, hnext, hrest⟩
    · cases heq
    · cases hnext with
      | commit =>
        have hle : (log' ++ [request]).length ≤ log.length := length_le_of_steps hrest
        rw [List.length_append, List.length_singleton] at hle
        omega

/-! ## The flush along the queue -/

/-- How the flush goes on from where it stands. -/
def resume (C : MatrixTransportCoordinator σ) (turns : ℕ) (log rest : List OutgoingRequest) :
    Client σ ℕ := do
  let sent ← C.sendRound rest log.length
  C.flushRounds turns sent

theorem resume_nil {turns : ℕ} {log : List OutgoingRequest} (t : σ) :
    C.resume turns log [] t = C.flushRounds turns log.length t := rfl

/-- A request that is committed joins the log. -/
theorem resume_commit {turns : ℕ} {log rest : List OutgoingRequest} {request : OutgoingRequest}
    {t t' u : σ} {id : JsString} {response : Json} (hlog : log.length < 100)
    (h : Committed C request t t' id response u) :
    C.resume turns log (request :: rest) t =
      C.resume turns (log ++ [request]) rest (C.machine.freeRequest request t') := by
  refine Effect.bind_congr ?_
  rw [sendRound_commit hlog h.commits, List.length_append, List.length_singleton]

/-- Behind a hundred requests the flush fails. -/
theorem flushRounds_limit {turns sent : ℕ} (h : 100 ≤ sent) (t : σ) :
    C.flushRounds turns sent t = (.error limitReached, t) := by
  cases turns with
  | zero => rfl
  | succ turns =>
    rw [flushRounds, if_neg (by simpa [maxOutgoingRequestsPerFlush] using h)]
    rfl

/-- A round reads the queue and goes on with it. -/
theorem flushRounds_reading {turns : ℕ} {log requests : List OutgoingRequest} {t t' : σ}
    (hlog : log.length < 100) (h : C.machine.outgoingRequests t = (.ok requests, t')) :
    C.flushRounds (turns + 1) log.length t =
      if requests.isEmpty then (.ok log.length, t') else C.resume turns log requests t' := by
  rw [flushRounds, if_pos (by simpa [maxOutgoingRequestsPerFlush] using hlog),
    Effect.bind_of_ok h]
  cases requests <;> rfl

/-- **The flush passes every point before its hundredth request**, with turns enough for the
requests that are left. -/
theorem flush_passes {log rest : List OutgoingRequest} {t : σ} (h : Reaches C s log rest t)
    (hlog : log.length < 100) : ∃ turns, 100 ≤ turns + log.length + min 1 rest.length ∧
      C.flushOutgoingRequestsUnlocked s = C.resume turns log rest t := by
  induction h with
  | start => exact ⟨100, by simp, rfl⟩
  | @reading log rest request t t' _ hread ih =>
    obtain ⟨turns, hturns, hflush⟩ := ih hlog
    obtain ⟨turns, rfl⟩ : ∃ k, turns = k + 1 := ⟨turns - 1, by simp at hturns; omega⟩
    refine ⟨turns, by simp at hturns ⊢; omega, ?_⟩
    rw [hflush, resume_nil, flushRounds_reading hlog hread]
    rfl
  | @commit log rest request t t' u id response _ hcommit ih =>
    rw [List.length_append, List.length_singleton] at hlog
    obtain ⟨turns, hturns, hflush⟩ := ih (by omega)
    refine ⟨turns, by simp at hturns ⊢; omega, ?_⟩
    rw [hflush, resume_commit (by omega) hcommit]

/-- A queue of fewer than a hundred requests is flushed. -/
theorem flush_of_drained {log : List OutgoingRequest} {t : σ} (h : Drained C s log t)
    (hlog : log.length < 100) : C.flushOutgoingRequestsUnlocked s = (.ok log.length, t) := by
  obtain ⟨u, hreaches, hread⟩ := h
  obtain ⟨turns, hturns, hflush⟩ := flush_passes hreaches hlog
  obtain ⟨turns, rfl⟩ : ∃ k, turns = k + 1 := ⟨turns - 1, by simp at hturns; omega⟩
  rw [hflush, resume_nil, flushRounds_reading hlog hread]
  rfl

/-- **Behind the hundredth request** the flush does not look at the queue again. -/
theorem flush_of_hundred {log : List OutgoingRequest} {t : σ} (h : Reaches C s log [] t)
    (hlog : log.length = 100) : C.flushOutgoingRequestsUnlocked s = (.error limitReached, t) := by
  cases h with
  | start => cases hlog
  | @commit log _ request u u' v id response hreaches hcommit =>
    rw [List.length_append, List.length_singleton] at hlog
    obtain ⟨turns, -, hflush⟩ := flush_passes hreaches (by omega)
    rw [hflush, resume_commit (by omega) hcommit, resume_nil, flushRounds_limit]
    rw [List.length_append, List.length_singleton, hlog]

/-! ## Errors of the limit -/

/-- The code of the limit. -/
def IsLimitCode (code : ErrorCode) : Prop := code = "MATRIX_OUTGOING_REQUEST_LIMIT_REACHED"

instance : DecidablePred IsLimitCode :=
  fun code => inferInstanceAs (Decidable (code = "MATRIX_OUTGOING_REQUEST_LIMIT_REACHED"))

/-- The error is the one of the limit. -/
def IsLimit (error : ClientError) : Prop := error = limitReached

/-- **Errors of their own**: the crypto machine and the endpoints raise none of the
coordinator's. -/
structure Foreign (C : MatrixTransportCoordinator σ) : Prop where
  outgoingRequests : C.machine.outgoingRequests.Avoids IsLimit
  markRequestAsSent : ∀ id type response,
    (C.machine.markRequestAsSent id type response).Avoids IsLimit
  uploadKeys : ∀ body, (C.transport.uploadKeys body).Avoids IsLimit
  queryKeys : ∀ body, (C.transport.queryKeys body).Avoids IsLimit
  claimKeys : ∀ requestId body, (C.transport.claimKeys requestId body).Avoids IsLimit
  sendToDevice : ∀ eventType txnId body,
    (C.transport.sendToDevice eventType txnId body).Avoids IsLimit

/-- A check does not fail with the limit. -/
theorem avoids_check {α : Type} {x : Except ErrorCode α} (h : Avoids IsLimitCode x) :
    (check x : Client σ α).Avoids IsLimit := by
  refine Effect.avoids_lift fun error herror hlimit => ?_
  cases x with
  | ok a => cases herror
  | error code =>
    obtain rfl : ClientError.transport code = error := Except.error.inj herror
    exact h code rfl (ClientError.transport.inj hlimit)

theorem avoids_assertOnlyKeys {value : JsonObject} {required optional : List JsString} :
    Avoids IsLimitCode (assertOnlyKeys value required optional) :=
  avoids_require (by decide)

theorem avoids_mergeRecord (target source : JsonObject) :
    Avoids IsLimitCode (mergeRecord target source) := by
  induction source generalizing target with
  | nil => exact avoids_ok _
  | cons entry source ih => exact (avoids_require (by decide)).bind fun _ _ => ih _

theorem avoids_requestedEntries {body : JsonObject} {key : JsString} {code : ErrorCode}
    (h : ¬ IsLimitCode code) : Avoids IsLimitCode (requestedEntries body key code) :=
  avoids_assertOnlyKeys.bind fun _ _ => (avoids_orThrow h).bind fun _ _ =>
    (avoids_require h).bind fun _ _ => avoids_ok _

theorem avoids_parseQueryResponse (value : Option Json) :
    Avoids IsLimitCode (parseQueryResponse value) :=
  (avoids_orThrow (by decide)).bind fun _ _ => (avoids_orThrow (by decide)).bind fun _ _ =>
    (avoids_orThrow (by decide)).bind fun _ _ => (avoids_orThrow (by decide)).bind fun _ _ =>
    (avoids_orThrow (by decide)).bind fun _ _ => (avoids_orThrow (by decide)).bind fun _ _ =>
    avoids_ok _

theorem avoids_assertQueryResponse (response : QueryResponse) (users : List JsString) :
    Avoids IsLimitCode (assertQueryResponse response users) :=
  (avoids_require (by decide)).bind fun _ _ => (avoids_require (by decide)).bind fun _ _ =>
    (avoids_require (by decide)).bind fun _ _ => (avoids_require (by decide)).bind fun _ _ =>
    avoids_require (by decide)

theorem avoids_mergeQueryResponse (merged response : QueryResponse) :
    Avoids IsLimitCode (mergeQueryResponse merged response) :=
  (avoids_mergeRecord _ _).bind fun _ _ => (avoids_mergeRecord _ _).bind fun _ _ =>
    (avoids_mergeRecord _ _).bind fun _ _ => (avoids_mergeRecord _ _).bind fun _ _ =>
    (avoids_mergeRecord _ _).bind fun _ _ => avoids_ok _

theorem avoids_parseClaimResponse (value : Option Json) :
    Avoids IsLimitCode (parseClaimResponse value) :=
  (avoids_orThrow (by decide)).bind fun _ _ => (avoids_orThrow (by decide)).bind fun _ _ =>
    (avoids_orThrow (by decide)).bind fun _ _ => avoids_ok _

theorem avoids_mergeClaimResponse (userId : JsString) (merged response : ClaimResponse) :
    Avoids IsLimitCode (mergeClaimResponse userId merged response) :=
  (avoids_require (by decide)).bind fun _ _ => (avoids_require (by decide)).bind fun _ _ =>
    (avoids_mergeRecord _ _).bind fun _ _ => (avoids_mergeRecord _ _).bind fun _ _ => avoids_ok _

theorem avoids_parseKeysUploadResponse (value : Option Json) :
    Avoids IsLimitCode (parseKeysUploadResponse value) :=
  (avoids_orThrow (by decide)).bind fun _ _ => avoids_assertOnlyKeys.bind fun _ _ =>
    (avoids_orThrow (by decide)).bind fun _ _ => (avoids_require (by decide)).bind fun _ _ =>
    avoids_ok _

/-- Neither does a key query, in chunks or not. -/
theorem avoids_sendQueryChunks (h : C.Foreign) (timeout : JsonObject) (rest : List JsonObject)
    (merged : QueryResponse) : (C.sendQueryChunks timeout rest merged).Avoids IsLimit := by
  induction rest generalizing merged with
  | nil => exact Effect.avoids_pure merged
  | cons chunk rest ih =>
    refine Effect.Avoids.bind ?_ ih
    exact (h.queryKeys _).bind fun _ => (avoids_check (avoids_parseQueryResponse _)).bind fun _ =>
      (avoids_check (avoids_assertQueryResponse _ _)).bind fun _ =>
      avoids_check (avoids_mergeQueryResponse _ _)

/-- Neither do claims, user by user. -/
theorem avoids_sendClaimsOf (h : C.Foreign) (id : JsString) (timeout rest : JsonObject)
    (merged : ClaimResponse) : (C.sendClaimsOf id timeout rest merged).Avoids IsLimit := by
  induction rest generalizing merged with
  | nil => exact Effect.avoids_pure merged
  | cons entry rest ih =>
    refine Effect.Avoids.bind ?_ ih
    exact (h.claimKeys _ _).bind fun _ => (avoids_check (avoids_parseClaimResponse _)).bind
      fun _ => avoids_check (avoids_mergeClaimResponse _ _ _)

/-- Neither does any request. -/
theorem avoids_sendOutgoingRequest (h : C.Foreign) (request : OutgoingRequest) :
    (C.sendOutgoingRequest request).Avoids IsLimit := by
  refine (avoids_check (avoids_orThrow (by decide))).bind fun body => ?_
  have hunsupported : (Effect.fail (.transport "MATRIX_OUTGOING_REQUEST_UNSUPPORTED") :
      Client σ Json).Avoids IsLimit := by
    intro s error t hfail hlimit
    cases hfail
    exact absurd (ClientError.transport.inj hlimit) (by decide)
  cases request.type with
  | keysUpload =>
    exact (h.uploadKeys _).bind fun _ => (avoids_check (avoids_parseKeysUploadResponse _)).bind
      fun _ => Effect.avoids_pure _
  | keysQuery =>
    exact ((avoids_check (avoids_requestedEntries (by decide))).bind fun _ =>
      avoids_sendQueryChunks h _ _ _).bind fun _ => Effect.avoids_pure _
  | keysClaim =>
    exact (avoids_check (avoids_orThrow (by decide))).bind fun _ =>
      ((avoids_check (avoids_requestedEntries (by decide))).bind fun _ =>
        avoids_sendClaimsOf h _ _ _ _).bind fun _ => Effect.avoids_pure _
  | toDevice =>
    exact (avoids_check (avoids_orThrow (by decide))).bind fun _ =>
      (avoids_check (avoids_orThrow (by decide))).bind fun _ => (h.sendToDevice _ _ _).bind fun _ =>
      (avoids_check ((avoids_orThrow (by decide)).bind fun _ _ =>
        (avoids_require (by decide)).bind fun _ _ => avoids_ok _)).bind fun _ =>
      Effect.avoids_pure _
  | signatureUpload => exact hunsupported
  | roomMessage => exact hunsupported
  | keysBackup => exact hunsupported

/-- Neither does its commit. -/
theorem avoids_commitRequestUnlocked (h : C.Foreign) (request : OutgoingRequest) :
    (C.commitRequestUnlocked request).Avoids IsLimit :=
  (avoids_check (avoids_orThrow (by decide))).bind fun _ =>
    (avoids_sendOutgoingRequest h request).bind fun _ => (h.markRequestAsSent _ _ _).bind fun _ =>
    avoids_check (avoids_require (by decide))

/-! ## Where the error of the limit comes from -/

/-- A point of the queue with exactly a hundred requests sent. -/
def Hundred (C : MatrixTransportCoordinator σ) (s : σ) : Prop :=
  ∃ log rest t, Reaches C s log rest t ∧ log.length = 100

/-- A reading whose end leads to the error of the limit only over a hundred requests does so
from its start. -/
theorem hundred_of_round (h : C.Foreign) {turns : ℕ}
    (hend : ∀ log t t', Reaches C s log [] t → 100 ≤ turns + log.length → log.length ≤ 100 →
      C.flushRounds turns log.length t = (.error limitReached, t') → Hundred C s)
    {log rest : List OutgoingRequest} {t t' : σ} (hreaches : Reaches C s log rest t)
    (hturns : 100 ≤ turns + log.length + min 1 rest.length) (hlog : log.length ≤ 100)
    (hlimit : C.resume turns log rest t = (.error limitReached, t')) : Hundred C s := by
  induction rest generalizing log t with
  | nil => exact hend log t t' hreaches (by simpa using hturns) hlog (resume_nil t ▸ hlimit)
  | cons request rest ih =>
    rcases Nat.lt_or_ge log.length 100 with hless | hmore
    · rcases hcommit : C.commitRequestUnlocked request t with ⟨error | u, v⟩
      · rw [resume, Effect.bind_of_error (sendRound_error hless hcommit)] at hlimit
        exact absurd (Except.error.inj (Prod.mk.inj hlimit).1)
          (avoids_commitRequestUnlocked h request t error v hcommit)
      · obtain ⟨id, response, w, hcommitted⟩ := commitRequestUnlocked_eq_ok.mp hcommit
        rw [resume_commit hless hcommitted] at hlimit
        refine ih (hreaches.commit hcommitted) ?_ ?_ hlimit
        · rw [List.length_append, List.length_singleton]
          simp only [List.length_cons] at hturns
          omega
        · rw [List.length_append, List.length_singleton]
          omega
    · exact ⟨log, request :: rest, t, hreaches, by omega⟩

/-- **A flush fails with the limit only behind a hundred requests.** -/
theorem hundred_of_rounds (h : C.Foreign) (turns : ℕ) :
    ∀ log t t', Reaches C s log [] t → 100 ≤ turns + log.length → log.length ≤ 100 →
      C.flushRounds turns log.length t = (.error limitReached, t') → Hundred C s := by
  induction turns with
  | zero =>
    intro log t t' hreaches hturns hlog _
    exact ⟨log, [], t, hreaches, by omega⟩
  | succ turns ih =>
    intro log t t' hreaches hturns hlog hlimit
    rcases Nat.lt_or_ge log.length 100 with hless | hmore
    · rcases hread : C.machine.outgoingRequests t with ⟨error | requests, u⟩
      · rw [flushRounds, if_pos (by simpa [maxOutgoingRequestsPerFlush] using hless),
          Effect.bind_of_error hread] at hlimit
        exact absurd (Except.error.inj (Prod.mk.inj hlimit).1)
          (h.outgoingRequests t error u hread)
      · rw [flushRounds_reading hless hread] at hlimit
        cases requests with
        | nil => cases hlimit
        | cons request rest =>
          refine hundred_of_round h ih (hreaches.reading hread) ?_ hlog hlimit
          simp only [List.length_cons]
          omega
    · exact ⟨log, [], t, hreaches, by omega⟩

/-- **The error of the limit is raised only behind a hundred requests.** -/
theorem hundred_of_limit (h : C.Foreign) {t : σ}
    (hlimit : C.flushOutgoingRequestsUnlocked s = (.error limitReached, t)) : Hundred C s :=
  hundred_of_rounds h 100 [] s t .start (by simp) (by simp) hlimit

/-! ## Requests that are sent once -/

/-- Nothing marked is unmarked. -/
def MarksMore (marked : σ → Set JsString) (s t : σ) : Prop := marked s ⊆ marked t

/-- **A queue that gives up what is marked**: what it yields has ids of its own, none of them
marked as sent before; the machine marks the id of a request, and nothing takes a mark back. -/
structure MarksSent (C : MatrixTransportCoordinator σ) (marked : σ → Set JsString) : Prop extends
    Respecting C (MarksMore marked) where
  distinct : ∀ {s t requests}, C.machine.outgoingRequests s = (.ok requests, t) →
    (requests.map OutgoingRequest.id).Nodup
  unmarked : ∀ {s t requests}, C.machine.outgoingRequests s = (.ok requests, t) →
    ∀ request ∈ requests, ∀ id ∈ request.id, id ∉ marked t
  marks : ∀ {id type response s t},
    C.machine.markRequestAsSent id type response s = (.ok true, t) → id ∈ marked t

section

variable {marked : σ → Set JsString}

/-- A committed request is marked, and nothing loses its mark. -/
theorem Committed.marks {request : OutgoingRequest} {t u : σ} {id : JsString} {response : Json}
    (hcommitted : Committed C request s t id response u) (h : MarksSent C marked) :
    MarksMore marked s t ∧ request.id = some id ∧ id ∈ marked t := by
  refine ⟨?_, ?_, h.marks hcommitted.marked⟩
  · have hrefl : ∀ s, MarksMore marked s s := fun s => Set.Subset.refl (marked s)
    have htrans : ∀ s t u, MarksMore marked s t → MarksMore marked t u → MarksMore marked s u :=
      fun _ _ _ => Set.Subset.trans
    have hsent := respects_sendOutgoingRequest hrefl htrans h.toRespecting request s _ u
      hcommitted.sent
    exact hsent.trans (h.markRequestAsSent _ _ _ u _ t hcommitted.marked)
  · exact Option.eq_some_of_filter_eq_some (orThrow_eq_ok.mp hcommitted.named)

/-- What was sent and what is left of a reading are different requests, and what was sent is
marked. -/
theorem distinct_of_reaches (h : MarksSent C marked) {log rest : List OutgoingRequest} {t : σ}
    (hreaches : Reaches C s log rest t) : ((log ++ rest).map OutgoingRequest.id).Nodup ∧
      ∀ request ∈ log, ∃ id ∈ request.id, id ∈ marked t := by
  induction hreaches with
  | start => simp
  | @reading log rest request t t' _ hread ih =>
    obtain ⟨hnodup, hmarked⟩ := ih
    have hmarked' : ∀ r ∈ log, ∃ id ∈ r.id, id ∈ marked t' := by
      intro r hr
      obtain ⟨id, hid, hin⟩ := hmarked r hr
      exact ⟨id, hid, h.outgoingRequests t _ t' hread hin⟩
    rw [List.append_nil] at hnodup
    refine ⟨?_, hmarked'⟩
    rw [List.map_append, List.nodup_append]
    refine ⟨hnodup, h.distinct hread, ?_⟩
    rintro id hlog _ hnew rfl
    obtain ⟨old, hold, rfl⟩ := List.mem_map.mp hlog
    obtain ⟨new, hnew, heq⟩ := List.mem_map.mp hnew
    obtain ⟨id, hid, hin⟩ := hmarked' old hold
    exact h.unmarked hread new hnew id (heq ▸ hid) hin
  | @commit log rest request t t' u id response _ hcommit ih =>
    obtain ⟨hnodup, hmarked⟩ := ih
    obtain ⟨hmore, hid, hin⟩ := hcommit.marks h
    refine ⟨by simpa using hnodup, fun r hr => ?_⟩
    rcases List.mem_append.mp hr with hr | hr
    · obtain ⟨id', hid', hin'⟩ := hmarked r hr
      exact ⟨id', hid', h.freeRequest request t' (hmore hin')⟩
    · rw [List.mem_singleton.mp hr]
      exact ⟨id, hid, h.freeRequest request t' hin⟩

end

/-! ## The boundary -/

/-- **What the flush promises** from a state: a queue of at most a hundred requests is sent and
marked, each request once, and the flush ends with their number; the error of the limit means
that a hundred were sent and another one is pending. -/
structure FlushBoundary (C : MatrixTransportCoordinator σ) (s : σ) : Prop where
  sends : ∀ log t, Drained C s log t → log.length ≤ 100 →
    C.flushOutgoingRequestsUnlocked s = (.ok log.length, t) ∧
      (log.map OutgoingRequest.id).Nodup
  limit : ∀ t, C.flushOutgoingRequestsUnlocked s = (.error limitReached, t) →
    ∃ log, log.length = 100 ∧ Pending C s log

/-- The queue does not end at a hundred requests: where exactly so many are sent at the end of a
reading, the next reading yields a request. -/
def GoesBeyondHundred (C : MatrixTransportCoordinator σ) (s : σ) : Prop :=
  ∀ log t, Reaches C s log [] t → log.length = 100 →
    ∃ request rest u, C.machine.outgoingRequests t = (.ok (request :: rest), u)

/-- A flush with more than a hundred requests meets its limit. -/
theorem flushBoundary_of_goesBeyond {marked : σ → Set JsString} (hforeign : C.Foreign)
    (hmarks : MarksSent C marked) (h : GoesBeyondHundred C s) : FlushBoundary C s where
  sends := by
    intro log t hdrained hlog
    obtain ⟨u, hreaches, hread⟩ := hdrained
    have hless : log.length < 100 := by
      refine lt_of_le_of_ne hlog fun heq => ?_
      obtain ⟨request, rest, v, hmore⟩ := h log u hreaches heq
      rw [hread] at hmore
      cases hmore
    refine ⟨flush_of_drained ⟨u, hreaches, hread⟩ hless, ?_⟩
    simpa using (distinct_of_reaches hmarks hreaches).1
  limit := by
    intro t hlimit
    obtain ⟨log, rest, u, hreaches, hlog⟩ := hundred_of_limit hforeign hlimit
    cases rest with
    | nil =>
      obtain ⟨request, rest, v, hread⟩ := h log u hreaches hlog
      exact ⟨log, hlog, request, rest, v, hreaches.reading hread⟩
    | cons request rest => exact ⟨log, hlog, request, rest, u, hreaches⟩

/-- A flush that meets its limit had more than a hundred. -/
theorem goesBeyond_of_flushBoundary (h : FlushBoundary C s) : GoesBeyondHundred C s := by
  intro log t hreaches hlog
  have hflush := flush_of_hundred hreaches hlog
  rcases hread : C.machine.outgoingRequests t with ⟨error | requests, u⟩
  · obtain ⟨log', hlog', request, rest, v, hpending⟩ := h.limit t hflush
    obtain ⟨request, rest, w, hmore⟩ := reading_of_pending hreaches hpending (by omega)
    rw [hread] at hmore
    cases hmore
  · cases requests with
    | nil =>
      obtain ⟨hsent, -⟩ := h.sends log u ⟨t, hreaches, hread⟩ hlog.le
      rw [hflush] at hsent
      cases hsent
    | cons request rest => exact ⟨request, rest, u, rfl⟩

/-- **The flush keeps its promise on every queue but those that end at a hundred requests.** -/
theorem flush_boundary_iff {marked : σ → Set JsString} (hforeign : C.Foreign)
    (hmarks : MarksSent C marked) : FlushBoundary C s ↔ GoesBeyondHundred C s :=
  ⟨goesBeyond_of_flushBoundary, flushBoundary_of_goesBeyond hforeign hmarks⟩

/-! ## A queue of a hundred messages -/

/-- A message to devices with an id of one unit. -/
def sampleRequest (n : ℕ) : OutgoingRequest :=
  ⟨some [n.toUInt16], .toDevice, js "{}", some (js "m.room.encrypted"),
    some (js "t")⟩

/-- A machine that gives out so many messages and remembers the ids that are marked, and
endpoints that answer everything with an empty object. -/
def sample (n : ℕ) : MatrixTransportCoordinator (List JsString) where
  machine :=
    { outgoingRequests := fun s => (.ok (((List.range n).map sampleRequest).filter
        fun request => !request.id.any s.contains), s)
      markRequestAsSent := fun id _ _ s => (.ok true, id :: s)
      receiveSyncChanges := fun _ _ _ _ _ s => (.ok [], s)
      freeRequest := fun _ s => s
      freeEvent := fun _ s => s }
  matrixDeviceId := js "D"
  transport :=
    { uploadKeys := fun _ s => (.ok (some (.obj [])), s)
      queryKeys := fun _ s => (.ok (some (.obj [])), s)
      claimKeys := fun _ _ s => (.ok (some (.obj [])), s)
      sendToDevice := fun _ _ _ s => (.ok (some (.obj [])), s)
      sync := fun _ _ s => (.ok none, s) }
  tokenStore :=
    { load := fun _ s => (.ok none, s)
      save := fun _ _ s => (.ok (), s)
      clear := fun _ s => (.ok (), s) }
  round := fun _ => .negativeZero
  sha256 := id

/-- The SDK of the sample fails with no code of its own. -/
theorem sample_foreign (n : ℕ) : (sample n).Foreign where
  outgoingRequests _ _ _ h := by cases h
  markRequestAsSent _ _ _ _ _ _ h := by cases h
  uploadKeys _ _ _ _ h := by cases h
  queryKeys _ _ _ _ h := by cases h
  claimKeys _ _ _ _ _ h := by cases h
  sendToDevice _ _ _ _ _ _ h := by cases h

/-- It marks each request once. -/
theorem sample_marksSent {n : ℕ} (hn : n ≤ 65536) :
    MarksSent (sample n) fun s => {id | id ∈ s} where
  distinct := by
    intro s t requests h
    cases h
    have hids : (((List.range n).map sampleRequest).map OutgoingRequest.id).Nodup := by
      rw [List.map_map]
      refine List.nodup_range.map_on fun a ha b hb hab => ?_
      have hunit : a.toUInt16 = b.toUInt16 := by simpa [sampleRequest] using hab
      have := congrArg UInt16.toNat hunit
      rw [List.mem_range] at ha hb
      simp at this
      omega
    exact hids.sublist (List.filter_sublist.map _)
  unmarked := by
    intro s t requests h request hrequest id hid
    cases h
    have := (List.mem_filter.mp hrequest).2
    rw [Option.mem_def.mp hid] at this
    simpa using this
  marks := by
    intro id type response s t h
    cases h
    exact List.mem_cons_self
  outgoingRequests := by
    intro s y t h
    cases h
    exact subset_rfl
  markRequestAsSent := by
    intro id type response s y t h
    cases h
    exact fun id hid => List.mem_cons_of_mem _ hid
  freeRequest _ s := Set.Subset.refl {id | id ∈ s}
  uploadKeys := by
    intro body s y t h
    cases h
    exact subset_rfl
  queryKeys := by
    intro body s y t h
    cases h
    exact subset_rfl
  claimKeys := by
    intro requestId body s y t h
    cases h
    exact subset_rfl
  sendToDevice := by
    intro eventType txnId body s y t h
    cases h
    exact subset_rfl

/-- The promise holds for three messages: the flush ends with their number, so that no reading
ends at a hundred requests. -/
theorem flush_boundary_iff_three : FlushBoundary (sample 3) [] := by
  refine (flush_boundary_iff (sample_foreign 3) (sample_marksSent (by decide))).mpr
    fun log t hreaches hlog => ?_
  have hflush : ((sample 3).flushOutgoingRequestsUnlocked []).1.toOption = some 3 := by
    decide +kernel
  rw [flush_of_hundred hreaches hlog] at hflush
  cases hflush

/-- Commit requests one after the other. -/
def commitAll (C : MatrixTransportCoordinator σ) : List OutgoingRequest → σ → Option σ
  | [], s => some s
  | request :: rest, s =>
    match C.commitRequestUnlocked request s with
    | (.ok _, t) => commitAll C rest (C.machine.freeRequest request t)
    | (.error _, _) => none

/-- Committing a list one by one is reached by the flush. -/
theorem reaches_of_commitAll {log rest : List OutgoingRequest} {t u : σ}
    (h : Reaches C s log rest t) (hall : commitAll C rest t = some u) :
    Reaches C s (log ++ rest) [] u := by
  induction rest generalizing log t with
  | nil =>
    cases hall
    rwa [List.append_nil]
  | cons request rest ih =>
    rcases hcommit : C.commitRequestUnlocked request t with ⟨_ | _, v⟩
    · rw [commitAll, hcommit] at hall
      cases hall
    · obtain ⟨id, response, w, hcommitted⟩ := commitRequestUnlocked_eq_ok.mp hcommit
      rw [commitAll, hcommit] at hall
      have := ih (h.commit hcommitted) hall
      rwa [List.append_assoc] at this

/-- **A queue of a hundred messages breaks the promise**: all are sent and nothing is pending,
and the flush ends with the error of the limit. -/
theorem not_flushBoundary_hundred : ¬ FlushBoundary (sample 100) [] := by
  intro h
  have hall : (commitAll (sample 100) ((List.range 100).map sampleRequest) []).any (fun s =>
      (((List.range 100).map sampleRequest).filter
        fun request => !request.id.any s.contains).isEmpty) = true := by decide +kernel
  obtain ⟨u, hu, hempty⟩ := (Option.any_eq_true _ _).mp hall
  have hread : (sample 100).machine.outgoingRequests [] =
      (.ok ((List.range 100).map sampleRequest), []) := by
    refine congrArg (fun requests => (Except.ok requests, [])) (List.filter_eq_self.mpr ?_)
    intro request _
    cases request.id <;> rfl
  obtain ⟨first, rest, hlist⟩ : ∃ first rest,
      (List.range 100).map sampleRequest = first :: rest := ⟨_, _, rfl⟩
  have hlength : (first :: rest).length = 100 := by rw [← hlist, List.length_map, List.length_range]
  rw [hlist] at hread hu
  have hreaches := reaches_of_commitAll (Reaches.start.reading hread) hu
  rw [List.nil_append] at hreaches
  have hend : (sample 100).machine.outgoingRequests u = (.ok [], u) := by
    have := List.isEmpty_iff.mp hempty
    change (Except.ok (((List.range 100).map sampleRequest).filter _), u) = _
    rw [this]
  obtain ⟨hsent, -⟩ := h.sends _ u ⟨u, hreaches, hend⟩ hlength.le
  rw [flush_of_hundred hreaches hlength] at hsent
  cases hsent

end MatrixTransportCoordinator

end Transport

end SinoChat
