import SinoChat.Quarantine.Calls

/-!
# Reviews, admissions and deliveries

What the three services of a verification do to the tables: a review shows a pending row or
resolves one, an admission adds one flow for a pending candidate (`OpenedBy`), and a
delivery writes nothing (`DeliveredOf`).
-/

namespace SinoChat

open Js

namespace Quarantine

open CrossSigning (MatrixCrossSigningIdentity)
open MessagePayload (matrixDeviceIdFromUuid)
open MatrixDeviceCandidatesService (endStatus)
open SasToDevice (MatrixSasToDeviceRequest parseMatrixSasToDeviceRequest Verification messagesJson
  bodyJson)

variable {env : Env} {db db' : Db} {clock : Readings} {principal : SessionPrincipal}

/-! ## Reviews -/

section Review

open MatrixDeviceCandidateReviewService

/-- The row that a review shows. -/
structure ShownOf (env : Env) (db : Db) (principal : SessionPrincipal)
    (d : MatrixCandidateReviewDetail) : Prop where
  row : ∃ c ∈ db.candidates, c.id = d.candidateId ∧ c.status = .pending ∧
    c.userId = principal.id ∧ principal.deviceId = some c.trustedDeviceId ∧
    ∃ parsed, publicSnapshot env c contextChanged = .ok parsed ∧ d = detailOf c parsed

/-- What a review leaves. -/
structure Reviewed (env : Env) (db : Db) (principal : SessionPrincipal)
    (out : Db × ReviewResult) : Prop where
  resolves : Resolves db out.1
  shown : ∀ d, out.2.candidate = some d → out.1 = db ∧ ShownOf env db principal d
  rejected : ∀ r, out.2.rejection = some r → ∃ c ∈ out.1.candidates, c.id = r.candidateId ∧
    c.status = r.state

/-- A review without candidates shows nothing. -/
theorem reviewed_empty : Reviewed env db principal (db, .empty) := ⟨.refl _, nofun, nofun⟩

/-- A rejection resolves the candidate and shows it. -/
theorem rejectIn_eq_ok {subscriptionEndsAt : Option ℕ} {row : MatrixDeviceCandidate}
    {out : Db × ReviewResult} (hrow : row ∈ db.candidates)
    (h : rejectIn clock principal subscriptionEndsAt db row = .ok out) :
    Reviewed env db principal out := by
  obtain ⟨_, -, h⟩ := bind_eq_ok.mp h
  by_cases hpending : row.status = .pending
  · rw [if_pos hpending] at h
    obtain ⟨db₁, hresolve, h⟩ := bind_eq_ok.mp h
    obtain ⟨_, -, h⟩ := bind_eq_ok.mp h
    obtain rfl := Except.ok.inj h
    refine ⟨resolves_of_resolve hresolve, nofun, fun r hr => ?_⟩
    obtain rfl := Option.some.inj hr
    exact ⟨_, mem_of_resolve (find?_of_mem hrow) hresolve, rfl, rfl⟩
  · rw [if_neg hpending] at h
    obtain ⟨_, -, h⟩ := bind_eq_ok.mp h
    obtain rfl := Except.ok.inj h
    refine ⟨.refl _, nofun, fun r hr => ?_⟩
    obtain rfl := Option.some.inj hr
    exact ⟨row, hrow, rfl, rfl⟩

/-- Keys that are read are those of the row. -/
theorem readKeys_eq_ok {row : MatrixDeviceCandidate} {requester : Option AuthSession} {now : ℕ}
    {parsed : KeyUpload.MatrixDeviceCandidate}
    (h : readKeys env row requester now = .ok (some parsed)) :
    publicSnapshot env row contextChanged = .ok parsed := by
  unfold readKeys at h
  split at h
  · obtain ⟨found, hfound, h⟩ := bind_eq_ok.mp h
    obtain rfl := Option.some.inj (Except.ok.inj h)
    exact hfound
  · cases h

/-- What is shown is a pending candidate of the user. -/
theorem showIn_eq_ok {subscriptionEndsAt : Option ℕ} {before : AuthSession}
    {row : MatrixDeviceCandidate} {out : Db × ReviewResult} (hrow : row ∈ db.candidates)
    (hpending : row.status = .pending) (huser : row.userId = principal.id)
    (hdevice : principal.deviceId = some row.trustedDeviceId)
    (h : showIn env clock principal subscriptionEndsAt before db row = .ok out) :
    Reviewed env db principal out := by
  obtain ⟨parsed, hparsed, h⟩ := bind_eq_ok.mp h
  obtain ⟨after, -, h⟩ := bind_eq_ok.mp h
  split_ifs at h with hover hlive
  · obtain ⟨db₁, hresolve, h⟩ := bind_eq_ok.mp h
    obtain ⟨_, -, h⟩ := bind_eq_ok.mp h
    obtain rfl := Except.ok.inj h
    exact ⟨resolves_of_resolve hresolve, nofun, nofun⟩
  · obtain rfl := Except.ok.inj h
    refine ⟨.refl _, fun d hd => ⟨rfl, ?_⟩, nofun⟩
    cases parsed with
    | none => cases hd
    | some parsed =>
      obtain rfl := Option.some.inj hd
      exact ⟨row, hrow, rfl, hpending, huser, hdevice, parsed, readKeys_eq_ok hparsed, rfl⟩
  · obtain rfl := Except.ok.inj h
    exact reviewed_empty

/-- **What a review does.** -/
theorem review_eq_ok {candidateId : Option Uuid} {reject : Bool} {out : Db × ReviewResult}
    (h : review env clock db principal candidateId reject = .ok out) :
    Reviewed env db principal out := by
  obtain ⟨deviceId, hreviewer, h⟩ := bind_eq_ok.mp h
  obtain ⟨subscriptionEndsAt, -, h⟩ := bind_eq_ok.mp h
  obtain ⟨identity, -, h⟩ := bind_eq_ok.mp h
  obtain ⟨_, -, h⟩ := bind_eq_ok.mp h
  obtain ⟨_, -, h⟩ := bind_eq_ok.mp h
  obtain ⟨before, -, h⟩ := bind_eq_ok.mp h
  have hdevice : principal.deviceId = some deviceId := by
    obtain ⟨_, -, hreviewer⟩ := bind_eq_ok.mp hreviewer
    exact (Option.filter_eq_some_iff.mp (orThrow_eq_ok.mp hreviewer)).1
  cases hlock : lockCandidate db principal deviceId candidateId with
  | none =>
    simp only [hlock] at h
    obtain ⟨_, -, h⟩ := bind_eq_ok.mp h
    obtain rfl := Except.ok.inj h
    exact reviewed_empty
  | some row =>
    simp only [hlock] at h
    obtain ⟨_, -, h⟩ := bind_eq_ok.mp h
    have hmem : row ∈ db.candidates := List.mem_of_find?_eq_some hlock
    have hown := List.find?_some hlock
    simp only [Bool.and_eq_true, decide_eq_true_eq] at hown
    by_cases hreject : reject = true
    · rw [if_pos hreject] at h
      exact rejectIn_eq_ok hmem h
    · rw [if_neg hreject] at h
      by_cases hpending : row.status = .pending
      · rw [if_pos hpending] at h
        exact showIn_eq_ok hmem hpending hown.1.1 (hdevice.trans (congrArg some hown.1.2.symm)) h
      · rw [if_neg hpending] at h
        obtain ⟨_, -, h⟩ := bind_eq_ok.mp h
        obtain rfl := Except.ok.inj h
        exact reviewed_empty

end Review

/-! ## Admissions -/

section Admission

open MatrixDeviceVerificationService

variable {deviceId candidateId : Uuid} {flowId transactionId : JsString} {body : Json}

/-- **The admission of a request**, for a candidate that was pending. -/
structure OpenedBy (env : Env) (backdrop : Backdrop) (principal : SessionPrincipal) (body : Json)
    (c : MatrixDeviceCandidate) (f : MatrixDeviceVerificationFlow) : Prop where
  candidateId : f.candidateId = c.id
  userId : f.userId = principal.id
  reviewerSessionId : f.reviewerSessionId = principal.sessionId
  deviceId : principal.deviceId = some c.trustedDeviceId
  matrixUserId : c.matrixUserId = matrixUserIdFromUuid principal.id env.serverName
  matrixDeviceId : c.matrixDeviceId = matrixDeviceIdFromUuid c.id
  snapshot : ∃ parsed, publicSnapshot env c conflict = .ok parsed
  request : ∃ identity request, backdrop.identities.find? principal.id = some identity ∧
    identity.matrixUserId = c.matrixUserId ∧ identity.bootstrapDeviceId = c.trustedDeviceId ∧
    identity.bootstrapSha256 = c.identityBootstrapSha256 ∧
    parseMatrixSasToDeviceRequest env.crypto Verification.request.eventType f.requestTransactionId
      body (scopeOf identity c.trustedDeviceId c f.flowId) = .ok request ∧
    f.requestContent =
      env.jsonb (contentOf request (scopeOf identity c.trustedDeviceId c f.flowId)) ∧
    f.requestSha256 = request.canonicalSha256 ∧
    timestampOf (contentOf request (scopeOf identity c.trustedDeviceId c f.flowId)) ≤
      f.createdAt + 300000 ∧
    f.expiresAt ≤
      timestampOf (contentOf request (scopeOf identity c.trustedDeviceId c f.flowId)) + 600000

/-- The request of a body, under the scope of a flow, and its digest. -/
def RequestOf (env : Env) (backdrop : Backdrop) (principal : SessionPrincipal) (body : Json)
    (c : MatrixDeviceCandidate) (f : MatrixDeviceVerificationFlow) : Prop :=
  ∃ identity request, backdrop.identities.find? principal.id = some identity ∧
    parseMatrixSasToDeviceRequest env.crypto Verification.request.eventType f.requestTransactionId
      body (scopeOf identity c.trustedDeviceId c f.flowId) = .ok request ∧
    f.requestSha256 = request.canonicalSha256

/-- **What an admission rests on.** -/
theorem admit_eq_ok {a : Admitting} (hdevice : principal.deviceId = some deviceId)
    (h : admitting env clock db principal deviceId candidateId flowId transactionId body = .ok a) :
    a.candidate ∈ db.candidates ∧ a.candidate.id = candidateId ∧
      (∀ f : MatrixDeviceVerificationFlow, f.flowId = flowId →
        f.requestTransactionId = transactionId → f.requestSha256 = a.request.canonicalSha256 →
        RequestOf env db.backdrop principal body a.candidate f) ∧
      ∀ current now, timestampOf a.content ≤ now + 300000 →
        OpenedBy env db.backdrop principal body a.candidate
          (admittedRow env principal flowId transactionId a current now) := by
  obtain ⟨subscriptionEnd, -, h⟩ := bind_eq_ok.mp h
  obtain ⟨identity, hidentity, h⟩ := bind_eq_ok.mp h
  obtain ⟨_, hpin, h⟩ := bind_eq_ok.mp h
  obtain ⟨_, -, h⟩ := bind_eq_ok.mp h
  obtain ⟨_, -, h⟩ := bind_eq_ok.mp h
  obtain ⟨c, hc, h⟩ := bind_eq_ok.mp h
  obtain ⟨_, hcontext, h⟩ := bind_eq_ok.mp h
  obtain ⟨requester, -, h⟩ := bind_eq_ok.mp h
  obtain ⟨_, -, h⟩ := bind_eq_ok.mp h
  obtain ⟨request, hrequest, h⟩ := bind_eq_ok.mp h
  obtain ⟨parsed, hparsed, h⟩ := bind_eq_ok.mp h
  obtain rfl := Except.ok.inj h
  obtain ⟨hfind, hown⟩ := Option.filter_eq_some_iff.mp (orThrow_eq_ok.mp hc)
  obtain ⟨hmem, hid⟩ := Table.find?_eq_some.mp hfind
  simp only [require_eq_ok, Bool.and_eq_true, beq_iff_eq] at hpin hown hcontext
  obtain ⟨-, rfl⟩ := hown
  obtain ⟨⟨hmatrix, hsha⟩, hdeviceId⟩ := hcontext
  have hrequest' := CrossSigning.orHttp_eq_ok.mp hrequest
  refine ⟨hmem, hid, fun f hflow htxn hdigest => ?_, fun current now htime =>
    ⟨rfl, rfl, rfl, hdevice, hmatrix, hdeviceId.trans (by rw [hid]), ⟨parsed, hparsed⟩, identity,
      request, orThrow_eq_ok.mp hidentity, hpin.2.trans hmatrix.symm, hpin.1, hsha.symm, hrequest',
      rfl, rfl, htime, min_le_right _ _⟩⟩
  subst hflow htxn
  exact ⟨identity, request, orThrow_eq_ok.mp hidentity, hrequest', hdigest⟩

/-- **What `open` leaves**: the flow of the pending candidate, that was there or is new, or
no flow. -/
theorem openIn_eq_ok {out : Db × Option MatrixVerificationAdmission}
    (hdevice : principal.deviceId = some deviceId)
    (h : openIn env clock db principal deviceId candidateId flowId transactionId body = .ok out) :
    (out.2 = none ∧ Resolves db out.1) ∨
    ∃ c ∈ db.candidates, c.id = candidateId ∧ c.status = .pending ∧ ∃ f ∈ out.1.flows,
      f.candidateId = candidateId ∧ f.flowId = flowId ∧ f.requestTransactionId = transactionId ∧
      f.userId = principal.id ∧ f.reviewerSessionId = principal.sessionId ∧
      RequestOf env db.backdrop principal body c f ∧ out.2 = some (summary f) ∧
      out.1.candidates = db.candidates ∧ (out.1 = db ∨
        db.flows.find? candidateId = none ∧ OpenedBy env db.backdrop principal body c f ∧
        Change (fun _ => False) (· = f) db out.1) := by
  obtain ⟨a, ha, h⟩ := bind_eq_ok.mp h
  obtain ⟨current, hcurrent, h⟩ := bind_eq_ok.mp h
  obtain ⟨_, -, h⟩ := bind_eq_ok.mp h
  obtain ⟨hmem, hid, hrequestOf, hopened⟩ := admit_eq_ok hdevice ha
  by_cases hpending : a.candidate.status ≠ .pending
  · rw [if_pos hpending] at h
    obtain rfl := Except.ok.inj h
    exact .inl ⟨rfl, .refl _⟩
  · rw [if_neg hpending] at h
    split_ifs at h with hover
    · obtain ⟨db₁, hresolve, h⟩ := bind_eq_ok.mp h
      obtain ⟨_, -, h⟩ := bind_eq_ok.mp h
      obtain rfl := Except.ok.inj h
      exact .inl ⟨rfl, resolves_of_resolve hresolve⟩
    · refine .inr ⟨a.candidate, hmem, hid, not_not.mp hpending, ?_⟩
      cases hfind : db.flows.find? candidateId with
      | some f =>
        simp only [hfind] at h
        obtain ⟨_, hreplay, h⟩ := bind_eq_ok.mp h
        obtain rfl := Except.ok.inj h
        obtain ⟨hf, hfid⟩ := Table.find?_eq_some.mp hfind
        simp only [require_eq_ok, isReplay, Bool.and_eq_true, beq_iff_eq] at hreplay
        obtain ⟨⟨⟨⟨⟨⟨-, huser⟩, hflow⟩, hsession⟩, -⟩, htxn⟩, hdigest⟩ := hreplay
        exact ⟨f, hf, hfid, hflow, htxn, huser, hsession, hrequestOf f hflow htxn hdigest, rfl, rfl,
          .inl rfl⟩
      | none =>
        simp only [hfind] at h
        obtain ⟨_, htime, h⟩ := bind_eq_ok.mp h
        obtain ⟨_, -, h⟩ := bind_eq_ok.mp h
        obtain ⟨db₁, hcreate, h⟩ := bind_eq_ok.mp h
        obtain ⟨_, -, h⟩ := bind_eq_ok.mp h
        obtain ⟨_, -, h⟩ := bind_eq_ok.mp h
        obtain rfl := Except.ok.inj h
        simp only [require_eq_ok, Bool.and_eq_true, decide_eq_true_eq] at htime
        have hchange := @change_of_createFlow _ _ _ (fun _ => False) _ _ hcreate
        obtain ⟨_, -, -, -, -, hnew, rfl⟩ := createFlow_eq_ok hcreate
        exact ⟨_, (Table.mem_insert (h := hnew)).mpr (.inr rfl), hid, rfl, rfl, rfl, rfl,
          hrequestOf _ rfl rfl rfl, rfl, rfl,
          .inr ⟨rfl, hopened current clock.now htime.2, hchange⟩⟩

/-- The ids of a request are canonical. -/
theorem requireIds_eq_ok {text : JsString} {ids : Uuid × Uuid}
    (h : requireIds principal text flowId transactionId = .ok ids) :
    principal.deviceId = some ids.1 ∧ text = ids.2.text := by
  obtain ⟨_, -, h⟩ := bind_eq_ok.mp h
  obtain ⟨found, hfound, h⟩ := bind_eq_ok.mp h
  obtain ⟨_, -, h⟩ := bind_eq_ok.mp h
  obtain ⟨id, hid, h⟩ := bind_eq_ok.mp h
  obtain rfl := Except.ok.inj h
  exact ⟨(Option.filter_eq_some_iff.mp (orThrow_eq_ok.mp hfound)).1,
    text_of_canonicalId? (orThrow_eq_ok.mp hid)⟩

end Admission

/-! ## Deliveries -/

section Delivery

open MatrixDeviceVerificationService (scopeOf contentOf flowOverdue)
open MatrixDeviceVerificationInboxService

/-- **What is delivered**: the request of the pending flow of a pending candidate of the
session that polls. -/
structure DeliveredOf (env : Env) (db : Db) (principal : SessionPrincipal)
    (c : MatrixDeviceCandidate) (f : MatrixDeviceVerificationFlow)
    (r : MatrixVerificationIncomingRequest) : Prop where
  candidate : c ∈ db.candidates
  flow : f ∈ db.flows
  candidateId : c.id = f.candidateId
  userId : c.userId = principal.id
  sessionId : c.sessionId = principal.sessionId
  reviewer : f.reviewerSessionId ≠ principal.sessionId
  candidatePending : c.status = .pending
  flowPending : f.status = .pending
  request : ∃ identity stored, db.backdrop.identities.find? principal.id = some identity ∧
    identity.bootstrapDeviceId = c.trustedDeviceId ∧
    storedRequest env identity c f = .ok stored ∧ r = incoming env principal f stored.1 stored.2

/-- An overdue flow is resolved before it is answered. -/
theorem expire_eq_ok {subscriptionEnd : Option ℕ} {c : MatrixDeviceCandidate} {now last : ℕ}
    {readings : TriggerReadings} {out : Db × Option MatrixVerificationIncomingRequest}
    (h : expire db principal subscriptionEnd c now readings last = .ok out) :
    out.2 = none ∧ Resolves db out.1 := by
  obtain ⟨db₁, hresolve, h⟩ := bind_eq_ok.mp h
  obtain ⟨_, -, h⟩ := bind_eq_ok.mp h
  obtain rfl := Except.ok.inj h
  exact ⟨rfl, resolves_of_resolve hresolve⟩

/-- The outcome of a poll: nothing is delivered, or nothing is written. -/
def PollOutcome (env : Env) (db : Db) (principal : SessionPrincipal) (candidateId : Uuid)
    (out : Db × Option MatrixVerificationIncomingRequest) : Prop :=
  (out.2 = none ∧ Resolves db out.1) ∨
    ∃ r c f, out = (db, some r) ∧ f.candidateId = candidateId ∧ DeliveredOf env db principal c f r

/-- What is delivered is the candidate's own flow. -/
theorem deliverFlow_eq_ok {subscriptionEnd : Option ℕ} {c : MatrixDeviceCandidate}
    {f : MatrixDeviceVerificationFlow} {current : AuthSession}
    {out : Db × Option MatrixVerificationIncomingRequest} (hc : c ∈ db.candidates)
    (hf : f ∈ db.flows) (hid : c.id = f.candidateId) (huser : c.userId = principal.id)
    (hsession : c.sessionId = principal.sessionId) (hcpending : c.status = .pending)
    (hfpending : f.status = .pending)
    (h : deliverFlow env clock db principal subscriptionEnd c f current = .ok out) :
    PollOutcome env db principal f.candidateId out := by
  obtain ⟨identity, hidentity, h⟩ := bind_eq_ok.mp h
  obtain ⟨_, hcontext, h⟩ := bind_eq_ok.mp h
  simp only [require_eq_ok, Bool.and_eq_true, beq_iff_eq, bne_iff_ne] at hcontext
  obtain ⟨⟨⟨⟨⟨-, hreviewer⟩, -⟩, -⟩, hdevice⟩, -⟩ := hcontext
  cases hpeer : (peerOf env db.backdrop principal c f).filter
      (peerCurrent principal c f clock.now) with
  | none =>
    simp only [hpeer] at h
    obtain rfl := Except.ok.inj h
    exact .inl ⟨rfl, .refl _⟩
  | some peer =>
    simp only [hpeer] at h
    obtain ⟨stored, hstored, h⟩ := bind_eq_ok.mp h
    obtain ⟨_, -, h⟩ := bind_eq_ok.mp h
    split_ifs at h with hover hlive
    · exact .inl (expire_eq_ok h)
    · obtain rfl := Except.ok.inj h
      exact .inr ⟨_, c, f, rfl, rfl, hc, hf, hid, huser, hsession, hreviewer, hcpending, hfpending,
        identity, stored, orThrow_eq_ok.mp hidentity, hdevice, hstored, rfl⟩
    · obtain rfl := Except.ok.inj h
      exact .inl ⟨rfl, .refl _⟩

/-- **What a poll answers.** -/
theorem poll_eq_ok {text : JsString} {out : Db × Option MatrixVerificationIncomingRequest}
    (h : poll env clock db principal text = .ok out) :
    ∃ candidateId, text = candidateId.text ∧ principal.deviceId = none ∧
      PollOutcome env db principal candidateId out := by
  obtain ⟨_, -, h⟩ := bind_eq_ok.mp h
  obtain ⟨_, hdevice, h⟩ := bind_eq_ok.mp h
  obtain ⟨candidateId, hcandidateId, h⟩ := bind_eq_ok.mp h
  refine ⟨candidateId, text_of_canonicalId? (orThrow_eq_ok.mp hcandidateId), by simpa using hdevice,
    ?_⟩
  obtain ⟨subscriptionEnd, -, h⟩ := bind_eq_ok.mp h
  obtain ⟨c, hc, h⟩ := bind_eq_ok.mp h
  obtain ⟨_, -, h⟩ := bind_eq_ok.mp h
  obtain ⟨_, -, h⟩ := bind_eq_ok.mp h
  obtain ⟨_, -, h⟩ := bind_eq_ok.mp h
  obtain ⟨current, -, h⟩ := bind_eq_ok.mp h
  obtain ⟨_, -, h⟩ := bind_eq_ok.mp h
  obtain ⟨hfind, hown⟩ := Option.filter_eq_some_iff.mp (orThrow_eq_ok.mp hc)
  obtain ⟨hmem, hid⟩ := Table.find?_eq_some.mp hfind
  simp only [Bool.and_eq_true, beq_iff_eq] at hown
  split_ifs at h with hover
  · exact .inl (expire_eq_ok h)
  · cases hflow : (db.flows.find? candidateId).filter fun f =>
        c.status = .pending && f.status = .pending with
    | none =>
      simp only [hflow] at h
      obtain rfl := Except.ok.inj h
      exact .inl ⟨rfl, .refl _⟩
    | some f =>
      simp only [hflow] at h
      obtain ⟨hfindFlow, hpending⟩ := Option.filter_eq_some_iff.mp hflow
      obtain ⟨hf, hfid⟩ := Table.find?_eq_some.mp hfindFlow
      simp only [Bool.and_eq_true, decide_eq_true_eq] at hpending
      have hout := deliverFlow_eq_ok hmem hf (hid.trans hfid.symm) hown.1 hown.2 hpending.1
        hpending.2 h
      rwa [hfid] at hout

end Delivery

end Quarantine

end SinoChat
