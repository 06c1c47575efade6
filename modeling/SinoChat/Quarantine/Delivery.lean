import SinoChat.Quarantine.Lifecycle

/-!
# The way of a request

The trusted device asks for an admission, the waiting session polls. What the poll delivers
is what was admitted, by another session of the same user, for the candidate that the polling
session has reserved (`delivered_request_admitted`); and what was admitted is delivered, while
both sessions are live and the flow is pending (`admitted_request_deliverable`).
-/

namespace SinoChat

open Js

namespace Quarantine

open MessagePayload (matrixDeviceIdFromUuid)
open MatrixDeviceCandidatesService (MatrixDeviceCandidateStatus)
open MatrixDeviceVerificationService (MatrixVerificationAdmission summary)
open MatrixDeviceVerificationInboxService
open SasToDevice (bodyJson)

variable {env : Env} {db db' : Db} {trace later earlier : List Event}
variable {principal : SessionPrincipal} {clock : Readings}

/-- The body whose one message has the content. -/
def requestBody (r : MatrixVerificationIncomingRequest) : Json :=
  bodyJson (.obj [(r.sender, .obj [(r.recipientDeviceId, r.content)])])

/-- The call that admitted what is delivered. -/
structure AdmittedAs (env : Env) (principal reviewer : SessionPrincipal) (body : Json)
    (r : MatrixVerificationIncomingRequest) : Prop where
  sameUser : reviewer.id = principal.id
  otherSession : reviewer.sessionId ≠ principal.sessionId
  trustedDevice : ∃ deviceId, reviewer.deviceId = some deviceId ∧
    r.senderDeviceId = matrixDeviceIdFromUuid deviceId
  sender : r.sender = matrixUserIdFromUuid principal.id env.serverName
  recipient : r.recipientDeviceId = matrixDeviceIdFromUuid r.candidateId
  body : Same body (requestBody r)

/-- What a poll delivers, in the state it finds. -/
theorem delivered_of_step {text : JsString} {r : MatrixVerificationIncomingRequest}
    (h : (quarantine env).step db (.served principal clock (.poll text)
      (.ok (.inbox (some r)))) db') :
    principal.deviceId = none ∧ text = r.candidateId.text ∧
      ∃ c f, DeliveredOf env db principal c f r := by
  cases h with
  | served hparsed hserve =>
    rcases commit_cases hserve with ⟨out, hout, rfl, hanswer⟩ | ⟨-, error, hanswer⟩
    · obtain ⟨candidateId, htext, hdevice, houtcome⟩ := poll_eq_ok hout
      have hsome : some r = out.2 := Answer.inbox.inj (Except.ok.inj hanswer)
      rcases houtcome with ⟨hnone, -⟩ | ⟨r', c, f, rfl, hfid, hdelivered⟩
      · rw [hnone] at hsome
        cases hsome
      · obtain rfl : r = r' := Option.some.inj hsome
        obtain ⟨identity, stored, -, -, -, rfl⟩ := hdelivered.request
        exact ⟨hdevice, htext.trans (by rw [← hfid]; rfl), c, f, hdelivered⟩
    · cases hanswer

/-- **What is delivered was admitted.** Before a request is delivered to a session, another
session of its user, on the trusted device, has had it admitted: the body of that call has
the content delivered, and its answer the times. And before that the session has reserved
the candidate. -/
theorem delivered_request_admitted {text : JsString} {r : MatrixVerificationIncomingRequest}
    (h : (quarantine env).Run (later ++ .served principal clock (.poll text)
      (.ok (.inbox (some r))) :: earlier) db) :
    ∃ between before reviewer clock' body requester clock'' value status,
      earlier = between ++ .served reviewer clock' (.openFlow text r.flowId r.transactionId body)
        (.ok (.admission ⟨r.candidateId, r.flowId, r.createdAt, r.expiresAt⟩)) :: before ∧
      AdmittedAs env principal reviewer body r ∧
      .served requester clock'' (.reserve text value) (.ok (.candidate status)) ∈ before ∧
      requester.id = principal.id ∧ requester.sessionId = principal.sessionId ∧
      status.candidateId = r.candidateId := by
  obtain ⟨t', hrun', -⟩ := h.split
  cases hrun' with
  | @step _ t _ _ hrun hstep =>
    obtain ⟨-, htext, c, f, hdelivered⟩ := delivered_of_step hstep
    obtain ⟨between, before, reviewer, clock', body, hearlier, hbody, c', hc', hopened,
      hreserved⟩ := (ledger_of_run hrun).flows f hdelivered.flow
    obtain rfl : c' = c := Table.eq_of_key_eq hc' hdelivered.candidate
      (hopened.candidateId.symm.trans hdelivered.candidateId.symm)
    obtain ⟨requester, clock'', value, status, hmem, hstatus, -, hreservedBy⟩ := hreserved
    obtain ⟨identity, stored, hidentity, -, hstored, rfl⟩ := hdelivered.request
    have hsame : reviewer.id = principal.id := by
      obtain ⟨c₀, hc₀, hid₀, hjoined⟩ := (inv_of_run hrun).joined f hdelivered.flow
      have heq : c₀ = c' :=
        Table.eq_of_key_eq hc₀ hdelivered.candidate (hid₀.trans hdelivered.candidateId.symm)
      rw [← hopened.userId, ← hjoined.userId, heq, hdelivered.userId]
    obtain ⟨request, content, hread⟩ := storedRequest_of_openedBy hopened hbody
      (by rw [hsame]; exact hidentity)
    obtain rfl : stored = (request, content) := Except.ok.inj (hstored.symm.trans hread.read)
    have htext' : text = f.candidateId.text := htext
    refine ⟨between, before, reviewer, clock', body, requester, clock'', value, status, ?_, ?_, ?_,
      hreservedBy.userId.symm.trans hdelivered.userId,
      hreservedBy.sessionId.symm.trans hdelivered.sessionId, hstatus.trans hdelivered.candidateId⟩
    · rw [hearlier, htext']
      simp only [incoming, hread.transactionId]
      rfl
    · refine ⟨hsame, ?_, ⟨_, hopened.deviceId, hread.senderDeviceId⟩, rfl, ?_, ?_⟩
      · rw [← hopened.reviewerSessionId]
        exact hdelivered.reviewer
      · exact hread.recipientDeviceId.trans (hopened.matrixDeviceId.trans
          (by rw [hdelivered.candidateId]; rfl))
      · have hsender : c'.matrixUserId = matrixUserIdFromUuid principal.id env.serverName := by
          rw [hopened.matrixUserId, hsame]
        have hbody' := hread.body
        rw [hsender, ← hread.recipientDeviceId] at hbody'
        exact hbody'
    · rw [htext', ← hdelivered.candidateId]
      exact hmem

/-- The request of the trusted device reaches the session that waits. -/
theorem delivered_request_admitted_client : ∃ r reviewer body,
    Sample.deliveredOf Sample.polled.2 = some r ∧
    AdmittedAs Sample.env Sample.waiting reviewer body r := by
  obtain ⟨-, -, -, -, hpolled, -⟩ := Sample.answers
  obtain ⟨r, hr⟩ := Option.isSome_iff_exists.mp hpolled
  have hrun := Sample.run.append Sample.steps
  rw [Sample.later, Sample.deliveredOf_eq_some hr] at hrun
  have hcut : (quarantine Sample.env).Run ([_, _] ++ _ :: Sample.trace) _ := hrun
  obtain ⟨_, _, reviewer, _, body, _, _, _, _, -, hadmitted, -⟩ := delivered_request_admitted hcut
  exact ⟨r, reviewer, body, hr, hadmitted⟩

/-! ## Delivery -/

/-- Both parties of a flow are live, as a poll reads the clock. -/
structure Live (env : Env) (backdrop : Backdrop) (clock : Readings) (principal : SessionPrincipal)
    (c : MatrixDeviceCandidate) (f : MatrixDeviceVerificationFlow) : Prop where
  role : isParticipant principal = true
  bound : principal.deviceId = none
  userId : c.userId = principal.id
  sessionId : c.sessionId = principal.sessionId
  requester : ∃ subscriptionEnd,
    lockParticipant backdrop principal clock.eligibility = .ok subscriptionEnd ∧
    ∀ now ∈ [clock.first, clock.now, clock.after], ∃ session,
      requester backdrop principal subscriptionEnd now = .ok session ∧
      session.sessionVersion = c.sessionVersion
  reviewer : ∃ peer, peerOf env backdrop principal c f = some peer ∧
    peerCurrent principal c f clock.now peer = true ∧ clock.after < peer.expiresAt
  window : clock.now < f.expiresAt ∧ f.createdAt ≤ clock.after ∧ clock.after < f.expiresAt

/-- No expiration is due in the window of the flow. -/
theorem not_needsExpiration {c : MatrixDeviceCandidate} {f : MatrixDeviceVerificationFlow} {now : ℕ}
    (hc : now < c.expiresAt) (hf : now < f.expiresAt) :
    ¬ needsExpiration c (some f) now = true := by
  simp only [needsExpiration, MatrixDeviceVerificationService.flowOverdue, Option.any_some,
    Bool.and_eq_true, Bool.or_eq_true, decide_eq_true_eq, beq_iff_eq]
  omega

theorem deliverFlow_of_live {c : MatrixDeviceCandidate} {f : MatrixDeviceVerificationFlow}
    {body : Json} {identity : CrossSigning.MatrixCrossSigningIdentity}
    {request : SasToDevice.MatrixSasToDeviceRequest} {content : Json} {current : AuthSession}
    {subscriptionEnd : Option ℕ} (hjoined : Joined c f)
    (hidentity : db.backdrop.identities.find? principal.id = some identity)
    (hpin : identity.matrixUserId = matrixUserIdFromUuid principal.id env.serverName ∧
      identity.bootstrapDeviceId = c.trustedDeviceId ∧
      identity.bootstrapSha256 = c.identityBootstrapSha256)
    (hread : StoredRequest env identity body c f request content)
    (hlive : Live env db.backdrop clock principal c f)
    (hcurrent : current.sessionVersion = c.sessionVersion)
    (hafter : ∃ session,
      requester db.backdrop principal subscriptionEnd clock.after = .ok session) :
    deliverFlow env clock db principal subscriptionEnd c f current =
      .ok (db, some (incoming env principal f request content)) := by
  obtain ⟨peer, hpeer, hpeerCurrent, hpeerAfter⟩ := hlive.reviewer
  obtain ⟨hnow, hcreated, hafterWindow⟩ := hlive.window
  obtain ⟨session, hsession⟩ := hafter
  refine bind_eq_ok.mpr ⟨identity, orThrow_eq_ok.mpr hidentity, bind_eq_ok.mpr ⟨(), ?_, ?_⟩⟩
  · simp only [require_eq_ok, Bool.and_eq_true, beq_iff_eq, bne_iff_ne]
    exact ⟨⟨⟨⟨⟨hjoined.userId.symm.trans hlive.userId,
      fun h => hjoined.sessions (hlive.sessionId.trans h.symm)⟩,
      hjoined.sessionVersion.symm.trans hcurrent.symm⟩, hpin.1⟩, hpin.2.1⟩, hpin.2.2⟩
  · have hfilter : (peerOf env db.backdrop principal c f).filter
        (peerCurrent principal c f clock.now) = some peer :=
      Option.filter_eq_some_iff.mpr ⟨hpeer, hpeerCurrent⟩
    simp only [hfilter]
    refine bind_eq_ok.mpr ⟨(request, content), hread.read, bind_eq_ok.mpr ⟨session, hsession, ?_⟩⟩
    have hexpires := hjoined.expires
    have hcandidate := hjoined.created
    have hearly := hread.early
    have hlate := hread.late
    rw [if_neg (not_needsExpiration (by omega) hafterWindow), if_pos]
    simp only [Bool.and_eq_true, decide_eq_true_eq]
    omega

/-- **What was admitted is delivered**, while both parties are live and the flow is pending: no
check of what was stored refuses it, and the poll writes nothing. -/
theorem admitted_request_deliverable {c : MatrixDeviceCandidate} {f : MatrixDeviceVerificationFlow}
    (h : (quarantine env).Run trace db) (hc : c ∈ db.candidates) (hf : f ∈ db.flows)
    (hid : c.id = f.candidateId) (hpending : f.status = .pending)
    (hlive : Live env db.backdrop clock principal c f) :
    ∃ r reviewer clock' body,
      serve env clock db principal (.poll c.id.text) = (db, .ok (.inbox (some r))) ∧
      r.flowId = f.flowId ∧ r.transactionId = f.requestTransactionId ∧
      .served reviewer clock' (.openFlow c.id.text f.flowId f.requestTransactionId body)
        (.ok (.admission (summary f))) ∈ trace ∧
      Same body (requestBody r) := by
  -- The flow was reserved by one answer, for the candidate it was opened for.
  obtain ⟨between, before, reviewer, clock', body, htrace, hbody, c', hc', hopened, hreserved⟩ :=
    (ledger_of_run h).flows f hf
  obtain rfl : c' = c :=
    Table.eq_of_key_eq hc' hc (hopened.candidateId.symm.trans hid.symm)
  obtain ⟨c₀, hc₀, hid₀, hjoined⟩ := (inv_of_run h).joined f hf
  obtain rfl : c₀ = c' := Table.eq_of_key_eq hc₀ hc (hid₀.trans hid.symm)
  -- The reviewer of the reservation is the one who polls.
  have hsame : reviewer.id = principal.id := by
    rw [← hopened.userId, ← hjoined.userId, hlive.userId]
  obtain ⟨_, _, _, _, -, -, hcanonical, -⟩ := hreserved
  obtain ⟨identity, _, hidentity, hmatrix, hdevice, hsha, -⟩ := hopened.request
  have hmatrixUserId : c₀.matrixUserId = matrixUserIdFromUuid principal.id env.serverName := by
    rw [hopened.matrixUserId, hsame]
  obtain ⟨request, content, hread⟩ := storedRequest_of_openedBy hopened hbody hidentity
  rw [hsame] at hidentity
  obtain ⟨subscriptionEnd, hlock, hsessions⟩ := hlive.requester
  obtain ⟨first, hfirst, -⟩ := hsessions clock.first (by simp)
  obtain ⟨current, hcurrent, hversion⟩ := hsessions clock.now (by simp)
  obtain ⟨after, hafter, -⟩ := hsessions clock.after (by simp)
  have hflow : db.flows.find? c₀.id = some f := Table.find?_eq_some.mpr ⟨hf, hid.symm⟩
  -- Each check of the poll, in its order; none of them refuses.
  have hdelivered : poll env clock db principal c₀.id.text =
      .ok (db, some (incoming env principal f request content)) := by
    refine bind_eq_ok.mpr ⟨(), require_eq_ok.mpr hlive.role, bind_eq_ok.mpr ⟨(), ?_, ?_⟩⟩
    · simp [hlive.bound]
    refine bind_eq_ok.mpr ⟨c₀.id, orThrow_eq_ok.mpr hcanonical, ?_⟩
    refine bind_eq_ok.mpr ⟨subscriptionEnd, hlock, bind_eq_ok.mpr ⟨c₀, ?_, ?_⟩⟩
    · refine orThrow_eq_ok.mpr (Option.filter_eq_some_iff.mpr ⟨find?_of_mem hc, ?_⟩)
      simp [hlive.userId, hlive.sessionId]
    refine bind_eq_ok.mpr ⟨first, ?_, bind_eq_ok.mpr ⟨first, hfirst, bind_eq_ok.mpr ⟨(), ?_, ?_⟩⟩⟩
    · obtain ⟨hfind, huser, -⟩ := currentSession_eq_ok hfirst
      exact orThrow_eq_ok.mpr (Option.filter_eq_some_iff.mpr ⟨hfind, by simp [huser]⟩)
    · simp only [require_eq_ok, Bool.and_eq_true, beq_iff_eq]
      exact ⟨hmatrixUserId, hopened.matrixDeviceId⟩
    refine bind_eq_ok.mpr ⟨current, hcurrent, bind_eq_ok.mpr ⟨(), by simp [hversion], ?_⟩⟩
    have hnow := hlive.window.1
    have hexpires := hjoined.expires
    have hfilter : ((db.flows.find? c₀.id).filter fun f =>
        c₀.status = .pending && f.status = .pending) = some f :=
      Option.filter_eq_some_iff.mpr ⟨hflow, by simp [hpending, hjoined.pending hpending]⟩
    -- The flow is still in its window, so the poll writes no expiry.
    rw [hflow, if_neg (not_needsExpiration (by omega) hnow), ← hflow]
    simp only [hfilter]
    exact deliverFlow_of_live hjoined hidentity ⟨hmatrix.trans hmatrixUserId, hdevice, hsha⟩
      hread hlive hversion ⟨after, hafter⟩
  refine ⟨incoming env principal f request content, reviewer, clock', body, ?_, rfl,
    hread.transactionId, ?_, ?_⟩
  · rw [serve, hdelivered]
    rfl
  · rw [htrace, hid]
    simp
  · have hbody' := hread.body
    rw [hmatrixUserId, ← hread.recipientDeviceId] at hbody'
    exact hbody'

theorem live_readmitted {c : MatrixDeviceCandidate} {f : MatrixDeviceVerificationFlow}
    (h : Sample.Rows c f) : Live Sample.env Sample.readmitted.1.backdrop (Sample.at_ 3500)
      Sample.waiting c f := by
  obtain ⟨huser, hsession, hversion, hdevice⟩ := h.requester
  obtain ⟨hpending, hreviewer, hreviewerVersion⟩ := h.reviewer
  obtain ⟨hcreated, hexpires⟩ := h.window
  rw [Sample.backdrop_readmitted]
  have hlock : (lockParticipant Sample.backdrop Sample.waiting 3500).toOption = some none := by
    decide +kernel
  have hcurrent : (requester Sample.backdrop Sample.waiting none 3500).toOption =
      some ⟨Sample.waitingSession, SinoChat.Sample.clientId, none, 1, 10000000000, none⟩ := by
    decide +kernel
  have hlocked : trustedSession Sample.backdrop Sample.waiting.id SinoChat.Sample.clientSession
      SinoChat.Sample.clientDevice (matrixUserIdFromUuid Sample.waiting.id Sample.env.serverName) =
        true := by decide +kernel
  have hpeer : Sample.backdrop.accounts.sessions.find? SinoChat.Sample.clientSession =
      some ⟨SinoChat.Sample.clientSession, SinoChat.Sample.clientId,
        some SinoChat.Sample.clientDevice, 1, 10000000000, none⟩ := by decide +kernel
  refine ⟨by decide, rfl, huser, hsession, ⟨none, ok_of_toOption hlock, ?_⟩, ?_, ?_⟩
  · intro now hnow
    obtain rfl : now = 3500 := by simpa [Sample.at_] using hnow
    exact ⟨_, ok_of_toOption hcurrent, hversion.symm⟩
  · have hfound : peerOf Sample.env Sample.backdrop Sample.waiting c f =
        some ⟨SinoChat.Sample.clientSession, SinoChat.Sample.clientId,
          some SinoChat.Sample.clientDevice, 1, 10000000000, none⟩ := by
      rw [peerOf, hreviewer, hdevice, if_pos hlocked, hpeer]
    refine ⟨_, hfound, ?_, ?_⟩
    · simp only [peerCurrent, hdevice, hreviewerVersion]
      decide
    · simp only [Sample.at_]
      omega
  · simp only [Sample.at_]
    omega

/-- The session that waits polls again. -/
theorem admitted_request_deliverable_client : ∃ c f r,
    c ∈ Sample.readmitted.1.candidates ∧ f ∈ Sample.readmitted.1.flows ∧
    serve Sample.env (Sample.at_ 3500) Sample.readmitted.1 Sample.waiting (.poll c.id.text) =
      (Sample.readmitted.1, .ok (.inbox (some r))) := by
  obtain ⟨c, f, hrows⟩ := Sample.exists_rows
  obtain ⟨r, -, -, -, hserve, -⟩ := admitted_request_deliverable Sample.run hrows.candidate
    hrows.flow (hrows.ids.1.trans hrows.ids.2.symm) hrows.reviewer.1 (live_readmitted hrows)
  exact ⟨c, f, r, hrows.candidate, hrows.flow, hserve⟩

end Quarantine

end SinoChat
