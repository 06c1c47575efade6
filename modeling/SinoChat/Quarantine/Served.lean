import SinoChat.Quarantine.Admissions

/-!
# What is served

One lemma for the eight requests (`served_of_serve`): the tables change by a resolution, by
the candidate of a reservation that was answered, or by the flow of an admission that was
answered; and every answer reports a candidate as it stands in the tables behind it.
-/

namespace SinoChat

open Js

namespace Quarantine

open MatrixDeviceCandidatesService (MatrixDeviceCandidateStatus)
open MatrixDeviceVerificationService (summary)
open MatrixDeviceVerificationInboxService (MatrixVerificationIncomingRequest)

variable {env : Env} {db db' : Db} {clock : Readings} {principal : SessionPrincipal}
variable {request : Request} {answer : Except HttpException Answer}

/-- What an answer says of the status of a candidate. What is shown, admitted or delivered
is said to be pending. -/
def Answer.Reports : Answer → Uuid → Status → Prop
  | .candidate a, id, status => a.candidateId = id ∧ a.state = status
  | .pending a, id, status => status = .pending ∧ ∃ shown, a = some shown ∧ shown.candidateId = id
  | .detail a, id, status => status = .pending ∧ a.candidateId = id
  | .rejection a, id, status => a.candidateId = id ∧ a.state = status
  | .admission a, id, status => status = .pending ∧ a.candidateId = id
  | .inbox a, id, status =>
    status = .pending ∧ ∃ request, a = some request ∧ request.candidateId = id

/-- A candidate that a call adds: its reservation, answered. -/
structure NewCandidate (env : Env) (db : Db) (principal : SessionPrincipal) (request : Request)
    (answer : Except HttpException Answer) (c : MatrixDeviceCandidate) : Prop where
  fresh : db.candidates.find? c.id = none
  canonical : canonicalId? c.id.text = some c.id
  reserved : ∃ value status, request = .reserve c.id.text value ∧
    answer = .ok (.candidate status) ∧ status.candidateId = c.id ∧ ReservedBy env principal value c

/-- A flow that a call adds: its admission, answered. -/
structure NewFlow (env : Env) (db : Db) (principal : SessionPrincipal) (request : Request)
    (answer : Except HttpException Answer) (f : MatrixDeviceVerificationFlow) : Prop where
  fresh : db.flows.find? f.candidateId = none
  opened : ∃ body, request = .openFlow f.candidateId.text f.flowId f.requestTransactionId body ∧
    answer = .ok (.admission (summary f)) ∧ ∃ c ∈ db.candidates, c.status = .pending ∧
      OpenedBy env db.backdrop principal body c f

/-- **What a request does.** -/
structure Served (env : Env) (db : Db) (principal : SessionPrincipal) (request : Request)
    (db' : Db) (answer : Except HttpException Answer) : Prop where
  change : Change (NewCandidate env db principal request answer)
    (NewFlow env db principal request answer) db db'
  reports : ∀ a, answer = .ok a → ∀ id status, a.Reports id status →
    ∃ c ∈ db'.candidates, c.id = id ∧ c.status = status

/-- A call commits or changes nothing. -/
theorem commit_cases {α β : Type} {result : Except HttpException (Db × α)}
    {finish : α → Except HttpException β} {kind : β → Answer}
    (h : answering kind (commit db result finish) = (db', answer)) :
    (∃ out, result = .ok out ∧ db' = out.1 ∧ answer = (finish out.2).map kind) ∨
      db' = db ∧ ∃ error, answer = .error error := by
  cases result with
  | ok out =>
    obtain ⟨rfl, rfl⟩ := Prod.mk.inj h
    exact .inl ⟨out, rfl, rfl, rfl⟩
  | error error =>
    obtain ⟨rfl, rfl⟩ := Prod.mk.inj h
    exact .inr ⟨rfl, error, rfl⟩

/-- A refusal serves nothing. -/
theorem served_of_error {error : HttpException} :
    Served env db principal request db (.error error) := ⟨.refl _, nofun⟩

/-- Only resolutions, and an answer that shows what is left. -/
theorem served_of_resolves (hresolves : Resolves db db')
    (hreports : ∀ a, answer = .ok a → ∀ id status, a.Reports id status →
      ∃ c ∈ db'.candidates, c.id = id ∧ c.status = status) :
    Served env db principal request db' answer := ⟨hresolves.mono, hreports⟩

/-- A reservation is made under a canonical id. -/
theorem canonical_of_reserve {candidateId : JsString} {value : Json}
    {out : Db × MatrixDeviceCandidateStatus}
    (h : MatrixDeviceCandidatesService.reserve env clock db principal candidateId value = .ok out) :
    canonicalId? candidateId = some out.2.candidateId := by
  obtain ⟨htext, -⟩ := reserve_eq_ok h
  obtain ⟨_, -, h⟩ := bind_eq_ok.mp h
  obtain ⟨id, hid, h⟩ := bind_eq_ok.mp h
  have hcanonical := orThrow_eq_ok.mp hid
  rw [hcanonical, Uuid.text_injective (htext.symm.trans (text_of_canonicalId? hcanonical))]

/-- A reservation is served. -/
theorem served_of_reserve {candidateId : JsString} {value : Json}
    {out : Db × MatrixDeviceCandidateStatus}
    (h : MatrixDeviceCandidatesService.reserve env clock db principal candidateId value = .ok out) :
    Served env db principal (.reserve candidateId value) out.1 (.ok (.candidate out.2)) := by
  obtain ⟨hid, ⟨c, hc, hcid, hstatus, -⟩, parsed, -, -, hchange⟩ := reserve_eq_ok h
  refine ⟨⟨hchange.backdrop, hchange.grows, hchange.inv, fun c hc => ?_, fun f hf => ?_⟩, ?_⟩
  · rcases hchange.candidates c hc with hold | ⟨hcid, hfresh, hreserved⟩
    · exact .inl hold
    · have hcanonical := canonical_of_reserve h
      rw [← hcid] at hid hcanonical
      rw [hid] at hcanonical
      exact .inr ⟨hfresh, hcanonical, value, out.2, by rw [hid], rfl, hcid.symm, hreserved⟩
  · exact .inl ((hchange.flows f hf).resolve_right id)
  · intro a ha id status hreports
    obtain rfl := Except.ok.inj ha
    obtain ⟨hid', hstate⟩ := hreports
    exact ⟨c, hc, hcid.trans hid', hstatus.trans hstate⟩

/-- So is a call about a candidate of one's own. -/
theorem served_of_own {out : Db × MatrixDeviceCandidateStatus} (hresolves : Resolves db out.1)
    (hshows : ShowsRow out.1 principal out.2) :
    Served env db principal request out.1 (.ok (.candidate out.2)) := by
  obtain ⟨c, hc, hid, hstatus, -⟩ := hshows.row
  refine served_of_resolves hresolves fun a ha id status hreports => ?_
  obtain rfl := Except.ok.inj ha
  obtain ⟨hid', hstate⟩ := hreports
  exact ⟨c, hc, hid.trans hid', hstatus.trans hstate⟩

/-- So is the opening of a flow. -/
theorem served_of_open {candidateId flowId transactionId : JsString} {body : Json}
    (h : serve env clock db principal (.openFlow candidateId flowId transactionId body) =
      (db', answer)) :
    Served env db principal (.openFlow candidateId flowId transactionId body) db' answer := by
  rcases commit_cases h with ⟨out, hout, rfl, rfl⟩ | ⟨rfl, error, rfl⟩
  · obtain ⟨ids, hids, hout⟩ := bind_eq_ok.mp hout
    obtain ⟨hdevice, hid⟩ := requireIds_eq_ok hids
    rcases openIn_eq_ok hdevice hout with ⟨hnone, hresolves⟩ | ⟨c, hc, hcid, hpending, f, hf, hfid,
      hflow, htxn, -, -, -, hsome, hcandidates, hcase⟩
    · rw [hnone]
      exact served_of_resolves hresolves nofun
    · rw [hsome]
      refine ⟨?_, ?_⟩
      · rcases hcase with hsame | ⟨hfresh, hopened, hchange⟩
        · rw [hsame]
          exact .refl _
        · refine ⟨hchange.backdrop, hchange.grows, hchange.inv,
            fun c hc => .inl ((hchange.candidates c hc).resolve_right id), fun f' hf' => ?_⟩
          rcases hchange.flows f' hf' with hold | rfl
          · exact .inl hold
          · exact .inr ⟨by rw [hfid]; exact hfresh, body, by rw [hid, hfid, hflow, htxn], rfl,
              c, hc, hpending, hopened⟩
      · intro a ha id status hreports
        obtain rfl := Except.ok.inj ha
        obtain ⟨rfl, hid'⟩ := hreports
        refine ⟨c, by rw [hcandidates]; exact hc, ?_, hpending⟩
        exact hcid.trans (hfid.symm.trans hid')
  · exact served_of_error

/-- So is a poll. -/
theorem served_of_poll {candidateId : JsString}
    {out : Db × Option MatrixVerificationIncomingRequest}
    (h : MatrixDeviceVerificationInboxService.poll env clock db principal candidateId = .ok out) :
    Served env db principal (.poll candidateId) out.1 (.ok (.inbox out.2)) := by
  obtain ⟨id, -, -, houtcome⟩ := poll_eq_ok h
  rcases houtcome with ⟨hnone, hresolves⟩ | ⟨r, c, f, rfl, hfid, hdelivered⟩
  · refine served_of_resolves hresolves fun a ha id status hreports => ?_
    obtain rfl := Except.ok.inj ha
    obtain ⟨-, shown, hshown, -⟩ := hreports
    rw [hnone] at hshown
    cases hshown
  · refine served_of_resolves (.refl _) fun a ha id status hreports => ?_
    obtain rfl := Except.ok.inj ha
    obtain ⟨rfl, shown, hshown, hid⟩ := hreports
    obtain rfl := Option.some.inj hshown
    obtain ⟨identity, stored, -, -, -, rfl⟩ := hdelivered.request
    exact ⟨c, hdelivered.candidate, hdelivered.candidateId.trans hid, hdelivered.candidatePending⟩

section Review

open MatrixDeviceCandidateReviewService

/-- So is the list of candidates. -/
theorem served_of_pending (h : serve env clock db principal .pending = (db', answer)) :
    Served env db principal .pending db' answer := by
  rcases commit_cases h with ⟨out, hout, rfl, rfl⟩ | ⟨rfl, error, rfl⟩
  · have hreviewed := review_eq_ok hout
    refine served_of_resolves hreviewed.resolves fun a ha id status hreports => ?_
    obtain rfl := Except.ok.inj ha
    obtain ⟨rfl, shown, hshown, rfl⟩ := hreports
    obtain ⟨d, hd, rfl⟩ := Option.map_eq_some_iff.mp hshown
    obtain ⟨hdb, c, hc, hcid, hpending, -⟩ := hreviewed.shown d hd
    exact ⟨c, by rw [hdb]; exact hc, hcid, hpending⟩
  · exact served_of_error

/-- So is one of them. -/
theorem served_of_detail {candidateId : JsString}
    (h : serve env clock db principal (.detail candidateId) = (db', answer)) :
    Served env db principal (.detail candidateId) db' answer := by
  rcases commit_cases h with ⟨out, hout, rfl, rfl⟩ | ⟨rfl, error, rfl⟩
  · obtain ⟨id, -, hout⟩ := bind_eq_ok.mp hout
    have hreviewed := review_eq_ok hout
    refine served_of_resolves hreviewed.resolves fun a ha id status hreports => ?_
    cases hd : out.2.candidate with
    | none =>
      rw [hd] at ha
      cases ha
    | some d =>
      rw [hd] at ha
      obtain rfl := Except.ok.inj ha
      obtain ⟨rfl, rfl⟩ := hreports
      obtain ⟨hdb, c, hc, hcid, hpending, -⟩ := hreviewed.shown d hd
      exact ⟨c, by rw [hdb]; exact hc, hcid, hpending⟩
  · exact served_of_error

/-- So is a rejection. -/
theorem served_of_reject {candidateId : JsString}
    (h : serve env clock db principal (.reject candidateId) = (db', answer)) :
    Served env db principal (.reject candidateId) db' answer := by
  rcases commit_cases h with ⟨out, hout, rfl, rfl⟩ | ⟨rfl, error, rfl⟩
  · obtain ⟨id, -, hout⟩ := bind_eq_ok.mp hout
    have hreviewed := review_eq_ok hout
    refine served_of_resolves hreviewed.resolves fun a ha id status hreports => ?_
    cases hr : out.2.rejection with
    | none =>
      rw [hr] at ha
      cases ha
    | some r =>
      rw [hr] at ha
      obtain rfl := Except.ok.inj ha
      obtain ⟨rfl, rfl⟩ := hreports
      exact hreviewed.rejected r hr
  · exact served_of_error

end Review

/-- **Every request.** -/
theorem served_of_serve (h : serve env clock db principal request = (db', answer)) :
    Served env db principal request db' answer := by
  cases request with
  | reserve candidateId value =>
    rcases commit_cases h with ⟨out, hout, rfl, rfl⟩ | ⟨rfl, error, rfl⟩
    · exact served_of_reserve hout
    · exact served_of_error
  | status candidateId =>
    rcases commit_cases h with ⟨out, hout, rfl, rfl⟩ | ⟨rfl, error, rfl⟩
    · exact served_of_own (status_eq_ok hout).1 (status_eq_ok hout).2
    · exact served_of_error
  | cancel candidateId =>
    rcases commit_cases h with ⟨out, hout, rfl, rfl⟩ | ⟨rfl, error, rfl⟩
    · exact served_of_own (cancel_eq_ok hout).1 (cancel_eq_ok hout).2
    · exact served_of_error
  | pending => exact served_of_pending h
  | detail candidateId => exact served_of_detail h
  | reject candidateId => exact served_of_reject h
  | openFlow candidateId flowId transactionId body => exact served_of_open h
  | poll candidateId =>
    rcases commit_cases h with ⟨out, hout, rfl, rfl⟩ | ⟨rfl, error, rfl⟩
    · exact served_of_poll hout
    · exact served_of_error

end Quarantine

end SinoChat
