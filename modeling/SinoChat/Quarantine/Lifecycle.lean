import SinoChat.Common.JsonShape
import SinoChat.CrossSigning.Identity
import SinoChat.Quarantine.Runs
import SinoChat.Quarantine.Stored

/-!
# The lifecycle of the quarantine

A user has one pending candidate at most, and one pending flow, that of the candidate; a row
is resolved once and then stays (`quarantine_lifecycle`). What an answer reports as ended is
never reported otherwise (`answers_never_revive`). An id stands for one reservation and for
one admission, however often they are asked for (`reservations_agree`, `admissions_agree`).

The runs that show a hypothesis can be met are those of a client with a trusted device and a
session that waits for a second one (`Sample`): the session reserves a candidate, the device
asks for an admission, the session polls, and the device rejects the candidate. The keys are
signed, and the digests are those of SHA-256 at the texts of these runs.
-/

namespace SinoChat

open Js

namespace Quarantine

/-! ## A small quarantine -/

namespace Sample

open SinoChat.Sample (accounts clientId clientDevice clientSession clientKeys uuidOf hex fixed_hex
  digestAt)
open CrossSigning (MatrixCrossSigningIdentity MatrixDeviceKeys ed25519KeyId)
open CrossSigning.Sample (inPieces)
open KeyUpload (deviceKeysJson onlyDeviceKeys)

/-! ### A column -/

/-- The order of the keys in a column: the shorter first, then by their bytes. -/
def columnLe (a b : JsString) : Bool :=
  a.length < b.length || (a.length == b.length && codePointLe a b)

mutual

/-- What a column gives back. -/
def column : Json → Json
  | .arr items => .arr (columnItems items)
  | .obj entries => .obj ((columnEntries entries).insertionSort fun a b => columnLe a.1 b.1)
  | json => json

/-- The same for the items of a list. -/
def columnItems : List Json → List Json
  | [] => []
  | item :: rest => column item :: columnItems rest

/-- The same for the members of an object. -/
def columnEntries : List (JsString × Json) → List (JsString × Json)
  | [] => []
  | (key, value) :: rest => (key, column value) :: columnEntries rest

end

mutual

theorem same_column : ∀ value, Same value (column value)
  | .null => .null
  | .bool b => .bool b
  | .num n => .num n
  | .str s => .str s
  | .arr items => .arr (same_columnItems items)
  | .obj entries => .obj (same_columnEntries entries) (List.perm_insertionSort _ _).symm

theorem same_columnItems : ∀ items, SameItems items (columnItems items)
  | [] => .nil
  | item :: rest => .cons (same_column item) (same_columnItems rest)

theorem same_columnEntries : ∀ entries, SameEntries entries (columnEntries entries)
  | [] => .nil
  | (key, value) :: rest => .cons key (same_column value) (same_columnEntries rest)

end

/-! ### The parties -/

/-- The session that waits. -/
def waitingSession : Uuid := uuidOf 0x0c000000000040008000000000000005

/-- The id of the candidate. -/
def candidateId : Uuid := uuidOf 0x0c000000000040008000000000000006

/-- The session that waits. -/
def waiting : SessionPrincipal := ⟨clientId, .client, waitingSession, none⟩

/-- The session of the trusted device. -/
def trusted : SessionPrincipal := ⟨clientId, .client, clientSession, some clientDevice⟩

/-- The keys of the candidate, and its signature of them. -/
def device : MatrixDeviceKeys where
  userId := clientKeys.matrixUserId
  deviceId := js "D0C000000000040008000000000000006"
  ed25519 := inPieces ["odNrRTwUJ/WB4/R", "30fMVwKT7vZRzWH", "pGYGDWYog/wuU"]
  curve25519 := inPieces ["gMEBikyPHX/nUCu", "1k2+Ya0y+Q8/n5N", "ynlnrvs3BRgAc"]
  signatures := [(ed25519KeyId (js "D0C000000000040008000000000000006"), inPieces
    ["ykSh84vhZt0B6tB", "Go/pCGBuUpv2aaZ", "9JC18cOSdggn6aj",
     "SREx8DAmazhlK21", "GYPCl0fWU9oxOjF", "yL/LeC4jUBg"])]

/-- The identity that the trusted device has made. -/
def identity : MatrixCrossSigningIdentity where
  userId := clientId
  matrixUserId := clientKeys.matrixUserId
  bootstrapDeviceId := clientDevice
  masterKey := CrossSigning.Sample.identity.masterKey
  selfSigningKey := CrossSigning.Sample.identity.selfSigningKey
  userSigningKey := CrossSigning.Sample.identity.userSigningKey
  signingKeys := CrossSigning.Sample.request.signingKeys
  bootstrapSha256 := hex 64 0xd8c0eb3520c8b1c3b4e7c3831123a01a557ae8d7a68b1b77b34bd57d544ba08b
  createdAt := 500

/-- The accounts and the identity. -/
def backdrop : Backdrop where
  accounts := { accounts with
    deviceKeys := CrossSigning.Sample.directory.accounts.deviceKeys
    sessions := ⟨[⟨clientSession, clientId, some clientDevice, 1, 10000000000, none⟩,
      ⟨waitingSession, clientId, none, 1, 10000000000, none⟩], by decide +kernel⟩ }
  ed25519Key := fun deviceId =>
    if deviceId = clientDevice then some CrossSigning.Sample.device.ed25519 else none
  protocolVersion := fun _ => js "matrix-olm-v1"
  sessionCreatedAt := fun _ => 0
  identities := ⟨[identity], List.nodup_singleton _⟩
  certificates := ⟨[⟨clientDevice, clientId, .null, [], 500⟩], List.nodup_singleton _⟩
  registrations := []

/-- The database without a candidate. -/
def db : Db := ⟨backdrop, .empty, .empty⟩

/-! ### The bodies -/

/-- The content of the request, made at 1500. -/
def content : Json :=
  .obj [(js "from_device", .str clientKeys.matrixDeviceId),
    (js "methods", .arr [.str (js "m.sas.v1")]), (js "timestamp", .ofNat 1500),
    (js "transaction_id", .str (js "flow-1"))]

/-- The body of the request. -/
def body : Json :=
  .obj [(js "messages", .obj [(clientKeys.matrixUserId, .obj [(device.deviceId, content)])])]

/-- What the digest of the request is of. -/
def hashInput : Json :=
  .obj [(js "event_type", .str (js "m.key.verification.request")),
    (js "messages", .obj [(clientKeys.matrixUserId, .obj [(device.deviceId, content)])]),
    (js "pinned_master_key", .str identity.masterKey),
    (js "sender_device_id", .str clientKeys.matrixDeviceId),
    (js "transaction_id", .str (js "txn-1"))]

/-- The deployment with these digests. -/
def env : Env where
  serverName := js "chat.example"
  scheme := CrossSigning.Sample.scheme
  sha256Hex := fun bytes => hex 64
    (if some bytes = (encodeMatrixCanonicalJson (deviceKeysJson device)).toOption then
      0x781df31c6c7d03152f5c0f298a1bd4fc285276968d4685ec5c2c99556e971955 else 0)
  crypto :=
    { CrossSigning.Sample.crypto with
      sha256Hex := fun text => hex 64 (digestAt [((encodeCanonical hashInput).getD [],
        0x9a623278ce6ce01ae7c865582eada635821cf20c4993a0a7fed25ca9ff77a168)] text)
      sha256_format := fun _ => fixed_hex _ _ }
  jsonb := column
  jsonb_same := fun value _ => same_column value

/-! ### The calls -/

/-- All readings of one transaction. -/
def at_ (now : ℕ) : Readings :=
  ⟨now, now, now, ⟨now, now, now⟩, now, now, ⟨now, now, now⟩, now⟩

/-- The candidate is reserved. -/
def reservation : Request := .reserve candidateId.text (onlyDeviceKeys (deviceKeysJson device))

/-- The admission is asked for. -/
def admission : Request := .openFlow candidateId.text (js "flow-1") (js "txn-1") body

/-- The state and the answer behind the first call. -/
def reserved : Db × Except HttpException Answer := serve env (at_ 1000) db waiting reservation

/-- The reservation is repeated. -/
def repeated : Db × Except HttpException Answer :=
  serve env (at_ 1200) reserved.1 waiting reservation

def admitted : Db × Except HttpException Answer :=
  serve env (at_ 2000) repeated.1 trusted admission

/-- The admission is repeated. -/
def readmitted : Db × Except HttpException Answer :=
  serve env (at_ 2200) admitted.1 trusted admission

def polled : Db × Except HttpException Answer :=
  serve env (at_ 3000) readmitted.1 waiting (.poll candidateId.text)

def rejected : Db × Except HttpException Answer :=
  serve env (at_ 4000) polled.1 trusted (.reject candidateId.text)

/-- The clock has gone back. -/
def shown : Db × Except HttpException Answer :=
  serve env (at_ 1500) rejected.1 waiting (.status candidateId.text)

theorem reservation_parsed : reservation.Parsed :=
  ⟨List.nodup_singleton _, ⟨KeyUpload.deviceKeysJson_nodup device, ⟨trivial, trivial, trivial⟩,
    trivial, ⟨by decide, trivial, trivial, trivial⟩, ⟨List.nodup_singleton _,
      ⟨List.nodup_singleton _, trivial, trivial⟩, trivial⟩, trivial, trivial⟩, trivial⟩

theorem content_distinct : content.Distinct :=
  ⟨by decide, trivial, ⟨trivial, trivial⟩, trivial, trivial, trivial⟩

theorem admission_parsed : admission.Parsed :=
  ⟨List.nodup_singleton _, ⟨List.nodup_singleton _, ⟨List.nodup_singleton _, content_distinct,
    trivial⟩, trivial⟩, trivial⟩

/-! ### The answers -/

def candidateOf : Except HttpException Answer →
    Option MatrixDeviceCandidatesService.MatrixDeviceCandidateStatus
  | .ok (.candidate status) => some status
  | _ => none

def admissionOf : Except HttpException Answer →
    Option MatrixDeviceVerificationService.MatrixVerificationAdmission
  | .ok (.admission admission) => some admission
  | _ => none

def rejectionOf : Except HttpException Answer →
    Option MatrixDeviceCandidateReviewService.MatrixCandidateRejection
  | .ok (.rejection rejection) => some rejection
  | _ => none

def deliveredOf : Except HttpException Answer →
    Option MatrixDeviceVerificationInboxService.MatrixVerificationIncomingRequest
  | .ok (.inbox request) => request
  | _ => none

theorem candidateOf_eq_some {answer : Except HttpException Answer}
    {status : MatrixDeviceCandidatesService.MatrixDeviceCandidateStatus}
    (h : candidateOf answer = some status) : answer = .ok (.candidate status) := by
  unfold candidateOf at h
  split at h
  · rw [Option.some.inj h]
  · cases h

theorem admissionOf_eq_some {answer : Except HttpException Answer}
    {admission : MatrixDeviceVerificationService.MatrixVerificationAdmission}
    (h : admissionOf answer = some admission) : answer = .ok (.admission admission) := by
  unfold admissionOf at h
  split at h
  · rw [Option.some.inj h]
  · cases h

theorem rejectionOf_eq_some {answer : Except HttpException Answer}
    {rejection : MatrixDeviceCandidateReviewService.MatrixCandidateRejection}
    (h : rejectionOf answer = some rejection) : answer = .ok (.rejection rejection) := by
  unfold rejectionOf at h
  split at h
  · rw [Option.some.inj h]
  · cases h

theorem deliveredOf_eq_some {answer : Except HttpException Answer}
    {request : MatrixDeviceVerificationInboxService.MatrixVerificationIncomingRequest}
    (h : deliveredOf answer = some request) : answer = .ok (.inbox (some request)) := by
  unfold deliveredOf at h
  split at h
  · rw [h]
  · cases h

/-- The candidate as it is shown. -/
def shownAs (state : Status) : MatrixDeviceCandidatesService.MatrixDeviceCandidateStatus :=
  ⟨candidateId, state, clientKeys.matrixUserId, device.deviceId, 1000, 601000⟩

/-- The answers, and the rows behind the admission. -/
theorem computed : (candidateOf reserved.2 = some (shownAs .pending) ∧
    candidateOf repeated.2 = some (shownAs .pending) ∧
    admissionOf admitted.2 = some ⟨candidateId, js "flow-1", 2000, 601000⟩ ∧
    admissionOf readmitted.2 = some ⟨candidateId, js "flow-1", 2000, 601000⟩ ∧
    (deliveredOf polled.2).isSome = true ∧
    rejectionOf rejected.2 = some ⟨candidateId, .cancelled⟩ ∧
    candidateOf shown.2 = some (shownAs .cancelled)) ∧
    (readmitted.1.candidates.find? candidateId).any (fun c =>
      decide (c.userId = clientId ∧ c.sessionId = waitingSession ∧ c.sessionVersion = 1 ∧
        c.trustedDeviceId = clientDevice)) = true ∧
    (readmitted.1.flows.find? candidateId).any (fun f =>
      decide ((f.status = .pending ∧ f.reviewerSessionId = clientSession ∧
        f.reviewerSessionVersion = 1) ∧ f.createdAt = 2000 ∧ f.expiresAt = 601000)) = true := by
  decide +kernel

theorem answers : candidateOf reserved.2 = some (shownAs .pending) ∧
    candidateOf repeated.2 = some (shownAs .pending) ∧
    admissionOf admitted.2 = some ⟨candidateId, js "flow-1", 2000, 601000⟩ ∧
    admissionOf readmitted.2 = some ⟨candidateId, js "flow-1", 2000, 601000⟩ ∧
    (deliveredOf polled.2).isSome = true ∧
    rejectionOf rejected.2 = some ⟨candidateId, .cancelled⟩ ∧
    candidateOf shown.2 = some (shownAs .cancelled) :=
  computed.1

/-! ### The run -/

theorem serve_step (db : Db) (principal : SessionPrincipal) (clock : Readings) (request : Request)
    (h : request.Parsed) : (quarantine env).step db
      (.served principal clock request (serve env clock db principal request).2)
      (serve env clock db principal request).1 := Step.served h rfl

/-- The calls so far, the last one first. -/
def trace : List Event :=
  [.served trusted (at_ 2200) admission readmitted.2,
    .served trusted (at_ 2000) admission admitted.2,
    .served waiting (at_ 1200) reservation repeated.2,
    .served waiting (at_ 1000) reservation reserved.2]

theorem init : (quarantine env).init db := ⟨rfl, rfl⟩

theorem run : (quarantine env).Run trace readmitted.1 :=
  have hreserved := (Machine.Run.init init).step
    (serve_step db waiting (at_ 1000) reservation reservation_parsed)
  have hrepeated := hreserved.step
    (serve_step reserved.1 waiting (at_ 1200) reservation reservation_parsed)
  have hadmitted := hrepeated.step
    (serve_step repeated.1 trusted (at_ 2000) admission admission_parsed)
  hadmitted.step (serve_step admitted.1 trusted (at_ 2200) admission admission_parsed)

theorem mem_reserved : .served waiting (at_ 1000) reservation
    (.ok (.candidate (shownAs .pending))) ∈ trace := by
  rw [← candidateOf_eq_some answers.1]
  exact .tail _ (.tail _ (.tail _ (.head _)))

theorem mem_repeated : .served waiting (at_ 1200) reservation
    (.ok (.candidate (shownAs .pending))) ∈ trace := by
  rw [← candidateOf_eq_some answers.2.1]
  exact .tail _ (.tail _ (.head _))

theorem mem_admitted : .served trusted (at_ 2000) admission
    (.ok (.admission ⟨candidateId, js "flow-1", 2000, 601000⟩)) ∈ trace := by
  rw [← admissionOf_eq_some answers.2.2.1]
  exact .tail _ (.head _)

theorem mem_readmitted : .served trusted (at_ 2200) admission
    (.ok (.admission ⟨candidateId, js "flow-1", 2000, 601000⟩)) ∈ trace := by
  rw [← admissionOf_eq_some answers.2.2.2.1]
  exact .head _

/-- The rows of the candidate and of the flow. -/
structure Rows (c : MatrixDeviceCandidate) (f : MatrixDeviceVerificationFlow) : Prop where
  candidate : c ∈ readmitted.1.candidates
  flow : f ∈ readmitted.1.flows
  ids : c.id = candidateId ∧ f.candidateId = candidateId
  requester : c.userId = clientId ∧ c.sessionId = waitingSession ∧ c.sessionVersion = 1 ∧
    c.trustedDeviceId = clientDevice
  reviewer : f.status = .pending ∧ f.reviewerSessionId = clientSession ∧
    f.reviewerSessionVersion = 1
  window : f.createdAt = 2000 ∧ f.expiresAt = 601000

theorem exists_rows : ∃ c f, Rows c f := by
  have hcheck := computed.2
  obtain ⟨c, hc, hrequester⟩ := (Option.any_eq_true _ _).mp hcheck.1
  obtain ⟨f, hf, hreviewer⟩ := (Option.any_eq_true _ _).mp hcheck.2
  obtain ⟨hmem, hid⟩ := Table.find?_eq_some.mp hc
  obtain ⟨hmem', hid'⟩ := Table.find?_eq_some.mp hf
  exact ⟨c, f, hmem, hmem', ⟨hid, hid'⟩, of_decide_eq_true hrequester,
    (of_decide_eq_true hreviewer).1, (of_decide_eq_true hreviewer).2⟩

theorem backdrop_readmitted : readmitted.1.backdrop = backdrop := by
  have hserve : ∀ (db : Db) (principal : SessionPrincipal) (clock : Readings) (request : Request),
      (serve env clock db principal request).1.backdrop = db.backdrop := fun _ _ _ _ =>
    (served_of_serve rfl).change.backdrop
  calc readmitted.1.backdrop = admitted.1.backdrop := hserve _ _ _ _
    _ = repeated.1.backdrop := hserve _ _ _ _
    _ = reserved.1.backdrop := hserve _ _ _ _
    _ = backdrop := hserve db _ _ _

/-- The calls behind the admission. -/
def later : List Event :=
  [.served waiting (at_ 1500) (.status candidateId.text) shown.2,
    .served trusted (at_ 4000) (.reject candidateId.text) rejected.2,
    .served waiting (at_ 3000) (.poll candidateId.text) polled.2]

theorem steps : (quarantine env).Steps readmitted.1 later shown.1 :=
  have hpolled := Machine.Steps.refl.step
    (serve_step readmitted.1 waiting (at_ 3000) (.poll candidateId.text) trivial)
  have hrejected := hpolled.step
    (serve_step polled.1 trusted (at_ 4000) (.reject candidateId.text) trivial)
  hrejected.step
    (serve_step rejected.1 waiting (at_ 1500) (.status candidateId.text) trivial)

end Sample

/-! ## Rows -/

open MatrixDeviceCandidatesService (MatrixDeviceCandidateStatus)
open MatrixDeviceVerificationService (MatrixVerificationAdmission summary)

variable {env : Env} {db db' : Db} {trace later earlier : List Event}

/-- The pending flow of a user is that of the pending candidate. -/
theorem Inv.flow_unique (hinv : Inv db) {f f' : MatrixDeviceVerificationFlow} (hf : f ∈ db.flows)
    (hf' : f' ∈ db.flows) (huser : f.userId = f'.userId) (hpending : f.status = .pending)
    (hpending' : f'.status = .pending) : f = f' := by
  obtain ⟨c, hc, hid, hjoined⟩ := hinv.joined f hf
  obtain ⟨c', hc', hid', hjoined'⟩ := hinv.joined f' hf'
  have hcc : c = c' := by
    refine hinv.onePending c hc c' hc' ?_ (hjoined.pending hpending) (hjoined'.pending hpending')
    rw [hjoined.userId, hjoined'.userId, huser]
  refine Table.eq_of_key_eq hf hf' ?_
  rw [← hid, ← hid', hcc]

/-- **The lifecycle of the quarantine.** Every reachable state has the invariant, with one
pending flow of a user at most; in the steps that follow every row stays, or is resolved. -/
theorem quarantine_lifecycle (h : (quarantine env).Run trace db)
    (hsteps : (quarantine env).Steps db later db') :
    Inv db ∧
    (∀ f ∈ db.flows, ∀ f' ∈ db.flows, f.userId = f'.userId → f.status = .pending →
      f'.status = .pending → f = f') ∧
    (∀ c ∈ db.candidates, ∃ c' ∈ db'.candidates, c.Becomes c') ∧
    (∀ f ∈ db.flows, ∃ f' ∈ db'.flows, f.Becomes f') := by
  have hinv := inv_of_run h
  have hgrows := grows_of_steps hsteps
  exact ⟨hinv, fun f hf f' hf' => hinv.flow_unique hf hf', hgrows.candidates, hgrows.flows⟩

/-- A candidate and its flow, and how they end. -/
theorem quarantine_lifecycle_rejected :
    Inv Sample.readmitted.1 ∧
    (∀ f ∈ Sample.readmitted.1.flows, ∀ f' ∈ Sample.readmitted.1.flows, f.userId = f'.userId →
      f.status = .pending → f'.status = .pending → f = f') ∧
    (∀ c ∈ Sample.readmitted.1.candidates, ∃ c' ∈ Sample.shown.1.candidates, c.Becomes c') ∧
    (∀ f ∈ Sample.readmitted.1.flows, ∃ f' ∈ Sample.shown.1.flows, f.Becomes f') :=
  quarantine_lifecycle Sample.run Sample.steps

/-! ## Answers -/

/-- The row that the answer of a run's last call reports. -/
theorem row_of_answer {principal : SessionPrincipal} {clock : Readings} {request : Request}
    {answer : Answer} {id : Uuid} {status : Status}
    (h : (quarantine env).Run (.served principal clock request (.ok answer) :: earlier) db)
    (hreports : answer.Reports id status) :
    ∃ c ∈ db.candidates, c.id = id ∧ c.status = status := by
  cases h with
  | step hrun hstep => exact (served_of_step hstep).2.reports answer rfl id status hreports

/-- **What ended is over.** Behind an answer that reports a candidate as ended every answer
that reports the candidate says the same, whatever the clock reads; so it is shown, admitted
or delivered no more. -/
theorem answers_never_revive {principal principal' : SessionPrincipal} {clock clock' : Readings}
    {request request' : Request} {answer answer' : Answer} {id : Uuid} {status status' : Status}
    (h : (quarantine env).Run
      (later ++ .served principal clock request (.ok answer) :: earlier) db)
    (hreports : answer.Reports id status) (hends : status ≠ .pending)
    (hlater : .served principal' clock' request' (.ok answer') ∈ later)
    (hreports' : answer'.Reports id status') : status' = status := by
  obtain ⟨behind, between, rfl⟩ := List.append_of_mem hlater
  rw [List.append_assoc, List.cons_append] at h
  -- cut the run behind the later answer, and there behind the earlier one
  obtain ⟨t', hrun', -⟩ := h.split
  obtain ⟨t, hrun, hsteps⟩ := @Machine.Run.split _ _ _ (_ :: between) _ _ hrun'
  obtain ⟨c, hc, hid, hstatus⟩ := row_of_answer hrun hreports
  obtain ⟨c', hc', hid', hstatus'⟩ := row_of_answer hrun' hreports'
  have hbecomes := (grows_of_steps hsteps).candidate hc hc' (hid'.trans hid.symm)
  have hsame : c' = c := hbecomes.eq_of_resolved (by rwa [hstatus])
  rw [← hstatus', ← hstatus, hsame]

/-- The candidate is rejected, and the clock goes back. -/
theorem answers_never_revive_rejected : (Sample.shownAs .cancelled).state = .cancelled := by
  obtain ⟨-, -, -, -, -, hrejected, hshown⟩ := Sample.answers
  have hrun := Sample.run.append Sample.steps
  rw [Sample.later, Sample.rejectionOf_eq_some hrejected, Sample.candidateOf_eq_some hshown] at hrun
  have hcut : (quarantine Sample.env).Run ([_] ++ _ :: _ :: Sample.trace) _ := hrun
  exact answers_never_revive hcut ⟨rfl, rfl⟩ (by decide) List.mem_cons_self ⟨rfl, rfl⟩

/-! ## Repeated calls -/

/-- What a reservation that was answered says of its row. -/
structure ReservationRow (env : Env) (principal : SessionPrincipal) (value : Json)
    (a : MatrixDeviceCandidateStatus) (c : MatrixDeviceCandidate) : Prop where
  id : c.id = a.candidateId
  createdAt : c.createdAt = a.createdAt
  expiresAt : c.expiresAt = a.expiresAt
  userId : c.userId = principal.id
  sessionId : c.sessionId = principal.sessionId
  digest : ∃ parsed, MatrixDeviceCandidatesService.parseBody env principal a.candidateId value =
    .ok parsed ∧ c.canonicalSha256 = parsed.canonicalSha256

theorem ReservationRow.becomes {principal : SessionPrincipal} {value : Json}
    {a : MatrixDeviceCandidateStatus} {c c' : MatrixDeviceCandidate}
    (h : ReservationRow env principal value a c) (hc : c.Becomes c') :
    ReservationRow env principal value a c' := by
  rcases hc with rfl | ⟨-, status, resolvedAt, -, rfl⟩
  · exact h
  · exact ⟨h.id, h.createdAt, h.expiresAt, h.userId, h.sessionId, h.digest⟩

/-- The row of a reservation, where the run ends. -/
theorem row_of_reservation {principal : SessionPrincipal} {clock : Readings} {text : JsString}
    {value : Json} {a : MatrixDeviceCandidateStatus} (h : (quarantine env).Run trace db)
    (hmem : .served principal clock (.reserve text value) (.ok (.candidate a)) ∈ trace) :
    text = a.candidateId.text ∧ ∃ c ∈ db.candidates, ReservationRow env principal value a c := by
  obtain ⟨later, earlier, t, t', rfl, -, hstep, hsteps⟩ := h.of_mem hmem
  cases hstep with
  | served hparsed hserve =>
    rcases commit_cases hserve with ⟨out, hout, rfl, hanswer⟩ | ⟨-, error, hanswer⟩
    · obtain rfl : a = out.2 := Answer.candidate.inj (Except.ok.inj hanswer)
      obtain ⟨htext, ⟨c, hc, hid, -, hcreated, hexpires, huser, hsession⟩, parsed, hparsed,
        ⟨c', hc', hid', hrepeats⟩, -⟩ := reserve_eq_ok hout
      obtain rfl : c' = c := Table.eq_of_key_eq hc' hc (hid'.trans hid.symm)
      have hrow : ReservationRow env principal value out.2 c' :=
        ⟨hid, hcreated, hexpires, huser, hsession, parsed, hparsed, hrepeats.canonicalSha256⟩
      obtain ⟨last, hlast, hbecomes⟩ := (grows_of_steps hsteps).candidates c' hc'
      exact ⟨htext, last, hlast, hrow.becomes hbecomes⟩
    · cases hanswer

/-- **An id is reserved once.** The reservations of an id that were answered are of one user
and one session, for keys of one digest, and they were answered with one row. -/
theorem reservations_agree {principal principal' : SessionPrincipal} {clock clock' : Readings}
    {text : JsString} {value value' : Json} {a a' : MatrixDeviceCandidateStatus}
    (h : (quarantine env).Run trace db)
    (hmem : .served principal clock (.reserve text value) (.ok (.candidate a)) ∈ trace)
    (hmem' : .served principal' clock' (.reserve text value') (.ok (.candidate a')) ∈ trace) :
    principal.id = principal'.id ∧ principal.sessionId = principal'.sessionId ∧
    a.candidateId = a'.candidateId ∧ a.createdAt = a'.createdAt ∧ a.expiresAt = a'.expiresAt ∧
    ∃ parsed parsed',
      MatrixDeviceCandidatesService.parseBody env principal a.candidateId value = .ok parsed ∧
      MatrixDeviceCandidatesService.parseBody env principal a.candidateId value' = .ok parsed' ∧
      parsed.canonicalSha256 = parsed'.canonicalSha256 := by
  obtain ⟨htext, c, hc, hrow⟩ := row_of_reservation h hmem
  obtain ⟨htext', c', hc', hrow'⟩ := row_of_reservation h hmem'
  have hid : a.candidateId = a'.candidateId := Uuid.text_injective (htext.symm.trans htext')
  obtain rfl : c' = c :=
    Table.eq_of_key_eq hc' hc (hrow'.id.trans (hid.symm.trans hrow.id.symm))
  obtain ⟨parsed, hparsed, hdigest⟩ := hrow.digest
  obtain ⟨parsed', hparsed', hdigest'⟩ := hrow'.digest
  have huser : principal.id = principal'.id := hrow.userId.symm.trans hrow'.userId
  refine ⟨huser, hrow.sessionId.symm.trans hrow'.sessionId, hid,
    hrow.createdAt.symm.trans hrow'.createdAt, hrow.expiresAt.symm.trans hrow'.expiresAt, parsed,
    parsed', hparsed, ?_, hdigest.symm.trans hdigest'⟩
  rw [hid]
  unfold MatrixDeviceCandidatesService.parseBody at hparsed' ⊢
  rwa [huser]

/-- A reservation and its repetition. -/
theorem reservations_agree_repeated : ∃ parsed parsed',
    MatrixDeviceCandidatesService.parseBody Sample.env Sample.waiting Sample.candidateId
      (KeyUpload.onlyDeviceKeys (KeyUpload.deviceKeysJson Sample.device)) = .ok parsed ∧
    MatrixDeviceCandidatesService.parseBody Sample.env Sample.waiting Sample.candidateId
      (KeyUpload.onlyDeviceKeys (KeyUpload.deviceKeysJson Sample.device)) = .ok parsed' ∧
    parsed.canonicalSha256 = parsed'.canonicalSha256 :=
  (reservations_agree Sample.run Sample.mem_reserved Sample.mem_repeated).2.2.2.2.2

/-- What an admission that was answered says of its row. -/
structure AdmissionRow (env : Env) (backdrop : Backdrop) (principal : SessionPrincipal)
    (flowId transactionId : JsString) (body : Json) (a : MatrixVerificationAdmission)
    (c : MatrixDeviceCandidate) (f : MatrixDeviceVerificationFlow) : Prop where
  candidate : c.id = f.candidateId
  summary : a = summary f
  flowId : f.flowId = flowId
  transactionId : f.requestTransactionId = transactionId
  userId : f.userId = principal.id
  reviewerSessionId : f.reviewerSessionId = principal.sessionId
  request : RequestOf env backdrop principal body c f

theorem AdmissionRow.becomes {backdrop backdrop' : Backdrop} {principal : SessionPrincipal}
    {flowId transactionId : JsString} {body : Json} {a : MatrixVerificationAdmission}
    {c c' : MatrixDeviceCandidate} {f f' : MatrixDeviceVerificationFlow}
    (h : AdmissionRow env backdrop principal flowId transactionId body a c f)
    (hkeeps : backdrop.KeepsIdentities backdrop') (hc : c.Becomes c') (hf : f.Becomes f') :
    AdmissionRow env backdrop' principal flowId transactionId body a c' f' := by
  have hrequest := h.request
  obtain ⟨identity, request, hfind, hrest⟩ := hrequest
  have hrequest' : RequestOf env backdrop' principal body c f :=
    ⟨identity, request, hkeeps _ _ hfind, hrest⟩
  rcases hc with rfl | ⟨-, status, resolvedAt, -, rfl⟩ <;>
    rcases hf with rfl | ⟨-, status', resolvedAt', -, rfl⟩ <;>
    exact ⟨h.candidate, h.summary, h.flowId, h.transactionId, h.userId, h.reviewerSessionId,
      hrequest'⟩

/-- The row of an admission, where the run ends. -/
theorem row_of_admission {principal : SessionPrincipal} {clock : Readings}
    {text flowId transactionId : JsString} {body : Json} {a : MatrixVerificationAdmission}
    (h : (quarantine env).Run trace db)
    (hmem : .served principal clock (.openFlow text flowId transactionId body)
      (.ok (.admission a)) ∈ trace) :
    text = a.candidateId.text ∧ ∃ c ∈ db.candidates, ∃ f ∈ db.flows,
      AdmissionRow env db.backdrop principal flowId transactionId body a c f := by
  obtain ⟨later, earlier, t, t', rfl, -, hstep, hsteps⟩ := h.of_mem hmem
  have hkeeps := keepsIdentities_of_step hstep
  have hgrows := grows_of_step hstep
  cases hstep with
  | served hparsed hserve =>
    rcases commit_cases hserve with ⟨out, hout, rfl, hanswer⟩ | ⟨-, error, hanswer⟩
    · obtain ⟨ids, hids, hout⟩ := bind_eq_ok.mp hout
      obtain ⟨hdevice, htext⟩ := requireIds_eq_ok hids
      rcases openIn_eq_ok hdevice hout with ⟨hnone, -⟩ | ⟨c, hc, hcid, -, f, hf, hfid, hflow, htxn,
        huser, hsession, hrequest, hsome, -⟩
      · rw [hnone] at hanswer
        cases hanswer
      · rw [hsome] at hanswer
        obtain rfl : a = summary f := Answer.admission.inj (Except.ok.inj hanswer)
        have hrow : AdmissionRow env t.backdrop principal flowId transactionId body (summary f)
            c f := ⟨hcid.trans hfid.symm, rfl, hflow, htxn, huser, hsession, hrequest⟩
        obtain ⟨c', hc', hbecomes⟩ := (hgrows.trans (grows_of_steps hsteps)).candidates c hc
        obtain ⟨f', hf', hbecomes'⟩ := (grows_of_steps hsteps).flows f hf
        refine ⟨htext.trans (by rw [← hfid]; rfl), c', hc', f', hf', ?_⟩
        exact hrow.becomes (fun userId identity hfind =>
          keepsIdentities_of_steps hsteps _ _ (hkeeps _ _ hfind)) hbecomes hbecomes'
    · cases hanswer

/-- **A candidate has one admission.** The admissions of a candidate that were answered were
asked for by one session, for one flow and one transaction, with requests that parse under
the scope of the candidate's flow to the digest stored with it, and they were answered with
that flow. -/
theorem admissions_agree {principal principal' : SessionPrincipal} {clock clock' : Readings}
    {text flowId flowId' transactionId transactionId' : JsString} {body body' : Json}
    {a a' : MatrixVerificationAdmission} (h : (quarantine env).Run trace db)
    (hmem : .served principal clock (.openFlow text flowId transactionId body)
      (.ok (.admission a)) ∈ trace)
    (hmem' : .served principal' clock' (.openFlow text flowId' transactionId' body')
      (.ok (.admission a')) ∈ trace) :
    principal.id = principal'.id ∧ principal.sessionId = principal'.sessionId ∧
    flowId = flowId' ∧ transactionId = transactionId' ∧ a = a' ∧
    ∃ c ∈ db.candidates, ∃ f ∈ db.flows, c.id = f.candidateId ∧ a = summary f ∧
      RequestOf env db.backdrop principal body c f ∧
      RequestOf env db.backdrop principal body' c f := by
  obtain ⟨htext, c, hc, f, hf, hrow⟩ := row_of_admission h hmem
  obtain ⟨htext', c', hc', f', hf', hrow'⟩ := row_of_admission h hmem'
  have hid : a.candidateId = a'.candidateId := Uuid.text_injective (htext.symm.trans htext')
  have hfid : f'.candidateId = f.candidateId := by
    have hleft := congrArg MatrixVerificationAdmission.candidateId hrow.summary
    have hright := congrArg MatrixVerificationAdmission.candidateId hrow'.summary
    exact hright.symm.trans (hid.symm.trans hleft)
  obtain rfl : f' = f := Table.eq_of_key_eq hf' hf hfid
  obtain rfl : c' = c := Table.eq_of_key_eq hc' hc (hrow'.candidate.trans hrow.candidate.symm)
  have huser : principal.id = principal'.id := hrow.userId.symm.trans hrow'.userId
  refine ⟨huser, hrow.reviewerSessionId.symm.trans hrow'.reviewerSessionId,
    hrow.flowId.symm.trans hrow'.flowId, hrow.transactionId.symm.trans hrow'.transactionId,
    hrow.summary.trans hrow'.summary.symm, c', hc, f', hf, hrow.candidate, hrow.summary,
    hrow.request, ?_⟩
  have hrequest := hrow'.request
  unfold RequestOf at hrequest ⊢
  rwa [huser]

/-- An admission and its repetition. -/
theorem admissions_agree_repeated : ∃ c ∈ Sample.readmitted.1.candidates,
    ∃ f ∈ Sample.readmitted.1.flows, c.id = f.candidateId ∧
      (⟨Sample.candidateId, js "flow-1", 2000, 601000⟩ : MatrixVerificationAdmission) = summary f ∧
      RequestOf Sample.env Sample.readmitted.1.backdrop Sample.trusted Sample.body c f ∧
      RequestOf Sample.env Sample.readmitted.1.backdrop Sample.trusted Sample.body c f :=
  (admissions_agree Sample.run Sample.mem_admitted Sample.mem_readmitted).2.2.2.2.2

end Quarantine

end SinoChat
