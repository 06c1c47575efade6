import SinoChat.Quarantine.Writes

/-!
# What a call does to the quarantine

Every call resolves candidates, or adds the candidate of a reservation or the flow of an
admission, and nothing else (`Change`); and what its answer says of a candidate stands in
the tables it leaves (`Answer.Reports`). One lemma says so of each service, and one of all
(`served_of_serve`).
-/

namespace SinoChat

open Js

namespace Quarantine

open CrossSigning (MatrixCrossSigningIdentity)
open MessagePayload (matrixDeviceIdFromUuid)
open SasToDevice (MatrixSasToDeviceRequest parseMatrixSasToDeviceRequest Verification)

variable {env : Env} {db db' db'' : Db} {clock : Readings} {principal : SessionPrincipal}
variable {error : HttpException}

/-! ## Changes -/

/-- **A change of the tables**: the rows stay or are resolved, the others are new as `N` and
`F` say. -/
structure Change (N : MatrixDeviceCandidate → Prop) (F : MatrixDeviceVerificationFlow → Prop)
    (db db' : Db) : Prop where
  backdrop : db'.backdrop = db.backdrop
  grows : Grows db db'
  inv : Inv db → Inv db'
  candidates : ∀ c' ∈ db'.candidates, (∃ c ∈ db.candidates, c.Becomes c') ∨ N c'
  flows : ∀ f' ∈ db'.flows, (∃ f ∈ db.flows, f.Becomes f') ∨ F f'

section Change

variable {N : MatrixDeviceCandidate → Prop} {F : MatrixDeviceVerificationFlow → Prop}

/-- Nothing changes. -/
theorem Change.refl (db : Db) : Change N F db db :=
  ⟨rfl, .refl db, id, fun c hc => .inl ⟨c, hc, .inl rfl⟩, fun f hf => .inl ⟨f, hf, .inl rfl⟩⟩

/-- A change, then one that adds no row. -/
theorem Change.trans (hN : ∀ c c', N c → c.Becomes c' → N c')
    (hF : ∀ f f', F f → f.Becomes f' → F f') (h : Change N F db db')
    (h' : Change (fun _ => False) (fun _ => False) db' db'') : Change N F db db'' := by
  refine ⟨h'.backdrop.trans h.backdrop, h.grows.trans h'.grows, fun hinv => h'.inv (h.inv hinv),
    fun c'' hc'' => ?_, fun f'' hf'' => ?_⟩
  · obtain ⟨c', hc', hbecomes'⟩ := (h'.candidates c'' hc'').resolve_right id
    rcases h.candidates c' hc' with ⟨c, hc, hbecomes⟩ | hnew
    · exact .inl ⟨c, hc, hbecomes.trans hbecomes'⟩
    · exact .inr (hN c' c'' hnew hbecomes')
  · obtain ⟨f', hf', hbecomes'⟩ := (h'.flows f'' hf'').resolve_right id
    rcases h.flows f' hf' with ⟨f, hf, hbecomes⟩ | hnew
    · exact .inl ⟨f, hf, hbecomes.trans hbecomes'⟩
    · exact .inr (hF f' f'' hnew hbecomes')

/-- A change that adds no row is a change. -/
theorem Change.mono (h : Change (fun _ => False) (fun _ => False) db db') : Change N F db db' :=
  ⟨h.backdrop, h.grows, h.inv, fun c hc => .inl ((h.candidates c hc).resolve_right id),
    fun f hf => .inl ((h.flows f hf).resolve_right id)⟩

/-- A change that adds no row, then a change. -/
theorem Change.after (h : Change (fun _ => False) (fun _ => False) db db')
    (h' : Change N F db' db'') : Change N F db db'' := by
  refine ⟨h'.backdrop.trans h.backdrop, h.grows.trans h'.grows, fun hinv => h'.inv (h.inv hinv),
    fun c'' hc'' => ?_, fun f'' hf'' => ?_⟩
  · rcases h'.candidates c'' hc'' with ⟨c', hc', hbecomes'⟩ | hnew
    · obtain ⟨c, hc, hbecomes⟩ := (h.candidates c' hc').resolve_right id
      exact .inl ⟨c, hc, hbecomes.trans hbecomes'⟩
    · exact .inr hnew
  · rcases h'.flows f'' hf'' with ⟨f', hf', hbecomes'⟩ | hnew
    · obtain ⟨f, hf, hbecomes⟩ := (h.flows f' hf').resolve_right id
      exact .inl ⟨f, hf, hbecomes.trans hbecomes'⟩
    · exact .inr hnew

end Change

/-- No row is new. -/
abbrev Resolves (db db' : Db) : Prop := Change (fun _ => False) (fun _ => False) db db'

/-- A resolution resolves. -/
theorem resolves_of_resolve {id : Uuid} {status : Status} {resolvedAt : ℕ}
    {readings : TriggerReadings} (h : db.resolve id status resolvedAt readings = .ok db') :
    Resolves db db' := by
  refine ⟨backdrop_of_resolve h, grows_of_resolve h, fun hinv => hinv.resolve h,
    fun c' hc' => ?_, fun f' hf' => ?_⟩
  · obtain ⟨c, hc, hresolvable, -, flows, hflows, rfl⟩ := resolve_eq_ok.mp h
    rcases (mem_resolved hc).mp hc' with rfl | ⟨hold, -⟩
    · exact .inl ⟨c, (Table.find?_eq_some.mp hc).1,
        .inr ⟨hresolvable.pending, _, _, hresolvable.ends, rfl⟩⟩
    · exact .inl ⟨c', hold, .inl rfl⟩
  · obtain ⟨c, hc, hresolvable, -, flows, hflows, rfl⟩ := resolve_eq_ok.mp h
    exact .inl (origin_of_cascade hflows hf')

/-- A new candidate is the only change. -/
theorem change_of_createCandidate {F : MatrixDeviceVerificationFlow → Prop}
    {row : MatrixDeviceCandidate} {checkedAt : ℕ}
    (h : db.createCandidate row checkedAt error = .ok db') : Change (· = row) F db db' := by
  have hgrows := grows_of_createCandidate h
  have hinv : Inv db → Inv db' := fun hinv => hinv.createCandidate h
  obtain ⟨-, -, -, hnew, rfl⟩ := createCandidate_eq_ok h
  refine ⟨rfl, hgrows, hinv, fun c hc => ?_, fun f hf => .inl ⟨f, hf, .inl rfl⟩⟩
  rcases (Table.mem_insert (h := hnew)).mp hc with hold | heq
  · exact .inl ⟨c, hold, .inl rfl⟩
  · exact .inr heq

/-- So is a new flow. -/
theorem change_of_createFlow {N : MatrixDeviceCandidate → Prop}
    {row : MatrixDeviceVerificationFlow} {checkedAt : ℕ}
    (h : db.createFlow row checkedAt error = .ok db') : Change N (· = row) db db' := by
  have hgrows := grows_of_createFlow h
  have hinv : Inv db → Inv db' := fun hinv => hinv.createFlow h
  obtain ⟨c, -, -, -, -, hnew, rfl⟩ := createFlow_eq_ok h
  refine ⟨rfl, hgrows, hinv, fun c hc => .inl ⟨c, hc, .inl rfl⟩, fun f hf => ?_⟩
  rcases (Table.mem_insert (h := hnew)).mp hf with hold | heq
  · exact .inl ⟨f, hold, .inl rfl⟩
  · exact .inr heq

/-- The row of a candidate behind a statement that resolves it. -/
theorem mem_of_resolve {id : Uuid} {status : Status} {resolvedAt : ℕ} {readings : TriggerReadings}
    {c : MatrixDeviceCandidate} (hc : db.candidates.find? id = some c)
    (h : db.resolve id status resolvedAt readings = .ok db') :
    c.resolve status resolvedAt ∈ db'.candidates := by
  obtain ⟨c', hc', -, -, flows, -, rfl⟩ := resolve_eq_ok.mp h
  obtain rfl := Option.some.inj (hc.symm.trans hc')
  exact (mem_resolved hc).mpr (.inl rfl)

/-- A new candidate is there. -/
theorem mem_candidates_of_createCandidate {row : MatrixDeviceCandidate} {checkedAt : ℕ}
    (h : db.createCandidate row checkedAt error = .ok db') : row ∈ db'.candidates := by
  obtain ⟨-, -, -, hnew, rfl⟩ := createCandidate_eq_ok h
  exact (Table.mem_insert (h := hnew)).mpr (.inr rfl)

/-- A candidate is found by its id. -/
theorem find?_of_mem {c : MatrixDeviceCandidate} (hc : c ∈ db.candidates) :
    db.candidates.find? c.id = some c := Table.find?_eq_some.mpr ⟨hc, rfl⟩

/-! ## Sessions -/

/-- The current session is one of the accounts. -/
theorem currentSession_eq_ok {backdrop : Backdrop} {subscriptionEndsAt : Option ℕ} {now : ℕ}
    {session : AuthSession}
    (h : currentSession backdrop principal subscriptionEndsAt error now = .ok session) :
    backdrop.accounts.sessions.find? principal.sessionId = some session ∧
      session.userId = principal.id ∧ session.deviceId = principal.deviceId ∧
      session.revokedAt = none ∧ now < session.expiresAt := by
  obtain ⟨found, hfound, h⟩ := bind_eq_ok.mp h
  obtain ⟨user, -, h⟩ := bind_eq_ok.mp h
  obtain ⟨_, hcheck, h⟩ := bind_eq_ok.mp h
  obtain rfl := Except.ok.inj h
  simp only [require_eq_ok, Bool.and_eq_true, beq_iff_eq, decide_eq_true_eq] at hcheck
  obtain ⟨⟨⟨⟨⟨⟨⟨⟨huser, hdevice⟩, hrevoked⟩, hexpires⟩, -⟩, -⟩, -⟩, -⟩, -⟩ := hcheck
  exact ⟨orThrow_eq_ok.mp hfound, huser, hdevice, hrevoked, hexpires⟩

/-- A canonical id is spelled as its text. -/
theorem text_of_canonicalId? {text : JsString} {id : Uuid} (h : canonicalId? text = some id) :
    text = id.text := by
  unfold canonicalId? at h
  split at h
  · unfold Uuid.ofText? at h
    split at h
    · obtain rfl := Option.some.inj h
      rfl
    · cases h
  · cases h

/-- A snapshot is what the row's keys are parsed as. -/
theorem publicSnapshot_eq_ok {row : MatrixDeviceCandidate}
    {parsed : KeyUpload.MatrixDeviceCandidate} :
    publicSnapshot env row error = .ok parsed ↔
      KeyUpload.parseMatrixDeviceCandidate env.scheme env.sha256Hex
        (.obj [(js "device_keys", row.deviceKeys)]) row.matrixUserId row.matrixDeviceId =
          .ok parsed ∧
      parsed.canonicalSha256 = row.canonicalSha256 ∧ parsed.ed25519Key = row.ed25519Key ∧
      parsed.curve25519Key = row.curve25519Key := by
  constructor
  · intro h
    obtain ⟨found, hfound, h⟩ := bind_eq_ok.mp h
    obtain ⟨_, hcheck, h⟩ := bind_eq_ok.mp h
    obtain rfl := Except.ok.inj h
    simp only [require_eq_ok, Bool.and_eq_true, beq_iff_eq] at hcheck
    exact ⟨ok_of_toOption (orThrow_eq_ok.mp hfound), hcheck.1.1, hcheck.1.2, hcheck.2⟩
  · rintro ⟨hparsed, hsha, hed, hcurve⟩
    refine bind_eq_ok.mpr ⟨parsed, by rw [hparsed]; rfl, bind_eq_ok.mpr ⟨(), ?_, rfl⟩⟩
    simp [hsha, hed, hcurve]

/-! ## Candidates -/

section Candidates

open MatrixDeviceCandidatesService

variable {context : CandidateContext} {made result : Db × MatrixDeviceCandidate} {live : Bool}

/-- A candidate is overdue if it is pending past its time. -/
theorem isOverdue_eq_true {c : MatrixDeviceCandidate} {now : ℕ} :
    MatrixDeviceCandidate.isOverdue c now = true ↔ c.status = .pending ∧ c.expiresAt ≤ now := by
  simp [MatrixDeviceCandidate.isOverdue]

/-- **The row as it is left**: the row of the operation, resolved where its time is over. -/
theorem latch_eq_ok (h : latch clock principal context live made = .ok result) :
    (result = made ∧ ¬ (made.2.status = .pending ∧ made.2.expiresAt ≤ clock.after)) ∨
    made.1.resolve made.2.id .expired clock.after clock.late = .ok result.1 ∧
      result.2 = made.2.resolve .expired clock.after := by
  obtain ⟨after, -, h⟩ := bind_eq_ok.mp h
  obtain ⟨_, -, h⟩ := bind_eq_ok.mp h
  obtain ⟨_, -, h⟩ := bind_eq_ok.mp h
  by_cases hover : MatrixDeviceCandidate.isOverdue made.2 clock.after = true
  · rw [if_pos hover] at h
    obtain ⟨db, hdb, h⟩ := bind_eq_ok.mp h
    obtain ⟨_, -, h⟩ := bind_eq_ok.mp h
    obtain rfl := Except.ok.inj h
    exact .inr ⟨hdb, rfl⟩
  · rw [if_neg hover] at h
    exact .inl ⟨(Except.ok.inj h).symm, fun h => hover (isOverdue_eq_true.mpr h)⟩

/-- The rows of a service call are those of its operation, and what it shows is there. -/
theorem latch_resolves (hmade : made.2 ∈ made.1.candidates)
    (h : latch clock principal context live made = .ok result) :
    Resolves made.1 result.1 ∧ result.2 ∈ result.1.candidates ∧
      (response result.2 clock.after).state = result.2.status := by
  rcases latch_eq_ok h with ⟨rfl, hlive⟩ | ⟨hresolve, hrow⟩
  · refine ⟨.refl _, hmade, ?_⟩
    have hover : ¬ MatrixDeviceCandidate.isOverdue result.2 clock.after = true :=
      fun h => hlive (isOverdue_eq_true.mp h)
    simp only [response, if_neg hover]
  · refine ⟨resolves_of_resolve hresolve, ?_, ?_⟩
    · rw [hrow]
      exact mem_of_resolve (find?_of_mem hmade) hresolve
    · have hover : ¬ MatrixDeviceCandidate.isOverdue result.2 clock.after = true := by
        intro h
        have hpending := (isOverdue_eq_true.mp h).1
        rw [hrow] at hpending
        cases hpending
      simp only [response, if_neg hover]

/-- What `openContext` has found. -/
structure ContextOf (env : Env) (backdrop : Backdrop) (clock : Readings)
    (principal : SessionPrincipal) (context : CandidateContext) : Prop where
  identity : backdrop.identities.find? principal.id = some context.identity
  matrixUserId : context.identity.matrixUserId = matrixUserIdFromUuid principal.id env.serverName
  now : context.now = clock.now

/-- **What a context rests on.** -/
theorem openContext_eq_ok {backdrop : Backdrop}
    (h : openContext env backdrop clock principal = .ok context) :
    ContextOf env backdrop clock principal context := by
  obtain ⟨subscriptionEndsAt, -, h⟩ := bind_eq_ok.mp h
  obtain ⟨identity, hidentity, h⟩ := bind_eq_ok.mp h
  obtain ⟨_, hmatrix, h⟩ := bind_eq_ok.mp h
  obtain ⟨_, -, h⟩ := bind_eq_ok.mp h
  obtain ⟨session, -, h⟩ := bind_eq_ok.mp h
  obtain rfl := Except.ok.inj h
  exact ⟨orThrow_eq_ok.mp hidentity, by simpa using hmatrix, rfl⟩

/-- **What a call does in its context.** -/
theorem withContext_eq_ok {operation : Db → CandidateContext →
      Except HttpException (Db × MatrixDeviceCandidate)}
    {out : Db × MatrixDeviceCandidateStatus}
    (h : withContext env clock db principal operation live = .ok out) :
    ∃ context made result, ContextOf env db.backdrop clock principal context ∧
      principal.deviceId = none ∧ operation db context = .ok made ∧
      latch clock principal context live made = .ok result ∧
      out = (result.1, response result.2 clock.after) := by
  obtain ⟨_, hrequester, h⟩ := bind_eq_ok.mp h
  obtain ⟨context, hcontext, h⟩ := bind_eq_ok.mp h
  obtain ⟨made, hmade, h⟩ := bind_eq_ok.mp h
  obtain ⟨result, hresult, h⟩ := bind_eq_ok.mp h
  obtain ⟨_, -, hdevice⟩ := bind_eq_ok.mp hrequester
  exact ⟨context, made, result, openContext_eq_ok hcontext, by simpa using hdevice, hmade, hresult,
    (Except.ok.inj h).symm⟩

/-- A candidate is its session's own. -/
theorem ownCandidate_eq_ok {id : Uuid} {c : MatrixDeviceCandidate}
    (h : ownCandidate principal id db context = .ok c) :
    c ∈ db.candidates ∧ c.id = id ∧ c.userId = principal.id ∧
      c.sessionId = principal.sessionId := by
  obtain ⟨found, hfound, h⟩ := bind_eq_ok.mp h
  obtain ⟨_, -, h⟩ := bind_eq_ok.mp h
  obtain rfl := Except.ok.inj h
  obtain ⟨hfind, hown⟩ := Option.filter_eq_some_iff.mp (orThrow_eq_ok.mp hfound)
  obtain ⟨hmem, hid⟩ := Table.find?_eq_some.mp hfind
  simp only [Bool.and_eq_true, beq_iff_eq] at hown
  exact ⟨hmem, hid, hown.1, hown.2⟩

/-- A cancellation resolves. -/
theorem cancelIn_resolves {id : Uuid}
    (h : cancelIn clock principal id db context = .ok made) :
    Resolves db made.1 ∧ made.2 ∈ made.1.candidates := by
  obtain ⟨c, hc, h⟩ := bind_eq_ok.mp h
  obtain ⟨hmem, hid, -, -⟩ := ownCandidate_eq_ok hc
  split_ifs at h with hpending
  · obtain ⟨db₁, hresolve, h⟩ := bind_eq_ok.mp h
    obtain rfl := Except.ok.inj h
    exact ⟨resolves_of_resolve hresolve,
      mem_of_resolve (Table.find?_eq_some.mpr ⟨hmem, hid⟩) hresolve⟩
  · obtain rfl := Except.ok.inj h
    exact ⟨.refl _, hmem⟩

/-- So does an expiry. -/
theorem expireOverdue_resolves {userId : Uuid} {now : ℕ} {readings : TriggerReadings}
    (h : expireOverdue db userId now readings = .ok db') : Resolves db db' := by
  unfold expireOverdue at h
  split at h
  · exact resolves_of_resolve h
  · obtain rfl := Except.ok.inj h
    exact .refl _

/-- **The candidate of a reservation.** -/
structure ReservedBy (env : Env) (principal : SessionPrincipal) (value : Json)
    (c : MatrixDeviceCandidate) : Prop where
  userId : c.userId = principal.id
  sessionId : c.sessionId = principal.sessionId
  matrixUserId : c.matrixUserId = matrixUserIdFromUuid principal.id env.serverName
  matrixDeviceId : c.matrixDeviceId = matrixDeviceIdFromUuid c.id
  keys : ∃ parsed, KeyUpload.parseMatrixDeviceCandidate env.scheme env.sha256Hex value
      c.matrixUserId c.matrixDeviceId = .ok parsed ∧
    c.deviceKeys = env.jsonb (KeyUpload.deviceKeysJson parsed.deviceKeys) ∧
    c.canonicalSha256 = parsed.canonicalSha256 ∧ c.ed25519Key = parsed.ed25519Key ∧
    c.curve25519Key = parsed.curve25519Key

/-- A reservation stays its session's. -/
theorem ReservedBy.becomes {value : Json} {c c' : MatrixDeviceCandidate}
    (h : ReservedBy env principal value c) (hc : c.Becomes c') :
    ReservedBy env principal value c' := by
  rcases hc with rfl | ⟨-, status, resolvedAt, -, rfl⟩
  · exact h
  · exact ⟨h.userId, h.sessionId, h.matrixUserId, h.matrixDeviceId, h.keys⟩

/-- A body is parsed for the user and the device of its id. -/
theorem parseBody_eq_ok {id : Uuid} {value : Json} {parsed : KeyUpload.MatrixDeviceCandidate} :
    parseBody env principal id value = .ok parsed ↔
      KeyUpload.parseMatrixDeviceCandidate env.scheme env.sha256Hex value
        (matrixUserIdFromUuid principal.id env.serverName) (matrixDeviceIdFromUuid id) =
          .ok parsed := CrossSigning.orHttp_eq_ok

/-- A new row is a reservation. -/
theorem reservedBy_reservedRow {id : Uuid} {value : Json}
    {parsed : KeyUpload.MatrixDeviceCandidate} (h : parseBody env principal id value = .ok parsed) :
    ReservedBy env principal value (reservedRow env principal id parsed context) :=
  ⟨rfl, rfl, rfl, rfl, parsed, parseBody_eq_ok.mp h, rfl, rfl, rfl, rfl⟩

/-- What `isReplay` compares. -/
structure Repeats (principal : SessionPrincipal) (parsed : KeyUpload.MatrixDeviceCandidate)
    (c : MatrixDeviceCandidate) : Prop where
  userId : c.userId = principal.id
  sessionId : c.sessionId = principal.sessionId
  canonicalSha256 : c.canonicalSha256 = parsed.canonicalSha256

/-- **The operation of a reservation**: the row of the id, or a new one. -/
theorem reserveIn_eq_ok {id : Uuid} {value : Json} {parsed : KeyUpload.MatrixDeviceCandidate}
    (hparsed : parseBody env principal id value = .ok parsed)
    (h : reserveIn env clock principal id parsed db context = .ok made) :
    made.2 ∈ made.1.candidates ∧ made.2.id = id ∧ Repeats principal parsed made.2 ∧
      ((made.1 = db ∧ made.2 ∈ db.candidates) ∨
        db.candidates.find? id = none ∧ ReservedBy env principal value made.2 ∧
        Change (fun c => c.id = id ∧ ReservedBy env principal value c) (fun _ => False)
          db made.1) := by
  unfold reserveIn at h
  cases hfind : db.candidates.find? id with
  | some previous =>
    simp only [hfind] at h
    obtain ⟨_, hreplay, h⟩ := bind_eq_ok.mp h
    obtain rfl := Except.ok.inj h
    obtain ⟨hmem, hid⟩ := Table.find?_eq_some.mp hfind
    simp only [require_eq_ok, isReplay, Bool.and_eq_true, beq_iff_eq] at hreplay
    obtain ⟨⟨⟨⟨⟨huser, hsession⟩, -⟩, hsha⟩, -⟩, -⟩ := hreplay
    exact ⟨hmem, hid, ⟨huser, hsession, hsha⟩, .inl ⟨rfl, hmem⟩⟩
  | none =>
    simp only [hfind] at h
    obtain ⟨_, -, h⟩ := bind_eq_ok.mp h
    obtain ⟨_, -, h⟩ := bind_eq_ok.mp h
    obtain ⟨db₁, hexpire, h⟩ := bind_eq_ok.mp h
    obtain ⟨_, -, h⟩ := bind_eq_ok.mp h
    obtain ⟨db₂, hcreate, h⟩ := bind_eq_ok.mp h
    obtain rfl := Except.ok.inj h
    have hreserved := @reservedBy_reservedRow env principal context id value parsed hparsed
    have hchange :
        Change (· = reservedRow env principal id parsed context) (fun _ => False) db db₂ :=
      (expireOverdue_resolves hexpire).after (change_of_createCandidate hcreate)
    refine ⟨mem_candidates_of_createCandidate hcreate, rfl, ⟨rfl, rfl, rfl⟩,
      .inr ⟨rfl, hreserved, ⟨hchange.backdrop, hchange.grows, hchange.inv, fun c hc => ?_,
        hchange.flows⟩⟩⟩
    rcases hchange.candidates c hc with hold | rfl
    · exact .inl hold
    · exact .inr ⟨rfl, hreserved⟩

/-- The row a call of the service shows. -/
structure ShowsRow (db : Db) (principal : SessionPrincipal) (a : MatrixDeviceCandidateStatus) :
    Prop where
  row : ∃ c ∈ db.candidates, c.id = a.candidateId ∧ c.status = a.state ∧
    c.createdAt = a.createdAt ∧ c.expiresAt = a.expiresAt ∧ c.userId = principal.id ∧
    c.sessionId = principal.sessionId

/-- **What a reservation does.** -/
theorem reserve_eq_ok {candidateId : JsString} {value : Json}
    {out : Db × MatrixDeviceCandidateStatus}
    (h : reserve env clock db principal candidateId value = .ok out) :
    candidateId = out.2.candidateId.text ∧ ShowsRow out.1 principal out.2 ∧
      ∃ parsed, parseBody env principal out.2.candidateId value = .ok parsed ∧
        (∃ c ∈ out.1.candidates, c.id = out.2.candidateId ∧ Repeats principal parsed c) ∧
        Change (fun c => c.id = out.2.candidateId ∧ db.candidates.find? c.id = none ∧
          ReservedBy env principal value c) (fun _ => False) db out.1 := by
  obtain ⟨_, -, h⟩ := bind_eq_ok.mp h
  obtain ⟨id, hid, h⟩ := bind_eq_ok.mp h
  obtain ⟨parsed, hparsed, h⟩ := bind_eq_ok.mp h
  obtain ⟨context, made, result, hcontext, -, hoperation, hlatch, rfl⟩ := withContext_eq_ok h
  obtain ⟨hmem, hmadeId, hrepeats, hcase⟩ := reserveIn_eq_ok hparsed hoperation
  obtain ⟨hresolves, hrow, hstate⟩ := latch_resolves hmem hlatch
  have hbecomes : made.2.Becomes result.2 := by
    rcases latch_eq_ok hlatch with ⟨rfl, -⟩ | ⟨hresolve, hresult⟩
    · exact .inl rfl
    · obtain ⟨c, hc, hresolvable, -⟩ := resolve_eq_ok.mp hresolve
      obtain rfl := Option.some.inj (hc.symm.trans (find?_of_mem hmem))
      exact .inr ⟨hresolvable.pending, _, _, hresolvable.ends, hresult⟩
  have hresultId : result.2.id = id := hbecomes.id_eq.trans hmadeId
  have hrepeats' : Repeats principal parsed result.2 := by
    rcases hbecomes with heq | ⟨-, status, resolvedAt, -, heq⟩ <;> rw [heq]
    · exact hrepeats
    · exact ⟨hrepeats.userId, hrepeats.sessionId, hrepeats.canonicalSha256⟩
  have hcandidateId : (response result.2 clock.after).candidateId = id := hresultId
  refine ⟨?_, ⟨result.2, hrow, rfl, hstate.symm, rfl, rfl, hrepeats'.userId, hrepeats'.sessionId⟩,
    parsed, by rw [hcandidateId]; exact hparsed, ⟨result.2, hrow, rfl, hrepeats'⟩, ?_⟩
  · rw [hcandidateId]
    exact text_of_canonicalId? (orThrow_eq_ok.mp hid)
  · rw [hcandidateId]
    rcases hcase with ⟨hdb, -⟩ | ⟨hnone, -, hchange⟩
    · rw [hdb] at hresolves
      exact hresolves.mono
    · refine Change.trans (fun c c' hc hcc' => ?_) (fun _ _ h _ => h) ⟨hchange.backdrop,
        hchange.grows, hchange.inv, fun c hc => ?_, hchange.flows⟩ hresolves
      · exact ⟨hcc'.id_eq.trans hc.1, by rw [hcc'.id_eq]; exact hc.2.1, hc.2.2.becomes hcc'⟩
      · rcases hchange.candidates c hc with hold | ⟨hcid, hreserved⟩
        · exact .inl hold
        · exact .inr ⟨hcid, by rw [hcid]; exact hnone, hreserved⟩

/-- An operation on the requester's own row. -/
theorem showsRow_of_operation {operation : Db → CandidateContext →
      Except HttpException (Db × MatrixDeviceCandidate)} {out : Db × MatrixDeviceCandidateStatus}
    (hoperation : ∀ context made, operation db context = .ok made → Resolves db made.1 ∧
      made.2 ∈ made.1.candidates ∧ made.2.userId = principal.id ∧
      made.2.sessionId = principal.sessionId)
    (h : withContext env clock db principal operation live = .ok out) :
    Resolves db out.1 ∧ ShowsRow out.1 principal out.2 := by
  obtain ⟨context, made, result, -, -, hmade, hlatch, rfl⟩ := withContext_eq_ok h
  obtain ⟨hresolves, hmem, huser, hsession⟩ := hoperation context made hmade
  obtain ⟨hresolves', hrow, hstate⟩ := latch_resolves hmem hlatch
  have hsame : result.2.userId = made.2.userId ∧ result.2.sessionId = made.2.sessionId := by
    rcases latch_eq_ok hlatch with ⟨rfl, -⟩ | ⟨-, hresult⟩
    · exact ⟨rfl, rfl⟩
    · rw [hresult]
      exact ⟨rfl, rfl⟩
  exact ⟨hresolves.after hresolves', result.2, hrow, rfl, hstate.symm, rfl, rfl,
    hsame.1.trans huser, hsame.2.trans hsession⟩

/-- A status resolves what is overdue and shows the row. -/
theorem status_eq_ok {candidateId : JsString} {out : Db × MatrixDeviceCandidateStatus}
    (h : MatrixDeviceCandidatesService.status env clock db principal candidateId = .ok out) :
    Resolves db out.1 ∧ ShowsRow out.1 principal out.2 := by
  obtain ⟨id, -, h⟩ := bind_eq_ok.mp h
  refine showsRow_of_operation (fun context made hmade => ?_) h
  obtain ⟨c, hc, hmade⟩ := bind_eq_ok.mp hmade
  obtain rfl := Except.ok.inj hmade
  obtain ⟨hmem, -, huser, hsession⟩ := ownCandidate_eq_ok hc
  exact ⟨.refl _, hmem, huser, hsession⟩

/-- So does a cancellation. -/
theorem cancel_eq_ok {candidateId : JsString} {out : Db × MatrixDeviceCandidateStatus}
    (h : cancel env clock db principal candidateId = .ok out) :
    Resolves db out.1 ∧ ShowsRow out.1 principal out.2 := by
  obtain ⟨id, -, h⟩ := bind_eq_ok.mp h
  refine showsRow_of_operation (fun context made hmade => ?_) h
  obtain ⟨hresolves, hmem⟩ := cancelIn_resolves hmade
  refine ⟨hresolves, hmem, ?_⟩
  obtain ⟨c, hc, hmade⟩ := bind_eq_ok.mp hmade
  obtain ⟨-, -, huser, hsession⟩ := ownCandidate_eq_ok hc
  split_ifs at hmade with hpending
  · obtain ⟨db₁, -, hmade⟩ := bind_eq_ok.mp hmade
    obtain rfl := Except.ok.inj hmade
    exact ⟨huser, hsession⟩
  · obtain rfl := Except.ok.inj hmade
    exact ⟨huser, hsession⟩

end Candidates

end Quarantine

end SinoChat
