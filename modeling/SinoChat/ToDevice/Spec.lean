import SinoChat.Model.Service

/-!
# What `send` and `sync` do

The inversion of the two service methods: every proof about runs starts from
these lemmas and from no definition of the service. A successful send either
finds its record and changes nothing or queues an event for every resolved
target (`send_cases`); a successful sync answers with one of four kinds of
batch (`Selected`), each with its own effect on the queue.
-/

namespace SinoChat

open Js

variable {crypto : Crypto}

/-! ## Sending -/

/-- A send as far as its digest: the device it comes from, the request it
carries and the hash it is known by. -/
structure SendRequest (crypto : Crypto) (call : SendCall) (deviceId : Uuid)
    (request : MatrixToDeviceRequest) (hash : JsString) : Prop where
  device : call.principal.deviceId = some deviceId
  parsed : parseMatrixToDeviceRequest call.rawEventType call.rawTransactionId call.value =
    .ok request
  hash : hashMatrixCanonicalJson crypto (matrixToDeviceHashInput request) = .ok hash

/-- The queue after a send that found no record. -/
def Queue.afterSend (queue : Queue) (call : SendCall) (deviceId : Uuid)
    (request : MatrixToDeviceRequest) (hash : JsString) (targets : List ResolvedTarget) : Queue :=
  targets.foldl (Queue.enqueueTarget call.rowId call.now)
    (queue.record ⟨call.rowId, deviceId, request.transactionId, request.eventType, hash, call.now⟩)

/-- The record of an earlier send with the same digest was there. -/
def SendRepeats (db : Db) (deviceId : Uuid) (request : MatrixToDeviceRequest)
    (hash : JsString) : Prop :=
  ∃ previous, db.queue.previous deviceId request.eventType request.transactionId =
    some previous ∧ previous.requestSha256 = hash

/-- There was no record, and every target passed its checks. -/
structure SendQueues (db : Db) (call : SendCall) (deviceId : Uuid)
    (request : MatrixToDeviceRequest) (targets : List ResolvedTarget) : Prop where
  previous : db.queue.previous deviceId request.eventType request.transactionId = none
  resolved : ∃ senderKey, resolveTargets db.accounts call.principal request senderKey
    call.eligibilityNow = .ok targets
  locked : lockRecipientCursors db targets call.now = .ok ()

/-- The service parses a request as the contract does. -/
theorem parseRequest_eq_ok {eventType transactionId : JsString} {value : Json}
    {request : MatrixToDeviceRequest} :
    parseRequest eventType transactionId value = .ok request ↔
      parseMatrixToDeviceRequest eventType transactionId value = .ok request := by
  unfold parseRequest
  cases parseMatrixToDeviceRequest eventType transactionId value <;> simp

/-- It hashes the contract's input. -/
theorem requestSha256_eq_ok {request : MatrixToDeviceRequest} {hash : JsString} :
    requestSha256 crypto request = .ok hash ↔
      hashMatrixCanonicalJson crypto (matrixToDeviceHashInput request) = .ok hash := by
  unfold requestSha256
  cases hashMatrixCanonicalJson crypto (matrixToDeviceHashInput request) <;> simp

/-- **What a successful send does.** -/
theorem send_cases {call : SendCall} {db db' : Db} (h : send crypto call db = .ok db') :
    ∃ deviceId request hash, SendRequest crypto call deviceId request hash ∧
      ((SendRepeats db deviceId request hash ∧ db' = db) ∨
        ∃ targets, SendQueues db call deviceId request targets ∧
          db' = { db with queue := db.queue.afterSend call deviceId request hash targets }) := by
  unfold send at h
  obtain ⟨deviceId, hdevice, h⟩ := bind_eq_ok.mp h
  obtain ⟨request, hrequest, h⟩ := bind_eq_ok.mp h
  obtain ⟨hash, hhash, h⟩ := bind_eq_ok.mp h
  refine ⟨deviceId, request, hash, ⟨orThrow_eq_ok.mp hdevice, parseRequest_eq_ok.mp hrequest,
    requestSha256_eq_ok.mp hhash⟩, ?_⟩
  cases hprevious : db.queue.previous deviceId request.eventType request.transactionId with
  | some previous =>
    rw [hprevious] at h
    obtain ⟨_, hsame, h⟩ := bind_eq_ok.mp h
    refine .inl ⟨⟨previous, hprevious, by simpa using hsame⟩, ?_⟩
    exact (Except.ok.inj h).symm
  | none =>
    rw [hprevious] at h
    obtain ⟨_, -, h⟩ := bind_eq_ok.mp h
    obtain ⟨senderKey, -, h⟩ := bind_eq_ok.mp h
    obtain ⟨targets, htargets, h⟩ := bind_eq_ok.mp h
    obtain ⟨_, hlocked, h⟩ := bind_eq_ok.mp h
    exact .inr ⟨targets, ⟨hprevious, ⟨senderKey, htargets⟩, hlocked⟩, (Except.ok.inj h).symm⟩

/-- A send that finds its record with the same digest does nothing. -/
theorem send_of_repeats {call : SendCall} {db : Db} {deviceId : Uuid}
    {request : MatrixToDeviceRequest} {hash : JsString}
    (hcall : SendRequest crypto call deviceId request hash)
    (h : SendRepeats db deviceId request hash) : send crypto call db = .ok db := by
  obtain ⟨previous, hprevious, hsame⟩ := h
  unfold send
  rw [requireBoundDevice, orThrow_eq_ok.mpr hcall.device]
  simp only [bind, Except.bind, parseRequest_eq_ok.mpr hcall.parsed,
    requestSha256_eq_ok.mpr hcall.hash, hprevious, hsame, beq_self_eq_true, require, if_true,
    pure, Except.pure]

/-- A send that finds its record with another digest is refused. -/
theorem send_of_conflict {call : SendCall} {db : Db} {deviceId : Uuid}
    {request : MatrixToDeviceRequest} {hash : JsString} {previous : MatrixToDeviceTransaction}
    (hcall : SendRequest crypto call deviceId request hash)
    (hprevious : db.queue.previous deviceId request.eventType request.transactionId =
      some previous) (hdiff : previous.requestSha256 ≠ hash) :
    send crypto call db =
      .error (.conflict "El identificador sendToDevice ya pertenece a otro contenido.") := by
  unfold send
  rw [requireBoundDevice, orThrow_eq_ok.mpr hcall.device]
  simp only [bind, Except.bind, parseRequest_eq_ok.mpr hcall.parsed,
    requestSha256_eq_ok.mpr hcall.hash, hprevious, require]
  rw [if_neg (by simpa using hdiff)]

/-! ## Syncing -/

/-- A batch as `createSyncBatch` makes it. -/
structure Created (crypto : Crypto) (db : Db) (call : SyncCall) (latestSequence : ℕ) (id : Uuid)
    (previousBatchId : Option Uuid) (fromSequence fromDeviceListPosition : ℕ)
    (batch : SyncBatchRecord) : Prop where
  eq : batch = newBatch crypto
    (newTokenData db call latestSequence id previousBatchId fromSequence fromDeviceListPosition)
    call.now
    (batchExpiry (eventWindow db.queue call.deviceId fromSequence latestSequence call.now) call.now)
  live : call.now < batch.expiresAt
  valid : assertTokenData batch.toMatrixSyncTokenData = true

/-- **What a new batch is**, of the tables it is made from. -/
theorem createSyncBatch_eq_ok {db : Db} {call : SyncCall} {latestSequence : ℕ} {id : Uuid}
    {previousBatchId : Option Uuid} {fromSequence fromDeviceListPosition : ℕ}
    {batch : SyncBatchRecord}
    (h : createSyncBatch crypto db call latestSequence id previousBatchId fromSequence
      fromDeviceListPosition = .ok batch) :
    Created crypto db call latestSequence id previousBatchId fromSequence fromDeviceListPosition
      batch := by
  unfold createSyncBatch at h
  obtain ⟨_, hlive, h⟩ := bind_eq_ok.mp h
  dsimp only at h
  split at h
  · simp at h
  · rename_i issued hissue
    have heq := Except.ok.inj h
    refine ⟨heq.symm, ?_, ?_⟩
    · rw [← heq]
      exact of_decide_eq_true (require_eq_ok.mp hlive)
    · rw [← heq]
      exact (issue_eq_ok.mp hissue).1

/-- The batch a position names, where it is accepted. -/
structure Accepted (crypto : Crypto) (queue : Queue) (deviceId : Uuid) (token : JsString)
    (now : ℕ) (batch : SyncBatchRecord) : Prop where
  mem : batch ∈ queue.batches
  names : parseMatrixSyncTokenBatchId token = .ok batch.id.text
  device : batch.deviceId = deviceId
  live : now < batch.expiresAt
  token : token = tokenText crypto batch.toMatrixSyncTokenData

/-- **What a token must be** for its batch to be accepted. -/
theorem requireSyncBatch_eq_ok {queue : Queue} {deviceId : Uuid} {token : JsString} {now : ℕ}
    {batch : SyncBatchRecord}
    (h : requireSyncBatch crypto queue deviceId token now = .ok batch) :
    Accepted crypto queue deviceId token now batch := by
  unfold requireSyncBatch at h
  split at h
  · simp at h
  · rename_i id hid
    split at h
    · simp at h
    · rename_i found hfound
      split_ifs at h with hcond
      cases h
      obtain ⟨hdevice, hlive, hverify⟩ := hcond
      obtain ⟨-, htoken, -⟩ := verify_eq_true_iff.mp hverify
      refine ⟨List.mem_of_find?_eq_some hfound, ?_, hdevice, hlive, htoken⟩
      rw [hid]
      have hfoundId := List.find?_some hfound
      simp only [decide_eq_true_eq] at hfoundId
      rw [hfoundId]

/-- **The four answers of a sync**: the successor its position already has,
a new successor, an initial batch that is still open, a new initial batch. -/
inductive Selected (crypto : Crypto) (db : Db) (call : SyncCall) (latestSequence : ℕ)
    (id : Uuid) : SelectedBatch → Prop
  | replay {since : JsString} {parent child : SyncBatchRecord} :
      call.position = some since →
      Accepted crypto db.queue call.deviceId since call.now parent →
      db.queue.batches.find? (fun batch => batch.previousBatchId = some parent.id) = some child →
      call.now < child.expiresAt →
      Selected crypto db call latestSequence id ⟨db.queue, child, true⟩
  | advance {since : JsString} {parent batch : SyncBatchRecord} :
      call.position = some since →
      Accepted crypto db.queue call.deviceId since call.now parent →
      db.queue.batches.find? (fun batch => batch.previousBatchId = some parent.id) = none →
      parent.acknowledgedAt = none →
      Created crypto db call latestSequence id (some parent.id) parent.upToSequence
        parent.deviceListPosition batch →
      Selected crypto db call latestSequence id
        ⟨db.queue.advance call.deviceId parent batch call.now, batch, true⟩
  | reopen {batch : SyncBatchRecord} :
      call.position = none →
      openInitial db.queue call.deviceId call.now = some batch →
      Selected crypto db call latestSequence id ⟨db.queue, batch, false⟩
  | initial {batch : SyncBatchRecord} :
      call.position = none →
      openInitial db.queue call.deviceId call.now = none →
      Created crypto db call latestSequence id none 0 0 batch →
      Selected crypto db call latestSequence id
        ⟨{ db.queue with batches := db.queue.batches ++ [batch] }, batch, false⟩

/-- **What a call selects.** -/
theorem selectBatch_eq_ok {db : Db} {call : SyncCall} {latestSequence : ℕ} {id : Uuid}
    {selected : SelectedBatch}
    (h : selectBatch crypto db call latestSequence id = .ok selected) :
    Selected crypto db call latestSequence id selected := by
  unfold selectBatch at h
  cases hposition : call.position with
  | some since =>
    rw [hposition] at h
    simp only [selectSuccessor] at h
    obtain ⟨parent, hparent, h⟩ := bind_eq_ok.mp h
    have haccepted := requireSyncBatch_eq_ok hparent
    cases hchild : db.queue.batches.find?
        (fun batch => batch.previousBatchId = some parent.id) with
    | some child =>
      rw [hchild] at h
      simp only at h
      split_ifs at h with hexpired
      cases h
      exact .replay hposition haccepted hchild (by omega)
    | none =>
      rw [hchild] at h
      obtain ⟨_, hopen, h⟩ := bind_eq_ok.mp h
      obtain ⟨batch, hbatch, h⟩ := bind_eq_ok.mp h
      obtain ⟨_, -, h⟩ := bind_eq_ok.mp h
      cases h
      exact .advance hposition haccepted hchild (by simpa using hopen)
        (createSyncBatch_eq_ok hbatch)
  | none =>
    rw [hposition] at h
    simp only [selectInitial] at h
    cases hopen : openInitial db.queue call.deviceId call.now with
    | some batch =>
      rw [hopen] at h
      cases h
      exact .reopen hposition hopen
    | none =>
      rw [hopen] at h
      obtain ⟨batch, hbatch, h⟩ := bind_eq_ok.mp h
      cases h
      exact .initial hposition hopen (createSyncBatch_eq_ok hbatch)

/-- **What a successful sync does.** -/
structure Synced (crypto : Crypto) (call : SyncCall) (id : Uuid) (db : Db) (result : SyncResult)
    (latestSequence : ℕ) (selected : SelectedBatch) : Prop where
  cursor : db.queue.latestSequence call.deviceId = some latestSequence
  session : db.accounts.currentSession call.principal call.deviceId call.now = true
  kind : Selected crypto db call latestSequence id selected
  after : result.db = { db with queue := selected.queue }
  batch : result.batch = selected.batch
  page : result.page = pageOf result.db result.batch call.now
  nextBatch : result.response.nextBatch = tokenText crypto result.batch.toMatrixSyncTokenData
  events : result.response.events = result.page.filterMap (deliver result.db call.now)
  oneTimeKeyCount : result.response.oneTimeKeyCount = result.batch.oneTimeKeyCount
  unusedFallbackKey : result.response.unusedFallbackKey = result.batch.unusedFallbackKey
  deviceLists : result.response.deviceLists =
    if selected.incremental then
      some (buildDeviceListChanges db.lists call.principal.id result.batch) else none

/-- A batch has one token. -/
theorem reconstructSyncToken_eq_ok {batch : SyncBatchRecord} {token : JsString}
    (h : reconstructSyncToken crypto batch = .ok token) :
    token = tokenText crypto batch.toMatrixSyncTokenData := by
  unfold reconstructSyncToken at h
  split at h
  · simp at h
  · rename_i issued hissue
    split_ifs at h
    cases h
    rw [(issue_eq_ok.mp hissue).2]

/-- **What a sync answers**, of what it selects. -/
theorem sync_eq_ok {call : SyncCall} {id : Uuid} {db : Db} {result : SyncResult}
    (h : sync crypto call id db = .ok result) :
    ∃ latestSequence selected, Synced crypto call id db result latestSequence selected := by
  unfold sync at h
  obtain ⟨latestSequence, hcontext, h⟩ := bind_eq_ok.mp h
  obtain ⟨selected, hselected, h⟩ := bind_eq_ok.mp h
  obtain ⟨response, hresponse, h⟩ := bind_eq_ok.mp h
  cases h
  unfold lockSyncContext at hcontext
  obtain ⟨_, hsession, hcursor⟩ := bind_eq_ok.mp hcontext
  unfold buildSyncResponse at hresponse
  obtain ⟨token, htoken, hresponse⟩ := bind_eq_ok.mp hresponse
  cases hresponse
  simp only [require_eq_ok, Bool.and_eq_true] at hsession
  exact ⟨latestSequence, selected, {
    cursor := orThrow_eq_ok.mp hcursor
    session := hsession.1
    kind := selectBatch_eq_ok hselected
    after := rfl
    batch := rfl
    page := rfl
    nextBatch := reconstructSyncToken_eq_ok htoken
    events := rfl
    oneTimeKeyCount := rfl
    unusedFallbackKey := rfl
    deviceLists := rfl }⟩

/-- The start of a sync reads the clock and the stream position. -/
theorem beginSync_eq_ok {principal : SessionPrincipal} {rawSince rawTimeout : Option Json}
    {db : Db} {call : SyncCall} (h : beginSync principal rawSince rawTimeout db = .ok call) :
    call.now = db.clock ∧ call.deviceListPosition = db.lists.position ∧
      principal.deviceId = some call.deviceId ∧ call.principal = principal := by
  unfold beginSync at h
  obtain ⟨deviceId, hdevice, h⟩ := bind_eq_ok.mp h
  obtain ⟨_, -, h⟩ := bind_eq_ok.mp h
  obtain ⟨since, -, h⟩ := bind_eq_ok.mp h
  cases h
  exact ⟨rfl, rfl, orThrow_eq_ok.mp hdevice, rfl⟩

end SinoChat
