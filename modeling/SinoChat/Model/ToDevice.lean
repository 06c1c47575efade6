import SinoChat.Common.JsMap
import SinoChat.Common.Sorting
import SinoChat.Model.Store
import SinoChat.Model.ToDeviceRequest
import Mathlib.Data.List.Lex
import Mathlib.Data.Prod.Lex

/-!
# The to-device service

`matrix-to-device.service.ts`. A call of `send` is one transaction, which
either fails and leaves the database alone or queues an event for every
target; it is serialised by the locks it takes, so it is a function of the
database at its commit and of the clock readings it made before.

A call of `sync` is two steps. `lockSyncContext` reads the clock and the
position of the device-list stream before it may have to wait for the row
locks (`beginSync`); everything else happens with the locks held (`sync`),
so the latest sequence it works with is current, while the clock and the
position may be old.
-/

namespace SinoChat

open Js

/-- `TO_DEVICE_TTL_MS`. -/
def toDeviceTtlMs : ℕ := 48 * 60 * 60 * 1000

/-- `MAX_SYNC_EVENTS`. -/
def maxSyncEvents : ℕ := 100

/-- `MAX_SYNC_TIMEOUT_MS`. -/
def maxSyncTimeoutMs : ℕ := 30000

/-- `MAX_PENDING_TO_DEVICE_EVENTS_PER_DEVICE`. -/
def maxPendingToDeviceEventsPerDevice : ℕ := 2000

/-- The order of strings by their code units, as a key to sort by. -/
def unitOrder (s : JsString) : List ℕ := s.map UInt16.toNat

/-- The device of the session. -/
def requireBoundDevice (principal : SessionPrincipal) : Except HttpException Uuid :=
  orThrow principal.deviceId
    (.forbidden "La sesion no esta vinculada a un dispositivo Matrix.")

/-! ## Sending -/

/-- A target that was admitted, with its content. -/
structure ResolvedTarget where
  deviceId : Uuid
  userId : Uuid
  conversationId : Option Uuid
  content : MatrixOlmToDeviceContent

/-- A `sendToDevice` call: what the caller sent, the id its record will get
and the two clock readings the transaction made, by `databaseNow` and in the
eligibility query. -/
structure SendCall where
  principal : SessionPrincipal
  rawEventType : JsString
  rawTransactionId : JsString
  value : Json
  rowId : Uuid
  now : ℕ
  eligibilityNow : ℕ

/-- The parser of a send, with the error it is answered with. -/
def parseRequest (eventType transactionId : JsString) (value : Json) :
    Except HttpException MatrixToDeviceRequest :=
  match parseMatrixToDeviceRequest eventType transactionId value with
  | .ok request => .ok request
  | .error code => .error (.matrixError "Solicitud sendToDevice invalida." code)

/-- `requestSha256`; an error of the digest is not one of the parser's and
leaves the service as it is. -/
def requestSha256 (crypto : Crypto) (request : MatrixToDeviceRequest) :
    Except HttpException JsString :=
  match hashMatrixCanonicalJson crypto (matrixToDeviceHashInput request) with
  | .ok hash => .ok hash
  | .error code => .error (.internal code)

/-- The session is current; the result is the device's own Curve25519 key. -/
def requireCurrentSender (accounts : Accounts) (principal : SessionPrincipal) (deviceId : Uuid)
    (now : ℕ) : Except HttpException JsString := do
  require (accounts.currentSession principal deviceId now)
    (.unauthorized "La sesion Matrix ya no esta vigente.")
  let keys ← orThrow (accounts.deviceKeys.find? deviceId)
    (.unauthorized "La sesion Matrix ya no esta vigente.")
  return keys.curve25519Key

/-- `lockCurrentByParticipants` between the caller and a recipient. -/
def currentConversation (accounts : Accounts) (principal : SessionPrincipal)
    (recipientUserId : Uuid) (now : ℕ) : Except HttpException Uuid :=
  let rows :=
    if principal.role = .client then
      accounts.currentByParticipants principal.id recipientUserId now
    else accounts.currentByParticipants recipientUserId principal.id now
  match rows with
  | [] => .error (.forbidden "Conversacion no disponible.")
  | [conversation] => .ok conversation.id
  | _ => .error (.internal "Se detecto mas de una elegibilidad activa.")

/-- A requested target: user, device, content. -/
abbrev RequestedTarget := (JsString × JsString) × MatrixOlmToDeviceContent

/-- The entries of `request.messages`, flattened. -/
def requestedTargets (request : MatrixToDeviceRequest) : List RequestedTarget :=
  request.messages.flatMap fun user =>
    user.2.map fun device => ((user.1, device.1), device.2)

/-- The Matrix address of a published identity. -/
def matrixAddress (identity : MatrixDeviceKey) : JsString × JsString :=
  (identity.matrixUserId, identity.matrixDeviceId)

/-- The device is there and active. -/
def Accounts.activeDevice (accounts : Accounts) (deviceId : Uuid) : Bool :=
  match accounts.devices.find? deviceId with
  | some device => device.status == .active
  | none => false

/-- The published identities of active devices among the requested addresses. -/
def requestedIdentities (accounts : Accounts) (requested : List RequestedTarget) :
    List MatrixDeviceKey :=
  accounts.deviceKeys.rows.filter fun identity =>
    (requested.any fun target => target.1 = matrixAddress identity) &&
      accounts.activeDevice identity.deviceId

/-- The checks on one target, with the conversation its event will belong to. -/
def resolveTarget (identityByAddress : JsMap (JsString × JsString) MatrixDeviceKey)
    (conversations : JsMap Uuid (Option Uuid)) (senderCurve25519Key : JsString)
    (target : RequestedTarget) : Except HttpException ResolvedTarget := do
  let identity ← orThrow (JsMap.get? target.1 identityByAddress)
    (.forbidden "La solicitud contiene un dispositivo Matrix no autorizado.")
  require (target.2.senderKey == senderCurve25519Key)
    (.forbidden "El sender_key no pertenece al dispositivo remitente.")
  require (target.2.ciphertext.map Prod.fst == [identity.curve25519Key])
    (.badRequest "El ciphertext Olm no esta dirigido al dispositivo indicado.")
  let conversationId ← orThrow (JsMap.get? identity.userId conversations)
    (.forbidden "La contraparte Matrix no tiene una conversacion vigente.")
  return { deviceId := identity.deviceId, userId := identity.userId, conversationId,
           content := target.2 }

/-- Every target of a request, each admitted by its relationship with the sender. -/
def resolveTargets (accounts : Accounts) (principal : SessionPrincipal)
    (request : MatrixToDeviceRequest) (senderCurve25519Key : JsString) (now : ℕ) :
    Except HttpException (List ResolvedTarget) := do
  let requested := requestedTargets request
  let identities := requestedIdentities accounts requested
  let identityByAddress := JsMap.ofEntries (identities.map fun i => (matrixAddress i, i))
  require (identityByAddress.length == requested.length)
    (.forbidden "La solicitud contiene un dispositivo Matrix no autorizado.")
  let recipients := ((identities.map MatrixDeviceKey.userId).dedup.sortBy
    fun userId => unitOrder userId.text).filter fun userId => userId != principal.id
  let current ← recipients.mapM fun recipientUserId =>
    (currentConversation accounts principal recipientUserId now).map fun conversationId =>
      (recipientUserId, some conversationId)
  let conversations := JsMap.ofEntries ((principal.id, none) :: current)
  let targets ← requested.mapM (resolveTarget identityByAddress conversations senderCurve25519Key)
  return targets.sortBy fun target => unitOrder target.deviceId.text

/-- The events of a device that have not expired. -/
def Queue.pending (queue : Queue) (deviceId : Uuid) (now : ℕ) : List MatrixToDeviceEvent :=
  queue.events.filter fun event => event.recipientDeviceId == deviceId && now < event.expiresAt

/-- One recipient's device is still there and its queue has room. -/
def lockRecipientCursor (db : Db) (now : ℕ) (target : ResolvedTarget) :
    Except HttpException Unit := do
  let available :=
    match db.accounts.devices.find? target.deviceId with
    | some device => device.userId == target.userId && device.status == .active
    | none => false
  require (available && (db.accounts.deviceKeys.find? target.deviceId).isSome &&
      (db.queue.latestSequence target.deviceId).isSome)
    (.conflict "Un dispositivo destinatario dejo de estar disponible.")
  require ((db.queue.pending target.deviceId now).length < maxPendingToDeviceEventsPerDevice)
    (.tooManyRequests "La cola Matrix del dispositivo destinatario esta completa.")

/-- The cursors of the targets, one after the other. -/
def lockRecipientCursors (db : Db) (targets : List ResolvedTarget) (now : ℕ) :
    Except HttpException Unit :=
  match targets with
  | [] => .ok ()
  | target :: rest => do
    lockRecipientCursor db now target
    lockRecipientCursors db rest now

/-- Advance the recipient's cursor and queue the event at its new value. -/
def Queue.enqueueTarget (rowId : Uuid) (now : ℕ) (queue : Queue) (target : ResolvedTarget) :
    Queue :=
  let sequence := (queue.latestSequence target.deviceId).getD 0 + 1
  { queue with
    latestSequence := Function.update queue.latestSequence target.deviceId (some sequence)
    events := queue.events ++ [
      { transactionRowId := rowId, recipientUserId := target.userId,
        recipientDeviceId := target.deviceId, recipientSequence := sequence,
        conversationId := target.conversationId, content := target.content.toJson,
        createdAt := now, expiresAt := now + toDeviceTtlMs }] }

/-- Record the transaction. -/
def Queue.record (queue : Queue) (transaction : MatrixToDeviceTransaction) : Queue :=
  { queue with transactions := queue.transactions ++ [transaction] }

/-- The record of an earlier send of the same device, type and transaction id. -/
def Queue.previous (queue : Queue) (deviceId : Uuid) (eventType transactionId : JsString) :
    Option MatrixToDeviceTransaction :=
  queue.transactions.find? fun transaction =>
    transaction.senderDeviceId = deviceId ∧ transaction.eventType = eventType ∧
      transaction.transactionId = transactionId

/-- **`send`**, as the database it leaves behind. -/
def send (crypto : Crypto) (call : SendCall) (db : Db) : Except HttpException Db := do
  let deviceId ← requireBoundDevice call.principal
  let request ← parseRequest call.rawEventType call.rawTransactionId call.value
  let hash ← requestSha256 crypto request
  match db.queue.previous deviceId request.eventType request.transactionId with
  | some previous => do
    require (previous.requestSha256 == hash)
      (.conflict "El identificador sendToDevice ya pertenece a otro contenido.")
    return db
  | none => do
    require (db.accounts.operational call.principal.id)
      (.forbidden "La cuenta no está disponible para esta acción.")
    let senderKey ← requireCurrentSender db.accounts call.principal deviceId call.now
    let targets ← resolveTargets db.accounts call.principal request senderKey call.eligibilityNow
    lockRecipientCursors db targets call.now
    let transaction : MatrixToDeviceTransaction :=
      ⟨call.rowId, deviceId, request.transactionId, request.eventType, hash, call.now⟩
    return { db with
      queue := targets.foldl (Queue.enqueueTarget call.rowId call.now)
        (db.queue.record transaction) }

/-! ## Syncing: the request and its context -/

/-- `unknownSyncPosition`. -/
def unknownSyncPosition : HttpException :=
  .matrixError "Token de sincronizacion invalido o vencido." "M_UNKNOWN_POS"

/-- `/^(?:0|[1-9][0-9]{0,4})$/` and the value behind it. -/
def syncTimeout? (value : JsString) : Option ℕ :=
  if value = js "0" then some 0
  else if run isDigit 1 5 value && value.head? != some 0x30 then
    some (value.foldl (fun total u => total * 10 + (u.toNat - 0x30)) 0)
  else none

/-- `parseSyncTimeout`; `none` is an absent query parameter. -/
def parseSyncTimeout (rawTimeout : Option Json) : Except HttpException Unit :=
  match rawTimeout with
  | none => .ok ()
  | some value =>
    require ((value.str?.bind syncTimeout?).any fun timeout => timeout ≤ maxSyncTimeoutMs)
      (.matrixError "Timeout de sincronizacion invalido." "M_INVALID_PARAM")

/-- `parseSince`. -/
def parseSince (rawSince : Option Json) : Except HttpException (Option JsString) :=
  match rawSince with
  | none => .ok none
  | some (.str value) => if value.length > 160 then .error unknownSyncPosition else .ok (some value)
  | some _ => .error unknownSyncPosition

/-- A sync that has read its clock and the stream position, but holds no lock yet. -/
structure SyncCall where
  principal : SessionPrincipal
  deviceId : Uuid
  since : Option JsString
  now : ℕ
  deviceListPosition : ℕ
  deriving DecidableEq

/-- The start of a sync: the checks on the request and the unlocked readings
of `lockSyncContext`. -/
def beginSync (principal : SessionPrincipal) (rawSince rawTimeout : Option Json) (db : Db) :
    Except HttpException SyncCall := do
  let deviceId ← requireBoundDevice principal
  parseSyncTimeout rawTimeout
  let since ← parseSince rawSince
  return { principal, deviceId, since, now := db.clock, deviceListPosition := db.lists.position }

/-- The locked part of `lockSyncContext`: the session is current and the
device has a published identity and a cursor, whose value is the result. -/
def lockSyncContext (db : Db) (call : SyncCall) : Except HttpException ℕ := do
  require (db.accounts.currentSession call.principal call.deviceId call.now &&
      (db.accounts.deviceKeys.find? call.deviceId).isSome)
    (.unauthorized "La sesion Matrix ya no esta vigente.")
  orThrow (db.queue.latestSequence call.deviceId)
    (.unauthorized "La sesion Matrix ya no esta vigente.")

/-- `requireSyncBatch`: the batch a token names and verifies for. -/
def requireSyncBatch (crypto : Crypto) (queue : Queue) (deviceId : Uuid) (token : JsString)
    (now : ℕ) : Except HttpException SyncBatchRecord :=
  match parseMatrixSyncTokenBatchId token with
  | .error _ => .error unknownSyncPosition
  | .ok id =>
    match queue.batches.find? fun batch => batch.id.text = id with
    | none => .error unknownSyncPosition
    | some batch =>
      if batch.deviceId = deviceId ∧ now < batch.expiresAt ∧
          verifyMatrixSyncToken crypto token batch.tokenHash batch.toMatrixSyncTokenData then
        .ok batch
      else .error unknownSyncPosition

/-! ## Syncing: a new batch -/

/-- The events a new batch may cover: the first ones of the device above a
sequence that have not expired. -/
def eventWindow (queue : Queue) (deviceId : Uuid) (fromSequence latestSequence now : ℕ) :
    List MatrixToDeviceEvent :=
  ((queue.events.filter fun event =>
      event.recipientDeviceId == deviceId && fromSequence < event.recipientSequence &&
        event.recipientSequence ≤ latestSequence && now < event.expiresAt).sortBy
    MatrixToDeviceEvent.recipientSequence).take maxSyncEvents

/-- Where the batch ends: at the latest sequence, or at the last event of a full page. -/
def upToSequence (window : List MatrixToDeviceEvent) (latestSequence : ℕ) : ℕ :=
  if window.length < maxSyncEvents then latestSequence
  else (window.getLast?.map MatrixToDeviceEvent.recipientSequence).getD latestSequence

/-- The device-list rows a new batch may cover. -/
def deviceListWindow (lists : DeviceLists) (userId : Uuid) (fromPosition toPosition : ℕ) :
    List MatrixDeviceListChange :=
  (lists.changes.filter fun row =>
      row.recipientUserId == userId && fromPosition < row.streamPosition &&
        row.streamPosition ≤ toPosition).sortBy MatrixDeviceListChange.streamPosition

/-- Where a window of the stream ends: a full one at its last row. -/
def upToDeviceListPosition (window : List MatrixDeviceListChange) (position : ℕ) : ℕ :=
  if window.length < maxSyncEvents then position
  else (window.getLast?.map MatrixDeviceListChange.streamPosition).getD position

/-- `expiresAt`: the retention time, or the first expiry in the window. -/
def batchExpiry (window : List MatrixToDeviceEvent) (now : ℕ) : ℕ :=
  window.foldl (fun earliest event => min earliest event.expiresAt) (now + toDeviceTtlMs)

/-- The fallback key of the device has never been handed out. -/
def unusedFallbackKey (keys : KeyStore) (deviceId : Uuid) : Bool :=
  (keys.currentFallback deviceId).any fun key => key.firstClaimedAt.isNone

/-- The record `createSyncBatch` writes, given the range it computed. -/
def newBatch (crypto : Crypto) (data : MatrixSyncTokenData) (now expiresAt : ℕ) :
    SyncBatchRecord :=
  { data with
    tokenHash := crypto.sha256Hex (tokenText crypto data)
    createdAt := now
    expiresAt
    acknowledgedAt := none }

/-- The token data of a new batch. -/
def newTokenData (db : Db) (call : SyncCall) (latestSequence : ℕ) (id : Uuid)
    (previousBatchId : Option Uuid) (fromSequence fromDeviceListPosition : ℕ) :
    MatrixSyncTokenData :=
  { id
    deviceId := call.deviceId
    previousBatchId
    fromSequence
    upToSequence :=
      upToSequence (eventWindow db.queue call.deviceId fromSequence latestSequence call.now)
        latestSequence
    fromDeviceListPosition
    deviceListPosition :=
      upToDeviceListPosition ((deviceListWindow db.lists call.principal.id
        fromDeviceListPosition call.deviceListPosition).take maxSyncEvents)
        call.deviceListPosition
    oneTimeKeyCount := (db.keys.unclaimed call.deviceId).length
    unusedFallbackKey := unusedFallbackKey db.keys call.deviceId }

/-- **`createSyncBatch`.** -/
def createSyncBatch (crypto : Crypto) (db : Db) (call : SyncCall) (latestSequence : ℕ)
    (id : Uuid) (previousBatchId : Option Uuid) (fromSequence fromDeviceListPosition : ℕ) :
    Except HttpException SyncBatchRecord := do
  let expiresAt := batchExpiry
    (eventWindow db.queue call.deviceId fromSequence latestSequence call.now) call.now
  require (call.now < expiresAt)
    (.unauthorized "La sesion no conserva una ventana valida de sincronizacion.")
  let data := newTokenData db call latestSequence id previousBatchId fromSequence
    fromDeviceListPosition
  match issueMatrixSyncToken crypto data with
  | .error code => .error (.internal code)
  | .ok _ => .ok (newBatch crypto data call.now expiresAt)

/-! ## Syncing: acknowledgement -/

/-- Mark one batch as acknowledged. -/
def acknowledge (id : Uuid) (now : ℕ) (batch : SyncBatchRecord) : SyncBatchRecord :=
  if batch.id = id ∧ batch.acknowledgedAt = none then { batch with acknowledgedAt := some now }
  else batch

/-- Add the successor of a batch, mark the batch as acknowledged and drop
every event it covers or that precedes it. -/
def Queue.advance (queue : Queue) (deviceId : Uuid) (parent child : SyncBatchRecord) (now : ℕ) :
    Queue :=
  { queue with
    batches := (queue.batches ++ [child]).map (acknowledge parent.id now)
    events := queue.events.filter fun event =>
      !(event.recipientDeviceId == deviceId && event.recipientSequence ≤ parent.upToSequence) }

/-- The open initial batch a sync without position falls back on: the newest
root of the device that is neither acknowledged nor expired. -/
def openInitial (queue : Queue) (deviceId : Uuid) (now : ℕ) : Option SyncBatchRecord :=
  ((queue.batches.filter fun batch =>
      batch.deviceId == deviceId && batch.previousBatchId == none &&
        batch.acknowledgedAt == none && now < batch.expiresAt).sortBy
    fun batch => toLex (batch.createdAt, unitOrder batch.id.text)).getLast?

/-- The batch a sync answers with, and the queue it leaves behind. -/
structure SelectedBatch where
  queue : Queue
  batch : SyncBatchRecord
  incremental : Bool

/-- A sync with a position: the successor of the batch it names. -/
def selectSuccessor (crypto : Crypto) (db : Db) (call : SyncCall) (latestSequence : ℕ)
    (id : Uuid) (since : JsString) : Except HttpException SelectedBatch := do
  let parent ← requireSyncBatch crypto db.queue call.deviceId since call.now
  match db.queue.batches.find? fun batch => batch.previousBatchId = some parent.id with
  | some existingChild =>
    if existingChild.expiresAt ≤ call.now then .error unknownSyncPosition
    else .ok ⟨db.queue, existingChild, true⟩
  | none => do
    require parent.acknowledgedAt.isNone unknownSyncPosition
    let batch ← createSyncBatch crypto db call latestSequence id (some parent.id)
      parent.upToSequence parent.deviceListPosition
    require (((db.queue.batches ++ [batch]).countP fun row =>
        row.id = parent.id ∧ row.acknowledgedAt = none) == 1)
      (.conflict "El token de sincronizacion cambio durante el ACK.")
    return ⟨db.queue.advance call.deviceId parent batch call.now, batch, true⟩

/-- A sync without a position: the open initial batch, or a new one. -/
def selectInitial (crypto : Crypto) (db : Db) (call : SyncCall) (latestSequence : ℕ)
    (id : Uuid) : Except HttpException SelectedBatch :=
  match openInitial db.queue call.deviceId call.now with
  | some batch => .ok ⟨db.queue, batch, false⟩
  | none => do
    let batch ← createSyncBatch crypto db call latestSequence id none 0 0
    return ⟨{ db.queue with batches := db.queue.batches ++ [batch] }, batch, false⟩

/-- The position of a call, the empty string counting as none. -/
def SyncCall.position (call : SyncCall) : Option JsString :=
  call.since.filter fun since => since != []

/-- The batch that answers a sync: the root, or a successor of the position. -/
def selectBatch (crypto : Crypto) (db : Db) (call : SyncCall) (latestSequence : ℕ) (id : Uuid) :
    Except HttpException SelectedBatch :=
  match call.position with
  | some since => selectSuccessor crypto db call latestSequence id since
  | none => selectInitial crypto db call latestSequence id

/-! ## Syncing: the response -/

/-- An event as the response carries it. -/
structure DeliveredEvent where
  sender : JsString
  type : JsString
  content : Json

/-- The users whose devices changed, and those who left. -/
structure DeviceListsDelta where
  changed : List JsString
  left : List JsString
  deriving DecidableEq

/-- What a sync answers. -/
structure SyncResponse where
  nextBatch : JsString
  events : List DeliveredEvent
  oneTimeKeyCount : ℕ
  unusedFallbackKey : Bool
  deviceLists : Option DeviceListsDelta

/-- How the sync query shows an event: not at all where its transaction or
its sender is gone or the recipient may not see it. -/
def deliver (db : Db) (now : ℕ) (event : MatrixToDeviceEvent) : Option DeliveredEvent :=
  match db.queue.transactions.find? fun transaction =>
      transaction.id = event.transactionRowId with
  | none => none
  | some transaction =>
    (db.accounts.visibleSender transaction.senderDeviceId event.recipientDeviceId
      event.recipientUserId event.conversationId now).map fun sender =>
        { sender, type := transaction.eventType, content := event.content }

/-- The rows of the sync query: the live events of the batch's window the
recipient may see, in order. -/
def pageOf (db : Db) (batch : SyncBatchRecord) (now : ℕ) : List MatrixToDeviceEvent :=
  (db.queue.events.filter fun event =>
      event.recipientDeviceId == batch.deviceId &&
        batch.fromSequence < event.recipientSequence &&
        event.recipientSequence ≤ batch.upToSequence && now < event.expiresAt &&
        (deliver db now event).isSome).sortBy
    MatrixToDeviceEvent.recipientSequence

/-- The Matrix id a device-list row is about, unless it is empty. -/
def rowSubject (lists : DeviceLists) (row : MatrixDeviceListChange) : Option JsString :=
  ((lists.states row.subjectUserId).map MatrixDeviceListState.matrixUserId).filter
    fun matrixUserId => matrixUserId != []

/-- The Matrix id a device-list row is about, with its change. -/
def rowEntry (lists : DeviceLists) (row : MatrixDeviceListChange) :
    Option (JsString × ChangeType) :=
  (rowSubject lists row).map fun matrixUserId => (matrixUserId, row.changeType)

/-- The keys of a map whose value is a given change, sorted. -/
def usersWith (latest : JsMap JsString ChangeType) (changeType : ChangeType) : List JsString :=
  ((latest.filter fun entry => entry.2 = changeType).map Prod.fst).sortBy unitOrder

/-- The last change of each subject in the window. -/
def buildDeviceListChanges (lists : DeviceLists) (userId : Uuid) (batch : SyncBatchRecord) :
    DeviceListsDelta :=
  let rows := deviceListWindow lists userId batch.fromDeviceListPosition batch.deviceListPosition
  let latest := JsMap.ofEntries (rows.filterMap (rowEntry lists))
  { changed := usersWith latest .changed, left := usersWith latest .left }

/-- `reconstructSyncToken`. -/
def reconstructSyncToken (crypto : Crypto) (batch : SyncBatchRecord) :
    Except HttpException JsString :=
  match issueMatrixSyncToken crypto batch.toMatrixSyncTokenData with
  | .error code => .error (.internal code)
  | .ok issued =>
    if verifyMatrixSyncToken crypto issued.token batch.tokenHash batch.toMatrixSyncTokenData then
      .ok issued.token
    else .error (.internal "MATRIX_SYNC_BATCH_TOKEN_HASH_MISMATCH")

/-- **`buildSyncResponse`.** -/
def buildSyncResponse (crypto : Crypto) (db : Db) (principal : SessionPrincipal)
    (batch : SyncBatchRecord) (incremental : Bool) (now : ℕ) :
    Except HttpException SyncResponse := do
  let nextBatch ← reconstructSyncToken crypto batch
  return {
    nextBatch
    events := (pageOf db batch now).filterMap (deliver db now)
    oneTimeKeyCount := batch.oneTimeKeyCount
    unusedFallbackKey := batch.unusedFallbackKey
    deviceLists :=
      if incremental then some (buildDeviceListChanges db.lists principal.id batch) else none }

/-- What a sync leaves behind and returns, with the batch and the queued
events the response is about. -/
structure SyncResult where
  db : Db
  batch : SyncBatchRecord
  page : List MatrixToDeviceEvent
  response : SyncResponse

/-- **`sync`**, once its locks are held; `id` is the UUID a new batch would get. -/
def sync (crypto : Crypto) (call : SyncCall) (id : Uuid) (db : Db) :
    Except HttpException SyncResult := do
  let latestSequence ← lockSyncContext db call
  let selected ← selectBatch crypto db call latestSequence id
  let db' := { db with queue := selected.queue }
  let response ← buildSyncResponse crypto db' call.principal selected.batch selected.incremental
    call.now
  return ⟨db', selected.batch, pageOf db' selected.batch call.now, response⟩

/-! ## The response as JSON -/

/-- The event as it is written. -/
def DeliveredEvent.toJson (event : DeliveredEvent) : Json :=
  .obj [(js "sender", .str event.sender), (js "type", .str event.type),
    (js "content", event.content)]

/-- The lists as they are written. -/
def DeviceListsDelta.toJson (delta : DeviceListsDelta) : Json :=
  .obj [(js "changed", .arr (delta.changed.map .str)), (js "left", .arr (delta.left.map .str))]

/-- The body the framework sends for a response. -/
def SyncResponse.toJson (response : SyncResponse) : Json :=
  .obj ([(js "next_batch", .str response.nextBatch),
    (js "to_device", .obj [(js "events", .arr (response.events.map DeliveredEvent.toJson))]),
    (js "device_one_time_keys_count",
      .obj [(js "signed_curve25519", Json.ofNat response.oneTimeKeyCount)]),
    (js "device_unused_fallback_key_types",
      .arr (if response.unusedFallbackKey then [.str (js "signed_curve25519")] else []))] ++
    match response.deviceLists with
    | some delta => [(js "device_lists", delta.toJson)]
    | none => [])

/-! ## Retention -/

/-- The retention job deletes expired events, and in a statement of its own
expired batches. -/
def Queue.purgeEvents (queue : Queue) (now : ℕ) : Queue :=
  { queue with events := queue.events.filter fun event => now < event.expiresAt }

/-- Batches that have expired are removed. -/
def Queue.purgeBatches (queue : Queue) (now : ℕ) : Queue :=
  { queue with batches := queue.batches.filter fun batch => now < batch.expiresAt }

end SinoChat
