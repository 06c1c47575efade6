import SinoChat.Common.Base64
import SinoChat.Common.Chunks
import SinoChat.Common.Effect
import SinoChat.Common.JsonText
import SinoChat.Model.KeyRequest
import SinoChat.Model.WebTransport

/-!
# The coordinator of the crypto machine

`MatrixTransportCoordinator` of `matrixTransport.ts`: one request of the crypto
machine by its type, a key query in chunks, a key claim user by user, the flush
of all that is outgoing, and a sync.

The crypto machine, the HTTP transport, the store of the position and everything
behind them are operations on one state `σ`; an operation changes the state also
where it fails. The coordinator's queue lets one operation run at a time, so each
is a function here.
-/

namespace SinoChat

open Js

namespace Transport

/-- The members of an object. -/
abbrev JsonObject := List (JsString × Json)

/-- An asynchronous operation of the client. -/
abbrev Client (σ α : Type) := Effect ClientError σ α

/-- `RequestType` of the crypto machine. -/
inductive RequestType where
  | keysUpload | keysQuery | keysClaim | toDevice | signatureUpload | roomMessage | keysBackup
  deriving DecidableEq

/-- A request as the crypto machine gives it out: `id` is absent where it is no text, and the
last two are there for a message to devices only. -/
structure OutgoingRequest where
  id : Option JsString
  type : RequestType
  body : JsString
  eventType : Option JsString
  txnId : Option JsString
  deriving DecidableEq

/-- What the machine made of an event. -/
inductive ProcessedToDeviceEventType where
  | decrypted | unableToDecrypt | plainText | invalid
  deriving DecidableEq

/-- An event as the crypto machine gives it out; `wrapper` tells one object from another. -/
structure ProcessedToDeviceEvent where
  wrapper : ℕ
  type : ProcessedToDeviceEventType
  rawEvent : JsString
  deriving DecidableEq

/-- The crypto machine. -/
structure OlmMachine (σ : Type) where
  outgoingRequests : Client σ (List OutgoingRequest)
  /-- Whether the machine returned `true`. -/
  markRequestAsSent : JsString → RequestType → JsString → Client σ Bool
  /-- Of the events as a text, the device lists, the key counts and the unused key types. -/
  receiveSyncChanges : JsString → List JsString → List JsString → List (JsString × JsNumber) →
    List JsString → Client σ (List ProcessedToDeviceEvent)
  freeRequest : OutgoingRequest → σ → σ
  freeEvent : ProcessedToDeviceEvent → σ → σ

/-- The endpoints; a reply without a value is `none`. -/
structure MatrixHttpTransport (σ : Type) where
  uploadKeys : JsonObject → Client σ (Option Json)
  queryKeys : JsonObject → Client σ (Option Json)
  claimKeys : JsString → JsonObject → Client σ (Option Json)
  sendToDevice : JsString → JsString → JsonObject → Client σ (Option Json)
  sync : Option JsString → ℕ → Client σ (Option Json)

/-- The store of the position. -/
structure MatrixSyncTokenStore (σ : Type) where
  load : JsString → Client σ (Option JsString)
  save : JsString → JsString → Client σ Unit
  clear : JsString → Client σ Unit

/-- The coordinator, with what the platform gives it: the number a token denotes that is no
safe integer, and SHA-256. -/
structure MatrixTransportCoordinator (σ : Type) where
  machine : OlmMachine σ
  matrixDeviceId : JsString
  transport : MatrixHttpTransport σ
  tokenStore : MatrixSyncTokenStore σ
  round : JsString → JsNumber
  sha256 : List UInt8 → List UInt8

/-- The users that one request for device keys asks about at most. -/
def maxQueryUsersPerHttpRequest : ℕ := 20

/-- The requests that one flush sends at most. -/
def maxOutgoingRequestsPerFlush : ℕ := 100

/-! ## Shapes -/

/-- `plainRecord`, of a property that may be absent. -/
def plainRecord (value : Option Json) (code : ErrorCode) : Except ErrorCode JsonObject :=
  orThrow (value.bind Json.record?) code

/-- `assertOnlyKeys`. -/
def assertOnlyKeys (value : JsonObject) (required optional : List JsString) :
    Except ErrorCode Unit :=
  require (exactOptionalKeys value required optional) "MATRIX_OUTGOING_REQUEST_FIELDS_INVALID"

/-- `target[key] = value`, of a key that is not there. The prototype of an object is no key of
it, and the keys that are numbers come first. -/
def assign (target : JsonObject) (key : JsString) (value : Json) : JsonObject :=
  if key = js "__proto__" then target else ownOrder (target ++ [(key, value)])

/-- `mergeRecord`. -/
def mergeRecord (target : JsonObject) : JsonObject → Except ErrorCode JsonObject
  | [] => .ok target
  | (key, value) :: source => do
    require (!Json.hasOwn target key) "MATRIX_RESPONSE_TARGET_DUPLICATED"
    mergeRecord (assign target key value) source

/-- `assertResponseUsers`. -/
def assertResponseUsers (response : JsonObject) (requestedUsers : List JsString) :
    Except ErrorCode Unit :=
  require ((Json.keys response).all requestedUsers.contains) "MATRIX_RESPONSE_TARGET_UNEXPECTED"

/-- The five maps of a response to a key query. -/
structure QueryResponse where
  deviceKeys : JsonObject
  failures : JsonObject
  masterKeys : JsonObject
  selfSigningKeys : JsonObject
  userSigningKeys : JsonObject

/-- `emptyQueryResponse`. -/
def emptyQueryResponse : QueryResponse := ⟨[], [], [], [], []⟩

/-- The value of a merged answer. -/
def QueryResponse.toJson (response : QueryResponse) : Json :=
  .obj [(js "device_keys", .obj response.deviceKeys), (js "failures", .obj response.failures),
    (js "master_keys", .obj response.masterKeys),
    (js "self_signing_keys", .obj response.selfSigningKeys),
    (js "user_signing_keys", .obj response.userSigningKeys)]

/-- The answer to a request for device keys: its five records. -/
def parseQueryResponse (value : Option Json) : Except ErrorCode QueryResponse := do
  let code := "MATRIX_KEYS_QUERY_RESPONSE_INVALID"
  let response ← plainRecord value code
  let deviceKeys ← plainRecord (Json.get? (js "device_keys") response) code
  let failures ← plainRecord (Json.get? (js "failures") response) code
  let masterKeys ← plainRecord (Json.get? (js "master_keys") response) code
  let selfSigningKeys ← plainRecord (Json.get? (js "self_signing_keys") response) code
  let userSigningKeys ← plainRecord (Json.get? (js "user_signing_keys") response) code
  return ⟨deviceKeys, failures, masterKeys, selfSigningKeys, userSigningKeys⟩

/-- The two maps of a response to a key claim. -/
structure ClaimResponse where
  failures : JsonObject
  oneTimeKeys : JsonObject

/-- The value of a merged answer. -/
def ClaimResponse.toJson (response : ClaimResponse) : Json :=
  .obj [(js "failures", .obj response.failures),
    (js "one_time_keys", .obj response.oneTimeKeys)]

/-- The answer to a claim: its two records. -/
def parseClaimResponse (value : Option Json) : Except ErrorCode ClaimResponse := do
  let code := "MATRIX_KEYS_CLAIM_RESPONSE_INVALID"
  let response ← plainRecord value code
  let failures ← plainRecord (Json.get? (js "failures") response) code
  let oneTimeKeys ← plainRecord (Json.get? (js "one_time_keys") response) code
  return ⟨failures, oneTimeKeys⟩

/-- A key count: a safe integer from 0 to 100, or the negative zero. -/
def isKeyCount : Option Json → Bool
  | some (.num (.integer n)) => 0 ≤ n && n ≤ 100
  | some (.num .negativeZero) => true
  | _ => false

/-- The answer to an upload: the one count, of the signed keys. -/
def parseKeysUploadResponse (value : Option Json) : Except ErrorCode JsonObject := do
  let response ← plainRecord value "MATRIX_KEYS_UPLOAD_RESPONSE_INVALID"
  assertOnlyKeys response [js "one_time_key_counts"] []
  let counts ← plainRecord (Json.get? (js "one_time_key_counts") response)
    "MATRIX_KEYS_UPLOAD_RESPONSE_INVALID"
  require ((Json.keys counts).length == 1 && isKeyCount (Json.get? signedCurve25519 counts))
    "MATRIX_KEYS_UPLOAD_RESPONSE_INVALID"
  return response

/-- An answer without members. -/
def parseEmptyResponse (value : Option Json) (code : ErrorCode) : Except ErrorCode JsonObject := do
  let response ← plainRecord value code
  require response.isEmpty code
  return response

/-- `deriveClaimSubRequestId`; `sha256` is the digest of the platform. -/
def deriveClaimSubRequestId (sha256 : List UInt8 → List UInt8)
    (originalRequestId matrixUserId : JsString) : JsString :=
  let base64 := toBase64 (sha256 (utf8 (originalRequestId ++ [0] ++ matrixUserId)))
  let urlSafe := base64.map fun u => if u = 0x2B then 0x2D else if u = 0x2F then 0x5F else u
  js "claim_" ++ unpadded urlSafe

/-! ## One request -/

/-- A check of the coordinator's own, which raises a `MatrixTransportError`. -/
def check {σ α : Type} (x : Except ErrorCode α) : Client σ α := .lift (x.mapError .transport)

theorem check_eq_ok {α : Type} {x : Except ErrorCode α} {a : α} {s t : σ} :
    (check x : Client σ α) s = (.ok a, t) ↔ x = .ok a ∧ s = t := by
  unfold check
  rw [Effect.lift_eq]
  cases x <;> simp [Except.mapError]

/-- `parseJsonObject`. -/
def parseJsonObject (round : JsString → JsNumber) (value : JsString) (code : ErrorCode) :
    Except ErrorCode JsonObject :=
  plainRecord (parseJson round value) code

/-- The timeout of a body, where it has one. -/
def timeoutOf (body : JsonObject) : JsonObject :=
  match Json.get? (js "timeout") body with
  | none => []
  | some timeout => [(js "timeout", timeout)]

/-- What a body asks for, by user, and not nothing. -/
def requestedEntries (body : JsonObject) (key : JsString) (code : ErrorCode) :
    Except ErrorCode JsonObject := do
  assertOnlyKeys body [key] [js "timeout"]
  let entries ← plainRecord (Json.get? key body) code
  require (!entries.isEmpty) code
  return entries

/-- The body of a query. -/
def queryBody (timeout entries : JsonObject) : JsonObject :=
  (js "device_keys", .obj entries) :: timeout

/-- What a chunk of a query may be answered with. -/
def assertQueryResponse (response : QueryResponse) (requestedUsers : List JsString) :
    Except ErrorCode Unit := do
  assertResponseUsers response.deviceKeys requestedUsers
  assertResponseUsers response.masterKeys requestedUsers
  assertResponseUsers response.selfSigningKeys requestedUsers
  assertResponseUsers response.userSigningKeys requestedUsers
  require response.failures.isEmpty "MATRIX_KEYS_QUERY_RESPONSE_INVALID"

/-- The merged response with one more. -/
def mergeQueryResponse (merged response : QueryResponse) : Except ErrorCode QueryResponse := do
  let deviceKeys ← mergeRecord merged.deviceKeys response.deviceKeys
  let failures ← mergeRecord merged.failures response.failures
  let masterKeys ← mergeRecord merged.masterKeys response.masterKeys
  let selfSigningKeys ← mergeRecord merged.selfSigningKeys response.selfSigningKeys
  let userSigningKeys ← mergeRecord merged.userSigningKeys response.userSigningKeys
  return ⟨deviceKeys, failures, masterKeys, selfSigningKeys, userSigningKeys⟩

/-- What a claim may be answered with, and the merged response with it. -/
def mergeClaimResponse (matrixUserId : JsString) (merged response : ClaimResponse) :
    Except ErrorCode ClaimResponse := do
  assertResponseUsers response.oneTimeKeys [matrixUserId]
  require response.failures.isEmpty "MATRIX_KEYS_CLAIM_RESPONSE_INVALID"
  let failures ← mergeRecord merged.failures response.failures
  let oneTimeKeys ← mergeRecord merged.oneTimeKeys response.oneTimeKeys
  return ⟨failures, oneTimeKeys⟩

/-- An id that is a text and not empty. -/
def requestId (request : OutgoingRequest) : Except ErrorCode JsString :=
  orThrow (request.id.filter fun id => id ≠ []) "MATRIX_OUTGOING_REQUEST_ID_INVALID"

/-- The event type of the messages of the application. -/
def applicationMessageEventType : JsString := js "com.sinochat.message.v1"

/-- `isApplicationMessageDeliveredToDevice`: an event that cannot be read counts as one. -/
def isApplicationMessageDeliveredToDevice (round : JsString → JsNumber)
    (event : ProcessedToDeviceEvent) : Bool :=
  (event.type = .decrypted || event.type = .plainText) &&
    match (parseJson round event.rawEvent).bind Json.record? with
    | some raw => (Json.get? (js "type") raw).bind Json.str? = some applicationMessageEventType
    | none => true

/-- The error of a flush that has sent its limit. -/
def limitReached : ClientError := .transport "MATRIX_OUTGOING_REQUEST_LIMIT_REACHED"

namespace MatrixTransportCoordinator

variable {σ : Type} (C : MatrixTransportCoordinator σ)

/-- One turn of the loop of a query. -/
def sendQueryChunk (timeout chunk : JsonObject) (merged : QueryResponse) :
    Client σ QueryResponse := do
  let reply ← C.transport.queryKeys (queryBody timeout chunk)
  let response ← check (parseQueryResponse reply)
  check (assertQueryResponse response (Json.keys chunk))
  check (mergeQueryResponse merged response)

/-- The loop of a query. -/
def sendQueryChunks (timeout : JsonObject) : List JsonObject → QueryResponse →
    Client σ QueryResponse
  | [], merged => pure merged
  | chunk :: rest, merged => do
    let merged' ← C.sendQueryChunk timeout chunk merged
    sendQueryChunks timeout rest merged'

/-- Ask for device keys in chunks, and merge the answers. -/
def sendKeysQuery (body : JsonObject) : Client σ QueryResponse := do
  let entries ← check
    (requestedEntries body (js "device_keys") "MATRIX_KEYS_QUERY_BODY_INVALID")
  C.sendQueryChunks (timeoutOf body) (chunks maxQueryUsersPerHttpRequest entries)
    emptyQueryResponse

/-- One turn of the loop of a claim. -/
def sendClaimOf (originalRequestId : JsString) (timeout : JsonObject)
    (entry : JsString × Json) (merged : ClaimResponse) : Client σ ClaimResponse := do
  let reply ← C.transport.claimKeys
    (deriveClaimSubRequestId C.sha256 originalRequestId entry.1)
    ((js "one_time_keys", .obj [entry]) :: timeout)
  let response ← check (parseClaimResponse reply)
  check (mergeClaimResponse entry.1 merged response)

/-- The loop of a claim. -/
def sendClaimsOf (originalRequestId : JsString) (timeout : JsonObject) : JsonObject →
    ClaimResponse → Client σ ClaimResponse
  | [], merged => pure merged
  | entry :: rest, merged => do
    let merged' ← C.sendClaimOf originalRequestId timeout entry merged
    sendClaimsOf originalRequestId timeout rest merged'

/-- Claim keys user by user, each under a request id of its own, and merge the answers. -/
def sendKeysClaim (originalRequestId : JsString) (body : JsonObject) :
    Client σ ClaimResponse := do
  let entries ← check
    (requestedEntries body (js "one_time_keys") "MATRIX_KEYS_CLAIM_BODY_INVALID")
  C.sendClaimsOf originalRequestId (timeoutOf body) entries ⟨[], []⟩

/-- Send a request of the machine to its endpoint. -/
def sendOutgoingRequest (request : OutgoingRequest) : Client σ Json := do
  let body ← check
    (parseJsonObject C.round request.body "MATRIX_OUTGOING_REQUEST_BODY_INVALID")
  match request.type with
  | .keysUpload => do
    let reply ← C.transport.uploadKeys body
    let response ← check (parseKeysUploadResponse reply)
    return .obj response
  | .keysQuery => do
    let response ← C.sendKeysQuery body
    return response.toJson
  | .keysClaim => do
    let id ← check (requestId request)
    let response ← C.sendKeysClaim id body
    return response.toJson
  | .toDevice => do
    let eventType ← check (orThrow request.eventType "MATRIX_TO_DEVICE_REQUEST_INVALID")
    let txnId ← check (orThrow request.txnId "MATRIX_TO_DEVICE_REQUEST_INVALID")
    let reply ← C.transport.sendToDevice eventType txnId body
    let response ← check (parseEmptyResponse reply "MATRIX_TO_DEVICE_RESPONSE_INVALID")
    return .obj response
  | _ => .fail (.transport "MATRIX_OUTGOING_REQUEST_UNSUPPORTED")

/-- Send a request and mark it as sent with the answer. -/
def commitRequestUnlocked (request : OutgoingRequest) : Client σ Unit := do
  let id ← check (requestId request)
  let response ← C.sendOutgoingRequest request
  let marked ← C.machine.markRequestAsSent id request.type (stringify response)
  check (require marked "MATRIX_OUTGOING_REQUEST_NOT_COMMITTED")

/-! ## The flush -/

/-- Release requests. -/
def freeRequests : List OutgoingRequest → σ → σ
  | [], s => s
  | request :: rest, s => freeRequests rest (C.machine.freeRequest request s)

/-- The inner loop, over the requests of one reading of the queue; `sent` counts those of the
whole flush. Where it fails, it releases the requests that are left. -/
def sendRound : List OutgoingRequest → ℕ → Client σ ℕ
  | [], sent => pure sent
  | request :: rest, sent => fun s =>
    if maxOutgoingRequestsPerFlush ≤ sent then
      (.error limitReached, C.freeRequests (request :: rest) s)
    else
      match C.commitRequestUnlocked request s with
      | (.ok _, t) => sendRound rest (sent + 1) (C.machine.freeRequest request t)
      | (.error error, t) => (.error error, C.freeRequests (request :: rest) t)

section

variable {C} {sent : ℕ} {request : OutgoingRequest} {rest : List OutgoingRequest} {s t : σ}

/-- One request below the limit. -/
theorem sendRound_below (hsent : sent < maxOutgoingRequestsPerFlush) :
    C.sendRound (request :: rest) sent s =
      match C.commitRequestUnlocked request s with
      | (.ok _, t) => C.sendRound rest (sent + 1) (C.machine.freeRequest request t)
      | (.error error, t) => (.error error, C.freeRequests (request :: rest) t) :=
  if_neg (Nat.not_le.mpr hsent)

theorem sendRound_limit (hsent : maxOutgoingRequestsPerFlush ≤ sent) :
    C.sendRound (request :: rest) sent s =
      (.error limitReached, C.freeRequests (request :: rest) s) :=
  if_pos hsent

theorem sendRound_commit (hsent : sent < maxOutgoingRequestsPerFlush) {u : Unit}
    (h : C.commitRequestUnlocked request s = (.ok u, t)) :
    C.sendRound (request :: rest) sent s =
      C.sendRound rest (sent + 1) (C.machine.freeRequest request t) := by
  rw [sendRound_below hsent, h]

theorem sendRound_error (hsent : sent < maxOutgoingRequestsPerFlush) {error : ClientError}
    (h : C.commitRequestUnlocked request s = (.error error, t)) :
    C.sendRound (request :: rest) sent s =
      (.error error, C.freeRequests (request :: rest) t) := by
  rw [sendRound_below hsent, h]

end

/-- The outer loop. Every turn sends a request, so after as many turns as requests are allowed
its condition is false. -/
def flushRounds : ℕ → ℕ → Client σ ℕ
  | 0, _ => .fail limitReached
  | turns + 1, sent =>
    if sent < maxOutgoingRequestsPerFlush then do
      let requests ← C.machine.outgoingRequests
      if requests.isEmpty then pure sent
      else do
        let sent' ← C.sendRound requests sent
        flushRounds turns sent'
    else .fail limitReached

/-- Send what the machine gives out until it gives out nothing, or the limit is reached. -/
def flushOutgoingRequestsUnlocked : Client σ ℕ := C.flushRounds maxOutgoingRequestsPerFlush 0

/-! ## A sync -/

/-- `MatrixSyncResult`. -/
structure MatrixSyncResult where
  nextBatch : JsString
  processedControlEvents : List ProcessedToDeviceEvent
  rejectedApplicationEventCount : ℕ
  outgoingRequestsSent : ℕ

/-- Release events. -/
def freeEvents : List ProcessedToDeviceEvent → σ → σ
  | [], s => s
  | event :: rest, s => freeEvents rest (C.machine.freeEvent event s)

/-- The position to sync from; one that is no token is dropped. -/
def loadSince : Client σ (Option JsString) := do
  let since ← C.tokenStore.load C.matrixDeviceId
  if since.all acceptsSyncToken then pure since
  else do
    C.tokenStore.clear C.matrixDeviceId
    .fail (.transport "MATRIX_SYNC_TOKEN_LOCAL_INVALID")

/-- Store the position of a page and send what the page left outgoing. Where one of them
fails, the caller does not get the events and they are released here. -/
def commitPage (nextBatch : JsString) (controlEvents : List ProcessedToDeviceEvent) :
    Client σ ℕ := fun s =>
  let committed : Client σ ℕ := do
    C.tokenStore.save C.matrixDeviceId nextBatch
    C.flushOutgoingRequestsUnlocked
  match committed s with
  | (.ok sent, t) => (.ok sent, t)
  | (.error error, t) => (.error error, C.freeEvents controlEvents t)

section

variable {C} {nextBatch : JsString} {controlEvents : List ProcessedToDeviceEvent} {s t : σ}

theorem commitPage_of_ok {sent : ℕ} (h : (C.tokenStore.save C.matrixDeviceId nextBatch >>=
    fun _ => C.flushOutgoingRequestsUnlocked) s = (.ok sent, t)) :
    C.commitPage nextBatch controlEvents s = (.ok sent, t) := by
  simp only [commitPage]
  rw [h]

theorem commitPage_of_error {error : ClientError}
    (h : (C.tokenStore.save C.matrixDeviceId nextBatch >>=
      fun _ => C.flushOutgoingRequestsUnlocked) s = (.error error, t)) :
    C.commitPage nextBatch controlEvents s = (.error error, C.freeEvents controlEvents t) := by
  simp only [commitPage]
  rw [h]

end

/-- One sync: load the position, ask, give the events to the machine, commit the page. -/
def performSync (timeout : ℕ) : Client σ MatrixSyncResult := do
  let since ← C.loadSince
  let reply ← C.transport.sync since timeout
  let sync ← check (parseSyncResponse acceptsSyncToken reply)
  let processed ← C.machine.receiveSyncChanges
    (stringify (.arr (sync.toDeviceEvents.map .obj))) sync.changed sync.left
    sync.oneTimeKeyCounts sync.unusedFallbackKeyTypes
  let rejected := processed.filter (isApplicationMessageDeliveredToDevice C.round)
  let controlEvents :=
    processed.filter fun event => !isApplicationMessageDeliveredToDevice C.round event
  Effect.change (C.freeEvents rejected)
  let outgoingRequestsSent ← C.commitPage sync.nextBatch controlEvents
  return ⟨sync.nextBatch, controlEvents, rejected.length, outgoingRequestsSent⟩

end MatrixTransportCoordinator

end Transport

end SinoChat
