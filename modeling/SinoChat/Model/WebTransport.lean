import SinoChat.Model.ToDeviceRequest
import SinoChat.Model.WebApi

/-!
# The Matrix transport of the web client

`matrixTransport.ts`, the part a sync uses: the shape a sync response must
have and the store of the position. What the client takes for a token is a
parameter, `acceptsToken`; the client's own is `acceptsSyncToken`.
-/

namespace SinoChat

open Js

/-- `SYNC_TOKEN_PATTERN`. -/
def syncTokenPattern : List CharClass :=
  lit "sct1." ++ times 22 isBase64Url ++ lit "." ++ times 43 isBase64Url

/-- `SYNC_TOKEN_PATTERN.test`. -/
def acceptsSyncToken (token : JsString) : Bool := fixed syncTokenPattern token

/-- The error of every check on a sync response. -/
def syncResponseInvalid : ErrorCode := "MATRIX_SYNC_RESPONSE_INVALID"

/-- What the client reads of a sync response. -/
structure ParsedSyncResponse where
  nextBatch : JsString
  toDeviceEvents : List (List (JsString × Json))
  changed : List JsString
  left : List JsString
  oneTimeKeyCounts : List (JsString × JsNumber)
  unusedFallbackKeyTypes : List JsString

/-- `plainRecord`, of a property that may be absent. -/
def plainRecord (value : Option Json) : Except ErrorCode (List (JsString × Json)) :=
  orThrow (value.bind Json.record?) syncResponseInvalid

/-- A list. -/
def plainArray (value : Option Json) : Except ErrorCode (List Json) :=
  orThrow (value.bind Json.arr?) syncResponseInvalid

/-- One event of a response. -/
def parseSyncEvent (event : Json) : Except ErrorCode (List (JsString × Json)) := do
  let parsed ← plainRecord (some event)
  require (((Json.get? (js "type") parsed).bind Json.str?) == some matrixOlmEventType)
    syncResponseInvalid
  require ((Json.get? (js "sender") parsed).bind Json.str?).isSome syncResponseInvalid
  require ((Json.get? (js "content") parsed).bind Json.record?).isSome syncResponseInvalid
  return parsed

/-- A user id. -/
def parseMatrixUserId (value : Json) : Except ErrorCode JsString := do
  let userId ← orThrow value.str? syncResponseInvalid
  require (isMatrixUserId userId) syncResponseInvalid
  return userId

/-- `matrixUserIdArray`. -/
def matrixUserIdArray (value : Option Json) : Except ErrorCode (List JsString) := do
  let items ← plainArray value
  require (items.length ≤ 100) syncResponseInvalid
  let result ← items.mapM parseMatrixUserId
  require result.Nodup syncResponseInvalid
  return result

/-- A key count: a safe integer from 0 to 100, or the negative zero. -/
def parseKeyCount (entry : JsString × Json) : Except ErrorCode (JsString × JsNumber) :=
  match entry.2 with
  | .num (.integer n) =>
    if 0 ≤ n ∧ n ≤ 100 then .ok (entry.1, .integer n) else .error syncResponseInvalid
  | .num .negativeZero => .ok (entry.1, .negativeZero)
  | _ => .error syncResponseInvalid

/-- The counts of a response. -/
def parseKeyCounts (value : Option Json) : Except ErrorCode (List (JsString × JsNumber)) := do
  let rawCounts ← plainRecord value
  let parsed ← rawCounts.mapM parseKeyCount
  -- a number set as the prototype of an object is not set at all
  let counts := parsed.filter fun entry => entry.1 != js "__proto__"
  require (counts.any fun entry => entry.1 == js "signed_curve25519") syncResponseInvalid
  return counts

/-- The one algorithm of fallback keys. -/
def parseFallbackType (value : Json) : Except ErrorCode JsString := do
  let algorithm ← orThrow value.str? syncResponseInvalid
  require (algorithm == js "signed_curve25519") syncResponseInvalid
  return algorithm

/-- The unused fallback key types of a response. -/
def parseFallbackTypes (value : Option Json) : Except ErrorCode (List JsString) := do
  let rawTypes ← plainArray value
  let types ← rawTypes.mapM parseFallbackType
  require types.Nodup syncResponseInvalid
  return types

/-- The events of a response. -/
def parseSyncEvents (value : Option Json) : Except ErrorCode (List (List (JsString × Json))) := do
  let toDevice ← plainRecord value
  let rawEvents ← plainArray (Json.get? (js "events") toDevice)
  require (rawEvents.length ≤ 100) syncResponseInvalid
  rawEvents.mapM parseSyncEvent

/-- The device lists of a response as they came; without any they are empty. -/
def deviceListsRecord : Option Json → Except ErrorCode (List (JsString × Json))
  | none => .ok []
  | some lists => plainRecord (some lists)

/-- The device lists of a response, `changed` and `left`; they may be absent. -/
def parseDeviceLists (value : Option Json) : Except ErrorCode (List JsString × List JsString) := do
  let rawLists ← deviceListsRecord value
  let changed ← matrixUserIdArray
    (some ((notNullish (Json.get? (js "changed") rawLists)).getD (.arr [])))
  let left ← matrixUserIdArray
    (some ((notNullish (Json.get? (js "left") rawLists)).getD (.arr [])))
  require (!changed.any left.contains) syncResponseInvalid
  return (changed, left)

/-- **`parseSyncResponse`**; `none` is a reply without a value. -/
def parseSyncResponse (acceptsToken : JsString → Bool) (value : Option Json) :
    Except ErrorCode ParsedSyncResponse := do
  let response ← plainRecord value
  let nextBatch ← orThrow ((Json.get? (js "next_batch") response).bind Json.str?)
    syncResponseInvalid
  require (acceptsToken nextBatch) syncResponseInvalid
  let toDeviceEvents ← parseSyncEvents (Json.get? (js "to_device") response)
  let (changed, left) ← parseDeviceLists (Json.get? (js "device_lists") response)
  let oneTimeKeyCounts ← parseKeyCounts (Json.get? (js "device_one_time_keys_count") response)
  let unusedFallbackKeyTypes ←
    parseFallbackTypes (Json.get? (js "device_unused_fallback_key_types") response)
  return ⟨nextBatch, toDeviceEvents, changed, left, oneTimeKeyCounts, unusedFallbackKeyTypes⟩

/-! ## The position -/

/-- `IndexedDbMatrixSyncTokenStore.save`: the position from then on. -/
def savePosition (acceptsToken : JsString → Bool) (token : JsString) :
    Except ErrorCode (Option JsString) :=
  if acceptsToken token then .ok (some token) else .error "MATRIX_SYNC_TOKEN_INVALID"

/-- The start of `performSync`: the position the store is left with, and the
one to sync from. -/
def loadPosition (acceptsToken : JsString → Bool) (stored : Option JsString) :
    Option JsString × Except ErrorCode (Option JsString) :=
  match stored with
  | none => (none, .ok none)
  | some token =>
    if acceptsToken token then (some token, .ok (some token))
    else (none, .error "MATRIX_SYNC_TOKEN_LOCAL_INVALID")

/-- What `performSync` makes of the reply to its request. -/
def receiveReply (acceptsToken : JsString → Bool) (reply : HttpReply) :
    Except ClientError ParsedSyncResponse :=
  match apiRequest reply with
  | .error error => .error error
  | .ok value => (parseSyncResponse acceptsToken value).mapError .transport

/-- The reply to a sync that succeeded. -/
def syncReply (response : Json) : HttpReply := .answered 200 (some response)

end SinoChat
