import SinoChat.Model.KeyRequest
import SinoChat.Model.ToDevice

/-!
# The key directory

`matrix-key-directory.service.ts`: the upload of one-time and fallback keys
and the two ways to claim a key of somebody else's device. A claim is
identified by the claiming device and a request id; its record and its
results are kept, and a repeated claim is answered from them.

Both claims take the device-set locks of the two users before they touch a
key, and an upload takes its user's, so each is one step on the key tables.
An upload and `claimKeys` read the clock with the locks held;
`claimRelatedKeys` reads it before.
-/

namespace SinoChat

open Js

/-- `requireBoundDevice` of the directory: a chat role and a bound device. -/
def requireDirectoryDevice (principal : SessionPrincipal) : Except HttpException Uuid := do
  require (principal.role != .admin)
    (.forbidden "El rol no puede consultar identidades de chat.")
  orThrow principal.deviceId (.forbidden "La sesion no esta vinculada a un dispositivo.")

/-! ## Uploading -/

/-- A key of a parsed upload: its full id, the Curve25519 key, the signed
object and the id a new row would get. -/
structure UploadedKey where
  fullKeyId : JsString
  key : JsString
  signedKey : Json
  rowId : Uuid

/-- What the upload parser lets through. -/
structure MatrixKeyUpload where
  oneTimeKeys : List UploadedKey
  fallbackKeys : List UploadedKey

/-- `curveKeyId`: the key id behind the algorithm. -/
def curveKeyId (fullKeyId : JsString) : Except HttpException JsString := do
  let pre := signedCurve25519 ++ js ":"
  require (pre.isPrefixOf fullKeyId) (.badRequest "Identificador de preclave invalido.")
  return fullKeyId.drop pre.length

/-- The digest of a signed key. -/
def signedKeySha256 (crypto : Crypto) (signedKey : Json) : Except HttpException JsString :=
  match hashMatrixCanonicalJson crypto signedKey with
  | .ok hash => .ok hash
  | .error code => .error (.internal code)

/-- The unique index on the Curve25519 keys of both tables. -/
def KeyStore.curveKeyUsed (keys : KeyStore) (key : JsString) : Bool :=
  (keys.oneTimeKeys.any fun row => row.curve25519Key == key) ||
    keys.fallbackKeys.any fun row => row.curve25519Key == key

/-- `isUniqueViolation`, as the upload reports it. -/
def uniqueViolation : HttpException :=
  .conflict "Una clave Matrix ya existe con otro identificador o contenido."

/-- `insertOneTimeKeys`: a key that is there with the same content is passed
over, one with other content is refused, a new one is added unclaimed. -/
def insertOneTimeKeys (crypto : Crypto) (deviceId : Uuid) (uploadedAt : ℕ) :
    List UploadedKey → KeyStore → Except HttpException KeyStore
  | [], keys => .ok keys
  | upload :: rest, keys => do
    let keyId ← curveKeyId upload.fullKeyId
    let canonicalSha256 ← signedKeySha256 crypto upload.signedKey
    match keys.oneTimeKeys.find? fun row => row.deviceId = deviceId ∧ row.keyId = keyId with
    | some existing => do
      require (existing.curve25519Key == upload.key &&
          existing.canonicalSha256 == canonicalSha256)
        (.conflict "Una preclave Matrix existente no puede sustituirse.")
      insertOneTimeKeys crypto deviceId uploadedAt rest keys
    | none => do
      require (!keys.curveKeyUsed upload.key) uniqueViolation
      require ((keys.unclaimed deviceId).length < 100)
        (.internal "matrix one-time key pool cannot exceed 100 unclaimed keys")
      let row : MatrixOneTimeKey :=
        ⟨upload.rowId, deviceId, keyId, upload.key, upload.signedKey, canonicalSha256,
          uploadedAt, none⟩
      insertOneTimeKeys crypto deviceId uploadedAt rest
        { keys with oneTimeKeys := keys.oneTimeKeys ++ [row] }

/-- Make a fallback key the current one of its device, unless it is older
than the one there. -/
def KeyStore.setSlot (keys : KeyStore) (deviceId : Uuid) (fallback : MatrixFallbackKey) :
    Except HttpException KeyStore :=
  match keys.currentFallback deviceId with
  | none => .ok { keys with slots := Function.update keys.slots deviceId (some fallback.id) }
  | some current =>
    if current.id = fallback.id then .ok keys
    else if fallback.uploadedAt ≤ current.uploadedAt then
      .error (.conflict "La rotacion fallback debe reintentarse con un reloj posterior.")
    else .ok { keys with slots := Function.update keys.slots deviceId (some fallback.id) }

/-- `rotateFallbackKey`: only the first key of the upload counts. -/
def rotateFallbackKey (crypto : Crypto) (deviceId : Uuid) (uploadedAt : ℕ)
    (uploads : List UploadedKey) (keys : KeyStore) : Except HttpException KeyStore :=
  match uploads with
  | [] => .ok keys
  | upload :: _ => do
    let keyId ← curveKeyId upload.fullKeyId
    let canonicalSha256 ← signedKeySha256 crypto upload.signedKey
    match keys.fallbackKeys.find? fun row => row.deviceId = deviceId ∧ row.keyId = keyId with
    | some existing => do
      require (existing.curve25519Key == upload.key &&
          existing.canonicalSha256 == canonicalSha256)
        (.conflict "Una fallback Matrix existente no puede sustituirse.")
      keys.setSlot deviceId existing
    | none => do
      require (!keys.curveKeyUsed upload.key) uniqueViolation
      let row : MatrixFallbackKey :=
        ⟨upload.rowId, deviceId, keyId, upload.key, upload.signedKey, canonicalSha256,
          uploadedAt, none⟩
      KeyStore.setSlot { keys with fallbackKeys := keys.fallbackKeys ++ [row] } deviceId row

/-- **`uploadKeys`**, for an upload the parser let through. -/
def uploadKeys (crypto : Crypto) (principal : SessionPrincipal) (upload : MatrixKeyUpload)
    (db : Db) : Except HttpException Db := do
  let deviceId ← requireDirectoryDevice principal
  require (db.accounts.operational principal.id)
    (.forbidden "La cuenta no está disponible para esta acción.")
  require (db.accounts.currentUserSession principal deviceId db.clock)
    (.unauthorized "La sesion ya no esta vigente.")
  require (db.accounts.deviceKeys.find? deviceId).isSome
    (.conflict "El dispositivo no publico una identidad Matrix.")
  let inserted ← insertOneTimeKeys crypto deviceId db.clock upload.oneTimeKeys db.keys
  let keys ← rotateFallbackKey crypto deviceId db.clock upload.fallbackKeys inserted
  return { db with keys }

/-! ## Claiming -/

/-- The order in which the keys of a device are handed out. -/
def handOutOrder (key : MatrixOneTimeKey) : ℕ ×ₗ List ℕ :=
  toLex (key.uploadedAt, unitOrder key.id.text)

/-- The oldest unclaimed key of a device. -/
def KeyStore.oldestUnclaimed (keys : KeyStore) (deviceId : Uuid) : Option MatrixOneTimeKey :=
  ((keys.unclaimed deviceId).sortBy handOutOrder).head?

/-- Mark a one-time key as claimed. -/
def markClaimed (id : Uuid) (claimedAt : ℕ) (key : MatrixOneTimeKey) : MatrixOneTimeKey :=
  if key.id = id then { key with claimedAt := some claimedAt } else key

/-- Mark a fallback key as handed out, the first time. -/
def markFirstClaimed (id : Uuid) (claimedAt : ℕ) (key : MatrixFallbackKey) : MatrixFallbackKey :=
  if key.id = id ∧ key.firstClaimedAt = none then { key with firstClaimedAt := some claimedAt }
  else key

/-- `claimRecipientKey`: the oldest one-time key, else the current fallback
key, else a result without a key. -/
def claimRecipientKey (claimRequestId recipientDeviceId : Uuid) (claimedAt : ℕ)
    (keys : KeyStore) : KeyStore :=
  match keys.oldestUnclaimed recipientDeviceId with
  | some oneTimeKey =>
    { keys with
      oneTimeKeys := keys.oneTimeKeys.map (markClaimed oneTimeKey.id claimedAt)
      claimResults := keys.claimResults ++
        [⟨claimRequestId, recipientDeviceId, some oneTimeKey.id, none, claimedAt⟩] }
  | none =>
    match keys.currentFallback recipientDeviceId with
    | some fallback =>
      { keys with
        fallbackKeys := keys.fallbackKeys.map (markFirstClaimed fallback.id claimedAt)
        claimResults := keys.claimResults ++
          [⟨claimRequestId, recipientDeviceId, none, some fallback.id, claimedAt⟩] }
    | none =>
      { keys with
        claimResults := keys.claimResults ++
          [⟨claimRequestId, recipientDeviceId, none, none, claimedAt⟩] }

/-- The keys of a claim response: user, device, key id, signed key. -/
abbrev ClaimedKeys := JsMap JsString (JsMap JsString (JsString × Json))

/-- The identity and the key behind one result, where there are both. -/
def claimedKey (accounts : Accounts) (keys : KeyStore) (result : MatrixKeyClaimResult) :
    Option ((JsString × JsString) × (JsString × Json)) :=
  let oneTimeKey := result.oneTimeKeyId.bind fun id =>
    (keys.oneTimeKeys.find? fun row => row.id = id).map fun row => (row.keyId, row.signedKey)
  let fallbackKey := result.fallbackKeyId.bind fun id =>
    (keys.fallbackKeys.find? fun row => row.id = id).map fun row => (row.keyId, row.signedKey)
  match accounts.deviceKeys.find? result.recipientDeviceId, oneTimeKey.or fallbackKey with
  | some identity, some (keyId, signedKey) =>
    some ((identity.matrixUserId, identity.matrixDeviceId),
      (signedCurve25519 ++ js ":" ++ keyId, signedKey))
  | _, _ => none

/-- `buildClaimResponse`: the keys recorded for a claim, in the order of the
recipient devices. -/
def buildClaimResponse (accounts : Accounts) (keys : KeyStore) (claimRequestId : Uuid) :
    ClaimedKeys :=
  let results := (keys.claimResults.filter fun result =>
    result.claimRequestId = claimRequestId).sortBy
      fun result => unitOrder result.recipientDeviceId.text
  (results.filterMap (claimedKey accounts keys)).foldl
    (fun users entry =>
      let devices := (JsMap.get? entry.1.1 users).getD []
      JsMap.set entry.1.1 (JsMap.set entry.1.2 entry.2 devices) users) []

/-- `rethrowKeyRequestValidation`. -/
def keyRequestError (code : ErrorCode) : HttpException :=
  .withBody 400 (.obj [(js "error", .str (js code)),
    (js "message", .str (js "La solicitud del directorio Matrix no es valida."))])

/-- The request id and the claim of a call. -/
structure ParsedClaim where
  requestId : JsString
  claim : MatrixKeysClaim

/-- The parsers before a claim, with the error they are answered with. -/
def parseClaimCall (rawRequestId : JsString) (value : Json) :
    Except HttpException ParsedClaim := do
  let requestId ← (parseMatrixClaimRequestId rawRequestId).mapError keyRequestError
  let claim ← (parseMatrixKeysClaim value).mapError keyRequestError
  return ⟨requestId, claim⟩

/-- The digest of a claim. -/
def claimSha256 (crypto : Crypto) (claim : MatrixKeysClaim) : Except HttpException JsString :=
  match hashMatrixCanonicalJson crypto (matrixClaimHashInput claim) with
  | .ok hash => .ok hash
  | .error code => .error (.internal code)

/-- The record of an earlier claim of the same device and request id. -/
def KeyStore.previousClaim (keys : KeyStore) (deviceId : Uuid) (requestId : JsString) :
    Option MatrixKeyClaimRequest :=
  keys.claimRequests.find? fun request =>
    request.requesterDeviceId = deviceId ∧ request.requestId = requestId

/-- Whom a claim may take keys from, and under which conversation. -/
structure ClaimScope where
  userId : Uuid
  matrixUserId : JsString
  conversationId : Option Uuid

/-- The devices a claim asks for that are there to give a key, by id. -/
def claimTargets (accounts : Accounts) (scope : ClaimScope) (requested : List JsString)
    (excluded : Option Uuid) : List Uuid :=
  ((accounts.deviceKeys.rows.filter fun row =>
      row.userId == scope.userId && row.matrixUserId == scope.matrixUserId &&
        requested.contains row.matrixDeviceId && some row.deviceId != excluded &&
        accounts.activeDevice row.deviceId).map MatrixDeviceKey.deviceId).sortBy
    fun deviceId => unitOrder deviceId.text

/-- The part both claims share: answer a repeated claim from its record,
otherwise record it and take a key from every target. -/
def runClaim (db : Db) (deviceId : Uuid) (scope : ClaimScope) (parsed : ParsedClaim)
    (requestSha256 : JsString) (excluded : Option Uuid) (rowId : Uuid) (now : ℕ) :
    Except HttpException (Db × ClaimedKeys) :=
  match db.keys.previousClaim deviceId parsed.requestId with
  | some previous => do
    require (previous.conversationId == scope.conversationId &&
        previous.requestSha256 == requestSha256)
      (.conflict "El identificador de reclamo ya pertenece a otra solicitud.")
    return (db, buildClaimResponse db.accounts db.keys previous.id)
  | none =>
    let request : MatrixKeyClaimRequest :=
      ⟨rowId, deviceId, scope.conversationId, parsed.requestId, requestSha256⟩
    let requested := ((parsed.claim.oneTimeKeys.find? fun user =>
      user.1 = scope.matrixUserId).map Prod.snd).getD []
    let keys := (claimTargets db.accounts scope requested excluded).foldl
      (fun keys target => claimRecipientKey rowId target now keys)
      { db.keys with claimRequests := db.keys.claimRequests ++ [request] }
    .ok ({ db with keys }, buildClaimResponse db.accounts keys rowId)

/-- A claim: what the caller sent, the id its record would get, the clock
reading of the eligibility query and, for a related claim, of the service. -/
structure ClaimCall where
  principal : SessionPrincipal
  rawRequestId : JsString
  value : Json
  rowId : Uuid
  eligibilityNow : ℕ
  now : ℕ

/-- `lockCurrent`: the two parties of a conversation the caller is in. -/
def conversationParties (accounts : Accounts) (principal : SessionPrincipal)
    (conversationId deviceId : Uuid) (now : ℕ) : Except HttpException (Uuid × Uuid) :=
  match accounts.currentOfConversation principal.id conversationId deviceId now with
  | [] => .error (.forbidden "Conversacion no disponible.")
  | [parties] => .ok parties
  | _ => .error (.internal "Se detecto mas de una elegibilidad activa.")

/-- **`claimKeys`**: from the other party of a conversation. -/
def claimKeys (crypto : Crypto) (serverName : JsString) (conversationId : Uuid)
    (call : ClaimCall) (db : Db) : Except HttpException (Db × ClaimedKeys) := do
  let deviceId ← requireDirectoryDevice call.principal
  let parsed ← parseClaimCall call.rawRequestId call.value
  let hash ← claimSha256 crypto parsed.claim
  let parties ← conversationParties db.accounts call.principal conversationId deviceId
    call.eligibilityNow
  require (db.accounts.currentUserSession call.principal deviceId call.now)
    (.unauthorized "La sesion ya no esta vigente.")
  let peerUserId := if parties.1 = call.principal.id then parties.2 else parties.1
  let peerMatrixUserId := matrixUserIdFromUuid peerUserId serverName
  require (parsed.claim.oneTimeKeys.map Prod.fst == [peerMatrixUserId])
    (.forbidden "El reclamo de claves solo puede dirigirse a la contraparte actual.")
  runClaim db deviceId ⟨peerUserId, peerMatrixUserId, some conversationId⟩ parsed hash none
    call.rowId call.now

/-- `lockRelatedTargets`, for the single identity of a claim. -/
def relatedScope (serverName : JsString) (accounts : Accounts) (principal : SessionPrincipal)
    (deviceId : Uuid) (matrixUserId : JsString) (now : ℕ) : Except HttpException ClaimScope := do
  let unavailable := HttpException.forbidden
    "La identidad Matrix no esta disponible para esta sesion."
  let ownMatrixUserId := matrixUserIdFromUuid principal.id serverName
  let published ← orThrow (accounts.deviceKeys.find? deviceId) unavailable
  require (published.userId == principal.id && published.matrixUserId == ownMatrixUserId)
    unavailable
  let userId ← orThrow (sinochatUserIdFromMatrixUserId matrixUserId serverName) unavailable
  if userId = principal.id then do
    require (matrixUserId == ownMatrixUserId) unavailable
    return ⟨userId, matrixUserId, none⟩
  else do
    let conversationId ← currentConversation accounts principal userId now
    return ⟨userId, matrixUserId, some conversationId⟩

/-- **`claimRelatedKeys`**: from any single identity the caller is related
to, its own other devices included. -/
def claimRelatedKeys (crypto : Crypto) (serverName : JsString) (call : ClaimCall) (db : Db) :
    Except HttpException (Db × ClaimedKeys) := do
  let deviceId ← requireDirectoryDevice call.principal
  let parsed ← parseClaimCall call.rawRequestId call.value
  match parsed.claim.oneTimeKeys with
  | [(matrixUserId, _)] => do
    let hash ← claimSha256 crypto parsed.claim
    require (db.accounts.currentUserSession call.principal deviceId call.now)
      (.unauthorized "La sesion ya no esta vigente.")
    let scope ← relatedScope serverName db.accounts call.principal deviceId matrixUserId
      call.eligibilityNow
    runClaim db deviceId scope parsed hash (some deviceId) call.rowId call.now
  | _ => .error (.withBody 400 (.obj [
      (js "error", .str (js "MATRIX_KEYS_CLAIM_SINGLE_USER_REQUIRED")),
      (js "message",
        .str (js "Cada subsolicitud de claves Matrix debe tener un destinatario."))]))

end SinoChat
