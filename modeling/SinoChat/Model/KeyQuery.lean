import SinoChat.Common.Run
import SinoChat.Model.CrossSigningService
import SinoChat.Model.KeyDirectory
import SinoChat.Model.KeyUpload

/-!
# Key queries

`queryKeys` and `queryRelatedKeys` of `matrix-key-directory.service.ts`: the device
keys and the cross-signing keys of the users a request names, who must be the caller
or have a current conversation with the caller. A query holds the locks of its
conversations and of the device sets of its users, so it reads one state.

The tables are those of the cross-signing directory. Rows join them when the first
upload of a device registers it, and when a user's identity is stored.
-/

namespace SinoChat

open Js

namespace KeyQuery

open CrossSigning (Directory SignatureScheme MatrixDeviceKeys MatrixCrossSigningIdentity
  DeviceConstraints)
open MessagePayload (matrixDeviceIdFromUuid)

/-! ## The request -/

/-- A parsed query: the devices asked for, by user; none stands for all of them. -/
structure MatrixKeysQuery where
  deviceKeys : List (JsString × List JsString)
  timeout : Option JsNumber
  deriving DecidableEq

/-- `Object.keys(query.deviceKeys)`. -/
def MatrixKeysQuery.users (query : MatrixKeysQuery) : List JsString := query.deviceKeys.map Prod.fst

/-- One device id of a query. -/
def parseQueryDevice (value : Json) : Except ErrorCode JsString := do
  let deviceId ← orThrow value.str? "MATRIX_KEYS_QUERY_DEVICES_INVALID"
  require (isMatrixDeviceId deviceId) "MATRIX_DEVICE_ID_INVALID"
  return deviceId

/-- One turn of the loop over the users of a query. -/
def parseQueryUser (entry : JsString × Json) : Except ErrorCode (JsString × List JsString) := do
  require (isMatrixUserId entry.1) "MATRIX_USER_ID_INVALID"
  let rawDeviceIds ← orThrow entry.2.arr? "MATRIX_KEYS_QUERY_DEVICES_INVALID"
  require (rawDeviceIds.length ≤ maxDevicesPerUser) "MATRIX_KEYS_QUERY_DEVICES_INVALID"
  let deviceIds ← rawDeviceIds.mapM parseQueryDevice
  require deviceIds.Nodup "MATRIX_KEYS_QUERY_DEVICES_INVALID"
  return (entry.1, deviceIds)

/-- The body of a key query. -/
def parseMatrixKeysQuery (value : Json) : Except ErrorCode MatrixKeysQuery := do
  let body ← record (some value) "MATRIX_KEYS_QUERY_NOT_OBJECT"
  require (exactOptionalKeys body [js "device_keys"] [js "timeout"])
    "MATRIX_KEYS_QUERY_FIELDS_INVALID"
  let users ← record (Json.get? (js "device_keys") body) "MATRIX_KEYS_QUERY_DEVICE_KEYS_INVALID"
  require (1 ≤ users.length && users.length ≤ maxUsersPerRequest)
    "MATRIX_KEYS_QUERY_USER_LIMIT_INVALID"
  let deviceKeys ← users.mapM parseQueryUser
  let timeout ← optionalTimeout (Json.get? (js "timeout") body)
  return ⟨deviceKeys, timeout⟩

/-- `parseQuery` of the service. -/
def parseQuery (value : Json) : Except HttpException MatrixKeysQuery :=
  (parseMatrixKeysQuery value).mapError keyRequestError

/-! ## The answer -/

/-- The answer to a query; `failures` is always empty. -/
structure KeyQueryResponse where
  deviceKeys : JsMap JsString (JsMap JsString Json)
  masterKeys : JsMap JsString Json
  selfSigningKeys : JsMap JsString Json
  userSigningKeys : JsMap JsString Json

/-- The published identities a query is answered from, by user and device. -/
def queriedRows (accounts : Accounts) (requestedUsers : List JsString) : List MatrixDeviceKey :=
  (accounts.deviceKeys.rows.filter fun row =>
    requestedUsers.contains row.matrixUserId && accounts.activeDevice row.deviceId).sortBy
      fun row => toLex (unitOrder row.matrixUserId, unitOrder row.matrixDeviceId)

/-- The keys of a device: the certified copy, or else those it registered. -/
def keysOfDevice (db : Directory) (row : MatrixDeviceKey) : Option Json :=
  (notNullish ((db.certificates.find? row.deviceId).map fun certificate =>
    certificate.signedDeviceKeys)).or (db.deviceKeys row.deviceId)

/-- The query asks for a device: no device is named, or this one is. -/
def asksFor (query : MatrixKeysQuery) (row : MatrixDeviceKey) : Bool :=
  (JsMap.get? row.matrixUserId query.deviceKeys).any fun requestedDevices =>
    requestedDevices.isEmpty || requestedDevices.contains row.matrixDeviceId

/-- One turn of the loop over the rows. -/
def addDevice (db : Directory) (query : MatrixKeysQuery)
    (deviceKeys : JsMap JsString (JsMap JsString Json)) (row : MatrixDeviceKey) :
    JsMap JsString (JsMap JsString Json) :=
  match asksFor query row, keysOfDevice db row with
  | true, some keys =>
    let devices := (JsMap.get? row.matrixUserId deviceKeys).getD []
    JsMap.set row.matrixUserId (JsMap.set row.matrixDeviceId keys devices) deviceKeys
  | _, _ => deviceKeys

/-- A key of an identity, where it has one. -/
def signingKey (identity : MatrixCrossSigningIdentity) (name : JsString) : Option Json :=
  identity.signingKeys.record?.bind (Json.get? name)

/-- The keys of one kind, by user. -/
def signingKeysOf (identities : List MatrixCrossSigningIdentity) (name : JsString) :
    JsMap JsString Json :=
  .ofEntries (identities.filterMap fun identity =>
    (signingKey identity name).map fun key => (identity.matrixUserId, key))

/-- The identities of the users of a query. -/
def queriedIdentities (db : Directory) (requestedUsers : List JsString) :
    List MatrixCrossSigningIdentity :=
  db.identities.rows.filter fun identity => requestedUsers.contains identity.matrixUserId

/-- `queryResponse`: the user-signing key is for its owner only. -/
def queryResponse (db : Directory) (query : MatrixKeysQuery) (ownMatrixUserId : JsString) :
    KeyQueryResponse :=
  let identities := queriedIdentities db query.users
  { deviceKeys := (queriedRows db.accounts query.users).foldl (addDevice db query)
      (.ofEntries (query.users.map fun userId => (userId, [])))
    masterKeys := signingKeysOf identities (js "master_key")
    selfSigningKeys := signingKeysOf identities (js "self_signing_key")
    userSigningKeys := signingKeysOf
      (identities.filter fun identity => identity.matrixUserId = ownMatrixUserId)
      (js "user_signing_key") }

/-! ## The two queries -/

/-- **`queryKeys`**: of the two parties of a conversation. -/
def queryKeys (serverName : JsString) (principal : SessionPrincipal) (conversationId : Uuid)
    (value : Json) (eligibilityNow now : ℕ) (db : Directory) :
    Except HttpException KeyQueryResponse := do
  let deviceId ← requireDirectoryDevice principal
  let query ← parseQuery value
  let parties ← conversationParties db.accounts principal conversationId deviceId eligibilityNow
  require (db.accounts.currentUserSession principal deviceId now)
    (.unauthorized "La sesion ya no esta vigente.")
  let peerUserId := if parties.1 = principal.id then parties.2 else parties.1
  let ownMatrixUserId := matrixUserIdFromUuid principal.id serverName
  let peerMatrixUserId := matrixUserIdFromUuid peerUserId serverName
  require (query.users.all [ownMatrixUserId, peerMatrixUserId].contains)
    (.forbidden "La consulta de claves contiene una identidad no autorizada.")
  return queryResponse db query ownMatrixUserId

/-- The error of every check of `lockRelatedTargets`. -/
def unavailable : HttpException :=
  .forbidden "La identidad Matrix no esta disponible para esta sesion."

/-- The user behind a requested id. -/
def parseTarget (serverName matrixUserId : JsString) : Except HttpException (JsString × Uuid) := do
  let userId ← orThrow (sinochatUserIdFromMatrixUserId matrixUserId serverName) unavailable
  return (matrixUserId, userId)

/-- One turn of the loop over the targets. -/
def targetScope (accounts : Accounts) (principal : SessionPrincipal)
    (eligibilityNow : JsString → ℕ) (target : JsString × Uuid) : Except HttpException ClaimScope :=
  if target.2 = principal.id then .ok ⟨target.2, target.1, none⟩
  else do
    let conversationId ← currentConversation accounts principal target.2 (eligibilityNow target.1)
    return ⟨target.2, target.1, some conversationId⟩

/-- `lockRelatedTargets`. The eligibility of each target is read at a time of its own. -/
def lockRelatedTargets (serverName : JsString) (accounts : Accounts)
    (principal : SessionPrincipal) (deviceId : Uuid) (matrixUserIds : List JsString)
    (eligibilityNow : JsString → ℕ) : Except HttpException (List ClaimScope) := do
  let ownMatrixUserId := matrixUserIdFromUuid principal.id serverName
  require ((accounts.deviceKeys.find? deviceId).any fun published =>
    published.userId = principal.id && published.matrixUserId = ownMatrixUserId) unavailable
  let targets ← matrixUserIds.mapM (parseTarget serverName)
  -- between UUIDs `localeCompare` is the order of the code units
  let scopes ← (targets.sortBy fun target => unitOrder target.2.text).mapM
    (targetScope accounts principal eligibilityNow)
  require ((scopes.find? fun scope => scope.userId = principal.id).all fun ownScope =>
    ownScope.matrixUserId = ownMatrixUserId) unavailable
  matrixUserIds.mapM fun matrixUserId =>
    orThrow (scopes.find? fun scope => scope.matrixUserId = matrixUserId) unavailable

/-- **`queryRelatedKeys`**: of any users the caller is related to. The session is
checked again with the locks held. -/
def queryRelatedKeys (serverName : JsString) (principal : SessionPrincipal) (value : Json)
    (eligibilityNow : JsString → ℕ) (now later : ℕ) (db : Directory) :
    Except HttpException KeyQueryResponse := do
  let deviceId ← requireDirectoryDevice principal
  let query ← parseQuery value
  require (db.accounts.currentUserSession principal deviceId now)
    (.unauthorized "La sesion ya no esta vigente.")
  let _ ← lockRelatedTargets serverName db.accounts principal deviceId query.users eligibilityNow
  require (db.accounts.currentUserSession principal deviceId later)
    (.unauthorized "La sesion ya no esta vigente.")
  return queryResponse db query (matrixUserIdFromUuid principal.id serverName)

/-! ## The tables as a machine -/

/-- `deviceKeyData`: the identity a first upload publishes. -/
def deviceKeyData (deviceId userId : Uuid) (deviceKeys : MatrixDeviceKeys) : MatrixDeviceKey where
  deviceId := deviceId
  userId := userId
  matrixUserId := deviceKeys.userId
  matrixDeviceId := deviceKeys.deviceId
  curve25519Key := deviceKeys.curve25519

/-- What happened to the tables a query reads. -/
inductive KeyTableAction where
  | registered (deviceId : Uuid)
  | bootstrapped (userId : Uuid)
  | accountsChanged
  | listsChanged
  deriving DecidableEq

/-- **The steps of the tables.** The rest of the system may change the accounts, but
not the published identities, and keeps the constraints; of `completeInitialUpload`,
only what it stores is here, not what it refuses for. -/
inductive KeyTableStep (env : Deployment) (scheme : SignatureScheme) :
    Directory → KeyTableAction → Directory → Prop
  | register {db : Directory} {userId deviceId : Uuid} {value : Json}
      {upload : KeyUpload.InitialMatrixKeyUpload} :
      KeyUpload.parseInitialMatrixKeyUpload scheme value
          (matrixUserIdFromUuid userId env.matrixServerName) (matrixDeviceIdFromUuid deviceId) =
        .ok upload →
      (∀ device ∈ db.accounts.devices, device.userId ≠ userId) →
      (hdevice : db.accounts.devices.find? deviceId = none) →
      (hkeys : db.accounts.deviceKeys.find? deviceId = none) →
      KeyTableStep env scheme db (.registered deviceId)
        { db with
          accounts := { db.accounts with
            devices := db.accounts.devices.insert ⟨deviceId, userId, .active⟩ hdevice
            deviceKeys := db.accounts.deviceKeys.insert
              (deviceKeyData deviceId userId upload.deviceKeys) hkeys }
          deviceKeys := Function.update db.deviceKeys deviceId
            (some (KeyUpload.deviceKeysJson upload.deviceKeys)) }
  | bootstrap {db db' : Directory} {call : CrossSigning.IdentityCall} {value : Json}
      {answer : CrossSigning.IdentityStatus} :
      CrossSigning.bootstrap env scheme call value db = .ok (db', answer) →
      KeyTableStep env scheme db (.bootstrapped call.principal.id) db'
  | changeAccounts {db : Directory} {accounts : Accounts} :
      accounts.deviceKeys = db.accounts.deviceKeys → DeviceConstraints accounts →
      KeyTableStep env scheme db .accountsChanged { db with accounts }
  | changeLists {db : Directory} {lists : DeviceLists} :
      KeyTableStep env scheme db .listsChanged { db with lists }

/-- The tables, without published keys at first. -/
def keyTables (env : Deployment) (scheme : SignatureScheme) :
    Machine Directory KeyTableAction where
  init db := db.accounts.deviceKeys = .empty ∧ db.identities = .empty ∧
    db.certificates = .empty ∧ DeviceConstraints db.accounts
  step := KeyTableStep env scheme

end KeyQuery

end SinoChat
