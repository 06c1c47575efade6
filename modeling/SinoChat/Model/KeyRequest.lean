import SinoChat.Model.ToDeviceRequest

/-!
# The key-claim request

`matrix-key-requests.ts`, the part the claims use: what a `keys/claim` body
and a claim id must be, and the value the claim's digest is taken of. The
identifiers of users and devices follow `packages/contracts`.
-/

namespace SinoChat

open Js

/-- `/^[A-Za-z0-9._~-]{1,64}$/`. -/
def isClaimRequestId (s : JsString) : Bool :=
  run (fun u => isAlphanumeric u || u == 0x2E || u == 0x5F || u == 0x7E || u == 0x2D) 1 64 s

/-- The users that one request names at most. -/
def maxUsersPerRequest : ℕ := 20

/-- The devices of one user that a request names at most. -/
def maxDevicesPerUser : ℕ := 10

/-- The longest timeout a request may ask for. -/
def maxKeyRequestTimeoutMs : ℕ := 30000

/-- `MATRIX_SIGNED_CURVE25519_ALGORITHM`. -/
def signedCurve25519 : JsString := js "signed_curve25519"

/-- A parsed claim: the devices asked for, by user, all for the one algorithm. -/
structure MatrixKeysClaim where
  oneTimeKeys : List (JsString × List JsString)
  timeout : Option JsNumber
  deriving DecidableEq

/-- `exactOptionalKeys`. -/
def exactOptionalKeys (value : List (JsString × Json)) (required optional : List JsString) :
    Bool :=
  required.all (Json.hasOwn value) &&
    (Json.keys value).all fun key => required.contains key || optional.contains key

/-- `optionalTimeout`; the negative zero passes it. -/
def optionalTimeout : Option Json → Except ErrorCode (Option JsNumber)
  | none => .ok none
  | some (.num (.integer n)) =>
    if 0 ≤ n ∧ n ≤ maxKeyRequestTimeoutMs then .ok (some (.integer n))
    else .error "MATRIX_REQUEST_TIMEOUT_INVALID"
  | some (.num .negativeZero) => .ok (some .negativeZero)
  | some _ => .error "MATRIX_REQUEST_TIMEOUT_INVALID"

/-- The devices of one user in a claim. -/
def parseClaimDevices : List (JsString × Json) → Except ErrorCode (List JsString)
  | [] => .ok []
  | (deviceId, algorithm) :: rest => do
    require (isMatrixDeviceId deviceId) "MATRIX_DEVICE_ID_INVALID"
    require (algorithm.str? == some signedCurve25519) "MATRIX_KEYS_CLAIM_ALGORITHM_INVALID"
    let parsed ← parseClaimDevices rest
    return deviceId :: parsed

/-- The users of a claim. -/
def parseClaimUsers : List (JsString × Json) →
    Except ErrorCode (List (JsString × List JsString))
  | [] => .ok []
  | (userId, rawDevices) :: rest => do
    require (isMatrixUserId userId) "MATRIX_USER_ID_INVALID"
    let devices ← record (some rawDevices) "MATRIX_KEYS_CLAIM_DEVICES_INVALID"
    require (1 ≤ devices.length && devices.length ≤ maxDevicesPerUser)
      "MATRIX_KEYS_CLAIM_DEVICE_LIMIT_INVALID"
    let parsedDevices ← parseClaimDevices devices
    let parsed ← parseClaimUsers rest
    return (userId, parsedDevices) :: parsed

/-- The body of a claim. -/
def parseMatrixKeysClaim (value : Json) : Except ErrorCode MatrixKeysClaim := do
  let body ← record (some value) "MATRIX_KEYS_CLAIM_NOT_OBJECT"
  require (exactOptionalKeys body [js "one_time_keys"] [js "timeout"])
    "MATRIX_KEYS_CLAIM_FIELDS_INVALID"
  let users ← record (Json.get? (js "one_time_keys") body) "MATRIX_KEYS_CLAIM_KEYS_INVALID"
  require (1 ≤ users.length && users.length ≤ maxUsersPerRequest)
    "MATRIX_KEYS_CLAIM_USER_LIMIT_INVALID"
  let oneTimeKeys ← parseClaimUsers users
  require ((oneTimeKeys.map fun user => user.2.length).sum ≤ maxDevicesPerUser)
    "MATRIX_KEYS_CLAIM_DEVICE_LIMIT_INVALID"
  let timeout ← optionalTimeout (Json.get? (js "timeout") body)
  return ⟨oneTimeKeys, timeout⟩

/-- The id under which a claim may be repeated. -/
def parseMatrixClaimRequestId (value : JsString) : Except ErrorCode JsString := do
  require (isClaimRequestId value) "MATRIX_KEYS_CLAIM_REQUEST_ID_INVALID"
  return value

/-- The `one_time_keys` member of the hash input. -/
def oneTimeKeysJson (oneTimeKeys : List (JsString × List JsString)) : Json :=
  .obj (oneTimeKeys.map fun user =>
    (user.1, .obj (user.2.map fun device => (device, .str signedCurve25519))))

/-- What the digest of a claim is of. -/
def matrixClaimHashInput (claim : MatrixKeysClaim) : Json :=
  match claim.timeout with
  | none => .obj [(js "one_time_keys", oneTimeKeysJson claim.oneTimeKeys)]
  | some timeout =>
    .obj [(js "one_time_keys", oneTimeKeysJson claim.oneTimeKeys), (js "timeout", .num timeout)]

/-- **Two claims with the same content**, up to the order of object keys. -/
def SameClaim (a b : MatrixKeysClaim) : Prop :=
  canonicalize (matrixClaimHashInput a) = canonicalize (matrixClaimHashInput b)

/-! ## Identifiers -/

/-- The 32 hexadecimal digits of a UUID. -/
def uuidHex (id : Uuid) : JsString := id.text.filter fun u => u != 0x2D

/-- `matrixUserIdFromUuid`, for a normalised server name. -/
def matrixUserIdFromUuid (userId : Uuid) (serverName : JsString) : JsString :=
  js "@u" ++ uuidHex userId ++ js ":" ++ serverName

/-- `toLowerCase` as far as its result can be ASCII: the letters, and the
Kelvin sign, whose lowercase is the letter k. -/
def lowerUnit (u : UInt16) : UInt16 :=
  if isUpper u then u + 0x20 else if u = 0x212A then 0x6B else u

/-- Insert the dashes of a UUID between the groups of its digits. -/
def dashed (hex : JsString) : JsString :=
  hex.take 8 ++ js "-" ++ (hex.drop 8).take 4 ++ js "-" ++ (hex.drop 12).take 4 ++ js "-" ++
    (hex.drop 16).take 4 ++ js "-" ++ hex.drop 20

/-- `sinochatUserIdFromMatrixUserId`: the inverse, for ids of this server only. -/
def sinochatUserIdFromMatrixUserId (matrixUserId serverName : JsString) : Option Uuid :=
  let hex := ((matrixUserId.drop 2).take 32).map lowerUnit
  if (matrixUserId.take 2).map lowerUnit = js "@u" ∧ hex.length = 32 ∧ hex.all isLowerHex ∧
      (matrixUserId.drop 34).take 1 = js ":" ∧
      (matrixUserId.drop 35).map lowerUnit = serverName then
    Uuid.ofText? (dashed hex)
  else none

end SinoChat
