import SinoChat.Model.KeyRequest
import SinoChat.Model.MessageContent

/-!
# The identifiers both sides derive

`packages/contracts`: the name a UUID has in Matrix, as a user and as a device,
and the way back. The other modules take the identifiers of a deployment as
given; here they are texts, with every check of the source and its error.

As in `messageContent.ts`, `new URL("https://" + serverName)` is the parameter
`urlHost`. The source takes an argument that is no text for an invalid device
id; the functions here take texts.
-/

namespace SinoChat

open Js

namespace Contracts

/-- `toLowerCase`, as far as its result can be ASCII. -/
def toLowerCase (text : JsString) : JsString := text.map lowerUnit

/-- `toUpperCase` of an ASCII character. -/
def upperUnit (u : UInt16) : UInt16 := if isLower u then u - 0x20 else u

/-- `toUpperCase` of an ASCII text. -/
def toUpperCase (text : JsString) : JsString := text.map upperUnit

/-- Five groups of digits with dashes between them. -/
def uuidGroups (digit : CharClass) : List CharClass :=
  times 8 digit ++ lit "-" ++ times 4 digit ++ lit "-" ++ times 4 digit ++ lit "-" ++
    times 4 digit ++ lit "-" ++ times 12 digit

/-- `UUID_PATTERN`, which has no regard to case. -/
def isUuid (value : JsString) : Bool := fixed (uuidGroups MessageContent.isHex) value

/-- `[89ab]`. -/
def isVariant : CharClass := fun u => u == 0x38 || u == 0x39 || u == 0x61 || u == 0x62

/-- `UUID_V4_CANONICAL_PATTERN`. -/
def isUuidV4Canonical (value : JsString) : Bool :=
  fixed (times 8 isLowerHex ++ lit "-" ++ times 4 isLowerHex ++ lit "-" ++
    (lit "4" ++ times 3 isLowerHex) ++ lit "-" ++ ([isVariant] ++ times 3 isLowerHex) ++
    lit "-" ++ times 12 isLowerHex) value

/-- The part of a user id before the name of the server. -/
def userIdHead : List CharClass :=
  lit "@" ++ [fun u => u == 0x75 || u == 0x55] ++ times 32 MessageContent.isHex ++ lit ":"

/-- `/^@u([0-9a-f]{32}):(.+)$/i`. -/
def isMatrixUserIdText (s : JsString) : Bool :=
  fixed userIdHead (s.take 35) && s.drop 35 ≠ [] && (s.drop 35).all MessageContent.isLineUnit

/-- `uuidHex`. -/
def uuidHex (value : JsString) (errorCode : ErrorCode) : Except ErrorCode JsString := do
  require (isUuid value) errorCode
  return toLowerCase (value.filter (· != 0x2D))

section

variable (urlHost : JsString → Bool)

/-- What the source asks of a server name in lower case. -/
def isNormalizedServerName (normalized : JsString) : Bool :=
  MessageContent.isServerName normalized && !MessageContent.includes (js "@") normalized &&
    !MessageContent.includes (js "/") normalized && normalized.head? ≠ some 0x2E &&
    normalized.getLast? ≠ some 0x2E && !MessageContent.includes (js "..") normalized

/-- `normalizeMatrixServerName`. -/
def normalizeMatrixServerName (value : JsString) : Except ErrorCode JsString := do
  let normalized := toLowerCase (trim value)
  require (isNormalizedServerName normalized) "MATRIX_SERVER_NAME_INVALID"
  require (urlHost normalized) "MATRIX_SERVER_NAME_INVALID"
  return normalized

/-- `matrixUserIdFromUuid`. -/
def matrixUserIdFromUuid (sinochatUserId serverName : JsString) : Except ErrorCode JsString := do
  let hex ← uuidHex sinochatUserId "USER_ID_INVALID"
  let name ← normalizeMatrixServerName urlHost serverName
  return js "@u" ++ hex ++ js ":" ++ name

/-- `sinochatUserIdFromMatrixUserId`. -/
def sinochatUserIdFromMatrixUserId (matrixUserId serverName : JsString) :
    Except ErrorCode JsString := do
  let normalizedServerName ← normalizeMatrixServerName urlHost serverName
  require (isMatrixUserIdText matrixUserId &&
    toLowerCase (matrixUserId.drop 35) = normalizedServerName) "MATRIX_USER_ID_INVALID"
  let uuid := dashed (toLowerCase ((matrixUserId.drop 2).take 32))
  require (isUuid uuid) "MATRIX_USER_ID_INVALID"
  return uuid

end

/-- `matrixDeviceIdFromUuid`. -/
def matrixDeviceIdFromUuid (sinochatDeviceId : JsString) : Except ErrorCode JsString := do
  let hex ← uuidHex sinochatDeviceId "DEVICE_ID_INVALID"
  return js "D" ++ toUpperCase hex

/-- `sinochatDeviceIdFromMatrixDeviceId`. -/
def sinochatDeviceIdFromMatrixDeviceId (matrixDeviceId : JsString) :
    Except ErrorCode JsString := do
  require (isMatrixDeviceId matrixDeviceId) "MATRIX_DEVICE_ID_INVALID"
  let uuid := dashed (toLowerCase (matrixDeviceId.drop 1))
  require (isUuidV4Canonical uuid) "MATRIX_DEVICE_ID_INVALID"
  let encoded ← matrixDeviceIdFromUuid uuid
  require (encoded = matrixDeviceId) "MATRIX_DEVICE_ID_INVALID"
  return uuid

end Contracts

end SinoChat
