import SinoChat.Common.Base64Url
import SinoChat.Common.JsonText
import SinoChat.Model.Http
import SinoChat.Model.MessageContent
import SinoChat.Model.MessagePayload

/-!
# Upload grants

`upload-grant.service.ts` and `evidence-grant.service.ts`: what an upload is allowed
to be, as a token that the service signs when it is requested and checks when it is
used. The two services read a token alike (`readToken`) and differ in their grants;
a grant is the object that its text is parsed to, with every member that text has.
-/

namespace Js

namespace JsNumber

/-- `Number.isInteger`. -/
def isInteger : JsNumber → Bool
  | fraction .. => false
  | _ => true

/-- `x <= n`, for an integer. -/
def leInt (n : ℤ) : JsNumber → Bool
  | integer m => m ≤ n
  | negativeZero => 0 ≤ n
  | fraction negative digits places _ =>
    (if negative then -digits else digits : ℤ) ≤ n * 10 ^ places

end JsNumber

namespace Json

/-- The number of a value that is one. -/
def num? : Json → Option JsNumber
  | .num n => some n
  | _ => none

end Json

end Js

namespace SinoChat

open Js

namespace Grants

open MessageContent (isHex isVariant toLowerCase)

/-! ## Tokens -/

/-- HMAC-SHA-256 under the secret of a service. -/
structure Hmac where
  digest : List UInt8 → List UInt8
  length_digest : ∀ message, (digest message).length = 32

/-- `sign`. -/
def sign (hmac : Hmac) (payload : JsString) : JsString := toBase64Url (hmac.digest (utf8 payload))

/-- `Buffer.from(JSON.stringify(grant)).toString("base64url")`. -/
def payloadOf (grant : Json) : JsString := toBase64Url (utf8 (stringify grant))

/-- The token of a grant. -/
def tokenOf (hmac : Hmac) (grant : Json) : JsString :=
  payloadOf grant ++ js "." ++ sign hmac (payloadOf grant)

/-- The checks of `verify` on a token, up to the value its payload is the text of. A part
that is missing counts as an empty one, since both are falsy. -/
def readToken (round : JsString → JsNumber) (hmac : Hmac) (invalid : HttpException)
    (token : JsString) : Except HttpException Json := do
  let parts := token.splitOn 0x2E
  let payload := parts.headD []
  let providedSignature := parts[1]?.getD []
  let extra := parts[2]?.getD []
  require (payload ≠ [] && providedSignature ≠ [] && extra = []) invalid
  require (fixed (times 43 isBase64Url) providedSignature) invalid
  let expected := bufferFromBase64 (sign hmac payload)
  let provided := bufferFromBase64 providedSignature
  require (toBase64Url provided = providedSignature && expected.length = provided.length &&
    expected = provided) invalid
  orThrow (parseJson round (bufferToString (bufferFromBase64 payload))) invalid

/-- `verify`, by the guard of the grants, the refusals and `Date.now()`. -/
def verifyToken (isGrant : Json → Bool) (invalid expired : HttpException)
    (round : JsString → JsNumber) (hmac : Hmac) (now : ℕ) (token : JsString) :
    Except HttpException Json := do
  let value ← readToken round hmac invalid token
  let expiresAt := (value.record?.bind (Json.get? (js "expiresAt"))).bind Json.num?
  require (isGrant value && !expiresAt.any (JsNumber.leInt now)) expired
  return value

/-! ## Members of a grant -/

/-- `/^[0-9a-f]{8}-[0-9a-f]{4}-4[0-9a-f]{3}-[89ab][0-9a-f]{3}-[0-9a-f]{12}$/i`. -/
def reservationIdPattern : List CharClass :=
  times 8 isHex ++ lit "-" ++ times 4 isHex ++ lit "-4" ++ times 3 isHex ++ lit "-" ++
    [isVariant] ++ times 3 isHex ++ lit "-" ++ times 12 isHex

section Members

variable (entries : List (JsString × Json))

/-- A member that is a text of a kind. -/
def hasText (key : String) (p : JsString → Bool) : Bool :=
  ((Json.get? (js key) entries).bind Json.str?).any p

/-- A member that is a number of a kind. -/
def hasNumber (key : String) (p : JsNumber → Bool) : Bool :=
  ((Json.get? (js key) entries).bind Json.num?).any p

/-- What the guards ask of the members that both kinds of grants have. -/
def isGrantFor (objectKeyPrefix : String) : Bool :=
  hasNumber entries "version" (· = .integer 1) &&
    hasText entries "reservationId" (fixed reservationIdPattern) &&
    hasText entries "conversationId" (fun _ => true) &&
    hasText entries "objectKey" (js objectKeyPrefix).isPrefixOf &&
    hasText entries "ciphertextSha256" (fixed (times 64 isLowerHex)) &&
    hasNumber entries "expiresAt" (fun _ => true)

end Members

/-- A `Date` since 1970. -/
structure JsDate where
  time : ℕ
  valid : time ≤ 8640000000000000

/-- What `randomUUID` returns. -/
structure RandomUuid where
  text : JsString
  valid : fixed MessagePayload.uuidV4Pattern text = true

/-- For how long a grant is good. -/
def grantLifetime : ℕ := 10 * 60000

/-! ## `UploadGrantService` -/

/-- The media types an upload may declare. -/
def imageMimeTypes : List JsString := [js "image/jpeg", js "image/png", js "image/webp"]

/-- `RequestUploadDto`, as its validation lets it pass. -/
structure RequestUploadDto where
  declaredMimeType : JsString
  plaintextByteSize : ℕ
  ciphertextByteSize : ℕ
  ciphertextSha256 : JsString
  isMimeType : declaredMimeType ∈ imageMimeTypes
  plaintextBounds : 1 ≤ plaintextByteSize ∧ plaintextByteSize ≤ 5 * 1024 * 1024
  ciphertextBounds : 1 ≤ ciphertextByteSize ∧
    ciphertextByteSize ≤ 5 * 1024 * 1024 + 256 * 1024
  isSha256 : fixed (times 64 isHex) ciphertextSha256 = true

/-- What an upload grant carries. -/
structure UploadGrant where
  reservationId : JsString
  userId : JsString
  conversationId : JsString
  objectKey : JsString
  declaredMimeType : JsString
  plaintextByteSize : ℕ
  ciphertextByteSize : ℕ
  ciphertextSha256 : JsString
  expiresAt : ℕ
  deriving DecidableEq

/-- The object of a grant. -/
def UploadGrant.toJson (grant : UploadGrant) : Json :=
  .obj [(js "version", .ofNat 1), (js "reservationId", .str grant.reservationId),
    (js "userId", .str grant.userId), (js "conversationId", .str grant.conversationId),
    (js "objectKey", .str grant.objectKey),
    (js "declaredMimeType", .str grant.declaredMimeType),
    (js "plaintextByteSize", .ofNat grant.plaintextByteSize),
    (js "ciphertextByteSize", .ofNat grant.ciphertextByteSize),
    (js "ciphertextSha256", .str grant.ciphertextSha256), (js "expiresAt", .ofNat grant.expiresAt)]

namespace UploadGrantService

/-- `create`: the grant and its token. -/
def create (hmac : Hmac) (reservationId : RandomUuid) (userId conversationId : JsString)
    (input : RequestUploadDto) (now : JsDate) : UploadGrant × JsString :=
  let grant : UploadGrant :=
    { reservationId := reservationId.text, userId, conversationId
      objectKey := js "ephemeral/messages/" ++ reservationId.text
      declaredMimeType := input.declaredMimeType
      plaintextByteSize := input.plaintextByteSize
      ciphertextByteSize := input.ciphertextByteSize
      ciphertextSha256 := toLowerCase input.ciphertextSha256
      expiresAt := now.time + grantLifetime }
  (grant, tokenOf hmac grant.toJson)

/-- `isGrant`. -/
def isGrant (value : Json) : Bool :=
  value.record?.any fun entries =>
    isGrantFor entries "ephemeral/messages/" && hasText entries "userId" (fun _ => true) &&
      hasText entries "declaredMimeType" imageMimeTypes.contains &&
      hasNumber entries "plaintextByteSize" JsNumber.isInteger &&
      hasNumber entries "ciphertextByteSize" JsNumber.isInteger

/-- `verify`. -/
def verify : (JsString → JsNumber) → Hmac → ℕ → JsString → Except HttpException Json :=
  verifyToken isGrant (.unauthorized "Permiso de foto inválido.")
    (.unauthorized "El permiso para subir la foto venció o es inválido.")

end UploadGrantService

/-! ## `EvidenceGrantService` -/

/-- The bytes of evidence that a report takes at most. -/
def maxReportEvidenceBytes : ℕ := 512 * 1024 * 1024

/-- A character of a cipher suite: alphanumeric, or one of `.`, `_`, `+`, `/` and `-`. -/
def isCipherSuiteUnit : CharClass := fun u =>
  isAlphanumeric u || u == 0x2E || u == 0x5F || u == 0x2B || u == 0x2F || u == 0x2D

/-- `RequestEvidenceUploadDto`, as its validation lets it pass. -/
structure RequestEvidenceUploadDto where
  investigationKeyId : JsString
  ciphertextByteSize : ℕ
  ciphertextSha256 : JsString
  cipherSuite : JsString
  manifestVersion : ℕ
  ciphertextBounds : 1 ≤ ciphertextByteSize ∧ ciphertextByteSize ≤ maxReportEvidenceBytes
  isSha256 : fixed (times 64 isHex) ciphertextSha256 = true
  isCipherSuite : run isCipherSuiteUnit 3 64 cipherSuite = true
  manifestBounds : 1 ≤ manifestVersion ∧ manifestVersion ≤ 2147483647

/-- What an evidence grant carries. -/
structure EvidenceUploadGrant where
  reservationId : JsString
  clientUserId : JsString
  assignmentId : JsString
  conversationId : JsString
  investigationKeyId : JsString
  objectKey : JsString
  ciphertextByteSize : ℕ
  ciphertextSha256 : JsString
  cipherSuite : JsString
  manifestVersion : ℕ
  expiresAt : ℕ
  deriving DecidableEq

/-- The object of a grant. -/
def EvidenceUploadGrant.toJson (grant : EvidenceUploadGrant) : Json :=
  .obj [(js "version", .ofNat 1), (js "reservationId", .str grant.reservationId),
    (js "clientUserId", .str grant.clientUserId), (js "assignmentId", .str grant.assignmentId),
    (js "conversationId", .str grant.conversationId),
    (js "investigationKeyId", .str grant.investigationKeyId),
    (js "objectKey", .str grant.objectKey),
    (js "ciphertextByteSize", .ofNat grant.ciphertextByteSize),
    (js "ciphertextSha256", .str grant.ciphertextSha256),
    (js "cipherSuite", .str grant.cipherSuite),
    (js "manifestVersion", .ofNat grant.manifestVersion),
    (js "expiresAt", .ofNat grant.expiresAt)]

namespace EvidenceGrantService

/-- `create`: the grant and its token. -/
def create (hmac : Hmac) (reservationId : RandomUuid)
    (clientUserId assignmentId conversationId : JsString) (input : RequestEvidenceUploadDto)
    (now : JsDate) : EvidenceUploadGrant × JsString :=
  let grant : EvidenceUploadGrant :=
    { reservationId := reservationId.text, clientUserId, assignmentId, conversationId
      investigationKeyId := input.investigationKeyId
      objectKey := js "investigations/report-evidence/" ++ reservationId.text
      ciphertextByteSize := input.ciphertextByteSize
      ciphertextSha256 := toLowerCase input.ciphertextSha256
      cipherSuite := input.cipherSuite, manifestVersion := input.manifestVersion
      expiresAt := now.time + grantLifetime }
  (grant, tokenOf hmac grant.toJson)

/-- `isGrant`. -/
def isGrant (value : Json) : Bool :=
  value.record?.any fun entries =>
    isGrantFor entries "investigations/report-evidence/" &&
      hasText entries "clientUserId" (fun _ => true) &&
      hasText entries "assignmentId" (fun _ => true) &&
      hasText entries "investigationKeyId" (fun _ => true) &&
      hasNumber entries "ciphertextByteSize" (fun size => size.isSafeInteger &&
        !size.leInt 0 && size.leInt maxReportEvidenceBytes) &&
      hasText entries "cipherSuite" (run isCipherSuiteUnit 3 64) &&
      hasNumber entries "manifestVersion" (fun version => version.isInteger && !version.leInt 0)

/-- `verify`. -/
def verify : (JsString → JsNumber) → Hmac → ℕ → JsString → Except HttpException Json :=
  verifyToken isGrant (.unauthorized "El permiso de evidencia es inválido.")
    (.unauthorized "El permiso para subir la evidencia venció o es inválido.")

end EvidenceGrantService

end Grants

end SinoChat
