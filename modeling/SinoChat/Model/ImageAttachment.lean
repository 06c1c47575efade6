import SinoChat.Common.Base64
import SinoChat.Common.JsonText
import SinoChat.Model.ImageContainers

/-!
# The encryption of an image

`matrixImageAttachment.ts`: an image is checked, encrypted by the Matrix library
and its key information checked again; before it is decrypted, everything that
came with the bytes is checked. WebCrypto and the library are there; its
encryption and the digest are parameters.
-/

namespace SinoChat

open Js

namespace ImageAttachment

/-- `ATTACHMENT_MAX_BYTES`. -/
def attachmentMaxBytes : ℕ := 5 * 1024 * 1024

/-- The name of a media type. -/
def AllowedImageMimeType.text : AllowedImageMimeType → JsString
  | .jpeg => js "image/jpeg"
  | .png => js "image/png"
  | .webp => js "image/webp"

/-! ## Bytes and texts -/

/-- `replaceAll` of the two characters in which the alphabets differ, back to the standard one. -/
def toStandard (u : UInt16) : UInt16 := if u = 0x2D then 0x2B else if u = 0x5F then 0x2F else u

/-- A character in the alphabet of URLs. -/
def toUrlSafe (u : UInt16) : UInt16 := if u = 0x2B then 0x2D else if u = 0x2F then 0x5F else u

/-- `bytesToBase64`. -/
def bytesToBase64 (bytes : List UInt8) (urlSafe : Bool) : JsString :=
  let standard := unpadded (toBase64 bytes)
  if urlSafe then standard.map toUrlSafe else standard

/-- `decodeBase64`. -/
def decodeBase64 (value : JsString) (expectedBytes : ℕ) (urlSafe : Bool) :
    Except ErrorCode (List UInt8) := do
  require (!value.isEmpty && value.all (if urlSafe then isBase64Url else isBase64) &&
    value.length % 4 ≠ 1) "E2EE_IMAGE_MEDIA_INFO_INVALID"
  let standard := if urlSafe then value.map toStandard else value
  let padded := standard ++ List.replicate ((4 - standard.length % 4) % 4) 0x3D
  let bytes ← orThrow (atob padded) "E2EE_IMAGE_MEDIA_INFO_INVALID"
  require (bytes.length = expectedBytes) "E2EE_IMAGE_MEDIA_INFO_INVALID"
  require (bytesToBase64 bytes urlSafe = value) "E2EE_IMAGE_MEDIA_INFO_INVALID"
  return bytes

/-- `bytesToHex`. -/
def bytesToHex (bytes : List UInt8) : JsString :=
  bytes.flatMap fun b => [hexDigit (b.toNat / 16), hexDigit (b.toNat % 16)]

/-- The bytes of two hex digits each. -/
def bytesOfHex : JsString → List UInt8
  | a :: b :: rest => (hexValue a * 16 + hexValue b).toUInt8 :: bytesOfHex rest
  | _ => []

/-! ## Checks of values -/

/-- `copyAndValidateBytes`. -/
def copyAndValidateBytes (bytes : List UInt8) (tooLarge : ErrorCode) :
    Except ErrorCode (List UInt8) := do
  require (bytes.length ≠ 0) "E2EE_IMAGE_EMPTY"
  require (bytes.length ≤ attachmentMaxBytes) tooLarge
  return bytes

/-- `parseAllowedMimeType`. -/
def parseAllowedMimeType (value : Json) : Except ErrorCode AllowedImageMimeType :=
  orThrow (value.str?.bind fun text =>
    [AllowedImageMimeType.jpeg, .png, .webp].find? fun mime => mime.text = text)
    "E2EE_IMAGE_MIME_UNSUPPORTED"

/-- `assertMimeMatchesBytes`. -/
def assertMimeMatchesBytes (bytes : List UInt8) (declared : AllowedImageMimeType) :
    Except ErrorCode Unit :=
  require ((detectAllowedImageMimeType bytes).toOption = some (some declared))
    "E2EE_IMAGE_MIME_MISMATCH"

/-- `parseByteSize`. -/
def parseByteSize (value : Json) (code : ErrorCode) : Except ErrorCode ℤ :=
  orThrow (match value with
    | .num (.integer n) =>
      if n.natAbs ≤ 2 ^ 53 - 1 ∧ 1 ≤ n ∧ n ≤ attachmentMaxBytes then some n else none
    | _ => none) code

/-- `parseSha256Hex`. -/
def parseSha256Hex (value : Json) : Except ErrorCode (List UInt8) := do
  let text ← orThrow value.str? "E2EE_IMAGE_CIPHERTEXT_HASH_INVALID"
  require (fixed (times 64 isLowerHex) text) "E2EE_IMAGE_CIPHERTEXT_HASH_INVALID"
  return bytesOfHex text

/-- `exactRecord`. The keys and the expected ones are equal once they are sorted, which is when
they are permutations of each other. -/
def exactRecord (value : Option Json) (keys : List JsString) :
    Except ErrorCode (List (JsString × Json)) := do
  let entries ← orThrow (value.bind Json.record?) "E2EE_IMAGE_MEDIA_INFO_INVALID"
  require ((Json.keys entries).isPerm keys) "E2EE_IMAGE_MEDIA_INFO_INVALID"
  return entries

/-- The check of `key_ops`; two names that differ are a set of two. -/
def isKeyOperations (value : Option Json) : Bool :=
  match value with
  | some (.arr items) => items.length = 2 &&
      items.any (fun item => item.str? = some (js "encrypt")) &&
      items.any (fun item => item.str? = some (js "decrypt"))
  | _ => false

/-! ## The key information -/

/-- The media description that was checked, and the digest in it. -/
structure MediaInfo where
  json : JsString
  sha256 : List UInt8
  deriving DecidableEq

/-- `value === true`. -/
def isTrue : Option Json → Bool
  | some (.bool true) => true
  | _ => false

/-- The constants of the information, and its texts. -/
def mediaTexts (root key hashes : List (JsString × Json)) :
    Option (JsString × JsString × JsString) := do
  guard ((Json.get? (js "v") root).bind Json.str? = some (js "v2") ∧
    (Json.get? (js "kty") key).bind Json.str? = some (js "oct") ∧
    (Json.get? (js "alg") key).bind Json.str? = some (js "A256CTR"))
  guard (isTrue (Json.get? (js "ext") key))
  guard (isKeyOperations (Json.get? (js "key_ops") key))
  let k ← (Json.get? (js "k") key).bind Json.str?
  let iv ← (Json.get? (js "iv") root).bind Json.str?
  let sha256 ← (Json.get? (js "sha256") hashes).bind Json.str?
  return (k, iv, sha256)

variable (round : JsString → JsNumber)

/-- `parseMediaEncryptionInfo`. -/
def parseMediaEncryptionInfo (value : Json) : Except ErrorCode MediaInfo := do
  let text ← orThrow value.str? "E2EE_IMAGE_MEDIA_INFO_INVALID"
  require (100 ≤ text.length && text.length ≤ 2048) "E2EE_IMAGE_MEDIA_INFO_INVALID"
  let parsed ← orThrow (parseJson round text) "E2EE_IMAGE_MEDIA_INFO_INVALID"
  let root ← exactRecord (some parsed) [js "hashes", js "iv", js "key", js "v"]
  let key ← exactRecord (Json.get? (js "key") root)
    [js "alg", js "ext", js "k", js "key_ops", js "kty"]
  let hashes ← exactRecord (Json.get? (js "hashes") root) [js "sha256"]
  let texts ← orThrow (mediaTexts root key hashes) "E2EE_IMAGE_MEDIA_INFO_INVALID"
  let _ ← decodeBase64 texts.1 32 true
  let iv ← decodeBase64 texts.2.1 16 false
  -- the last 64 bits are the counter, which begins at zero
  require (!(iv.drop 8).any (· ≠ 0)) "E2EE_IMAGE_MEDIA_INFO_INVALID"
  let sha256 ← decodeBase64 texts.2.2 32 false
  return { json := text, sha256 }

/-! ## Encryption -/

/-- What the library returns of an encryption. -/
structure EncryptedAttachment where
  hasMediaEncryptionInfoBeenConsumed : Bool
  mediaEncryptionInfo : Option JsString
  encryptedData : List UInt8

/-- An encrypted image with what its message says of it. -/
structure MatrixEncryptedImageAttachment where
  encryptedBytes : List UInt8
  mediaEncryptionInfo : JsString
  declaredMimeType : AllowedImageMimeType
  plaintextByteSize : ℕ
  ciphertextByteSize : ℕ
  ciphertextSha256 : JsString
  deriving DecidableEq

variable (sha256 : List UInt8 → List UInt8)

/-- `encryptMatrixImageAttachment`; `encrypt` is `Attachment.encrypt`, which may throw. -/
def encryptMatrixImageAttachment (encrypt : List UInt8 → Option EncryptedAttachment)
    (bytes : List UInt8) (mimeTypeValue : Json) :
    Except ErrorCode MatrixEncryptedImageAttachment := do
  let mimeType ← parseAllowedMimeType mimeTypeValue
  let plaintext ← copyAndValidateBytes bytes "E2EE_IMAGE_TOO_LARGE"
  assertMimeMatchesBytes plaintext mimeType
  let attachment ← orThrow (encrypt plaintext) "E2EE_IMAGE_ENCRYPT_FAILED"
  require (!attachment.hasMediaEncryptionInfoBeenConsumed) "E2EE_IMAGE_MEDIA_INFO_INVALID"
  let mediaEncryptionInfo ← orThrow attachment.mediaEncryptionInfo "E2EE_IMAGE_MEDIA_INFO_INVALID"
  let encryptedBytes := attachment.encryptedData
  require (encryptedBytes.length ≠ 0 && encryptedBytes.length = plaintext.length &&
    encryptedBytes.length ≤ attachmentMaxBytes) "E2EE_IMAGE_CIPHERTEXT_SIZE_INVALID"
  let mediaInfo ← parseMediaEncryptionInfo round (.str mediaEncryptionInfo)
  let calculatedHash := sha256 encryptedBytes
  require (mediaInfo.sha256 = calculatedHash) "E2EE_IMAGE_CIPHERTEXT_HASH_INVALID"
  return { encryptedBytes, mediaEncryptionInfo, declaredMimeType := mimeType
           plaintextByteSize := plaintext.length, ciphertextByteSize := encryptedBytes.length
           ciphertextSha256 := bytesToHex calculatedHash }

/-! ## Decryption -/

/-- What came with the bytes of an image, nothing of it checked. -/
structure DecryptInput where
  encryptedBytes : List UInt8
  mediaEncryptionInfo : Json
  declaredMimeType : Json
  plaintextByteSize : Json
  ciphertextByteSize : Json
  ciphertextSha256 : Json

/-- What is checked of the input. -/
structure DecryptCheck where
  mimeType : AllowedImageMimeType
  plaintextByteSize : ℤ
  expectedServerHash : List UInt8
  mediaInfo : MediaInfo

/-- `decryptMatrixImageAttachment` up to where the digest of the bytes is calculated. -/
def checkDecryptInput (input : DecryptInput) : Except ErrorCode DecryptCheck := do
  let mimeType ← parseAllowedMimeType input.declaredMimeType
  let plaintextByteSize ← parseByteSize input.plaintextByteSize
    "E2EE_IMAGE_PLAINTEXT_SIZE_INVALID"
  let ciphertextByteSize ← parseByteSize input.ciphertextByteSize
    "E2EE_IMAGE_CIPHERTEXT_SIZE_INVALID"
  let encryptedBytes ← copyAndValidateBytes input.encryptedBytes
    "E2EE_IMAGE_CIPHERTEXT_SIZE_INVALID"
  require ((encryptedBytes.length : ℤ) = ciphertextByteSize &&
    ciphertextByteSize = plaintextByteSize) "E2EE_IMAGE_CIPHERTEXT_SIZE_INVALID"
  let expectedServerHash ← parseSha256Hex input.ciphertextSha256
  let mediaInfo ← parseMediaEncryptionInfo round input.mediaEncryptionInfo
  return { mimeType, plaintextByteSize, expectedServerHash, mediaInfo }

end ImageAttachment

end SinoChat
