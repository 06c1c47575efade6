import SinoChat.Model.Account
import SinoChat.Model.Http

/-!
# The sync token

`matrix-sync-token.ts`: the token of a sync batch names the batch and
carries a MAC of everything the batch is. The MAC and the digest are
parameters of which only the format of the output is known; that is all the
claims about tokens need.

A token is `sct1.<batch id>.<MAC>`, 85 characters long
(`length_of_tokenPattern`). The token issued for some data parses back to
its id and verifies (`verify_issue`), and nothing else verifies for that
data (`verify_eq_true_iff`).
-/

namespace SinoChat

open Js

/-- The two digests: HMAC-SHA-256 under the configured secret in base64url,
and SHA-256 in lowercase hexadecimal. -/
structure Crypto where
  hmacBase64Url : JsString → JsString
  sha256Hex : JsString → JsString
  hmac_format : ∀ text, fixed (times 43 isBase64Url) (hmacBase64Url text) = true
  sha256_format : ∀ text, fixed (times 64 isLowerHex) (sha256Hex text) = true

/-- `TOKEN_PATTERN`. -/
def tokenPattern : List CharClass :=
  lit "sct1." ++ uuidPattern ++ lit "." ++ times 43 isBase64Url

/-- `HASH_PATTERN`. -/
def hashPattern : List CharClass := times 64 isLowerHex

/-- `TOKEN_CONTEXT`. -/
def tokenContext : String := "sinochat:matrix:sync-token:v1"

/-- What a token binds: the batch with its windows and counts. -/
structure MatrixSyncTokenData where
  id : Uuid
  deviceId : Uuid
  previousBatchId : Option Uuid
  fromSequence : ℕ
  upToSequence : ℕ
  fromDeviceListPosition : ℕ
  deviceListPosition : ℕ
  oneTimeKeyCount : ℕ
  unusedFallbackKey : Bool
  deriving DecidableEq

/-- A token with its digest, which is what is stored. -/
structure IssuedMatrixSyncToken where
  token : JsString
  tokenHash : JsString

/-- `tokenPayload`. -/
def tokenPayload (data : MatrixSyncTokenData) : JsString :=
  List.intercalate (js "\n") [js tokenContext, data.id.text, data.deviceId.text,
    (match data.previousBatchId with
      | some id => id.text
      | none => js "-"),
    decimal data.fromSequence, decimal data.upToSequence, decimal data.fromDeviceListPosition,
    decimal data.deviceListPosition, decimal data.oneTimeKeyCount,
    if data.unusedFallbackKey then js "1" else js "0"]

/-- The conditions of `assertTokenData` the types leave open. -/
def assertTokenData (data : MatrixSyncTokenData) : Bool :=
  data.fromSequence ≤ data.upToSequence &&
    data.fromDeviceListPosition ≤ data.deviceListPosition && data.oneTimeKeyCount ≤ 100

/-- The token text of a batch. -/
def tokenText (crypto : Crypto) (data : MatrixSyncTokenData) : JsString :=
  js "sct1." ++ data.id.text ++ js "." ++ crypto.hmacBase64Url (tokenPayload data)

/-- The token of a batch. -/
def issueMatrixSyncToken (crypto : Crypto) (data : MatrixSyncTokenData) :
    Except ErrorCode IssuedMatrixSyncToken :=
  if assertTokenData data then
    .ok ⟨tokenText crypto data, crypto.sha256Hex (tokenText crypto data)⟩
  else .error "MATRIX_SYNC_TOKEN_DATA_INVALID"

/-- The batch id a token names: the first group of `TOKEN_PATTERN`. -/
def parseMatrixSyncTokenBatchId (token : JsString) : Except ErrorCode JsString :=
  if fixed tokenPattern token then .ok ((token.drop 5).take 36)
  else .error "MATRIX_SYNC_TOKEN_FORMAT_INVALID"

/-- A token against the batch it names and the stored digest. -/
def verifyMatrixSyncToken (crypto : Crypto) (token storedTokenHash : JsString)
    (data : MatrixSyncTokenData) : Bool :=
  match parseMatrixSyncTokenBatchId token, issueMatrixSyncToken crypto data with
  | .ok id, .ok expected =>
    id == data.id.text && fixed hashPattern storedTokenHash && token == expected.token &&
      storedTokenHash == expected.tokenHash
  | _, _ => false

/-! ## Format -/

theorem length_of_tokenPattern {token : JsString} (h : fixed tokenPattern token = true) :
    token.length = 85 :=
  length_of_fixed h

/-- **An issued token has the server's format.** -/
theorem tokenPattern_tokenText (crypto : Crypto) (data : MatrixSyncTokenData) :
    fixed tokenPattern (tokenText crypto data) = true := by
  unfold tokenPattern tokenText
  refine fixed_append_of (fixed_append_of (fixed_append_of ?_ data.id.valid) ?_)
    (crypto.hmac_format _)
  · exact fixed_lit.mpr rfl
  · exact fixed_lit.mpr rfl

@[simp] theorem length_tokenText (crypto : Crypto) (data : MatrixSyncTokenData) :
    (tokenText crypto data).length = 85 :=
  length_of_tokenPattern (tokenPattern_tokenText crypto data)

/-- The id group of an issued token is the id of its data. -/
theorem parse_tokenText (crypto : Crypto) (data : MatrixSyncTokenData) :
    parseMatrixSyncTokenBatchId (tokenText crypto data) = .ok data.id.text := by
  have hid : ((tokenText crypto data).drop 5).take 36 = data.id.text := by
    have hsplit : tokenText crypto data =
        js "sct1." ++ (data.id.text ++ (js "." ++ crypto.hmacBase64Url (tokenPayload data))) := by
      simp [tokenText]
    rw [hsplit]
    exact List.take_left' data.id.length_text
  rw [parseMatrixSyncTokenBatchId, if_pos (tokenPattern_tokenText crypto data), hid]

/-- Tokens of different batches differ. -/
theorem id_eq_of_tokenText_eq {crypto : Crypto} {a b : MatrixSyncTokenData}
    (h : tokenText crypto a = tokenText crypto b) : a.id = b.id := by
  have ha := parse_tokenText crypto a
  rw [h, parse_tokenText] at ha
  exact (Uuid.text_injective (Except.ok.inj ha)).symm

/-! ## Verification -/

theorem issue_eq_ok {crypto : Crypto} {data : MatrixSyncTokenData}
    {issued : IssuedMatrixSyncToken} :
    issueMatrixSyncToken crypto data = .ok issued ↔
      assertTokenData data = true ∧
        issued = ⟨tokenText crypto data, crypto.sha256Hex (tokenText crypto data)⟩ := by
  unfold issueMatrixSyncToken
  split_ifs with h
  · simp [h, eq_comm]
  · simp [h]

/-- **What verifies**: exactly the issued token against its stored digest. -/
theorem verify_eq_true_iff {crypto : Crypto} {token hash : JsString}
    {data : MatrixSyncTokenData} :
    verifyMatrixSyncToken crypto token hash data = true ↔
      assertTokenData data = true ∧ token = tokenText crypto data ∧
        hash = crypto.sha256Hex token := by
  constructor
  · intro h
    unfold verifyMatrixSyncToken at h
    split at h
    · rename_i id expected _ hissue
      obtain ⟨hassert, rfl⟩ := issue_eq_ok.mp hissue
      simp only [Bool.and_eq_true, beq_iff_eq] at h
      obtain ⟨⟨⟨-, -⟩, rfl⟩, rfl⟩ := h
      exact ⟨hassert, rfl, rfl⟩
    · simp at h
  · rintro ⟨hassert, rfl, rfl⟩
    have hissue := issue_eq_ok.mpr ⟨hassert, Eq.refl
      (⟨tokenText crypto data, crypto.sha256Hex (tokenText crypto data)⟩ :
        IssuedMatrixSyncToken)⟩
    unfold verifyMatrixSyncToken
    rw [parse_tokenText, hissue]
    simp [hashPattern, crypto.sha256_format]

/-- The issued token verifies. -/
theorem verify_issue {crypto : Crypto} {data : MatrixSyncTokenData}
    (h : assertTokenData data = true) :
    verifyMatrixSyncToken crypto (tokenText crypto data)
      (crypto.sha256Hex (tokenText crypto data)) data = true :=
  verify_eq_true_iff.mpr ⟨h, rfl, rfl⟩

end SinoChat
