import SinoChat.ToDevice.Script

/-!
# What a sync token binds

The MAC of a token is taken over the lines of `tokenPayload`, one a field. No
line holds a line break and each is a faithful rendering of its field, so the
payload determines the whole batch (`tokenPayload_injective`). Where the MAC
tells the payloads of two batches apart, so do their tokens, and the token of
a batch does not verify once any field of the stored row has changed.
-/

namespace SinoChat

open Js

/-! ## The lines of a payload -/

/-- The lines of `tokenPayload`. -/
def payloadLines (data : MatrixSyncTokenData) : List JsString :=
  [js tokenContext, data.id.text, data.deviceId.text,
    (data.previousBatchId.map Uuid.text).getD (js "-"),
    decimal data.fromSequence, decimal data.upToSequence, decimal data.fromDeviceListPosition,
    decimal data.deviceListPosition, decimal data.oneTimeKeyCount,
    if data.unusedFallbackKey then js "1" else js "0"]

theorem tokenPayload_eq (data : MatrixSyncTokenData) :
    tokenPayload data = List.intercalate [0x0A] (payloadLines data) := by
  unfold tokenPayload payloadLines
  cases data.previousBatchId <;> rfl

/-- A text of classes that all exclude a unit does not hold it. -/
theorem not_mem_of_fixed {cs : List CharClass} {s : JsString} {u : UInt16}
    (hclasses : (cs.all fun c => !c u) = true) (h : fixed cs s = true) : u ∉ s := by
  induction cs generalizing s with
  | nil => simp [fixed_nil.mp h]
  | cons c cs ih =>
    cases s with
    | nil => simp
    | cons v vs =>
      obtain ⟨hv, hvs⟩ := fixed_cons.mp h
      simp only [List.all_cons, Bool.and_eq_true, Bool.not_eq_true'] at hclasses
      have hne : u ≠ v := by
        rintro rfl
        rw [hclasses.1] at hv
        cases hv
      simp [hne, ih hclasses.2 hvs]

theorem newline_not_mem_uuid (id : Uuid) : (0x0A : UInt16) ∉ id.text :=
  not_mem_of_fixed rfl id.valid

theorem newline_not_mem_decimal (n : ℕ) : (0x0A : UInt16) ∉ decimal n := by
  intro hmem
  have hdigit := isDigit_of_mem_decimal hmem
  revert hdigit
  decide

/-- **No line holds a line break.** -/
theorem newline_not_mem_line (data : MatrixSyncTokenData) :
    ∀ line ∈ payloadLines data, (0x0A : UInt16) ∉ line := by
  have hcontext : (0x0A : UInt16) ∉ js tokenContext := by decide +kernel
  have hparent : (0x0A : UInt16) ∉ (data.previousBatchId.map Uuid.text).getD (js "-") := by
    cases data.previousBatchId with
    | none => decide
    | some id => exact newline_not_mem_uuid id
  have hflag : (0x0A : UInt16) ∉ (if data.unusedFallbackKey then js "1" else js "0") := by
    cases data.unusedFallbackKey <;> decide
  simp only [payloadLines, List.forall_mem_cons]
  exact ⟨hcontext, newline_not_mem_uuid _, newline_not_mem_uuid _, hparent,
    newline_not_mem_decimal _, newline_not_mem_decimal _, newline_not_mem_decimal _,
    newline_not_mem_decimal _, newline_not_mem_decimal _, hflag, by simp⟩

/-- The parent line tells whether there is a parent, and which. -/
theorem parentLine_injective {a b : Option Uuid}
    (h : (a.map Uuid.text).getD (js "-") = (b.map Uuid.text).getD (js "-")) : a = b := by
  have hdash : ∀ id : Uuid, id.text ≠ js "-" := by
    intro id heq
    have hlength := id.length_text
    rw [heq] at hlength
    revert hlength
    decide
  cases a with
  | none =>
    cases b with
    | none => rfl
    | some id => exact absurd h.symm (hdash id)
  | some id =>
    cases b with
    | none => exact absurd h (hdash id)
    | some id' => rw [Uuid.text_injective h]

/-- **The payload determines the batch.** -/
theorem tokenPayload_injective {a b : MatrixSyncTokenData} (h : tokenPayload a = tokenPayload b) :
    a = b := by
  have hlines : payloadLines a = payloadLines b := by
    rw [tokenPayload_eq, tokenPayload_eq] at h
    rw [← List.splitOn_intercalate 0x0A (newline_not_mem_line a) (List.cons_ne_nil _ _), h,
      List.splitOn_intercalate 0x0A (newline_not_mem_line b) (List.cons_ne_nil _ _)]
  simp only [payloadLines, List.cons.injEq, true_and, and_true] at hlines
  obtain ⟨hid, hdevice, hparent, hfrom, hupTo, hfromList, hlist, hcount, hflag⟩ := hlines
  have hfallback : a.unusedFallbackKey = b.unusedFallbackKey := by
    revert hflag
    cases a.unusedFallbackKey <;> cases b.unusedFallbackKey <;> decide
  cases a
  cases b
  simp only [MatrixSyncTokenData.mk.injEq]
  exact ⟨Uuid.text_injective hid, Uuid.text_injective hdevice, parentLine_injective hparent,
    decimal_injective hfrom, decimal_injective hupTo, decimal_injective hfromList,
    decimal_injective hlist, decimal_injective hcount, hfallback⟩

/-! ## The token -/

/-- The MAC tells the payloads of two batches apart. -/
def MacSeparates (crypto : Crypto) (a b : MatrixSyncTokenData) : Prop :=
  crypto.hmacBase64Url (tokenPayload a) = crypto.hmacBase64Url (tokenPayload b) →
    tokenPayload a = tokenPayload b

/-- **Tokens are equal only for equal batches.** -/
theorem tokenText_injective {crypto : Crypto} {a b : MatrixSyncTokenData} (hmac : MacSeparates crypto a b)
    (h : tokenText crypto a = tokenText crypto b) : a = b := by
  have hid := id_eq_of_tokenText_eq h
  unfold tokenText at h
  rw [hid] at h
  exact tokenPayload_injective (hmac (List.append_cancel_left h))

/-- **A stored batch that was changed takes its token no more**: a sync whose
position is the token of a batch goes on from a row with that very data. -/
theorem requireSyncBatch_data {crypto : Crypto} {queue : Queue} {deviceId : Uuid} {now : ℕ}
    {data : MatrixSyncTokenData} {row : SyncBatchRecord}
    (hmac : MacSeparates crypto data row.toMatrixSyncTokenData)
    (h : requireSyncBatch crypto queue deviceId (tokenText crypto data) now = .ok row) :
    row.toMatrixSyncTokenData = data := by
  unfold requireSyncBatch at h
  rw [parse_tokenText] at h
  dsimp only at h
  split at h
  · cases h
  · rename_i found hfound
    split_ifs at h with haccepted
    obtain rfl := Except.ok.inj h
    exact (tokenText_injective hmac (verify_eq_true_iff.mp haccepted.2.2).2.1).symm

/-- **Sync tokens bind their batch**: against the stored hash exactly the
issued token verifies, tokens are equal only for batches that agree on every
field, and the token of a batch verifies against no other data. -/
theorem sync_token_binds_batch (crypto : Crypto) (d d' : MatrixSyncTokenData)
    (hd : assertTokenData d = true) (hd' : assertTokenData d' = true)
    (hmac : MacSeparates crypto d d') :
    (∀ (t : JsString) (now expiresAt : ℕ),
      verifyMatrixSyncToken crypto t (newBatch crypto d now expiresAt).tokenHash d = true ↔
        ∃ issued, issueMatrixSyncToken crypto d = .ok issued ∧ t = issued.token) ∧
    (∀ issued issued', issueMatrixSyncToken crypto d = .ok issued →
      issueMatrixSyncToken crypto d' = .ok issued' →
      (issued.token = issued'.token ↔ d = d')) ∧
    (d ≠ d' → ∀ issued, issueMatrixSyncToken crypto d = .ok issued →
      ∀ storedTokenHash, verifyMatrixSyncToken crypto issued.token storedTokenHash d' = false) := by
  refine ⟨?_, ?_, ?_⟩
  · intro t now expiresAt
    rw [verify_eq_true_iff]
    constructor
    · rintro ⟨-, rfl, -⟩
      exact ⟨_, issue_eq_ok.mpr ⟨hd, rfl⟩, rfl⟩
    · rintro ⟨issued, hissued, rfl⟩
      obtain ⟨-, rfl⟩ := issue_eq_ok.mp hissued
      exact ⟨hd, rfl, rfl⟩
  · intro issued issued' hissued hissued'
    obtain ⟨-, rfl⟩ := issue_eq_ok.mp hissued
    obtain ⟨-, rfl⟩ := issue_eq_ok.mp hissued'
    constructor
    · exact tokenText_injective hmac
    · rintro rfl
      rfl
  · intro hne issued hissued storedTokenHash
    obtain ⟨-, rfl⟩ := issue_eq_ok.mp hissued
    rw [← Bool.not_eq_true, verify_eq_true_iff]
    rintro ⟨-, htoken, -⟩
    exact hne (tokenText_injective hmac htoken)

namespace Sample

/-- The initial batch with its end moved. -/
def movedRoot := batch rootId none 0 2 0

/-- The MACs of the two batches and the digests of their tokens. -/
def rootTokens : List (MatrixSyncTokenData × ℕ × ℕ) :=
  [(root, 0xab1e5fa9f9e147cddc2ca07cfbbbfd6538f42c988b352e557598f5ab3b8fbcc3,
      0x9278a79ae2a1d7c612330892ff7f4342506d6324e2bb036b91fc8d3601175a3b),
    (movedRoot, 0x7c620abe834cb78a77e5098b8cc60d287aebbf784dd6d45e19e80c24b1da1e9c,
      0x0eb3ee69ba15b18b00d2788b3c3d6607630f3af2cf1361cf241f75ed6036cd00)]

/-- The digests, at the two batches those of the real functions. -/
def rootCrypto : Crypto where
  hmacBase64Url := fun text =>
    base64Url (digestAt (rootTokens.map fun entry => (tokenPayload entry.1, entry.2.1)) text)
  sha256Hex := fun text => hex 64 (digestAt (rootTokens.map fun entry =>
    (js "sct1." ++ entry.1.id.text ++ js "." ++ base64Url entry.2.1, entry.2.2)) text)
  hmac_format := fun _ => fixed_base64Url _
  sha256_format := fun _ => fixed_hex _ _

/-- The token of the initial batch does not verify once its end has moved. -/
theorem sync_token_binds_root : verifyMatrixSyncToken rootCrypto (tokenText rootCrypto root)
    (rootCrypto.sha256Hex (tokenText rootCrypto root)) movedRoot = false := by
  have hmac : MacSeparates rootCrypto root movedRoot := by
    intro h
    revert h
    decide +kernel
  have hmoved : root ≠ movedRoot := fun heq =>
    absurd (congrArg MatrixSyncTokenData.upToSequence heq) (show 1 ≠ 2 by decide)
  have hroot : assertTokenData root = true := by decide
  have hmovedRoot : assertTokenData movedRoot = true := by decide
  have hissued := issue_eq_ok.mpr ⟨hroot, Eq.refl
    (⟨tokenText rootCrypto root, rootCrypto.sha256Hex (tokenText rootCrypto root)⟩ :
      IssuedMatrixSyncToken)⟩
  obtain ⟨-, -, hchanged⟩ :=
    sync_token_binds_batch rootCrypto root movedRoot hroot hmovedRoot hmac
  exact hchanged hmoved _ hissued _

end Sample

end SinoChat
