import SinoChat.Common.JsonShape
import SinoChat.Model.MessagePayload

/-!
# The API accepts what the web client sends

Both sides read the ciphertext of an envelope: the client before it sends, the
API before it stores. They decode base64 by different built-ins
(`isSome_decodeCanonicalUnpaddedBase64`), and the API alone bounds the length of
the content as it writes it anew; the bound on the bytes of the envelope implies
that one (`byteLength_content_le`). So they accept the same envelopes
(`parse_envelope_iff`), and the loops over the envelopes go the same way.
-/

namespace SinoChat

open Js Messaging

namespace MessagePayload

variable {round : JsString → JsNumber}
variable {signedGrant : JsString → Except HttpException UploadGrant}

/-! ## Base64 -/

theorem isPaddedBase64_toBase64 (bytes : List UInt8) : isPaddedBase64 (toBase64 bytes) = true := by
  have hchar : ∀ (n : ℕ), n < 64 → isBase64 (base64Char n) = true := fun n h =>
    isBase64_base64Char h
  induction bytes using toBase64.induct with
  | case1 a b c rest ih =>
    have ha := a.toNat_lt
    have hb := b.toNat_lt
    have hc := c.toNat_lt
    rw [toBase64]
    rcases htail : toBase64 rest with _ | ⟨u, us⟩
    · simp only [isPaddedBase64]
      rw [hchar _ (by omega), hchar _ (by omega), hchar _ (by omega), hchar _ (by omega)]
      rfl
    · rw [htail] at ih
      simp only [isPaddedBase64, ih]
      rw [hchar _ (by omega), hchar _ (by omega), hchar _ (by omega), hchar _ (by omega)]
      rfl
  | case2 a b =>
    have ha := a.toNat_lt
    have hb := b.toNat_lt
    simp only [toBase64, isPaddedBase64]
    rw [hchar _ (by omega), hchar _ (by omega), hchar _ (by omega)]
    rfl
  | case3 a =>
    have ha := a.toNat_lt
    simp only [toBase64, isPaddedBase64]
    rw [hchar _ (by omega), hchar _ (by omega)]
    simp
  | case4 => rfl

/-- The padded decoder accepts the texts of the byte strings within its bounds. -/
theorem decodeCanonicalPaddedBase64_eq_ok {text : JsString} {minimumBytes maximumBytes : ℕ}
    {code : ErrorCode} {bytes : List UInt8} (hpositive : 0 < minimumBytes) :
    decodeCanonicalPaddedBase64 (some (.str text)) minimumBytes maximumBytes code = .ok bytes ↔
      toBase64 bytes = text ∧ minimumBytes ≤ bytes.length ∧ bytes.length ≤ maximumBytes := by
  constructor
  · intro h
    obtain ⟨text', htext, h⟩ := bind_eq_ok.mp h
    obtain ⟨_, -, h⟩ := bind_eq_ok.mp h
    obtain ⟨binary, -, h⟩ := bind_eq_ok.mp h
    obtain ⟨_, hbounds, h⟩ := bind_eq_ok.mp h
    obtain ⟨_, hback, h⟩ := bind_eq_ok.mp h
    cases h
    obtain rfl : text = text' := by simpa [Json.str?] using htext
    simp only [require_eq_ok, Bool.and_eq_true, decide_eq_true_eq] at hbounds hback
    exact ⟨hback, hbounds⟩
  · rintro ⟨rfl, hmin, hmax⟩
    have hne : toBase64 bytes ≠ [] := by
      rcases bytes with _ | ⟨a, _ | ⟨b, _ | ⟨c, rest⟩⟩⟩
      · simp at hmin
        omega
      all_goals simp [toBase64]
    simp [decodeCanonicalPaddedBase64, Json.str?, orThrow, hne, isPaddedBase64_toBase64,
      atob_toBase64, require, hmin, hmax, bind, Except.bind, pure, Except.pure]

/-- The unpadded decoders of the two sides accept the same texts. -/
theorem isSome_decodeCanonicalUnpaddedBase64 (value : JsString) (expectedBytes : Option ℕ)
    (minimumBytes : ℕ) :
    (decodeCanonicalUnpaddedBase64 value expectedBytes minimumBytes).isSome = true ↔
      isCanonicalUnpaddedBase64 (apiDecoders round signedGrant) value expectedBytes
        minimumBytes = true := by
  -- on the characters of the alphabet, `atob` behind the padding is `Buffer.from`
  have hdecoded : (value ≠ [] && value.all isBase64 && value.length % 4 ≠ 1) = true →
      atob (value ++ List.replicate ((4 - value.length % 4) % 4) 0x3D) =
        some (bufferFromBase64 value) := by
    intro hform
    simp only [Bool.and_eq_true, decide_eq_true_eq] at hform
    exact atob_padded (List.all_eq_true.mp hform.1.2) hform.2
  rw [Option.isSome_iff_exists]
  unfold decodeCanonicalUnpaddedBase64
  simp only [guard_bind_eq_some]
  constructor
  · rintro ⟨bytes, hform, h⟩
    rw [hdecoded hform] at h
    obtain ⟨hbounds, -⟩ := guard_bind_eq_some.mp h
    rw [isCanonicalUnpaddedBase64, hform, Bool.true_and]
    exact hbounds
  · intro h
    obtain ⟨hform, hbounds⟩ := Bool.and_eq_true_iff.mp h
    refine ⟨bufferFromBase64 value, hform, ?_⟩
    rw [hdecoded hform]
    exact guard_bind_eq_some.mpr ⟨hbounds, rfl⟩

/-! ## The content of an envelope -/

/-- What both sides check of the members of a content. -/
structure Carries (entries : List (JsString × Json)) (content : MatrixMegolmRoomContent) :
    Prop where
  algorithm : (Json.get? (js "algorithm") entries).bind Json.str? = some content.algorithm
  ciphertext : (Json.get? (js "ciphertext") entries).bind Json.str? = some content.ciphertext
  deviceId : (Json.get? (js "device_id") entries).bind Json.str? = some content.deviceId
  senderKey : (Json.get? (js "sender_key") entries).bind Json.str? = some content.senderKey
  sessionId : (Json.get? (js "session_id") entries).bind Json.str? = some content.sessionId
  megolm : content.algorithm = matrixMegolmAlgorithm
  matrixDeviceId : isMatrixDeviceId content.deviceId = true
  base64SenderKey : (decodeCanonicalUnpaddedBase64 content.senderKey (some 32) 1).isSome = true
  base64SessionId : (decodeCanonicalUnpaddedBase64 content.sessionId (some 32) 1).isSome = true
  base64Ciphertext : (decodeCanonicalUnpaddedBase64 content.ciphertext none 16).isSome = true

/-- The client reads a content where the members carry it. -/
theorem megolmContent_eq_some {entries : List (JsString × Json)}
    {content : MatrixMegolmRoomContent} :
    megolmContent entries = some content ↔ Carries entries content := by
  constructor
  · intro h
    obtain ⟨algorithm, halgorithm, h⟩ := Option.bind_eq_some_iff.mp h
    obtain ⟨hmegolm, h⟩ := guard_bind_eq_some.mp h
    obtain ⟨deviceId, hdeviceId, h⟩ := Option.bind_eq_some_iff.mp h
    obtain ⟨hmatrix, h⟩ := guard_bind_eq_some.mp h
    obtain ⟨senderKey, hsenderKey, h⟩ := Option.bind_eq_some_iff.mp h
    obtain ⟨hsender, h⟩ := guard_bind_eq_some.mp h
    obtain ⟨sessionId, hsessionId, h⟩ := Option.bind_eq_some_iff.mp h
    obtain ⟨hsession, h⟩ := guard_bind_eq_some.mp h
    obtain ⟨ciphertext, hciphertext, h⟩ := Option.bind_eq_some_iff.mp h
    obtain ⟨hcipher, h⟩ := guard_bind_eq_some.mp h
    cases h
    exact ⟨halgorithm, hciphertext, hdeviceId, hsenderKey, hsessionId, hmegolm, hmatrix, hsender,
      hsession, hcipher⟩
  · intro h
    simp only [megolmContent, h.algorithm, h.deviceId, h.senderKey, h.sessionId, h.ciphertext,
      Option.bind_eq_bind, Option.bind_some]
    refine guard_bind_eq_some.mpr ⟨h.megolm, guard_bind_eq_some.mpr ⟨h.matrixDeviceId,
      guard_bind_eq_some.mpr ⟨h.base64SenderKey, guard_bind_eq_some.mpr ⟨h.base64SessionId,
      guard_bind_eq_some.mpr ⟨h.base64Ciphertext, rfl⟩⟩⟩⟩⟩

/-- The keys of a content. -/
def contentKeys : List JsString :=
  [js "algorithm", js "ciphertext", js "device_id", js "sender_key", js "session_id"]

/-- The API reads a content where the members carry it and are short enough. -/
theorem parseMatrixMegolmRoomContent_eq_some {value : Json}
    {content : MatrixMegolmRoomContent} :
    parseMatrixMegolmRoomContent (apiDecoders round signedGrant) value = some content ↔
      ∃ entries, value = .obj entries ∧ Json.exactKeys entries contentKeys = true ∧
        Carries entries content ∧ byteLength (stringify value) ≤ maxEnvelopeBytes := by
  constructor
  · intro h
    obtain ⟨entries, hentries, h⟩ := Option.bind_eq_some_iff.mp h
    obtain ⟨hkeys, h⟩ := guard_bind_eq_some.mp h
    obtain ⟨algorithm, halgorithm, h⟩ := Option.bind_eq_some_iff.mp h
    obtain ⟨ciphertext, hciphertext, h⟩ := Option.bind_eq_some_iff.mp h
    obtain ⟨deviceId, hdeviceId, h⟩ := Option.bind_eq_some_iff.mp h
    obtain ⟨senderKey, hsenderKey, h⟩ := Option.bind_eq_some_iff.mp h
    obtain ⟨sessionId, hsessionId, h⟩ := Option.bind_eq_some_iff.mp h
    obtain ⟨hmegolm, h⟩ := guard_bind_eq_some.mp h
    obtain ⟨hmatrix, h⟩ := guard_bind_eq_some.mp h
    obtain ⟨hsender, h⟩ := guard_bind_eq_some.mp h
    obtain ⟨hsession, h⟩ := guard_bind_eq_some.mp h
    obtain ⟨hcipher, h⟩ := guard_bind_eq_some.mp h
    obtain ⟨hlength, h⟩ := guard_bind_eq_some.mp h
    cases h
    have hvalue : value = .obj entries := by
      cases value <;> simp_all [Json.record?]
    exact ⟨entries, hvalue, hkeys, ⟨halgorithm, hciphertext, hdeviceId, hsenderKey, hsessionId,
      hmegolm, hmatrix, (isSome_decodeCanonicalUnpaddedBase64 ..).mpr hsender,
      (isSome_decodeCanonicalUnpaddedBase64 ..).mpr hsession,
      (isSome_decodeCanonicalUnpaddedBase64 ..).mpr hcipher⟩, hlength⟩
  · rintro ⟨entries, rfl, hkeys, h, hlength⟩
    simp only [parseMatrixMegolmRoomContent, Json.record?, h.algorithm, h.deviceId, h.senderKey,
      h.sessionId, h.ciphertext, Option.bind_eq_bind, Option.bind_some]
    exact guard_bind_eq_some.mpr ⟨hkeys, guard_bind_eq_some.mpr ⟨h.megolm,
      guard_bind_eq_some.mpr ⟨h.matrixDeviceId,
      guard_bind_eq_some.mpr ⟨(isSome_decodeCanonicalUnpaddedBase64 ..).mp h.base64SenderKey,
      guard_bind_eq_some.mpr ⟨(isSome_decodeCanonicalUnpaddedBase64 ..).mp h.base64SessionId,
      guard_bind_eq_some.mpr ⟨(isSome_decodeCanonicalUnpaddedBase64 ..).mp h.base64Ciphertext,
      guard_bind_eq_some.mpr ⟨hlength, rfl⟩⟩⟩⟩⟩⟩⟩

/-- Both sides ask for the same keys. -/
theorem exactKeys_eq_ok {entries : List (JsString × Json)} {expected : List JsString}
    {code : ErrorCode} (hnodup : expected.Nodup) :
    exactKeys entries expected code = .ok () ↔ Json.exactKeys entries expected = true := by
  rw [exactKeys, require_eq_ok]
  constructor
  · intro h
    simp only [Bool.and_eq_true] at h
    exact Bool.and_eq_true_iff.mpr ⟨h.1.1, h.2⟩
  · intro h
    have hperm := keys_perm_of_exactKeys hnodup h
    obtain ⟨hlength, hall⟩ := Bool.and_eq_true_iff.mp h
    have hcontains : (Json.keys entries).all expected.contains = true := by
      refine List.all_eq_true.mpr fun key hkey => ?_
      exact List.contains_iff_mem.mpr (hperm.mem_iff.mpr hkey)
    rw [hlength, hcontains, hall]
    rfl

/-! ### Its length -/

theorem isPlain_of_isBase64 {u : UInt16} (h : isBase64 u = true) : isPlain u = true := by
  have hne : ∀ v : UInt16, isBase64 v = false → u ≠ v := by
    rintro v hv rfl
    rw [h] at hv
    cases hv
  have hrange : 0x2B ≤ u.toNat ∧ u.toNat ≤ 0x7A := by
    simp only [isBase64, isAlphanumeric, isUpper, isLower, isDigit, Bool.or_eq_true,
      Bool.and_eq_true, decide_eq_true_eq, beq_iff_eq, UInt16.le_iff_toNat_le] at h
    rcases h with (((⟨hlo, hhi⟩ | ⟨hlo, hhi⟩) | ⟨hlo, hhi⟩) | rfl) | rfl
    · simp at hlo hhi
      omega
    · simp at hlo hhi
      omega
    · simp at hlo hhi
      omega
    · decide
    · decide
  simp only [isPlain, Bool.and_eq_true, decide_eq_true_eq, UInt16.le_iff_toNat_le,
    UInt16.lt_iff_toNat_lt]
  exact ⟨⟨⟨by simp; omega, by simp; omega⟩, hne _ (by decide)⟩, hne _ (by decide)⟩

theorem isPlain_of_decoded {value : JsString} {expectedBytes : Option ℕ} {minimumBytes : ℕ}
    (h : (decodeCanonicalUnpaddedBase64 value expectedBytes minimumBytes).isSome = true) :
    ∀ u ∈ value, isPlain u = true := by
  obtain ⟨bytes, h⟩ := Option.isSome_iff_exists.mp h
  obtain ⟨hform, -⟩ := guard_bind_eq_some.mp h
  simp only [Bool.and_eq_true] at hform
  exact fun u hu => isPlain_of_isBase64 (List.all_eq_true.mp hform.1.2 u hu)

theorem isPlain_of_isMatrixDeviceId {value : JsString} (h : isMatrixDeviceId value = true) :
    ∀ u ∈ value, isPlain u = true := by
  obtain ⟨p, q, rfl, hp, hq⟩ := fixed_append.mp h
  have hhex := (fixed_times.mp hq).2
  intro u hu
  rcases List.mem_append.mp hu with hu | hu
  · rw [fixed_lit.mp hp, List.mem_singleton.mp hu] at *
    decide
  · have hbase : isBase64 u = true := by
      have hu' := hhex u hu
      simp only [isUpperHex, isDigit, Bool.or_eq_true, Bool.and_eq_true, decide_eq_true_eq,
        UInt16.le_iff_toNat_le] at hu'
      simp only [isBase64, isAlphanumeric, isUpper, isDigit, Bool.or_eq_true, Bool.and_eq_true,
        decide_eq_true_eq, UInt16.le_iff_toNat_le]
      rcases hu' with hu' | ⟨hlo, hhi⟩
      · exact .inl (.inl (.inr hu'))
      · refine .inl (.inl (.inl (.inl ⟨hlo, hhi.trans ?_⟩)))
        decide
    exact isPlain_of_isBase64 hbase

/-- Every member of a content is a plain string under a plain key. -/
theorem Carries.plain {entries : List (JsString × Json)} {content : MatrixMegolmRoomContent}
    (h : Carries entries content) (hkeys : Json.exactKeys entries contentKeys = true) :
    ∀ e ∈ entries, (∀ u ∈ e.1, isPlain u = true) ∧
      ∃ s, e.2 = .str s ∧ ∀ u ∈ s, isPlain u = true := by
  have hperm := keys_perm_of_exactKeys (by decide) hkeys
  have hnodup : (entries.map Prod.fst).Nodup := hperm.nodup_iff.mp (by decide)
  have hplainKeys : ∀ key ∈ contentKeys, key.all isPlain = true := by decide
  rintro ⟨key, value⟩ he
  have hmem : key ∈ contentKeys := hperm.mem_iff.mpr (List.mem_map.mpr ⟨_, he, rfl⟩)
  have hget := get?_eq_some_of_mem hnodup he
  have hvalue : ∀ {s : JsString}, (Json.get? key entries).bind Json.str? = some s →
      (∀ u ∈ s, isPlain u = true) → ∃ s, value = .str s ∧ ∀ u ∈ s, isPlain u = true := by
    intro s hs hplain
    rw [hget, Option.bind_some] at hs
    cases value <;> simp [Json.str?] at hs
    exact ⟨s, by rw [hs], hplain⟩
  refine ⟨List.all_eq_true.mp (hplainKeys key hmem), ?_⟩
  simp only [contentKeys, List.mem_cons, List.not_mem_nil, or_false] at hmem
  rcases hmem with rfl | rfl | rfl | rfl | rfl
  · refine hvalue h.algorithm ?_
    rw [h.megolm]
    exact List.all_eq_true.mp (by decide)
  · exact hvalue h.ciphertext (isPlain_of_decoded h.base64Ciphertext)
  · exact hvalue h.deviceId (isPlain_of_isMatrixDeviceId h.matrixDeviceId)
  · exact hvalue h.senderKey (isPlain_of_decoded h.base64SenderKey)
  · exact hvalue h.sessionId (isPlain_of_decoded h.base64SessionId)

/-- **A content is no longer than the bytes it was read from.** -/
theorem byteLength_content_le {bytes : List UInt8} {text : JsString}
    {entries : List (JsString × Json)} {content : MatrixMegolmRoomContent}
    (htext : textDecoder bytes = some text) (hparse : parseJson round text = some (.obj entries))
    (hkeys : Json.exactKeys entries contentKeys = true) (h : Carries entries content) :
    byteLength (stringify (.obj entries)) ≤ bytes.length := by
  have hne : entries ≠ [] := by
    rintro rfl
    simp [Json.exactKeys, Json.keys, contentKeys] at hkeys
  have hstrip : (stripByteOrderMark bytes).length ≤ bytes.length := by
    unfold stripByteOrderMark
    split
    · simp only [List.length_cons]
      omega
    · exact Nat.le_refl _
  calc byteLength (stringify (.obj entries)) ≤ text.length :=
        byteLength_stringify_le hparse hne (h.plain hkeys)
    _ ≤ (stripByteOrderMark bytes).length := length_decodeUtf8_le htext
    _ ≤ bytes.length := hstrip

/-! ## One envelope -/

/-- **The API's check of a ciphertext**: canonical base64 of a length within the
bounds, and a content. -/
def Accepted (decoders : Decoders) (ciphertext : JsString) (content : MatrixMegolmRoomContent) :
    Prop :=
  let bytes := decoders.bytes ciphertext
  (16 ≤ bytes.length ∧ bytes.length ≤ maxEnvelopeBytes) ∧ toBase64 bytes = ciphertext ∧
    (decoders.json bytes).bind (parseMatrixMegolmRoomContent decoders) = some content

/-- **Both sides read the same envelopes**, to the same content. -/
theorem parse_envelope_iff {ciphertext : JsString} {content : MatrixMegolmRoomContent} :
    (∃ parsed, parseMatrixMegolmEnvelopeBase64 round (some (.str ciphertext)) = .ok parsed ∧
      parsed.content = content) ↔
      Accepted (apiDecoders round signedGrant) ciphertext content := by
  constructor
  · rintro ⟨parsed, h, rfl⟩
    obtain ⟨decoded, hdecoded, h⟩ := bind_eq_ok.mp h
    obtain ⟨json, hjson, h⟩ := bind_eq_ok.mp h
    obtain ⟨rawContent, hraw, h⟩ := bind_eq_ok.mp h
    obtain ⟨entries, hentries, h⟩ := bind_eq_ok.mp h
    obtain ⟨_, hkeys, h⟩ := bind_eq_ok.mp h
    obtain ⟨content, hcontent, h⟩ := bind_eq_ok.mp h
    obtain ⟨base64, -, h⟩ := bind_eq_ok.mp h
    cases h
    obtain ⟨rfl, hmin, hmax⟩ := (decodeCanonicalPaddedBase64_eq_ok (by decide)).mp hdecoded
    have hkeys' := (exactKeys_eq_ok (by decide)).mp hkeys
    have hcarries := megolmContent_eq_some.mp (orThrow_eq_ok.mp hcontent)
    have hvalue : rawContent = .obj entries := by
      have hrecord := orThrow_eq_ok.mp hentries
      cases rawContent <;> simp_all [Json.record?]
    rw [orThrow_eq_ok] at hjson hraw
    subst hvalue
    have hlength := byteLength_content_le hjson hraw hkeys' hcarries
    have hbytes : (apiDecoders round signedGrant).bytes (toBase64 decoded) = decoded :=
      bufferFromBase64_toBase64 decoded
    rw [Accepted]
    simp only [hbytes]
    refine ⟨⟨hmin, hmax⟩, trivial, ?_⟩
    have hread : (apiDecoders round signedGrant).json decoded = some (.obj entries) := by
      simp [apiDecoders, hjson, hraw]
    rw [hread, Option.bind_some]
    exact parseMatrixMegolmRoomContent_eq_some.mpr
      ⟨entries, rfl, hkeys', hcarries, by omega⟩
  · rintro ⟨⟨hmin, hmax⟩, hcanonical, h⟩
    obtain ⟨value, hvalue, hcontent⟩ := Option.bind_eq_some_iff.mp h
    obtain ⟨entries, rfl, hkeys, hcarries, -⟩ := parseMatrixMegolmRoomContent_eq_some.mp hcontent
    obtain ⟨json, hjson, hraw⟩ := Option.bind_eq_some_iff.mp hvalue
    have hdecoded : decodeCanonicalPaddedBase64 (some (.str ciphertext)) 16 maxEnvelopeBytes
        "MATRIX_MEGOLM_BASE64_INVALID" = .ok _ :=
      (decodeCanonicalPaddedBase64_eq_ok (by decide)).mpr ⟨hcanonical, hmin, hmax⟩
    refine ⟨⟨ciphertext, json, content⟩, ?_, rfl⟩
    refine bind_eq_ok.mpr ⟨_, hdecoded, bind_eq_ok.mpr ⟨json, orThrow_eq_ok.mpr hjson,
      bind_eq_ok.mpr ⟨_, orThrow_eq_ok.mpr hraw, bind_eq_ok.mpr ⟨entries, rfl,
      bind_eq_ok.mpr ⟨(), (exactKeys_eq_ok (by decide)).mpr hkeys,
      bind_eq_ok.mpr ⟨content, orThrow_eq_ok.mpr (megolmContent_eq_some.mpr hcarries),
      rfl⟩⟩⟩⟩⟩⟩

/-! ## The loop over the envelopes -/

/-- **The devices a message is for**: the recipients are the active devices, one
of which sends, under the device id of its text and the key in the envelopes. -/
structure Addressed (round : JsString → JsNumber) (request : SendMessage)
    (devices : List ActiveDevice) (sender : ActiveDevice) : Prop where
  ids : (devices.map (·.id)).Nodup
  recipients : ∀ id, id ∈ request.envelopes.map (·.recipientDeviceId) ↔ id ∈ devices.map (·.id)
  sends : sender ∈ devices
  senderDeviceId : sender.id = request.senderDeviceId
  matrixDeviceId : sender.matrixDeviceId = matrixDeviceIdFromUuid sender.id
  curve25519Key : ∀ envelope ∈ request.envelopes, ∀ parsed,
    parseMatrixMegolmEnvelopeBase64 round (some (.str envelope.ciphertext)) = .ok parsed →
      parsed.content.senderKey = sender.curve25519Key

/-- What the client has checked of an envelope. -/
structure Validated (round : JsString → JsNumber) (senderDeviceId : Uuid) (recipients : List Uuid)
    (canonicalCiphertext : Option JsString) (envelope : EnvelopeInput) : Prop where
  fresh : envelope.recipientDeviceId ∉ recipients
  protocolVersion : envelope.protocolVersion = matrixMessageProtocolVersion
  cipherSuite : envelope.cipherSuite = matrixMegolmAlgorithm
  identical : canonicalCiphertext.all (· = envelope.ciphertext) = true
  parsed : ∃ parsed,
    parseMatrixMegolmEnvelopeBase64 round (some (.str envelope.ciphertext)) = .ok parsed ∧
      parsed.content.deviceId = matrixDeviceIdFromUuid senderDeviceId

/-- A parsed value is the string it was given. -/
theorem parse_base64 {value : Option Json} {parsed : MatrixMegolmEnvelope}
    (h : parseMatrixMegolmEnvelopeBase64 round value = .ok parsed) :
    value = some (.str parsed.base64) := by
  obtain ⟨decoded, -, h⟩ := bind_eq_ok.mp h
  obtain ⟨json, -, h⟩ := bind_eq_ok.mp h
  obtain ⟨rawContent, -, h⟩ := bind_eq_ok.mp h
  obtain ⟨entries, -, h⟩ := bind_eq_ok.mp h
  obtain ⟨_, -, h⟩ := bind_eq_ok.mp h
  obtain ⟨content, -, h⟩ := bind_eq_ok.mp h
  obtain ⟨base64, hbase64, h⟩ := bind_eq_ok.mp h
  cases h
  obtain ⟨v, rfl, hv⟩ := Option.bind_eq_some_iff.mp (orThrow_eq_ok.mp hbase64)
  cases v <;> simp [Json.str?] at hv
  rw [hv]

theorem validateEnvelope_eq_ok {senderDeviceId : Uuid} {recipients : List Uuid}
    {canonicalCiphertext : Option JsString} {value : Json} {envelope : EnvelopeInput}
    (h : validateEnvelope round senderDeviceId recipients canonicalCiphertext value =
      .ok envelope) :
    Validated round senderDeviceId recipients canonicalCiphertext envelope := by
  obtain ⟨entries, -, h⟩ := bind_eq_ok.mp h
  obtain ⟨_, -, h⟩ := bind_eq_ok.mp h
  obtain ⟨recipientDeviceId, -, h⟩ := bind_eq_ok.mp h
  obtain ⟨_, hfields, h⟩ := bind_eq_ok.mp h
  obtain ⟨parsed, hparsed, h⟩ := bind_eq_ok.mp h
  obtain ⟨_, hbinding, h⟩ := bind_eq_ok.mp h
  cases h
  simp only [require_eq_ok, Bool.and_eq_true, Bool.not_eq_true', decide_eq_true_eq]
    at hfields hbinding
  refine ⟨?_, rfl, rfl, hbinding.2, parsed, ?_, hbinding.1⟩
  · simpa using hfields.1.1
  · rwa [parse_base64 hparsed] at hparsed

/-- The envelopes the client has checked, each after the ones before it. -/
inductive ValidatedAll (round : JsString → JsNumber) (senderDeviceId : Uuid) :
    List Uuid → Option JsString → List EnvelopeInput → Prop
  | nil {recipients : List Uuid} {canonicalCiphertext : Option JsString} :
      ValidatedAll round senderDeviceId recipients canonicalCiphertext []
  | cons {recipients : List Uuid} {canonicalCiphertext : Option JsString}
      {envelope : EnvelopeInput} {rest : List EnvelopeInput} :
      Validated round senderDeviceId recipients canonicalCiphertext envelope →
      ValidatedAll round senderDeviceId (envelope.recipientDeviceId :: recipients)
        (some envelope.ciphertext) rest →
      ValidatedAll round senderDeviceId recipients canonicalCiphertext (envelope :: rest)

theorem validateEnvelopes_eq_ok {senderDeviceId : Uuid} {values : List Json}
    {recipients : List Uuid} {canonicalCiphertext : Option JsString}
    {envelopes : List EnvelopeInput}
    (h : validateEnvelopes round senderDeviceId values recipients canonicalCiphertext =
      .ok envelopes) :
    ValidatedAll round senderDeviceId recipients canonicalCiphertext envelopes := by
  induction values generalizing recipients canonicalCiphertext envelopes with
  | nil =>
    cases h
    exact .nil
  | cons value rest ih =>
    obtain ⟨envelope, henvelope, h⟩ := bind_eq_ok.mp h
    obtain ⟨tail, htail, h⟩ := bind_eq_ok.mp h
    cases h
    exact .cons (validateEnvelope_eq_ok henvelope) (ih htail)

/-- A request the client lets pass has checked envelopes. -/
theorem validatedAll_of_request {value : Json} {request : SendMessage}
    (h : validateSendEncryptedMessageRequest round value = .ok request) :
    ValidatedAll round request.senderDeviceId [] none request.envelopes := by
  obtain ⟨input, -, h⟩ := bind_eq_ok.mp h
  obtain ⟨_, -, h⟩ := bind_eq_ok.mp h
  obtain ⟨clientMessageId, -, h⟩ := bind_eq_ok.mp h
  obtain ⟨senderDeviceId, -, h⟩ := bind_eq_ok.mp h
  obtain ⟨kind, -, h⟩ := bind_eq_ok.mp h
  obtain ⟨values, -, h⟩ := bind_eq_ok.mp h
  obtain ⟨_, -, h⟩ := bind_eq_ok.mp h
  obtain ⟨envelopes, henvelopes, h⟩ := bind_eq_ok.mp h
  obtain ⟨_, -, h⟩ := bind_eq_ok.mp h
  cases h
  exact validateEnvelopes_eq_ok henvelopes

/-- **The API's check follows the client's**, envelope by envelope. -/
theorem checkEnvelope_of_validated {senderDeviceId : Uuid} {recipients : List Uuid}
    {canonicalCiphertext : Option JsString} {envelope : EnvelopeInput}
    {devices : List ActiveDevice} {sender : ActiveDevice}
    (h : Validated round senderDeviceId recipients canonicalCiphertext envelope)
    (hrecipient : envelope.recipientDeviceId ∈ devices.map (·.id))
    (hdevice : sender.matrixDeviceId = matrixDeviceIdFromUuid senderDeviceId)
    (hkey : ∀ parsed,
      parseMatrixMegolmEnvelopeBase64 round (some (.str envelope.ciphertext)) = .ok parsed →
        parsed.content.senderKey = sender.curve25519Key) :
    checkEnvelope (apiDecoders round signedGrant) sender devices recipients canonicalCiphertext
      envelope = .ok () := by
  obtain ⟨parsed, hparsed, hdeviceId⟩ := h.parsed
  have haccepted : Accepted (apiDecoders round signedGrant) envelope.ciphertext parsed.content :=
    parse_envelope_iff.mp ⟨parsed, hparsed, rfl⟩
  obtain ⟨⟨hmin, hmax⟩, hcanonical, hcontent⟩ := haccepted
  have hany : devices.any (fun device => device.id = envelope.recipientDeviceId) = true := by
    obtain ⟨device, hmem, hid⟩ := List.mem_map.mp hrecipient
    exact List.any_eq_true.mpr ⟨device, hmem, by simpa using hid⟩
  refine bind_eq_ok.mpr ⟨(), require_eq_ok.mpr (by simpa using h.fresh), ?_⟩
  refine bind_eq_ok.mpr ⟨(), require_eq_ok.mpr ?_, ?_⟩
  · simp [hany, h.protocolVersion, h.cipherSuite]
  refine bind_eq_ok.mpr ⟨(), require_eq_ok.mpr (by simp [hmin, hmax]), ?_⟩
  refine bind_eq_ok.mpr ⟨(), require_eq_ok.mpr (by simpa using hcanonical), ?_⟩
  refine bind_eq_ok.mpr ⟨(), require_eq_ok.mpr h.identical, ?_⟩
  refine bind_eq_ok.mpr ⟨parsed.content, orThrow_eq_ok.mpr hcontent, require_eq_ok.mpr ?_⟩
  simp [hkey parsed hparsed, hdevice, hdeviceId]

/-- The loop of the API accepts what the loop of the client has. -/
theorem checkEnvelopes_of_validated {senderDeviceId : Uuid} {envelopes : List EnvelopeInput}
    {recipients : List Uuid} {canonicalCiphertext : Option JsString}
    {devices : List ActiveDevice} {sender : ActiveDevice}
    (h : ValidatedAll round senderDeviceId recipients canonicalCiphertext envelopes)
    (hnodup : recipients.Nodup)
    (hrecipients : ∀ envelope ∈ envelopes, envelope.recipientDeviceId ∈ devices.map (·.id))
    (hdevice : sender.matrixDeviceId = matrixDeviceIdFromUuid senderDeviceId)
    (hkey : ∀ envelope ∈ envelopes, ∀ parsed,
      parseMatrixMegolmEnvelopeBase64 round (some (.str envelope.ciphertext)) = .ok parsed →
        parsed.content.senderKey = sender.curve25519Key) :
    ∃ received, checkEnvelopes (apiDecoders round signedGrant) sender devices envelopes recipients
        canonicalCiphertext = .ok received ∧ received.Nodup ∧
      ∀ id, id ∈ received ↔ id ∈ recipients ∨ id ∈ envelopes.map (·.recipientDeviceId) := by
  induction h with
  | nil => exact ⟨_, rfl, hnodup, by simp⟩
  | @cons recipients canonicalCiphertext envelope rest hfirst _ ih =>
    obtain ⟨hrecipient, hrecipients⟩ := List.forall_mem_cons.mp hrecipients
    obtain ⟨hfirstKey, hrestKey⟩ := List.forall_mem_cons.mp hkey
    obtain ⟨received, hcheck, hreceived, hmem⟩ :=
      ih (List.nodup_cons.mpr ⟨hfirst.fresh, hnodup⟩) hrecipients hrestKey
    refine ⟨received, bind_eq_ok.mpr ⟨(),
      checkEnvelope_of_validated hfirst hrecipient hdevice hfirstKey, hcheck⟩, hreceived, ?_⟩
    intro id
    rw [hmem id, List.map_cons, List.mem_cons, List.mem_cons]
    tauto

/-- A row is found by its key. -/
theorem find?_of_nodup {α κ : Type} [DecidableEq κ] {key : α → κ} {rows : List α} {row : α}
    (hnodup : (rows.map key).Nodup) (h : row ∈ rows) :
    rows.find? (fun other => key other = key row) = some row := by
  induction rows with
  | nil => simp at h
  | cons first rest ih =>
    simp only [List.map_cons, List.nodup_cons] at hnodup
    rcases List.mem_cons.mp h with rfl | hmem
    · simp
    · have hne : key first ≠ key row := fun heq =>
        hnodup.1 (heq ▸ List.mem_map_of_mem hmem)
      rw [List.find?_cons_of_neg (by simpa using hne), ih hnodup.2 hmem]

/-- **Client and API agree on what can be sent**: the API's validation of the
envelopes accepts every request the client lets pass to the active devices, in
the name of a registered one; and both sides read the same ciphertexts, to the
same content. -/
theorem sendable_on_both_sides (round : JsString → JsNumber)
    (signedGrant : JsString → Except HttpException UploadGrant) :
    (∀ value request devices sender,
      validateSendEncryptedMessageRequest round value = .ok request →
      Addressed round request devices sender →
        (∃ received, checkEnvelopes (apiDecoders round signedGrant) sender devices
            request.envelopes [] none = .ok received ∧ received.length = devices.length ∧
          ∀ device ∈ devices, device.id ∈ received) ∧
        ((∃ device ∈ devices, device.userId ≠ sender.userId) →
          assertCompleteEnvelopes (apiDecoders round signedGrant) request devices = .ok ())) ∧
    ∀ ciphertext content,
      (∃ parsed, parseMatrixMegolmEnvelopeBase64 round (some (.str ciphertext)) = .ok parsed ∧
        parsed.content = content) ↔
        Accepted (apiDecoders round signedGrant) ciphertext content := by
  refine ⟨fun value request devices sender h haddressed => ?_,
    fun ciphertext content => parse_envelope_iff⟩
  have hdevice : sender.matrixDeviceId = matrixDeviceIdFromUuid request.senderDeviceId := by
    rw [haddressed.matrixDeviceId, haddressed.senderDeviceId]
  obtain ⟨received, hcheck, hnodup, hmem⟩ : ∃ received,
      checkEnvelopes (apiDecoders round signedGrant) sender devices request.envelopes [] none =
        .ok received ∧ received.Nodup ∧
      ∀ id, id ∈ received ↔ id ∈ [] ∨ id ∈ request.envelopes.map (·.recipientDeviceId) :=
    checkEnvelopes_of_validated (validatedAll_of_request h) List.nodup_nil
      (fun envelope he => (haddressed.recipients _).mp (List.mem_map_of_mem he))
      hdevice haddressed.curve25519Key
  have hids : ∀ id, id ∈ received ↔ id ∈ devices.map (·.id) := by
    intro id
    rw [hmem id, ← haddressed.recipients id]
    simp
  have hperm : received.Perm (devices.map (·.id)) :=
    (List.perm_ext_iff_of_nodup hnodup haddressed.ids).mpr hids
  have hlength : received.length = devices.length := by
    rw [hperm.length_eq, List.length_map]
  have hall : ∀ device ∈ devices, device.id ∈ received := fun device hmem =>
    (hids _).mpr (List.mem_map_of_mem hmem)
  refine ⟨⟨received, hcheck, hlength, hall⟩, ?_⟩
  rintro ⟨other, hother, huser⟩
  have hfind := find?_of_nodup haddressed.ids haddressed.sends
  rw [haddressed.senderDeviceId] at hfind
  refine bind_eq_ok.mpr ⟨(), require_eq_ok.mpr ?_, bind_eq_ok.mpr ⟨sender, orThrow_eq_ok.mpr hfind,
    bind_eq_ok.mpr ⟨(), require_eq_ok.mpr ?_, bind_eq_ok.mpr ⟨received, hcheck,
    require_eq_ok.mpr ?_⟩⟩⟩⟩
  · cases devices
    · simp at hother
    · rfl
  · exact List.any_eq_true.mpr ⟨other, hother, by simpa using huser⟩
  · simp [hlength]
    exact hall

/-! ### A message between two devices -/

/-- The id of a device. -/
def clientDevice : Uuid := ⟨js "00000000-0000-4000-8000-000000000001", by decide⟩

def cashierDevice : Uuid := ⟨js "00000000-0000-4000-8000-000000000002", by decide⟩

/-- Sixteen zero bytes, encrypted as it were, by a device whose key is zero. -/
def zeroContent : MatrixMegolmRoomContent where
  algorithm := matrixMegolmAlgorithm
  ciphertext := unpadded (toBase64 (List.replicate 16 0))
  deviceId := matrixDeviceIdFromUuid clientDevice
  senderKey := unpadded (toBase64 (List.replicate 32 0))
  sessionId := unpadded (toBase64 (List.replicate 32 0))

/-- The text of the content. -/
def zeroJson : JsString :=
  stringify (.obj [(js "algorithm", .str zeroContent.algorithm),
    (js "ciphertext", .str zeroContent.ciphertext), (js "device_id", .str zeroContent.deviceId),
    (js "sender_key", .str zeroContent.senderKey), (js "session_id", .str zeroContent.sessionId)])

/-- An envelope of it. -/
def zeroEnvelope (device : Uuid) : EnvelopeInput :=
  ⟨device, matrixMessageProtocolVersion, matrixMegolmAlgorithm, toBase64 (utf8 zeroJson)⟩

/-- The message for both devices, as the web client hands it over. -/
def zeroMessage : Json :=
  .obj [(js "clientMessageId", .str clientDevice.text),
    (js "senderDeviceId", .str clientDevice.text), (js "kind", .str (js "TEXT")),
    (js "envelopes", .arr ([clientDevice, cashierDevice].map fun device =>
      .obj [(js "recipientDeviceId", .str device.text),
        (js "protocolVersion", .str matrixMessageProtocolVersion),
        (js "cipherSuite", .str matrixMegolmAlgorithm),
        (js "ciphertext", .str (zeroEnvelope device).ciphertext)]))]

/-- A message to both devices. -/
def zeroRequest : SendMessage :=
  ⟨clientDevice, clientDevice, .text, [zeroEnvelope clientDevice, zeroEnvelope cashierDevice], none⟩

/-- The device that sends. -/
def zeroSender : ActiveDevice :=
  ⟨clientDevice, clientDevice, matrixDeviceIdFromUuid clientDevice, zeroContent.senderKey⟩

/-- The device that receives. -/
def zeroRecipient : ActiveDevice :=
  ⟨cashierDevice, cashierDevice, matrixDeviceIdFromUuid cashierDevice, zeroContent.senderKey⟩

/-- The API takes the message of the client for the two devices. -/
theorem sendable_on_both_sides_zero :
    assertCompleteEnvelopes (apiDecoders (fun _ => .negativeZero) fun _ => .error (.internal ""))
      zeroRequest [zeroSender, zeroRecipient] = .ok () := by
  have hok : ∀ {α : Type} {x : Except ErrorCode α} {a : α}, x.toOption = some a → x = .ok a := by
    rintro α (_ | a) b h
    · cases h
    · rw [Option.some.inj h]
  have hvalid : validateSendEncryptedMessageRequest (fun _ => .negativeZero) zeroMessage =
      .ok zeroRequest := hok (by decide +kernel)
  have hparse : parseMatrixMegolmEnvelopeBase64 (fun _ => .negativeZero)
      (some (.str (toBase64 (utf8 zeroJson)))) =
        .ok ⟨toBase64 (utf8 zeroJson), zeroJson, zeroContent⟩ := hok (by decide +kernel)
  refine ((sendable_on_both_sides _ _).1 zeroMessage zeroRequest [zeroSender, zeroRecipient]
    zeroSender hvalid ⟨by decide, fun id => Iff.rfl, List.mem_cons_self, rfl, rfl, ?_⟩).2
    ⟨zeroRecipient, by simp, by decide⟩
  intro envelope henvelope parsed hparsed
  have hsame : envelope.ciphertext = toBase64 (utf8 zeroJson) := by
    simp only [zeroRequest, List.mem_cons, List.not_mem_nil, or_false] at henvelope
    rcases henvelope with rfl | rfl <;> rfl
  rw [hsame, hparse] at hparsed
  cases hparsed
  rfl

end MessagePayload

end SinoChat
