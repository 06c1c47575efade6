import SinoChat.Client.Sendable
import SinoChat.Common.CanonicalText
import SinoChat.Model.MessageContent

/-!
# Message contents are read back

The parsers normalise what they read: letter case of ids and hashes, the order of
members, a media description that is a text. What a parser returns (`IsContent`) it
reads again, unchanged (`IsContent.parse`), and it survives serialisation
(`IsContent.parseJson_toJson`). So the decoder gives back what was encoded for the
bindings that match it and for no other (`decode_of_agrees`, `decode_of_not_agrees`).
-/

namespace SinoChat

open Js

namespace MessageContent

variable {round : JsString → JsNumber} {urlHost : JsString → Bool}

/-! ## Letter case -/

/-- A class that does not tell the cases of a letter apart. -/
theorem class_lowerUnit {c : CharClass}
    (h : ∀ k : Fin 26, c (0x41 + k.val).toUInt16 = c (0x61 + k.val).toUInt16) (u : UInt16) :
    c (lowerUnit u) = c u := by
  unfold lowerUnit
  split_ifs with hu
  · simp only [isUpper, Bool.and_eq_true, decide_eq_true_eq, UInt16.le_iff_toNat_le] at hu
    have hlo : 0x41 ≤ u.toNat := hu.1
    have hhi : u.toNat ≤ 0x5A := hu.2
    have hk := h ⟨u.toNat - 0x41, by omega⟩
    have hupper : (0x41 + (u.toNat - 0x41)).toUInt16 = u := by
      rw [Nat.add_sub_cancel' hlo]
      exact UInt16.ofNat_toNat
    have hlower : (0x61 + (u.toNat - 0x41)).toUInt16 = u + 0x20 := by
      apply UInt16.toNat_inj.mp
      simp
      omega
    rw [hupper, hlower] at hk
    exact hk.symm
  · rfl

theorem isUpper_lowerUnit (u : UInt16) : isUpper (lowerUnit u) = false := by
  unfold lowerUnit
  split_ifs with hu
  · simp only [isUpper, Bool.and_eq_true, decide_eq_true_eq, UInt16.le_iff_toNat_le] at hu
    have hlo : 0x41 ≤ u.toNat := hu.1
    have hhi : u.toNat ≤ 0x5A := hu.2
    have hsum : (u + 0x20).toNat = u.toNat + 0x20 := by
      simp
      omega
    rw [Bool.eq_false_iff, isUpper, ne_eq, Bool.and_eq_true, decide_eq_true_eq,
      decide_eq_true_eq, UInt16.le_iff_toNat_le, UInt16.le_iff_toNat_le, hsum]
    have hbound : (0x5A : UInt16).toNat = 0x5A := rfl
    omega
  · simpa using hu

@[simp] theorem toLowerCase_toLowerCase (text : JsString) :
    toLowerCase (toLowerCase text) = toLowerCase text := by
  rw [toLowerCase, toLowerCase, List.map_map]
  refine List.map_congr_left fun u _ => ?_
  rw [Function.comp, lowerUnit, isUpper_lowerUnit, if_neg Bool.false_ne_true]

/-- A pattern of such classes does not either. -/
theorem fixed_toLowerCase {cs : List CharClass} (h : ∀ c ∈ cs, ∀ u, c (lowerUnit u) = c u)
    (text : JsString) : fixed cs (toLowerCase text) = fixed cs text :=
  fixed_map h text

theorem uuidV4Pattern_lowerUnit : ∀ c ∈ uuidV4Pattern, ∀ u, c (lowerUnit u) = c u := by
  have hhex : ∀ {n : ℕ}, ∀ c ∈ times n isHex, ∀ u, c (lowerUnit u) = c u := by
    intro n c hc
    rw [List.eq_of_mem_replicate hc]
    exact class_lowerUnit (by decide)
  have hlit : ∀ {s : String}, ((js s).all fun v => !isUpper v && !isLower v) = true →
      ∀ c ∈ lit s, ∀ u, c (lowerUnit u) = c u := by
    intro s hs c hc
    obtain ⟨v, hv, rfl⟩ := List.mem_map.mp hc
    have hletter := List.all_eq_true.mp hs v hv
    simp only [Bool.and_eq_true, Bool.not_eq_true'] at hletter
    refine @class_lowerUnit (fun w => w == v) fun k => ?_
    have hupper : ∀ k : Fin 26, isUpper (0x41 + k.val).toUInt16 = true := by decide
    have hlower : ∀ k : Fin 26, isLower (0x61 + k.val).toUInt16 = true := by decide
    have hne : ∀ w : UInt16, w ≠ v → (w == v) = false := fun w hw => beq_eq_false_iff_ne.mpr hw
    rw [hne _ fun heq => ?_, hne _ fun heq => ?_]
    · rw [← heq, hlower k] at hletter
      cases hletter.2
    · rw [← heq, hupper k] at hletter
      cases hletter.1
  have hvariant : ∀ c ∈ [isVariant], ∀ u, c (lowerUnit u) = c u := by
    intro c hc
    rw [List.mem_singleton.mp hc]
    exact class_lowerUnit (by decide)
  simp only [uuidV4Pattern, List.forall_mem_append]
  exact ⟨⟨⟨⟨⟨⟨⟨⟨⟨hhex, hlit rfl⟩, hhex⟩, hlit rfl⟩, hhex⟩, hlit rfl⟩, hvariant⟩, hhex⟩, hlit rfl⟩,
    hhex⟩

/-! ## Fields -/

/-- A UUID in lower case. -/
def IsUuid (id : JsString) : Prop := fixed uuidV4Pattern id = true ∧ toLowerCase id = id

/-- An identifier that is read is in lower case, whatever the spelling. -/
theorem uuid_eq_ok {value : Option Json} {code : ErrorCode} {id : JsString}
    (h : uuid value code = .ok id) :
    IsUuid id ∧ ∃ text, value = some (.str text) ∧ toLowerCase text = id := by
  obtain ⟨text, htext, h⟩ := bind_eq_ok.mp h
  obtain ⟨_, hpattern, h⟩ := bind_eq_ok.mp h
  cases h
  rw [require_eq_ok] at hpattern
  obtain ⟨v, rfl, hv⟩ := Option.bind_eq_some_iff.mp (orThrow_eq_ok.mp htext)
  refine ⟨⟨?_, toLowerCase_toLowerCase text⟩, text, ?_, rfl⟩
  · rw [fixed_toLowerCase uuidV4Pattern_lowerUnit, hpattern]
  · cases v <;> simp [Json.str?] at hv
    rw [hv]

/-- A text that is a UUID in whatever case is read as that UUID. -/
theorem uuid_of_isUuid {id text : JsString} {code : ErrorCode} (h : IsUuid id)
    (htext : toLowerCase text = id) : uuid (some (.str text)) code = .ok id := by
  have hpattern : fixed uuidV4Pattern text = true := by
    rw [← fixed_toLowerCase uuidV4Pattern_lowerUnit, htext]
    exact h.1
  refine bind_eq_ok.mpr ⟨text, rfl, bind_eq_ok.mpr ⟨(), require_eq_ok.mpr hpattern, ?_⟩⟩
  rw [htext]
  rfl

/-- A digest in lower case. -/
def IsHash (hash : JsString) : Prop :=
  fixed (times 64 isLowerHex) hash = true ∧ toLowerCase hash = hash

/-- So is a digest. -/
theorem normalizeHexSha256_eq_ok {value : Option Json} {code : ErrorCode} {hash : JsString}
    (h : normalizeHexSha256 value code = .ok hash) :
    IsHash hash ∧ ∃ text, value = some (.str text) ∧ toLowerCase text = hash := by
  obtain ⟨text, htext, h⟩ := bind_eq_ok.mp h
  obtain ⟨_, hpattern, h⟩ := bind_eq_ok.mp h
  cases h
  rw [require_eq_ok] at hpattern
  obtain ⟨v, rfl, hv⟩ := Option.bind_eq_some_iff.mp (orThrow_eq_ok.mp htext)
  refine ⟨⟨hpattern, toLowerCase_toLowerCase text⟩, text, ?_, rfl⟩
  cases v <;> simp [Json.str?] at hv
  rw [hv]

/-- Every spelling of a digest is read as it. -/
theorem normalizeHexSha256_of_isHash {hash text : JsString} {code : ErrorCode} (h : IsHash hash)
    (htext : toLowerCase text = hash) : normalizeHexSha256 (some (.str text)) code = .ok hash := by
  have hpattern : fixed (times 64 isLowerHex) (toLowerCase text) = true := by
    rw [htext]
    exact h.1
  refine bind_eq_ok.mpr ⟨text, rfl, bind_eq_ok.mpr ⟨(), require_eq_ok.mpr hpattern, ?_⟩⟩
  rw [htext]
  rfl

/-- A property that spells an id or a digest, in whatever case. -/
def Spells (record : List (JsString × Json)) (key id : JsString) : Prop :=
  ∃ text, Json.get? key record = some (.str text) ∧ toLowerCase text = id

/-- A room that the checks accept for a conversation. -/
def IsRoom (urlHost : JsString → Bool) (conversationId roomId : JsString) : Prop :=
  ∀ code, matrixRoomId urlHost (some (.str roomId)) conversationId code = .ok roomId

/-- A room that is read is the conversation's. -/
theorem matrixRoomId_eq_ok {value : Option Json} {conversationId roomId : JsString}
    {code : ErrorCode} (h : matrixRoomId urlHost value conversationId code = .ok roomId) :
    IsRoom urlHost conversationId roomId ∧ value = some (.str roomId) := by
  obtain ⟨text, htext, h⟩ := bind_eq_ok.mp h
  obtain ⟨_, hlower, h⟩ := bind_eq_ok.mp h
  obtain ⟨_, hpattern, h⟩ := bind_eq_ok.mp h
  obtain ⟨_, hname, h⟩ := bind_eq_ok.mp h
  obtain ⟨_, hhost, h⟩ := bind_eq_ok.mp h
  cases h
  rw [require_eq_ok] at hlower hpattern hname hhost
  obtain ⟨v, rfl, hv⟩ := Option.bind_eq_some_iff.mp (orThrow_eq_ok.mp htext)
  refine ⟨fun code => ?_, ?_⟩
  · exact bind_eq_ok.mpr ⟨roomId, rfl, bind_eq_ok.mpr ⟨(), require_eq_ok.mpr hlower,
      bind_eq_ok.mpr ⟨(), require_eq_ok.mpr hpattern, bind_eq_ok.mpr ⟨(), require_eq_ok.mpr hname,
      bind_eq_ok.mpr ⟨(), require_eq_ok.mpr hhost, rfl⟩⟩⟩⟩⟩
  · cases v <;> simp [Json.str?] at hv
    rw [hv]

/-- A number is read if it is an integer within the bounds. -/
theorem boundedInteger_eq_ok {value : Option Json} {minimum maximum n : ℤ} {code : ErrorCode} :
    boundedInteger value minimum maximum code = .ok n ↔
      value = some (.num (.integer n)) ∧ n.natAbs ≤ 2 ^ 53 - 1 ∧ minimum ≤ n ∧ n ≤ maximum := by
  rw [boundedInteger, orThrow_eq_ok, Option.bind_eq_some_iff]
  constructor
  · rintro ⟨v, rfl, h⟩
    split at h
    · split_ifs at h with hbounds
      cases h
      exact ⟨rfl, hbounds⟩
    · cases h
  · rintro ⟨rfl, hbounds⟩
    refine ⟨_, rfl, ?_⟩
    dsimp only
    rw [if_pos hbounds]

/-- A type is read if it is one of the declared ones. -/
theorem imageMimeType_eq_ok {value : Option Json} {mimeType : SinoChatImageMimeType} :
    imageMimeType value = .ok mimeType ↔ value = some (.str mimeType.text) := by
  rw [imageMimeType, orThrow_eq_ok, Option.bind_eq_some_iff]
  constructor
  · rintro ⟨text, htext, h⟩
    obtain ⟨v, rfl, hv⟩ := Option.bind_eq_some_iff.mp htext
    have hvalue : v = .str text := by
      cases v <;> simp [Json.str?] at hv
      rw [hv]
    split_ifs at h with h₁ h₂ h₃ <;> cases h
    · rw [hvalue, h₁]
      rfl
    · rw [hvalue, h₂]
      rfl
    · rw [hvalue, h₃]
      rfl
  · rintro rfl
    exact ⟨mimeType.text, rfl, by cases mimeType <;> rfl⟩

/-! ## Media -/

/-- Media information that is read again as it is written. -/
def IsMedia (round : JsString → JsNumber) (info : MatrixV2MediaEncryptionInfo) : Prop :=
  parseMediaEncryptionInfo round (some info.toJson) = .ok info

/-- The form of media information. -/
structure MediaForm (info : MatrixV2MediaEncryptionInfo) : Prop where
  k : fixed (times 43 isBase64Url) info.k = true
  iv : fixed (times 22 isBase64) info.iv = true
  sha256 : fixed (times 43 isBase64) info.sha256 = true

/-- Encryption fields that are read have their form. -/
theorem mediaForm_of_mediaFields {entries key hashes : List (JsString × Json)}
    {info : MatrixV2MediaEncryptionInfo} (h : mediaFields entries key hashes = some info) :
    MediaForm info := by
  obtain ⟨-, h⟩ := guard_bind_eq_some.mp h
  obtain ⟨-, h⟩ := guard_bind_eq_some.mp h
  obtain ⟨k, -, h⟩ := Option.bind_eq_some_iff.mp h
  obtain ⟨hk, h⟩ := guard_bind_eq_some.mp h
  obtain ⟨iv, -, h⟩ := Option.bind_eq_some_iff.mp h
  obtain ⟨hiv, h⟩ := guard_bind_eq_some.mp h
  obtain ⟨sha256, -, h⟩ := Option.bind_eq_some_iff.mp h
  obtain ⟨hsha256, h⟩ := guard_bind_eq_some.mp h
  obtain ⟨keyOps, -, h⟩ := Option.bind_eq_some_iff.mp h
  cases h
  exact ⟨hk, hiv, hsha256⟩

/-- The operations of a key are read in either order. -/
theorem keyOperations?_toJson (keyOps : KeyOperations) :
    keyOperations? (some keyOps.toJson) = some keyOps := by
  cases keyOps <;> rfl

/-- **Media information that was read is read again.** -/
theorem isMedia_of_parse {value : Option Json} {info : MatrixV2MediaEncryptionInfo}
    (h : parseMediaEncryptionInfo round value = .ok info) : IsMedia round info := by
  obtain ⟨parsed, -, h⟩ := bind_eq_ok.mp h
  obtain ⟨entries, -, h⟩ := bind_eq_ok.mp h
  obtain ⟨_, -, h⟩ := bind_eq_ok.mp h
  obtain ⟨key, -, h⟩ := bind_eq_ok.mp h
  obtain ⟨_, -, h⟩ := bind_eq_ok.mp h
  obtain ⟨hashes, -, h⟩ := bind_eq_ok.mp h
  obtain ⟨_, -, h⟩ := bind_eq_ok.mp h
  obtain ⟨media, hmedia, h⟩ := bind_eq_ok.mp h
  obtain ⟨k, hk, h⟩ := bind_eq_ok.mp h
  obtain ⟨iv, hiv, h⟩ := bind_eq_ok.mp h
  obtain ⟨sha256, hsha256, h⟩ := bind_eq_ok.mp h
  cases h
  have hform := mediaForm_of_mediaFields (orThrow_eq_ok.mp hmedia)
  refine bind_eq_ok.mpr ⟨info.toJson, rfl, bind_eq_ok.mpr ⟨_, rfl, bind_eq_ok.mpr ⟨(), rfl,
    bind_eq_ok.mpr ⟨_, rfl, bind_eq_ok.mpr ⟨(), rfl, bind_eq_ok.mpr ⟨_, rfl,
    bind_eq_ok.mpr ⟨(), rfl, bind_eq_ok.mpr ⟨info, orThrow_eq_ok.mpr ?_,
    bind_eq_ok.mpr ⟨k, hk, bind_eq_ok.mpr ⟨iv, hiv, bind_eq_ok.mpr ⟨sha256, hsha256, rfl⟩⟩⟩⟩⟩⟩⟩⟩⟩⟩⟩
  refine guard_bind_eq_some.mpr ⟨⟨⟨rfl, rfl⟩, rfl⟩,
    guard_bind_eq_some.mpr ⟨rfl, Option.bind_eq_some_iff.mpr ⟨info.k, rfl,
    guard_bind_eq_some.mpr ⟨hform.k, Option.bind_eq_some_iff.mpr ⟨info.iv, rfl,
    guard_bind_eq_some.mpr ⟨hform.iv, Option.bind_eq_some_iff.mpr ⟨info.sha256, rfl,
    guard_bind_eq_some.mpr ⟨hform.sha256,
    Option.bind_eq_some_iff.mpr ⟨info.keyOps, keyOperations?_toJson info.keyOps, rfl⟩⟩⟩⟩⟩⟩⟩⟩⟩

/-! ## Images -/

/-- An image whose fields keep to the bounds and to each other. -/
structure IsImage (round : JsString → JsNumber) (image : SinoChatImageMetadata) : Prop where
  plaintext : image.plaintextByteSize.natAbs ≤ 2 ^ 53 - 1 ∧ 1 ≤ image.plaintextByteSize ∧
    image.plaintextByteSize ≤ sinoChatMaxImagePlaintextBytes
  ciphertext : image.ciphertextByteSize.natAbs ≤ 2 ^ 53 - 1 ∧
    image.plaintextByteSize ≤ image.ciphertextByteSize ∧
    image.ciphertextByteSize ≤ sinoChatMaxImageCiphertextBytes
  hash : IsHash image.ciphertextSha256
  media : IsMedia round image.mediaEncryptionInfo
  digest : decodeUnpaddedBase64ToHex image.mediaEncryptionInfo.sha256 false =
    .ok image.ciphertextSha256

/-- **What is read of image metadata** is well formed and spelled in the record. -/
theorem parseImageMetadata_eq_ok {value : Option Json} {image : SinoChatImageMetadata}
    (h : parseImageMetadata round value = .ok image) :
    IsImage round image ∧ ∃ record, value = some (.obj record) ∧
      Json.get? (js "declaredMimeType") record = some (.str image.declaredMimeType.text) ∧
      Json.get? (js "plaintextByteSize") record =
        some (.num (.integer image.plaintextByteSize)) ∧
      Json.get? (js "ciphertextByteSize") record =
        some (.num (.integer image.ciphertextByteSize)) ∧
      Spells record (js "ciphertextSha256") image.ciphertextSha256 ∧
      parseMediaEncryptionInfo round (Json.get? (js "mediaEncryptionInfo") record) =
        .ok image.mediaEncryptionInfo := by
  obtain ⟨record, hrecord, h⟩ := bind_eq_ok.mp h
  obtain ⟨_, -, h⟩ := bind_eq_ok.mp h
  obtain ⟨declaredMimeType, hmime, h⟩ := bind_eq_ok.mp h
  obtain ⟨plaintextByteSize, hplain, h⟩ := bind_eq_ok.mp h
  obtain ⟨ciphertextByteSize, hcipher, h⟩ := bind_eq_ok.mp h
  obtain ⟨ciphertextSha256, hhash, h⟩ := bind_eq_ok.mp h
  obtain ⟨media, hmedia, h⟩ := bind_eq_ok.mp h
  obtain ⟨hash, hdigest, h⟩ := bind_eq_ok.mp h
  obtain ⟨_, hequal, h⟩ := bind_eq_ok.mp h
  cases h
  rw [require_eq_ok, decide_eq_true_eq] at hequal
  obtain ⟨hplainValue, hplainBounds⟩ := boundedInteger_eq_ok.mp hplain
  obtain ⟨hcipherValue, hcipherBounds⟩ := boundedInteger_eq_ok.mp hcipher
  refine ⟨⟨hplainBounds, hcipherBounds, (normalizeHexSha256_eq_ok hhash).1,
    isMedia_of_parse hmedia, hequal ▸ hdigest⟩, record, ?_, imageMimeType_eq_ok.mp hmime,
    hplainValue, hcipherValue, (normalizeHexSha256_eq_ok hhash).2, hmedia⟩
  obtain ⟨v, rfl, hv⟩ := Option.bind_eq_some_iff.mp (orThrow_eq_ok.mp hrecord)
  cases v <;> simp [Json.record?] at hv
  rw [hv]

/-- An image is read again as it is written. -/
theorem IsImage.parse {image : SinoChatImageMetadata} (h : IsImage round image) :
    parseImageMetadata round (some image.toJson) = .ok image := by
  refine bind_eq_ok.mpr ⟨_, rfl, bind_eq_ok.mpr ⟨(), rfl,
    bind_eq_ok.mpr ⟨_, imageMimeType_eq_ok.mpr rfl,
    bind_eq_ok.mpr ⟨_, boundedInteger_eq_ok.mpr ⟨rfl, h.plaintext⟩,
    bind_eq_ok.mpr ⟨_, boundedInteger_eq_ok.mpr ⟨rfl, h.ciphertext⟩,
    bind_eq_ok.mpr ⟨_, normalizeHexSha256_of_isHash h.hash h.hash.2,
    bind_eq_ok.mpr ⟨_, h.media, bind_eq_ok.mpr ⟨_, h.digest,
    bind_eq_ok.mpr ⟨(), require_eq_ok.mpr (decide_eq_true rfl), rfl⟩⟩⟩⟩⟩⟩⟩⟩⟩

/-! ## Contents -/

/-- A base of normalised ids, with a room of its conversation. -/
structure IsBase (urlHost : JsString → Bool) (base : SinoChatMessageBase) : Prop where
  conversationId : IsUuid base.conversationId
  roomId : IsRoom urlHost base.conversationId base.roomId
  clientMessageId : IsUuid base.clientMessageId
  senderUserId : IsUuid base.senderUserId
  senderDeviceId : IsUuid base.senderDeviceId

/-- **What is read of the common part** is well formed and spelled in the record. -/
theorem parseBase_eq_ok {record : List (JsString × Json)} {base : SinoChatMessageBase}
    (h : parseBase urlHost record = .ok base) :
    IsBase urlHost base ∧ Spells record (js "conversationId") base.conversationId ∧
      Json.get? (js "roomId") record = some (.str base.roomId) ∧
      Spells record (js "clientMessageId") base.clientMessageId ∧
      Spells record (js "senderUserId") base.senderUserId ∧
      Spells record (js "senderDeviceId") base.senderDeviceId := by
  obtain ⟨conversationId, hconversation, h⟩ := bind_eq_ok.mp h
  obtain ⟨roomId, hroom, h⟩ := bind_eq_ok.mp h
  obtain ⟨clientMessageId, hmessage, h⟩ := bind_eq_ok.mp h
  obtain ⟨senderUserId, huser, h⟩ := bind_eq_ok.mp h
  obtain ⟨senderDeviceId, hdevice, h⟩ := bind_eq_ok.mp h
  cases h
  exact ⟨⟨(uuid_eq_ok hconversation).1, (matrixRoomId_eq_ok hroom).1, (uuid_eq_ok hmessage).1,
    (uuid_eq_ok huser).1, (uuid_eq_ok hdevice).1⟩, (uuid_eq_ok hconversation).2,
    (matrixRoomId_eq_ok hroom).2, (uuid_eq_ok hmessage).2, (uuid_eq_ok huser).2,
    (uuid_eq_ok hdevice).2⟩

/-- The record of a content. -/
def SinoChatMessageBase.record (base : SinoChatMessageBase) (kind body : JsString) (value : Json) :
    List (JsString × Json) :=
  [(js "protocolVersion", .str sinoChatMessageProtocolVersion),
    (js "conversationId", .str base.conversationId), (js "roomId", .str base.roomId),
    (js "clientMessageId", .str base.clientMessageId),
    (js "senderUserId", .str base.senderUserId),
    (js "senderDeviceId", .str base.senderDeviceId), (js "kind", .str kind), (body, value)]

/-- A well-formed common part is read from its record. -/
theorem IsBase.parse {base : SinoChatMessageBase} (h : IsBase urlHost base)
    (kind body : JsString) (value : Json) :
    parseBase urlHost (base.record kind body value) = .ok base := by
  refine bind_eq_ok.mpr ⟨_, uuid_of_isUuid h.conversationId h.conversationId.2,
    bind_eq_ok.mpr ⟨_, h.roomId _,
    bind_eq_ok.mpr ⟨_, uuid_of_isUuid h.clientMessageId h.clientMessageId.2,
    bind_eq_ok.mpr ⟨_, uuid_of_isUuid h.senderUserId h.senderUserId.2,
    bind_eq_ok.mpr ⟨_, uuid_of_isUuid h.senderDeviceId h.senderDeviceId.2, rfl⟩⟩⟩⟩⟩

/-- What the parsers return: a base, and a text or an image in its bounds. -/
inductive IsContent (round : JsString → JsNumber) (urlHost : JsString → Bool) :
    SinoChatMessageContent → Prop
  | text {base : SinoChatMessageBase} {text : JsString} : IsBase urlHost base →
      (1 ≤ text.length && text.length ≤ sinoChatMaxTextLength && (trim text).length ≠ 0 &&
        isWellFormedUnicode text) = true → IsContent round urlHost (.text base text)
  | image {base : SinoChatMessageBase} {image : SinoChatImageMetadata} : IsBase urlHost base →
      IsImage round image → IsContent round urlHost (.image base image)

/-- **A text that is read** is an object of exactly its fields. -/
theorem parseTextContent_eq_ok {value : Json} {content : SinoChatMessageContent}
    (h : parseTextContent urlHost value = .ok content) :
    ∃ base text record, content = .text base text ∧ value = .obj record ∧
      IsContent round urlHost content ∧ parseBase urlHost record = .ok base ∧
      Json.get? (js "text") record = some (.str text) := by
  obtain ⟨record, hrecord, h⟩ := bind_eq_ok.mp h
  obtain ⟨_, -, h⟩ := bind_eq_ok.mp h
  obtain ⟨_, -, h⟩ := bind_eq_ok.mp h
  obtain ⟨text, htext, h⟩ := bind_eq_ok.mp h
  obtain ⟨_, hform, h⟩ := bind_eq_ok.mp h
  obtain ⟨base, hbase, h⟩ := bind_eq_ok.mp h
  cases h
  rw [require_eq_ok] at hform
  refine ⟨base, text, record, rfl, ?_, .text (parseBase_eq_ok hbase).1 hform, hbase, ?_⟩
  · have hvalue := orThrow_eq_ok.mp hrecord
    cases value <;> simp [Json.record?] at hvalue
    rw [hvalue]
  · obtain ⟨v, hv, hstr⟩ := Option.bind_eq_some_iff.mp (orThrow_eq_ok.mp htext)
    cases v <;> simp [Json.str?] at hstr
    rw [hv, hstr]

/-- **An image that is read** is an object of exactly its fields. -/
theorem parseImageContent_eq_ok {value : Json} {content : SinoChatMessageContent}
    (h : parseImageContent round urlHost value = .ok content) :
    ∃ base image record, content = .image base image ∧ value = .obj record ∧
      IsContent round urlHost content ∧ parseBase urlHost record = .ok base ∧
      parseImageMetadata round (Json.get? (js "image") record) = .ok image := by
  obtain ⟨record, hrecord, h⟩ := bind_eq_ok.mp h
  obtain ⟨_, -, h⟩ := bind_eq_ok.mp h
  obtain ⟨_, -, h⟩ := bind_eq_ok.mp h
  obtain ⟨_, -, h⟩ := bind_eq_ok.mp h
  obtain ⟨image, himage, h⟩ := bind_eq_ok.mp h
  obtain ⟨base, hbase, h⟩ := bind_eq_ok.mp h
  cases h
  refine ⟨base, image, record, rfl, ?_,
    .image (parseBase_eq_ok hbase).1 (parseImageMetadata_eq_ok himage).1, hbase, himage⟩
  have hvalue := orThrow_eq_ok.mp hrecord
  cases value <;> simp [Json.record?] at hvalue
  rw [hvalue]

/-- The parser that goes with the kind of a content. -/
def parseContent (round : JsString → JsNumber) (urlHost : JsString → Bool)
    (content : SinoChatMessageContent) (value : Json) : Except ErrorCode SinoChatMessageContent :=
  match content with
  | .text .. => parseTextContent urlHost value
  | .image .. => parseImageContent round urlHost value

/-- **What was read is read again, unchanged.** -/
theorem IsContent.parse {content : SinoChatMessageContent} (h : IsContent round urlHost content) :
    parseContent round urlHost content content.toJson = .ok content := by
  cases h with
  | @text base text hbase hform =>
    refine bind_eq_ok.mpr ⟨base.record (js "TEXT") (js "text") (.str text), rfl,
      bind_eq_ok.mpr ⟨(), rfl, bind_eq_ok.mpr ⟨(), rfl, bind_eq_ok.mpr ⟨text, rfl,
      bind_eq_ok.mpr ⟨(), require_eq_ok.mpr hform,
      bind_eq_ok.mpr ⟨base, hbase.parse _ _ _, rfl⟩⟩⟩⟩⟩⟩
  | @image base image hbase himage =>
    refine bind_eq_ok.mpr ⟨base.record (js "IMAGE") (js "image") image.toJson, rfl,
      bind_eq_ok.mpr ⟨(), rfl, bind_eq_ok.mpr ⟨(), rfl,
      bind_eq_ok.mpr ⟨_, uuid_of_isUuid hbase.conversationId hbase.conversationId.2,
      bind_eq_ok.mpr ⟨image, himage.parse, bind_eq_ok.mpr ⟨base, hbase.parse _ _ _, rfl⟩⟩⟩⟩⟩⟩

/-! ## Serialisation -/

/-- The encryption info has distinct keys throughout. -/
theorem own_media (info : MatrixV2MediaEncryptionInfo) : info.toJson.own = info.toJson := by
  have hops : info.keyOps.toJson.own = info.keyOps.toJson := by
    cases info.keyOps <;> rfl
  have hkey : (Json.obj [(js "kty", .str (js "oct")), (js "key_ops", info.keyOps.toJson),
      (js "alg", .str (js "A256CTR")), (js "k", .str info.k), (js "ext", .bool true)]).own =
      .obj [(js "kty", .str (js "oct")), (js "key_ops", info.keyOps.toJson),
        (js "alg", .str (js "A256CTR")), (js "k", .str info.k), (js "ext", .bool true)] := by
    refine own_obj rfl rfl ?_
    simp only [ownEntries, hops]
    rfl
  have hhashes : (Json.obj [(js "sha256", .str info.sha256)]).own =
      .obj [(js "sha256", .str info.sha256)] := own_obj rfl rfl rfl
  refine own_obj rfl rfl ?_
  simp only [ownEntries, hkey, hhashes]
  rfl

/-- So has the metadata of an image. -/
theorem own_image (image : SinoChatImageMetadata) : image.toJson.own = image.toJson := by
  refine own_obj rfl rfl ?_
  simp only [ownEntries, own_media]
  rfl

/-- So has a content. -/
theorem own_content (content : SinoChatMessageContent) :
    content.toJson.own = content.toJson := by
  cases content with
  | text base text => exact own_obj rfl rfl rfl
  | image base image =>
    refine own_obj rfl rfl ?_
    simp only [ownEntries, own_image]
    rfl

/-- Every number of a content is safe. -/
theorem IsContent.safe {content : SinoChatMessageContent} (h : IsContent round urlHost content) :
    content.toJson.Safe := by
  cases h with
  | text => exact ⟨trivial, trivial, trivial, trivial, trivial, trivial, trivial, trivial, trivial⟩
  | @image base image hbase himage =>
    have hops : image.mediaEncryptionInfo.keyOps.toJson.Safe := by
      cases image.mediaEncryptionInfo.keyOps <;> exact ⟨trivial, trivial, trivial⟩
    have hmedia : image.mediaEncryptionInfo.toJson.Safe :=
      ⟨trivial, ⟨trivial, hops, trivial, trivial, trivial, trivial⟩, trivial,
        ⟨trivial, trivial⟩, trivial⟩
    have hmetadata : image.toJson.Safe :=
      ⟨trivial, himage.plaintext.1, himage.ciphertext.1, trivial, hmedia, trivial⟩
    exact ⟨trivial, trivial, trivial, trivial, trivial, trivial, trivial, hmetadata, trivial⟩

/-- **A content survives serialisation.** -/
theorem IsContent.parseJson_toJson {content : SinoChatMessageContent}
    (h : IsContent round urlHost content) :
    parseJson round (stringify content.toJson) = some content.toJson := by
  rw [parseJson, readText_stringify h.safe, Option.map_some, own_content]

end MessageContent

end SinoChat
