import SinoChat.Client.MessageContent

/-!
# What the decoder accepts

A binding agrees with a content when it spells the same fields (`Agrees`), and
the decoder's comparison is that relation (`assertSinoChatMessageBinding_eq_ok`).
An encoder returns the fields of its input, normalised (`Carries`), and a content
the decoder returned is encoded to itself (`encode_toInput`).
-/

namespace SinoChat

open Js

namespace MessageContent

variable {round : JsString → JsNumber} {urlHost : JsString → Bool}

/-! ## Bindings -/

/-- An attachment with the fields of an image, and none beside a text. -/
inductive AttachmentAgrees :
    SinoChatMessageContent → Option SinoChatAttachmentTransportMetadata → Prop
  | text {base : SinoChatMessageBase} {text : JsString} : AttachmentAgrees (.text base text) none
  | image {base : SinoChatMessageBase} {image : SinoChatImageMetadata}
      {attachment : SinoChatAttachmentTransportMetadata} :
      attachment.declaredMimeType = image.declaredMimeType.text →
      attachment.plaintextByteSize = .integer image.plaintextByteSize →
      attachment.ciphertextByteSize = .integer image.ciphertextByteSize →
      attachment.cipherSuite = sinoChatAttachmentCipherSuite →
      toLowerCase attachment.ciphertextSha256 = image.ciphertextSha256 →
      AttachmentAgrees (.image base image) (some attachment)

/-- A binding that spells the fields of a content, ids and hashes in whatever case. -/
structure Agrees (content : SinoChatMessageContent)
    (binding : SinoChatMessageTransportBinding) : Prop where
  conversationId : toLowerCase binding.conversationId = content.base.conversationId
  roomId : binding.roomId = content.base.roomId
  clientMessageId : toLowerCase binding.clientMessageId = content.base.clientMessageId
  senderUserId : toLowerCase binding.senderUserId = content.base.senderUserId
  senderDeviceId : toLowerCase binding.senderDeviceId = content.base.senderDeviceId
  kind : binding.kind = content.kind
  protocolVersion : binding.protocolVersion = sinoChatMessageProtocolVersion
  cipherSuite : binding.cipherSuite = sinoChatMessageCipherSuite
  attachment : AttachmentAgrees content binding.attachment

theorem IsContent.isBase {content : SinoChatMessageContent} (h : IsContent round urlHost content) :
    IsBase urlHost content.base := by
  cases h with
  | text hbase _ => exact hbase
  | image hbase _ => exact hbase

/-- **The comparison of the attachment.** -/
theorem assertAttachmentBinding_eq_ok {content : SinoChatMessageContent}
    {attachment : Option SinoChatAttachmentTransportMetadata} {u : Unit}
    (h : IsContent round urlHost content) :
    assertAttachmentBinding content attachment = .ok u ↔ AttachmentAgrees content attachment := by
  cases h with
  | text =>
    rw [assertAttachmentBinding, require_eq_ok, Option.isNone_iff_eq_none]
    constructor
    · rintro rfl
      exact .text
    · rintro ⟨⟩
      rfl
  | @image base image hbase himage =>
    constructor
    · intro hassert
      obtain ⟨found, hfound, hassert⟩ := bind_eq_ok.mp hassert
      obtain ⟨_, hfields, hassert⟩ := bind_eq_ok.mp hassert
      obtain ⟨hash, hhash, hassert⟩ := bind_eq_ok.mp hassert
      rw [require_eq_ok] at hfields hassert
      simp only [Bool.and_eq_true, decide_eq_true_eq] at hfields hassert
      obtain ⟨⟨⟨hmime, hplain⟩, hcipher⟩, hsuite⟩ := hfields
      obtain ⟨-, text, htext, hlower⟩ := normalizeHexSha256_eq_ok hhash
      cases htext
      rw [orThrow_eq_ok.mp hfound]
      exact .image hmime hplain hcipher hsuite (hlower.trans hassert)
    · rintro (- | ⟨hmime, hplain, hcipher, hsuite, hhash⟩)
      refine bind_eq_ok.mpr ⟨_, rfl, bind_eq_ok.mpr ⟨(), require_eq_ok.mpr ?_,
        bind_eq_ok.mpr ⟨_, normalizeHexSha256_of_isHash himage.hash hhash,
        require_eq_ok.mpr (decide_eq_true rfl)⟩⟩⟩
      simp only [Bool.and_eq_true, decide_eq_true_eq]
      exact ⟨⟨⟨hmime, hplain⟩, hcipher⟩, hsuite⟩

/-- **The comparison accepts the bindings that agree.** -/
theorem assertSinoChatMessageBinding_eq_ok {content : SinoChatMessageContent}
    {binding : SinoChatMessageTransportBinding} {u : Unit} (h : IsContent round urlHost content) :
    assertSinoChatMessageBinding urlHost content binding = .ok u ↔ Agrees content binding := by
  have hbase := h.isBase
  constructor
  · intro hassert
    obtain ⟨conversationId, hconversation, hassert⟩ := bind_eq_ok.mp hassert
    obtain ⟨roomId, hroom, hassert⟩ := bind_eq_ok.mp hassert
    obtain ⟨clientMessageId, hmessage, hassert⟩ := bind_eq_ok.mp hassert
    obtain ⟨senderDeviceId, hdevice, hassert⟩ := bind_eq_ok.mp hassert
    obtain ⟨senderUserId, huser, hassert⟩ := bind_eq_ok.mp hassert
    obtain ⟨_, hfields, hattachment⟩ := bind_eq_ok.mp hassert
    rw [require_eq_ok] at hfields
    simp only [Bool.and_eq_true, decide_eq_true_eq] at hfields
    obtain ⟨⟨⟨⟨⟨⟨⟨hkind, hversion⟩, hsuite⟩, rfl⟩, rfl⟩, rfl⟩, rfl⟩, rfl⟩ := hfields
    obtain ⟨-, text₁, htext₁, hconversation⟩ := uuid_eq_ok hconversation
    obtain ⟨-, hroom⟩ := matrixRoomId_eq_ok hroom
    obtain ⟨-, text₂, htext₂, hmessage⟩ := uuid_eq_ok hmessage
    obtain ⟨-, text₃, htext₃, hdevice⟩ := uuid_eq_ok hdevice
    obtain ⟨-, text₄, htext₄, huser⟩ := uuid_eq_ok huser
    cases htext₁
    cases htext₂
    cases htext₃
    cases htext₄
    simp only [Option.some.injEq, Json.str.injEq] at hroom
    exact ⟨hconversation, hroom, hmessage, huser, hdevice, hkind, hversion, hsuite,
      (assertAttachmentBinding_eq_ok h).mp hattachment⟩
  · intro hagrees
    have hroom : matrixRoomId urlHost (some (.str binding.roomId)) content.base.conversationId
        "SINOCHAT_MESSAGE_BINDING_MISMATCH" = .ok content.base.roomId := by
      rw [hagrees.roomId]
      exact hbase.roomId _
    refine bind_eq_ok.mpr ⟨_, uuid_of_isUuid hbase.conversationId hagrees.conversationId,
      bind_eq_ok.mpr ⟨_, hroom,
      bind_eq_ok.mpr ⟨_, uuid_of_isUuid hbase.clientMessageId hagrees.clientMessageId,
      bind_eq_ok.mpr ⟨_, uuid_of_isUuid hbase.senderDeviceId hagrees.senderDeviceId,
      bind_eq_ok.mpr ⟨_, uuid_of_isUuid hbase.senderUserId hagrees.senderUserId,
      bind_eq_ok.mpr ⟨(), require_eq_ok.mpr ?_,
      (assertAttachmentBinding_eq_ok h).mpr hagrees.attachment⟩⟩⟩⟩⟩⟩
    simp only [Bool.and_eq_true, decide_eq_true_eq]
    exact ⟨⟨⟨⟨⟨⟨⟨hagrees.kind, hagrees.protocolVersion⟩, hagrees.cipherSuite⟩, trivial⟩, trivial⟩,
      trivial⟩, trivial⟩, trivial⟩

/-- The binding that spells a content as it is. -/
def SinoChatMessageContent.toBinding (content : SinoChatMessageContent) :
    SinoChatMessageTransportBinding :=
  { conversationId := content.base.conversationId
    roomId := content.base.roomId
    clientMessageId := content.base.clientMessageId
    senderUserId := content.base.senderUserId
    senderDeviceId := content.base.senderDeviceId
    kind := content.kind
    protocolVersion := sinoChatMessageProtocolVersion
    cipherSuite := sinoChatMessageCipherSuite
    attachment := match content with
      | .text .. => none
      | .image _ metadata => some
        { declaredMimeType := metadata.declaredMimeType.text
          plaintextByteSize := .integer metadata.plaintextByteSize
          ciphertextByteSize := .integer metadata.ciphertextByteSize
          ciphertextSha256 := metadata.ciphertextSha256
          cipherSuite := sinoChatAttachmentCipherSuite } }

theorem IsContent.agrees_toBinding {content : SinoChatMessageContent}
    (h : IsContent round urlHost content) : Agrees content content.toBinding := by
  have hbase := h.isBase
  refine ⟨hbase.conversationId.2, rfl, hbase.clientMessageId.2, hbase.senderUserId.2,
    hbase.senderDeviceId.2, rfl, rfl, rfl, ?_⟩
  cases h with
  | text => exact .text
  | image _ himage => exact .image rfl rfl rfl rfl himage.hash.2

/-! ## Decoding -/

/-- The decoder reads the content and compares it. -/
theorem decode_toJson {content : SinoChatMessageContent}
    {binding : SinoChatMessageTransportBinding} (h : IsContent round urlHost content) :
    decodeSinoChatMessageContent round urlHost (.str sinoChatMessageEventType) content.toJson
      binding = (assertSinoChatMessageBinding urlHost content binding).map fun _ => content := by
  have hparse := h.parse
  cases h with
  | @text base text =>
    have hdecode : decodeSinoChatMessageContent round urlHost (.str sinoChatMessageEventType)
        (SinoChatMessageContent.text base text).toJson binding =
        (parseTextContent urlHost (SinoChatMessageContent.text base text).toJson).bind
          fun parsed => (assertSinoChatMessageBinding urlHost parsed binding).bind
            fun _ => .ok parsed := rfl
    rw [hdecode, show parseTextContent urlHost _ = _ from hparse]
    cases hassert : assertSinoChatMessageBinding urlHost (.text base text) binding with
    | ok u => simp [Except.bind, Except.map, hassert]
    | error code => simp [Except.bind, Except.map, hassert]
  | @image base image =>
    have hdecode : decodeSinoChatMessageContent round urlHost (.str sinoChatMessageEventType)
        (SinoChatMessageContent.image base image).toJson binding =
        (parseImageContent round urlHost (SinoChatMessageContent.image base image).toJson).bind
          fun parsed => (assertSinoChatMessageBinding urlHost parsed binding).bind
            fun _ => .ok parsed := rfl
    rw [hdecode, show parseImageContent round urlHost _ = _ from hparse]
    cases hassert : assertSinoChatMessageBinding urlHost (.image base image) binding with
    | ok u => simp [Except.bind, Except.map, hassert]
    | error code => simp [Except.bind, Except.map, hassert]

/-- **A binding that agrees gives the content back.** -/
theorem decode_of_agrees {content : SinoChatMessageContent}
    {binding : SinoChatMessageTransportBinding} (h : IsContent round urlHost content)
    (hagrees : Agrees content binding) :
    decodeSinoChatMessageContent round urlHost (.str sinoChatMessageEventType) content.toJson
      binding = .ok content := by
  rw [decode_toJson h, (assertSinoChatMessageBinding_eq_ok (u := ()) h).mpr hagrees]
  rfl

/-- **Any other binding is refused.** -/
theorem decode_of_not_agrees {content : SinoChatMessageContent}
    {binding : SinoChatMessageTransportBinding} (h : IsContent round urlHost content)
    (hagrees : ¬ Agrees content binding) :
    ∃ code, decodeSinoChatMessageContent round urlHost (.str sinoChatMessageEventType)
      content.toJson binding = .error code := by
  rw [decode_toJson h]
  cases hassert : assertSinoChatMessageBinding urlHost content binding with
  | error code => exact ⟨code, rfl⟩
  | ok u => exact absurd ((assertSinoChatMessageBinding_eq_ok h).mp hassert) hagrees

/-- What the decoder returns is a content that agrees with the binding. -/
theorem decode_eq_ok {eventType value : Json} {content : SinoChatMessageContent}
    {binding : SinoChatMessageTransportBinding}
    (h : decodeSinoChatMessageContent round urlHost eventType value binding = .ok content) :
    IsContent round urlHost content ∧ Agrees content binding := by
  obtain ⟨_, -, h⟩ := bind_eq_ok.mp h
  obtain ⟨record, -, h⟩ := bind_eq_ok.mp h
  dsimp only at h
  have hread : ∃ parsed, IsContent round urlHost parsed ∧
      ((assertSinoChatMessageBinding urlHost parsed binding).bind fun _ => .ok parsed) =
        .ok content := by
    split_ifs at h with htext himage
    · obtain ⟨parsed, hparsed, h⟩ := bind_eq_ok.mp h
      obtain ⟨_, _, _, -, -, hcontent, -⟩ := @parseTextContent_eq_ok round _ _ _ hparsed
      exact ⟨parsed, hcontent, h⟩
    · obtain ⟨parsed, hparsed, h⟩ := bind_eq_ok.mp h
      obtain ⟨_, _, _, -, -, hcontent, -⟩ := parseImageContent_eq_ok hparsed
      exact ⟨parsed, hcontent, h⟩
    · cases h
  obtain ⟨parsed, hcontent, h⟩ := hread
  obtain ⟨u, hassert, h⟩ := bind_eq_ok.mp h
  cases h
  exact ⟨hcontent, (assertSinoChatMessageBinding_eq_ok hcontent).mp hassert⟩

/-! ## Encoding -/

/-- The encoder that goes with the kind of a content. -/
def encode (round : JsString → JsNumber) (urlHost : JsString → Bool)
    (content : SinoChatMessageContent) (input : Json) : Except ErrorCode EncodedSinoChatMessage :=
  match content with
  | .text .. => encodeSinoChatTextMessage urlHost input
  | .image .. => encodeSinoChatImageMessage round urlHost input

/-- The base of a content with the fields of an input, ids in lower case. -/
structure CarriesBase (record : List (JsString × Json)) (base : SinoChatMessageBase) : Prop where
  conversationId : Spells record (js "conversationId") base.conversationId
  roomId : Json.get? (js "roomId") record = some (.str base.roomId)
  clientMessageId : Spells record (js "clientMessageId") base.clientMessageId
  senderUserId : Spells record (js "senderUserId") base.senderUserId
  senderDeviceId : Spells record (js "senderDeviceId") base.senderDeviceId

/-- A content with the fields of an input, normalised. -/
inductive Carries (round : JsString → JsNumber) (record : List (JsString × Json)) :
    SinoChatMessageContent → Prop
  | text {base : SinoChatMessageBase} {text : JsString} : CarriesBase record base →
      Json.get? (js "text") record = some (.str text) → Carries round record (.text base text)
  | image {base : SinoChatMessageBase} {image : SinoChatImageMetadata} :
      CarriesBase record base →
      Json.get? (js "declaredMimeType") record = some (.str image.declaredMimeType.text) →
      Json.get? (js "plaintextByteSize") record = some (.num (.integer image.plaintextByteSize)) →
      Json.get? (js "ciphertextByteSize") record =
        some (.num (.integer image.ciphertextByteSize)) →
      Spells record (js "ciphertextSha256") image.ciphertextSha256 →
      parseMediaEncryptionInfo round (Json.get? (js "mediaEncryptionInfo") record) =
        .ok image.mediaEncryptionInfo →
      Carries round record (.image base image)

/-- A property that is not `null` is there. -/
theorem get?_of_field {record : List (JsString × Json)} {key : JsString} {value : Json}
    (h : field record key = value) (hvalue : value ≠ .null) : Json.get? key record = some value := by
  rw [field] at h
  cases hget : Json.get? key record with
  | none =>
    rw [hget, Option.getD_none] at h
    exact absurd h.symm hvalue
  | some found =>
    rw [hget, Option.getD_some] at h
    rw [h]

theorem spells_of_field {record : List (JsString × Json)} {key id : JsString}
    (h : ∃ text, some (field record key) = some (.str text) ∧ toLowerCase text = id) :
    Spells record key id := by
  obtain ⟨text, htext, hid⟩ := h
  exact ⟨text, get?_of_field (Option.some.inj htext) (by simp), hid⟩

/-- The base of the object an encoder hands to the parser is the base of its input. -/
theorem carriesBase_of_parseBase {record entries : List (JsString × Json)}
    {kind body : JsString} {value : Json} {base : SinoChatMessageBase}
    (hentries : inputJson record kind body value = .obj entries)
    (h : parseBase urlHost entries = .ok base) : CarriesBase record base := by
  cases hentries
  obtain ⟨-, hconversation, hroom, hmessage, huser, hdevice⟩ := parseBase_eq_ok h
  refine ⟨spells_of_field hconversation, ?_, spells_of_field hmessage, spells_of_field huser,
    spells_of_field hdevice⟩
  exact get?_of_field (Option.some.inj hroom) (by simp)

/-- **What the text encoder returns.** -/
theorem encodeSinoChatTextMessage_eq_ok {input : Json} {encoded : EncodedSinoChatMessage}
    (h : encodeSinoChatTextMessage urlHost input = .ok encoded) :
    encoded.eventType = sinoChatMessageEventType ∧ IsContent round urlHost encoded.content ∧
      ∃ record, input.record? = some record ∧ Carries round record encoded.content := by
  obtain ⟨record, hrecord, h⟩ := bind_eq_ok.mp h
  obtain ⟨_, -, h⟩ := bind_eq_ok.mp h
  obtain ⟨content, hcontent, h⟩ := bind_eq_ok.mp h
  cases h
  obtain ⟨base, text, entries, rfl, hentries, hform, hbase, htext⟩ :=
    @parseTextContent_eq_ok round _ _ _ hcontent
  refine ⟨rfl, hform, record, orThrow_eq_ok.mp hrecord,
    .text (carriesBase_of_parseBase hentries hbase) ?_⟩
  cases hentries
  exact get?_of_field (Option.some.inj htext) (by simp)

/-- **What the image encoder returns.** -/
theorem encodeSinoChatImageMessage_eq_ok {input : Json} {encoded : EncodedSinoChatMessage}
    (h : encodeSinoChatImageMessage round urlHost input = .ok encoded) :
    encoded.eventType = sinoChatMessageEventType ∧ IsContent round urlHost encoded.content ∧
      ∃ record, input.record? = some record ∧ Carries round record encoded.content := by
  obtain ⟨record, hrecord, h⟩ := bind_eq_ok.mp h
  obtain ⟨_, -, h⟩ := bind_eq_ok.mp h
  obtain ⟨hash, hhash, h⟩ := bind_eq_ok.mp h
  obtain ⟨media, hmedia, h⟩ := bind_eq_ok.mp h
  obtain ⟨content, hcontent, h⟩ := bind_eq_ok.mp h
  cases h
  obtain ⟨base, image, entries, rfl, hentries, hform, hbase, himage⟩ :=
    parseImageContent_eq_ok hcontent
  refine ⟨rfl, hform, record, orThrow_eq_ok.mp hrecord, ?_⟩
  have hcarries := carriesBase_of_parseBase hentries hbase
  cases hentries
  obtain ⟨-, metadata, hmetadata, hmime, hplain, hcipher, hspells, hread⟩ :=
    parseImageMetadata_eq_ok himage
  cases hmetadata
  obtain ⟨hform, text, htext, hlower⟩ := normalizeHexSha256_eq_ok hhash
  obtain ⟨written, hwritten, hdigest⟩ := hspells
  cases hwritten
  have hinfo : image.mediaEncryptionInfo = media :=
    Except.ok.inj (hread.symm.trans (isMedia_of_parse hmedia))
  refine .image hcarries (get?_of_field (Option.some.inj hmime) (by simp))
    (get?_of_field (Option.some.inj hplain) (by simp))
    (get?_of_field (Option.some.inj hcipher) (by simp)) ⟨text, htext, ?_⟩ (hinfo ▸ hmedia)
  rw [hlower, ← hdigest, hform.2]

/-- The properties of the input that says what a content says. -/
def SinoChatMessageContent.inputRecord : SinoChatMessageContent → List (JsString × Json)
  | .text base body =>
    [(js "conversationId", .str base.conversationId), (js "roomId", .str base.roomId),
      (js "clientMessageId", .str base.clientMessageId),
      (js "senderUserId", .str base.senderUserId),
      (js "senderDeviceId", .str base.senderDeviceId), (js "text", .str body)]
  | .image base metadata =>
    [(js "conversationId", .str base.conversationId), (js "roomId", .str base.roomId),
      (js "clientMessageId", .str base.clientMessageId),
      (js "senderUserId", .str base.senderUserId),
      (js "senderDeviceId", .str base.senderDeviceId),
      (js "declaredMimeType", .str metadata.declaredMimeType.text),
      (js "plaintextByteSize", .num (.integer metadata.plaintextByteSize)),
      (js "ciphertextByteSize", .num (.integer metadata.ciphertextByteSize)),
      (js "ciphertextSha256", .str metadata.ciphertextSha256),
      (js "mediaEncryptionInfo", metadata.mediaEncryptionInfo.toJson)]

/-- The input that encodes to the content. -/
def SinoChatMessageContent.toInput (content : SinoChatMessageContent) : Json :=
  .obj content.inputRecord

/-- **A content is encoded to itself.** -/
theorem encode_toInput {content : SinoChatMessageContent} (h : IsContent round urlHost content) :
    encode round urlHost content content.toInput = .ok ⟨sinoChatMessageEventType, content⟩ := by
  have hparse := h.parse
  cases h with
  | @text base text hbase hform =>
    exact bind_eq_ok.mpr ⟨(SinoChatMessageContent.text base text).inputRecord, rfl,
      bind_eq_ok.mpr ⟨(), rfl, bind_eq_ok.mpr ⟨_, hparse, rfl⟩⟩⟩
  | @image base image hbase himage =>
    refine bind_eq_ok.mpr ⟨(SinoChatMessageContent.image base image).inputRecord, rfl,
      bind_eq_ok.mpr ⟨(), rfl,
      bind_eq_ok.mpr ⟨_, normalizeHexSha256_of_isHash himage.hash himage.hash.2,
      bind_eq_ok.mpr ⟨_, himage.media, bind_eq_ok.mpr ⟨_, hparse, rfl⟩⟩⟩⟩⟩

/-- **The encoders and the decoder agree on every content.** What an encoder
returns carries the fields of its input, survives serialisation, and is given
back for the bindings that agree with it, its own for one, and refused for the
others; what the decoder returns is encoded to an object it gives back again. -/
theorem message_content_round_trip (round : JsString → JsNumber) (urlHost : JsString → Bool) :
    (∀ (input : Json) (encoded : EncodedSinoChatMessage),
      encodeSinoChatTextMessage urlHost input = .ok encoded ∨
        encodeSinoChatImageMessage round urlHost input = .ok encoded →
      (∃ record, input.record? = some record ∧ Carries round record encoded.content) ∧
      parseJson round (stringify encoded.content.toJson) = some encoded.content.toJson ∧
      Agrees encoded.content encoded.content.toBinding ∧
      ∀ binding : SinoChatMessageTransportBinding,
        (Agrees encoded.content binding →
          decodeSinoChatMessageContent round urlHost (.str encoded.eventType)
            encoded.content.toJson binding = .ok encoded.content) ∧
        (¬ Agrees encoded.content binding →
          ∃ code, decodeSinoChatMessageContent round urlHost (.str encoded.eventType)
            encoded.content.toJson binding = .error code)) ∧
    (∀ (eventType value : Json) (binding : SinoChatMessageTransportBinding)
      (content : SinoChatMessageContent),
      decodeSinoChatMessageContent round urlHost eventType value binding = .ok content →
      ∃ encoded, encode round urlHost content content.toInput = .ok encoded ∧
        parseJson round (stringify encoded.content.toJson) = some encoded.content.toJson ∧
        decodeSinoChatMessageContent round urlHost (.str encoded.eventType)
          encoded.content.toJson binding = .ok content) := by
  refine ⟨fun input encoded h => ?_, fun eventType value binding content h => ?_⟩
  · have hencoded : encoded.eventType = sinoChatMessageEventType ∧
        IsContent round urlHost encoded.content ∧
        ∃ record, input.record? = some record ∧ Carries round record encoded.content := by
      rcases h with htext | himage
      · exact encodeSinoChatTextMessage_eq_ok htext
      · exact encodeSinoChatImageMessage_eq_ok himage
    obtain ⟨htype, hcontent, hcarries⟩ := hencoded
    rw [htype]
    exact ⟨hcarries, hcontent.parseJson_toJson, hcontent.agrees_toBinding, fun binding =>
      ⟨decode_of_agrees hcontent, decode_of_not_agrees hcontent⟩⟩
  · obtain ⟨hcontent, hagrees⟩ := decode_eq_ok h
    exact ⟨_, encode_toInput hcontent, hcontent.parseJson_toJson,
      decode_of_agrees hcontent hagrees⟩

/-- A greeting, with its ids partly in upper case. -/
def greeting : Json :=
  .obj [(js "conversationId", .str (js "A0000000-0000-4000-8000-000000000001")),
    (js "roomId", .str (js "!ca0000000000040008000000000000001:matrix.example.org")),
    (js "clientMessageId", .str (js "b0000000-0000-4000-8000-000000000002")),
    (js "senderUserId", .str (js "c0000000-0000-4000-8000-000000000003")),
    (js "senderDeviceId", .str (js "d0000000-0000-4000-8000-000000000004")),
    (js "text", .str (js "Hello"))]

/-- A short text. -/
def greetingContent : SinoChatMessageContent :=
  .text { conversationId := js "a0000000-0000-4000-8000-000000000001"
          roomId := js "!ca0000000000040008000000000000001:matrix.example.org"
          clientMessageId := js "b0000000-0000-4000-8000-000000000002"
          senderUserId := js "c0000000-0000-4000-8000-000000000003"
          senderDeviceId := js "d0000000-0000-4000-8000-000000000004" } (js "Hello")

theorem message_content_round_trip_greeting :
    decodeSinoChatMessageContent (fun _ => .integer 0) (fun _ => true)
      (.str sinoChatMessageEventType) greetingContent.toJson greetingContent.toBinding =
        .ok greetingContent := by
  have hencode : encodeSinoChatTextMessage (fun _ => true) greeting =
      .ok ⟨sinoChatMessageEventType, greetingContent⟩ := by
    rfl
  obtain ⟨-, -, hagrees, hdecode⟩ := (message_content_round_trip (fun _ => .integer 0)
    (fun _ => true)).1 greeting ⟨sinoChatMessageEventType, greetingContent⟩ (.inl hencode)
  exact (hdecode greetingContent.toBinding).1 hagrees

end MessageContent

end SinoChat
