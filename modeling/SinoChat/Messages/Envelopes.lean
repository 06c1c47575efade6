import SinoChat.Client.Sendable
import SinoChat.CrossSigning.SignedObjects
import SinoChat.Model.Envelopes

/-!
# What `assertCompleteEnvelopes` accepts

The loop compares the recipients with a set of those it has seen and at the end
the sizes of two sets. Together these say that the recipients are a permutation
of the active devices (`Complete.recipients`): a recipient named twice cannot make
up for a device left out. What a ciphertext has to spell out is stated on its
bytes (`Encrypts`), without the decoders of the source; the bound on the length
of the content follows from the one on the bytes.
-/

namespace SinoChat

open Js MessagePayload CrossSigning

namespace Messaging

namespace Envelopes

variable {round : JsString → JsNumber}
variable {signedGrant : JsString → Except HttpException UploadGrant}

/-! ## Ciphertexts -/

/-- The members of the object of a content. -/
def contentMembers (content : MatrixMegolmRoomContent) : List (JsString × Json) :=
  [(js "algorithm", .str content.algorithm), (js "ciphertext", .str content.ciphertext),
    (js "device_id", .str content.deviceId), (js "sender_key", .str content.senderKey),
    (js "session_id", .str content.sessionId)]

theorem contentMembers_nodup (content : MatrixMegolmRoomContent) :
    ((contentMembers content).map Prod.fst).Nodup := by
  show contentKeys.Nodup
  decide

/-- **A Megolm room content**: its algorithm, a device id, two keys of 32 bytes and
a ciphertext of at least 16. -/
structure IsContent (content : MatrixMegolmRoomContent) : Prop where
  algorithm : content.algorithm = matrixMegolmAlgorithm
  deviceId : isMatrixDeviceId content.deviceId = true
  senderKey : IsBase64Of 32 content.senderKey
  sessionId : IsBase64Of 32 content.sessionId
  ciphertext : ∃ n, 16 ≤ n ∧ IsBase64Of n content.ciphertext

/-- **The ciphertext of a content**: the padded base64 of bytes within the bounds,
which are the JSON text of the content's object. -/
def Encrypts (round : JsString → JsNumber) (ciphertext : JsString)
    (content : MatrixMegolmRoomContent) : Prop :=
  ∃ bytes text value, toBase64 bytes = ciphertext ∧
    16 ≤ bytes.length ∧ bytes.length ≤ maxEnvelopeBytes ∧
    textDecoder bytes = some text ∧ parseJson round text = some value ∧
    Same value (.obj (contentMembers content)) ∧ IsContent content

/-- The unpadded texts that the API takes. -/
theorem isCanonicalUnpaddedBase64_iff {value : JsString} {expectedBytes : Option ℕ}
    {minimumBytes : ℕ} (hmin : 0 < minimumBytes) :
    isCanonicalUnpaddedBase64 (apiDecoders round signedGrant) value expectedBytes minimumBytes =
        true ↔
      ∃ n, minimumBytes ≤ n ∧ (∀ m, expectedBytes = some m → n = m) ∧ IsBase64Of n value := by
  constructor
  · intro h
    obtain ⟨-, h⟩ := Bool.and_eq_true_iff.mp h
    simp only [Bool.and_eq_true, decide_eq_true_eq] at h
    obtain ⟨⟨hbytes, hexpected⟩, hvalue⟩ := h
    refine ⟨_, hbytes, fun m hm => ?_, _, rfl, hvalue⟩
    rw [hm] at hexpected
    simpa using hexpected
  · rintro ⟨n, hn, hexpected, bytes, rfl, rfl⟩
    have hall := all_isBase64_unpadded bytes
    have hmod : (unpadded (toBase64 bytes)).length % 4 ≠ 1 := by
      rw [unpadded_toBase64, List.length_map]
      exact (length_sextetsOf_mod bytes).1
    have hne : unpadded (toBase64 bytes) ≠ [] := by
      intro hnil
      have hlength := length_unpadded bytes
      rw [hnil, List.length_nil] at hlength
      omega
    have hdecoded : (apiDecoders round signedGrant).bytes (unpadded (toBase64 bytes)) = bytes :=
      bufferFromBase64_unpadded bytes
    have hsize : expectedBytes.all (bytes.length = ·) = true := by
      cases expectedBytes with
      | none => rfl
      | some m => simpa using hexpected m rfl
    simp only [isCanonicalUnpaddedBase64, hdecoded, hall, hsize, hn, decide_true, Bool.and_true]
    simp [hne, hmod]

/-- Members that carry a content are those of its object. -/
theorem carries_iff {entries : List (JsString × Json)} {content : MatrixMegolmRoomContent} :
    Json.exactKeys entries contentKeys = true ∧ Carries entries content ↔
      Same (.obj entries) (.obj (contentMembers content)) ∧ IsContent content := by
  -- A text is base64 with a bound exactly when it is base64 of a length within it.
  have hbase : ∀ {value : JsString} {expectedBytes : Option ℕ} {minimumBytes : ℕ},
      0 < minimumBytes →
      ((decodeCanonicalUnpaddedBase64 value expectedBytes minimumBytes).isSome = true ↔
        ∃ n, minimumBytes ≤ n ∧ (∀ m, expectedBytes = some m → n = m) ∧ IsBase64Of n value) :=
    fun hmin => (isSome_decodeCanonicalUnpaddedBase64 _ _ _).trans
      (@isCanonicalUnpaddedBase64_iff (fun _ => .negativeZero) (fun _ => .error (.internal ""))
        _ _ _ hmin)
  have hkey : ∀ {value : JsString},
      (∃ n, 1 ≤ n ∧ (∀ m, some 32 = some m → n = m) ∧ IsBase64Of n value) ↔
        IsBase64Of 32 value := by
    intro value
    constructor
    · rintro ⟨n, -, hn, hvalue⟩
      rwa [hn 32 rfl] at hvalue
    · intro hvalue
      exact ⟨32, by decide, fun m hm => Option.some.inj hm, hvalue⟩
  -- The object of the content is the five members, each a string.
  have hsame : Same (.obj entries) (.obj (contentMembers content)) ↔
      Json.exactKeys entries contentKeys = true ∧
        (Json.get? (js "algorithm") entries).bind Json.str? = some content.algorithm ∧
        (Json.get? (js "ciphertext") entries).bind Json.str? = some content.ciphertext ∧
        (Json.get? (js "device_id") entries).bind Json.str? = some content.deviceId ∧
        (Json.get? (js "sender_key") entries).bind Json.str? = some content.senderKey ∧
        (Json.get? (js "session_id") entries).bind Json.str? = some content.sessionId := by
    rw [same_obj_iff (contentMembers_nodup content)]
    simp only [str?_eq_some]
    constructor
    · rintro ⟨entries', hentries, hkeys, hmembers⟩
      obtain rfl := Json.obj.inj hentries
      have hmember : ∀ {key text : JsString}, (key, .str text) ∈ contentMembers content →
          Json.get? key entries = some (.str text) := by
        intro key text hmem
        obtain ⟨found, hfound, hvalue⟩ := hmembers _ hmem
        rwa [same_str_iff.mp hvalue] at hfound
      exact ⟨hkeys, hmember (by simp [contentMembers]), hmember (by simp [contentMembers]),
        hmember (by simp [contentMembers]), hmember (by simp [contentMembers]),
        hmember (by simp [contentMembers])⟩
    · rintro ⟨hkeys, h1, h2, h3, h4, h5⟩
      refine ⟨entries, rfl, hkeys, fun member hmember => ?_⟩
      simp only [contentMembers, List.mem_cons, List.not_mem_nil, or_false] at hmember
      rcases hmember with rfl | rfl | rfl | rfl | rfl
      · exact ⟨_, h1, same_str_iff.mpr rfl⟩
      · exact ⟨_, h2, same_str_iff.mpr rfl⟩
      · exact ⟨_, h3, same_str_iff.mpr rfl⟩
      · exact ⟨_, h4, same_str_iff.mpr rfl⟩
      · exact ⟨_, h5, same_str_iff.mpr rfl⟩
  rw [hsame]
  -- The checks of the two sides are then the same, one by one.
  constructor
  · rintro ⟨hkeys, h⟩
    refine ⟨⟨hkeys, h.algorithm, h.ciphertext, h.deviceId, h.senderKey, h.sessionId⟩,
      h.megolm, h.matrixDeviceId, hkey.mp ((hbase (by decide)).mp h.base64SenderKey),
      hkey.mp ((hbase (by decide)).mp h.base64SessionId), ?_⟩
    obtain ⟨n, hn, -, htext⟩ := (hbase (by decide)).mp h.base64Ciphertext
    exact ⟨n, hn, htext⟩
  · rintro ⟨⟨hkeys, h1, h2, h3, h4, h5⟩, h⟩
    obtain ⟨n, hn, htext⟩ := h.ciphertext
    exact ⟨hkeys, h1, h2, h3, h4, h5, h.algorithm, h.deviceId,
      (hbase (by decide)).mpr (hkey.mpr h.senderKey),
      (hbase (by decide)).mpr (hkey.mpr h.sessionId),
      (hbase (by decide)).mpr ⟨n, hn, by simp, htext⟩⟩

/-- **The check of a ciphertext is exact.** -/
theorem accepted_iff {ciphertext : JsString} {content : MatrixMegolmRoomContent} :
    Accepted (apiDecoders round signedGrant) ciphertext content ↔
      Encrypts round ciphertext content := by
  constructor
  · rintro ⟨⟨hmin, hmax⟩, hcanonical, h⟩
    obtain ⟨value, hvalue, hcontent⟩ := Option.bind_eq_some_iff.mp h
    obtain ⟨entries, rfl, hkeys, hcarries, -⟩ := parseMatrixMegolmRoomContent_eq_some.mp hcontent
    obtain ⟨text, htext, hparse⟩ := Option.bind_eq_some_iff.mp hvalue
    obtain ⟨hsame, hvalid⟩ := carries_iff.mp ⟨hkeys, hcarries⟩
    exact ⟨_, text, _, hcanonical, hmin, hmax, htext, hparse, hsame, hvalid⟩
  · rintro ⟨bytes, text, value, rfl, hmin, hmax, htext, hparse, hsame, hvalid⟩
    obtain ⟨entries, rfl, -⟩ := (same_obj_iff (contentMembers_nodup content)).mp hsame
    obtain ⟨hkeys, hcarries⟩ := carries_iff.mpr ⟨hsame, hvalid⟩
    have hbytes : (apiDecoders round signedGrant).bytes (toBase64 bytes) = bytes :=
      bufferFromBase64_toBase64 bytes
    have hread : (apiDecoders round signedGrant).json bytes = some (.obj entries) := by
      simp [apiDecoders, htext, hparse]
    have hlength := byteLength_content_le htext hparse hkeys hcarries
    rw [Accepted]
    simp only [hbytes]
    refine ⟨⟨hmin, hmax⟩, trivial, ?_⟩
    rw [hread, Option.bind_some]
    exact parseMatrixMegolmRoomContent_eq_some.mpr ⟨entries, rfl, hkeys, hcarries, by omega⟩

/-! ## The loop over the envelopes -/

/-- What is asked of an envelope by itself. -/
structure Fits (round : JsString → JsNumber) (sender : ActiveDevice)
    (expected : JsMap JsString ActiveDevice) (envelope : MessageEnvelopeDto) : Prop where
  recipient : ∃ device, expected.get? envelope.recipientDeviceId = some device ∧
    device.protocolVersion = matrixDeviceProtocolVersion
  protocolVersion : envelope.protocolVersion = matrixMessageProtocolVersion
  cipherSuite : envelope.cipherSuite = matrixMegolmAlgorithm
  content : ∃ content, Encrypts round envelope.ciphertext content ∧
    content.senderKey = sender.curve25519Key ∧ content.deviceId = sender.matrixDeviceId

theorem checkEnvelope_eq_ok {sender : ActiveDevice} {expected : JsMap JsString ActiveDevice}
    {received : List JsString} {canonicalCiphertext : Option JsString}
    {envelope : MessageEnvelopeDto} :
    checkEnvelope (apiDecoders round signedGrant) sender expected received canonicalCiphertext
        envelope = .ok () ↔
      envelope.recipientDeviceId ∉ received ∧
        (∀ ciphertext ∈ canonicalCiphertext, ciphertext = envelope.ciphertext) ∧
        Fits round sender expected envelope := by
  constructor
  · intro h
    obtain ⟨_, hfresh, h⟩ := bind_eq_ok.mp h
    obtain ⟨_, hfields, h⟩ := bind_eq_ok.mp h
    obtain ⟨_, hsize, h⟩ := bind_eq_ok.mp h
    obtain ⟨_, hcanonical, h⟩ := bind_eq_ok.mp h
    obtain ⟨_, hidentical, h⟩ := bind_eq_ok.mp h
    obtain ⟨content, hcontent, h⟩ := bind_eq_ok.mp h
    simp only [require_eq_ok, Bool.and_eq_true, decide_eq_true_eq, Option.any_eq_true]
      at hfields hsize hcanonical h
    obtain ⟨⟨⟨device, hdevice, hversion⟩, hprotocol⟩, hsuite⟩ := hfields
    refine ⟨by simpa using require_eq_ok.mp hfresh,
      by simpa [Option.all_eq_true] using require_eq_ok.mp hidentical,
      ⟨device, hdevice, hversion⟩, hprotocol, hsuite, content, ?_, h⟩
    exact accepted_iff.mp ⟨hsize, hcanonical, orThrow_eq_ok.mp hcontent⟩
  · rintro ⟨hfresh, hidentical, h⟩
    obtain ⟨device, hdevice, hversion⟩ := h.recipient
    obtain ⟨content, hencrypts, hkey, hid⟩ := h.content
    have haccepted : Accepted (apiDecoders round signedGrant) envelope.ciphertext content :=
      accepted_iff.mpr hencrypts
    obtain ⟨⟨hmin, hmax⟩, hcanonical, hcontent⟩ := haccepted
    refine bind_eq_ok.mpr ⟨(), require_eq_ok.mpr (by simpa using hfresh), ?_⟩
    refine bind_eq_ok.mpr ⟨(), require_eq_ok.mpr ?_, ?_⟩
    · simp [hdevice, hversion, h.protocolVersion, h.cipherSuite]
    refine bind_eq_ok.mpr ⟨(), require_eq_ok.mpr (by simp [hmin, hmax]), ?_⟩
    refine bind_eq_ok.mpr ⟨(), require_eq_ok.mpr (by simpa using hcanonical), ?_⟩
    refine bind_eq_ok.mpr ⟨(), require_eq_ok.mpr ?_, ?_⟩
    · simpa [Option.all_eq_true] using hidentical
    refine bind_eq_ok.mpr ⟨content, orThrow_eq_ok.mpr hcontent, require_eq_ok.mpr ?_⟩
    simp [hkey, hid]

/-- **The loop**: no recipient twice, one ciphertext, and every envelope fits. -/
theorem checkEnvelopes_eq_ok {sender : ActiveDevice} {expected : JsMap JsString ActiveDevice}
    {envelopes : List MessageEnvelopeDto} {received result : List JsString}
    {canonicalCiphertext : Option JsString} :
    checkEnvelopes (apiDecoders round signedGrant) sender expected envelopes received
        canonicalCiphertext = .ok result ↔
      result = (envelopes.map (·.recipientDeviceId)).reverse ++ received ∧
        (envelopes.map (·.recipientDeviceId)).Nodup ∧
        (∀ envelope ∈ envelopes, envelope.recipientDeviceId ∉ received) ∧
        (∃ ciphertext, (∀ first ∈ canonicalCiphertext, first = ciphertext) ∧
          ∀ envelope ∈ envelopes, envelope.ciphertext = ciphertext) ∧
        ∀ envelope ∈ envelopes, Fits round sender expected envelope := by
  induction envelopes generalizing received canonicalCiphertext with
  | nil =>
    have hfirst : ∃ ciphertext, ∀ first ∈ canonicalCiphertext, first = ciphertext := by
      cases canonicalCiphertext with
      | none => exact ⟨[], by simp⟩
      | some first => exact ⟨first, by simp⟩
    rw [checkEnvelopes, Except.ok.injEq]
    simpa [eq_comm] using fun _ : received = result => hfirst
  | cons envelope rest ih =>
    rw [checkEnvelopes, bind_eq_ok]
    simp only [ih, List.map_cons, List.reverse_cons, List.append_assoc,
      List.singleton_append, List.nodup_cons, List.forall_mem_cons, List.mem_map]
    constructor
    · rintro ⟨_, hcheck, hresult, hnodup, hreceived, ⟨ciphertext, hfirst, hrest⟩, hall⟩
      obtain ⟨hfresh, hidentical, hfits⟩ := checkEnvelope_eq_ok.mp hcheck
      obtain rfl := hfirst _ rfl
      refine ⟨hresult, ⟨?_, hnodup⟩, ⟨hfresh, fun e he hmem => ?_⟩,
        ⟨_, hidentical, rfl, hrest⟩, hfits, hall⟩
      · rintro ⟨e, he, heq⟩
        exact hreceived e he (heq ▸ List.mem_cons_self)
      · exact hreceived e he (List.mem_cons_of_mem _ hmem)
    · rintro ⟨hresult, ⟨hnew, hnodup⟩, ⟨hfresh, hreceived⟩, ⟨ciphertext, hidentical, rfl, hrest⟩,
        hfits, hall⟩
      refine ⟨(), checkEnvelope_eq_ok.mpr ⟨hfresh, hidentical, hfits⟩, hresult, hnodup, fun e he hmem => ?_,
        ⟨_, by simp, hrest⟩, hall⟩
      rcases List.mem_cons.mp hmem with heq | hmem
      · exact hnew ⟨e, he, heq⟩
      · exact hreceived e he hmem

/-! ## The whole check -/

/-- The active devices of two participants, by their ids. -/
abbrev ActiveDevices := Table JsString ActiveDevice ActiveDevice.id

theorem byId_eq (devices : ActiveDevices) :
    byId devices.rows = devices.rows.map fun device => (device.id, device) := by
  refine JsMap.ofEntries_eq ?_
  rw [List.map_map]
  exact devices.nodup

theorem get?_byId {devices : ActiveDevices} {id : JsString} {device : ActiveDevice} :
    (byId devices.rows).get? id = some device ↔ device ∈ devices ∧ device.id = id := by
  constructor
  · intro h
    have hmem := JsMap.mem_of_get?_eq_some h
    rw [byId_eq] at hmem
    obtain ⟨found, hfound, heq⟩ := List.mem_map.mp hmem
    cases heq
    exact ⟨hfound, rfl⟩
  · rintro ⟨hmem, rfl⟩
    refine JsMap.get?_eq_some_of_mem (JsMap.nodup_keys_ofEntries _) ?_
    show (device.id, device) ∈ byId devices.rows
    rw [byId_eq]
    exact List.mem_map_of_mem (f := fun device : ActiveDevice => (device.id, device)) hmem

/-- **A complete request** of a sender: the recipients are the active devices, each
once, and all of them get one ciphertext, of a content in the sender's name. There
is a device of somebody else, and all have the current protocol. -/
structure Complete (round : JsString → JsNumber) (input : SendMessageDto)
    (devices : ActiveDevices) (sender : ActiveDevice) : Prop where
  active : sender ∈ devices ∧ sender.id = input.senderDeviceId
  counterpart : ∃ device ∈ devices, device.userId ≠ sender.userId
  current : ∀ device ∈ devices, device.protocolVersion = matrixDeviceProtocolVersion
  recipients : (input.envelopes.map (·.recipientDeviceId)).Perm (devices.rows.map (·.id))
  fields : ∀ envelope ∈ input.envelopes,
    envelope.protocolVersion = matrixMessageProtocolVersion ∧
      envelope.cipherSuite = matrixMegolmAlgorithm
  content : ∃ ciphertext content, (∀ envelope ∈ input.envelopes,
    envelope.ciphertext = ciphertext) ∧ Encrypts round ciphertext content ∧
      content.senderKey = sender.curve25519Key ∧ content.deviceId = sender.matrixDeviceId

/-- **`assertCompleteEnvelopes` accepts exactly the complete requests** of one of
the active devices. -/
theorem assertCompleteEnvelopes_eq_ok (round : JsString → JsNumber)
    (signedGrant : JsString → Except HttpException UploadGrant) (input : SendMessageDto)
    (devices : ActiveDevices) :
    assertCompleteEnvelopes (apiDecoders round signedGrant) input devices.rows = .ok () ↔
      ∃ sender, Complete round input devices sender := by
  have hlength : (byId devices.rows).length = devices.rows.length := by
    rw [byId_eq, List.length_map]
  have hany : ∀ sender : ActiveDevice,
      ((byId devices.rows).any fun entry => entry.2.userId ≠ sender.userId) = true ↔
        ∃ device ∈ devices, device.userId ≠ sender.userId := by
    intro sender
    rw [byId_eq, List.any_map, List.any_eq_true]
    simp [Table.mem_def]
  have hall : ∀ received : List JsString,
      ((byId devices.rows).all fun entry => received.contains entry.1) = true ↔
        ∀ id ∈ devices.rows.map (·.id), id ∈ received := by
    intro received
    rw [byId_eq, List.all_map, List.all_eq_true]
    simp
  constructor
  · intro h
    obtain ⟨_, -, h⟩ := bind_eq_ok.mp h
    obtain ⟨sender, hsender, h⟩ := bind_eq_ok.mp h
    obtain ⟨_, -, h⟩ := bind_eq_ok.mp h
    obtain ⟨_, hcounterpart, h⟩ := bind_eq_ok.mp h
    obtain ⟨received, hloop, h⟩ := bind_eq_ok.mp h
    obtain ⟨hmem, hid⟩ := get?_byId.mp (orThrow_eq_ok.mp hsender)
    obtain ⟨rfl, hnodup, -, ⟨ciphertext, -, hidentical⟩, hfits⟩ := checkEnvelopes_eq_ok.mp hloop
    rw [require_eq_ok, Bool.and_eq_true, hall, decide_eq_true_eq, hlength] at h
    obtain ⟨hsize, hsubset⟩ := h
    simp only [List.append_nil, List.length_reverse, List.mem_reverse] at hsize hsubset
    -- as many recipients as devices, without repetition and with every device among them
    have hperm : (input.envelopes.map (·.recipientDeviceId)).Perm (devices.rows.map (·.id)) := by
      refine ((List.subperm_of_subset devices.nodup hsubset).perm_of_length_le ?_).symm
      rw [hsize, List.length_map]
    have hfor : ∀ device ∈ devices, ∃ envelope ∈ input.envelopes,
        envelope.recipientDeviceId = device.id := fun device hdevice =>
      List.mem_map.mp (hsubset _ (List.mem_map_of_mem hdevice))
    refine ⟨sender, ⟨hmem, hid⟩, (hany sender).mp (require_eq_ok.mp hcounterpart),
      fun device hdevice => ?_, hperm,
      fun envelope he => ⟨(hfits envelope he).protocolVersion, (hfits envelope he).cipherSuite⟩, ?_⟩
    · obtain ⟨envelope, he, hrecipient⟩ := hfor device hdevice
      obtain ⟨found, hfound, hversion⟩ := (hfits envelope he).recipient
      obtain ⟨hfoundMem, hfoundId⟩ := get?_byId.mp hfound
      rwa [Table.eq_of_key_eq hdevice hfoundMem (hrecipient.symm.trans hfoundId.symm)]
    · obtain ⟨envelope, he, -⟩ := hfor sender hmem
      obtain ⟨content, hencrypts, hbinding⟩ := (hfits envelope he).content
      rw [hidentical envelope he] at hencrypts
      exact ⟨ciphertext, content, hidentical, hencrypts, hbinding⟩
  · rintro ⟨sender, h⟩
    obtain ⟨hmem, hid⟩ := h.active
    obtain ⟨ciphertext, content, hidentical, hencrypts, hbinding⟩ := h.content
    have hloop : checkEnvelopes (apiDecoders round signedGrant) sender (byId devices.rows)
        input.envelopes [] none =
          .ok ((input.envelopes.map (·.recipientDeviceId)).reverse ++ []) := by
      refine checkEnvelopes_eq_ok.mpr ⟨rfl, h.recipients.nodup_iff.mpr devices.nodup, by simp,
        ⟨ciphertext, by simp, hidentical⟩, fun envelope he => ?_⟩
      obtain ⟨device, hdevice, heq⟩ :=
        List.mem_map.mp (h.recipients.mem_iff.mp (List.mem_map_of_mem he))
      refine ⟨⟨device, get?_byId.mpr ⟨hdevice, heq⟩, h.current device hdevice⟩,
        (h.fields envelope he).1, (h.fields envelope he).2, content, ?_, hbinding⟩
      rwa [hidentical envelope he]
    refine bind_eq_ok.mpr ⟨(), require_eq_ok.mpr ?_, ?_⟩
    · have hne : devices.rows ≠ [] := List.ne_nil_of_mem hmem
      simpa using hne
    refine bind_eq_ok.mpr ⟨sender, orThrow_eq_ok.mpr (get?_byId.mpr ⟨hmem, hid⟩), ?_⟩
    refine bind_eq_ok.mpr ⟨(), require_eq_ok.mpr (by simpa using h.current sender hmem), ?_⟩
    refine bind_eq_ok.mpr ⟨(), require_eq_ok.mpr ((hany sender).mpr h.counterpart), ?_⟩
    refine bind_eq_ok.mpr ⟨_, hloop, require_eq_ok.mpr ?_⟩
    rw [Bool.and_eq_true, hall, decide_eq_true_eq, hlength]
    refine ⟨?_, fun id hid => ?_⟩
    · rw [List.append_nil, List.length_reverse, h.recipients.length_eq, List.length_map]
    · rw [List.append_nil, List.mem_reverse]
      exact h.recipients.mem_iff.mpr hid

/-! ## Devices with the current protocol -/

/-- The row of a device whose protocol version is not in question. -/
def current (device : Messaging.ActiveDevice) : ActiveDevice :=
  ⟨device.id.text, device.userId.text, device.matrixDeviceId, matrixDeviceProtocolVersion,
    device.curve25519Key⟩

/-- An envelope as its validator reads it. -/
def envelopeDto (envelope : EnvelopeInput) : MessageEnvelopeDto :=
  ⟨envelope.recipientDeviceId.text, envelope.protocolVersion, envelope.cipherSuite,
    envelope.ciphertext⟩

/-- A message as its validator reads it. -/
def sendMessageDto (input : SendMessage) : SendMessageDto :=
  ⟨input.senderDeviceId.text, input.envelopes.map envelopeDto⟩

section Current

variable {decoders : Decoders} {devices : List Messaging.ActiveDevice}

theorem byId_current (h : (devices.map (·.id)).Nodup) :
    byId (devices.map current) = devices.map fun device => (device.id.text, current device) := by
  have hkeys : ((devices.map current).map fun device => (device.id, device)) =
      devices.map fun device => (device.id.text, current device) := by
    rw [List.map_map]
    rfl
  rw [byId, hkeys]
  refine JsMap.ofEntries_eq ?_
  rw [List.map_map]
  show (devices.map fun device => device.id.text).Nodup
  have htext : (devices.map fun device => device.id.text) =
      (devices.map (·.id)).map Uuid.text := by
    rw [List.map_map]
    rfl
  rw [htext]
  exact h.map fun a b => Uuid.text_injective

theorem get?_current (h : (devices.map (·.id)).Nodup) (id : Uuid) :
    (byId (devices.map current)).get? id.text = (devices.find? (·.id = id)).map current := by
  rw [byId_current h]
  clear h
  induction devices with
  | nil => rfl
  | cons device rest ih =>
    rw [List.map_cons, JsMap.get?]
    by_cases hid : device.id = id
    · rw [if_pos (congrArg Uuid.text hid), List.find?_cons_of_pos (by simpa using hid)]
      rfl
    · rw [if_neg fun heq => hid (Uuid.text_injective heq), List.find?_cons_of_neg (by simpa using hid), ih]

theorem contains_map_text (received : List Uuid) (id : Uuid) :
    (received.map Uuid.text).contains id.text = received.contains id := by
  rw [Bool.eq_iff_iff, List.contains_iff_mem, List.contains_iff_mem, List.mem_map]
  constructor
  · rintro ⟨other, hmem, htext⟩
    rwa [← Uuid.text_injective htext]
  · intro hmem
    exact ⟨_, hmem, rfl⟩

theorem checkEnvelope_current (h : (devices.map (·.id)).Nodup) (sender : Messaging.ActiveDevice)
    (received : List Uuid) (canonicalCiphertext : Option JsString) (envelope : EnvelopeInput) :
    checkEnvelope decoders (current sender) (byId (devices.map current))
        (received.map Uuid.text) canonicalCiphertext (envelopeDto envelope) =
      Messaging.checkEnvelope decoders sender devices received canonicalCiphertext envelope := by
  have hreceived := contains_map_text received envelope.recipientDeviceId
  have hexpected : ((byId (devices.map current)).get? envelope.recipientDeviceId.text).any
      (·.protocolVersion = matrixDeviceProtocolVersion) =
        devices.any (·.id = envelope.recipientDeviceId) := by
    rw [get?_current h, Option.any_map, Bool.eq_iff_iff, List.any_eq_true, Option.any_eq_true]
    constructor
    · rintro ⟨device, hfind, -⟩
      have hid := List.find?_some hfind
      exact ⟨device, List.mem_of_find?_eq_some hfind, hid⟩
    · rintro ⟨device, hmem, hid⟩
      have hsome : (devices.find? (·.id = envelope.recipientDeviceId)).isSome = true :=
        List.find?_isSome.mpr ⟨device, hmem, hid⟩
      obtain ⟨found, hfound⟩ := Option.isSome_iff_exists.mp hsome
      exact ⟨found, hfound, by simp [current]⟩
  unfold checkEnvelope Messaging.checkEnvelope
  simp only [envelopeDto, hreceived, hexpected]
  rfl

theorem checkEnvelopes_current (h : (devices.map (·.id)).Nodup) (sender : Messaging.ActiveDevice)
    (envelopes : List EnvelopeInput) (received : List Uuid)
    (canonicalCiphertext : Option JsString) :
    checkEnvelopes decoders (current sender) (byId (devices.map current))
        (envelopes.map envelopeDto) (received.map Uuid.text) canonicalCiphertext =
      (Messaging.checkEnvelopes decoders sender devices envelopes received
        canonicalCiphertext).map (List.map Uuid.text) := by
  induction envelopes generalizing received canonicalCiphertext with
  | nil => rfl
  | cons envelope rest ih =>
    rw [List.map_cons, checkEnvelopes, Messaging.checkEnvelopes, checkEnvelope_current h]
    cases Messaging.checkEnvelope decoders sender devices received canonicalCiphertext envelope with
    | error e => rfl
    | ok u => exact ih (envelope.recipientDeviceId :: received) (some envelope.ciphertext)

/-- **The two models of the check agree** on devices with the current protocol. -/
theorem assertCompleteEnvelopes_current (h : (devices.map (·.id)).Nodup) (input : SendMessage) :
    assertCompleteEnvelopes decoders (sendMessageDto input) (devices.map current) =
      Messaging.assertCompleteEnvelopes decoders input devices := by
  have hany : ∀ sender : Messaging.ActiveDevice,
      ((byId (devices.map current)).any fun entry => entry.2.userId ≠ (current sender).userId) =
        devices.any (·.userId ≠ sender.userId) := by
    intro sender
    rw [byId_current h, List.any_map]
    congr 1
    funext device
    have huser : (current device).userId = (current sender).userId ↔
        device.userId = sender.userId := ⟨Uuid.text_injective, congrArg Uuid.text⟩
    simp [huser]
  have hall : ∀ received : List Uuid,
      ((byId (devices.map current)).all fun entry => (received.map Uuid.text).contains entry.1) =
        devices.all fun device => received.contains device.id := by
    intro received
    rw [byId_current h, List.all_map]
    congr 1
    funext device
    exact contains_map_text received device.id
  have hlength : (byId (devices.map current)).length = devices.length := by
    rw [byId_current h, List.length_map]
  rw [assertCompleteEnvelopes, Messaging.assertCompleteEnvelopes, List.isEmpty_map]
  refine bind_congr fun _ => ?_
  have hfind := get?_current h input.senderDeviceId
  cases hsender : devices.find? (·.id = input.senderDeviceId) with
  | none =>
    rw [hsender] at hfind
    simp only [sendMessageDto, hfind]
    rfl
  | some sender =>
    rw [hsender] at hfind
    simp only [sendMessageDto, hfind, Option.map_some]
    show (do
      require (((byId (devices.map current)).any fun entry =>
          entry.2.userId ≠ (current sender).userId))
        (HttpException.conflict "La contraparte debe configurar un dispositivo seguro.")
      let received ← checkEnvelopes decoders (current sender) (byId (devices.map current))
        (input.envelopes.map envelopeDto) (List.map Uuid.text []) none
      require (received.length = (byId (devices.map current)).length &&
          (byId (devices.map current)).all fun entry => received.contains entry.1)
        (.conflict "Debes cifrar el mensaje para todos los dispositivos activos.")) = _
    rw [hany, checkEnvelopes_current h, hlength]
    refine bind_congr fun _ => ?_
    cases Messaging.checkEnvelopes decoders sender devices input.envelopes [] none with
    | error e => rfl
    | ok received =>
      show require ((received.map Uuid.text).length = devices.length &&
        (byId (devices.map current)).all fun entry =>
          (received.map Uuid.text).contains entry.1) _ = _
      rw [hall, List.length_map]
      rfl

end Current

/-! ### Requests that are not complete -/

/-- What a request needs by its recipients and ciphertexts alone. -/
structure Covers (round : JsString → JsNumber) (input : SendMessageDto) (devices : ActiveDevices)
    (sender : ActiveDevice) : Prop where
  active : sender ∈ devices ∧ sender.id = input.senderDeviceId
  recipients : (input.envelopes.map (·.recipientDeviceId)).Perm (devices.rows.map (·.id))
  content : ∃ ciphertext content, (∀ envelope ∈ input.envelopes,
    envelope.ciphertext = ciphertext) ∧ Encrypts round ciphertext content ∧
      content.senderKey = sender.curve25519Key ∧ content.deviceId = sender.matrixDeviceId

/-- The row of the sender of `zeroMessage`. -/
def zeroDevice : ActiveDevice :=
  ⟨clientDevice.text, clientDevice.text, zeroContent.deviceId, matrixDeviceProtocolVersion,
    zeroContent.senderKey⟩

/-- The row of a device of the counterpart. -/
def zeroCounterpart (protocolVersion : JsString) : ActiveDevice :=
  ⟨cashierDevice.text, cashierDevice.text, matrixDeviceIdFromUuid cashierDevice, protocolVersion,
    zeroContent.senderKey⟩

/-- `zeroJson` for some devices. -/
def zeroInput (devices : List ActiveDevice) (protocolVersion : JsString) : SendMessageDto :=
  ⟨clientDevice.text, devices.map fun device =>
    ⟨device.id, protocolVersion, matrixMegolmAlgorithm, toBase64 (utf8 zeroJson)⟩⟩

theorem encrypts_zero : Encrypts (fun _ => .negativeZero) (toBase64 (utf8 zeroJson)) zeroContent := by
  have hparse : parseMatrixMegolmEnvelopeBase64 (fun _ => .negativeZero)
      (some (.str (toBase64 (utf8 zeroJson)))) =
        .ok ⟨toBase64 (utf8 zeroJson), zeroJson, zeroContent⟩ := ok_of_toOption (by decide +kernel)
  exact (@accepted_iff _ (fun _ => .error (.internal "")) _ _).mp
    (parse_envelope_iff.mp ⟨_, hparse, rfl⟩)

theorem covers_zeroInput {devices : ActiveDevices} (protocolVersion : JsString)
    (h : zeroDevice ∈ devices) :
    Covers (fun _ => .negativeZero) (zeroInput devices.rows protocolVersion) devices
      zeroDevice := by
  refine ⟨⟨h, rfl⟩, ?_, _, zeroContent, fun envelope he => ?_, encrypts_zero, rfl, rfl⟩
  · have hids : (zeroInput devices.rows protocolVersion).envelopes.map (·.recipientDeviceId) =
        devices.rows.map (·.id) := by
      simp [zeroInput]
    rw [hids]
  · obtain ⟨device, -, rfl⟩ := List.mem_map.mp he
    rfl

/-- Requests for exactly the active devices are refused where all of these are the
sender's, where one has an earlier protocol, and where the envelopes have one. -/
theorem covers_not_accepted :
    ∃ alone stale current : ActiveDevices,
      (Covers (fun _ => .negativeZero) (zeroInput alone.rows matrixMessageProtocolVersion) alone
          zeroDevice ∧
        assertCompleteEnvelopes
            (apiDecoders (fun _ => .negativeZero) fun _ => .error (.internal ""))
            (zeroInput alone.rows matrixMessageProtocolVersion) alone.rows =
          .error (.conflict "La contraparte debe configurar un dispositivo seguro.")) ∧
      (Covers (fun _ => .negativeZero) (zeroInput stale.rows matrixMessageProtocolVersion) stale
          zeroDevice ∧
        assertCompleteEnvelopes
            (apiDecoders (fun _ => .negativeZero) fun _ => .error (.internal ""))
            (zeroInput stale.rows matrixMessageProtocolVersion) stale.rows =
          .error (.badRequest "Los sobres no coinciden con los dispositivos activos.")) ∧
      (Covers (fun _ => .negativeZero) (zeroInput current.rows (js "matrix-megolm-v0")) current
          zeroDevice ∧
        assertCompleteEnvelopes
            (apiDecoders (fun _ => .negativeZero) fun _ => .error (.internal ""))
            (zeroInput current.rows (js "matrix-megolm-v0")) current.rows =
          .error (.badRequest "Los sobres no coinciden con los dispositivos activos.")) := by
  refine ⟨⟨[zeroDevice], by decide⟩, ⟨[zeroCounterpart (js "matrix-olm-v0"), zeroDevice], by decide⟩,
    ⟨[zeroDevice, zeroCounterpart matrixDeviceProtocolVersion], by decide⟩,
    ⟨covers_zeroInput _ List.mem_cons_self, rfl⟩,
    ⟨covers_zeroInput _ (List.mem_cons_of_mem _ List.mem_cons_self), rfl⟩,
    ⟨covers_zeroInput _ List.mem_cons_self, rfl⟩⟩

end Envelopes

end Messaging

end SinoChat
