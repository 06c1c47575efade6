import SinoChat.Common.JsonBytes
import SinoChat.SasToDevice.Grammar

/-!
# The parser of verification messages is exact

The parser accepts the bodies of its grammar (`parse_eq_ok`): one message of the kind
of the event for the recipient, the members of its content in any order. The check of
the size never refuses one (`bodyBytes_le`), and the digest is always taken. What is
hashed determines all that was given, up to the order of keys (`sas_parser_exact`).
-/

namespace SinoChat

open Js

namespace SasToDevice

open CrossSigning (IsBase64Of)

variable {scope expected : MatrixSasExpectation} {rest content raw : List (JsString × Json)}
variable {kind : Verification}

/-! ## The scope -/

/-- What the server knows of a flow, in the forms it has. -/
structure ScopeOf (scope : MatrixSasExpectation) : Prop where
  userId : isMatrixUserId scope.userId = true
  wellFormed : WellFormed scope.userId
  senderDeviceId : isMatrixDeviceId scope.senderDeviceId = true
  recipientDeviceId : isMatrixDeviceId scope.recipientDeviceId = true
  other : scope.recipientDeviceId ≠ scope.senderDeviceId
  flowId : isTransactionId scope.flowId = true
  pinnedMasterKey : IsBase64Of 32 scope.pinnedMasterKey

/-- A scope is read if it is well formed. -/
theorem scopeRecord_eq_ok :
    scopeRecord expected = .ok scope ↔ scope = expected ∧ ScopeOf expected := by
  constructor
  · intro h
    obtain ⟨_, hids, h⟩ := bind_eq_ok.mp h
    obtain ⟨key, hkey, h⟩ := bind_eq_ok.mp h
    cases h
    obtain ⟨hvalue, hkey⟩ := base64_eq_ok.mp hkey
    obtain rfl : expected.pinnedMasterKey = key := by simpa using hvalue
    simp only [require_eq_ok, Bool.and_eq_true, decide_eq_true_eq, wellFormed_iff] at hids
    obtain ⟨⟨⟨⟨⟨huserId, hwellFormed⟩, hsender⟩, hrecipient⟩, hother⟩, hflowId⟩ := hids
    exact ⟨rfl, huserId, hwellFormed, hsender, hrecipient, hother, hflowId, hkey⟩
  · rintro ⟨rfl, h⟩
    refine bind_eq_ok.mpr ⟨(), ?_, bind_eq_ok.mpr ⟨scope.pinnedMasterKey, ?_, rfl⟩⟩
    · simp only [require_eq_ok, Bool.and_eq_true, decide_eq_true_eq, wellFormed_iff]
      exact ⟨⟨⟨⟨⟨h.userId, h.wellFormed⟩, h.senderDeviceId⟩, h.recipientDeviceId⟩, h.other⟩,
        h.flowId⟩
    · exact base64_eq_ok.mpr ⟨rfl, h.pinnedMasterKey⟩

/-- An event type names one kind. -/
theorem ofEventType?_eq_some {eventType : JsString} :
    Verification.ofEventType? eventType = some kind ↔ eventType = kind.eventType := by
  constructor
  · intro h
    have hfound := List.find?_some h
    exact (of_decide_eq_true hfound).symm
  · rintro rfl
    cases kind <;> decide

/-! ## Sizes -/

/-- A device id has thirty-three units. -/
theorem length_of_isMatrixDeviceId {s : JsString} (h : isMatrixDeviceId s = true) :
    s.length = 33 := by
  rw [length_of_fixed h]
  decide

/-- A run is no longer than its bound. -/
theorem length_of_run {c : CharClass} {lo hi : ℕ} {s : JsString} (h : run c lo hi s = true) :
    s.length ≤ hi := by
  simp only [run, Bool.and_eq_true, decide_eq_true_eq] at h
  exact h.1.2

/-- A user id has a bounded length. -/
theorem length_of_isMatrixUserId {s : JsString} (h : isMatrixUserId s = true) :
    s.length ≤ 290 := by
  obtain ⟨-, hrest⟩ := Bool.and_eq_true_iff.mp h
  have hlength := length_of_run hrest
  rw [List.length_drop] at hlength
  omega

/-- A key has forty-three units. -/
theorem length_of_isBase64Of {s : JsString} (h : IsBase64Of 32 s) : s.length = 43 := by
  obtain ⟨bytes, hlength, rfl⟩ := h
  rw [CrossSigning.length_unpadded, hlength]

/-- A list of at most three texts of 35 units. -/
theorem Offer.bytes_le {allowed offered : List JsString} {required : JsString}
    (h : Offer allowed required offered) (hfew : allowed.length ≤ 3)
    (hshort : ∀ text ∈ allowed, text.length ≤ 35) : jsonBytes (texts offered) ≤ 641 := by
  have hlength := (List.subperm_of_subset h.nodup h.subset).length_le
  have hsum : (offered.map fun text => 6 * text.length + 3).sum ≤ offered.length * 213 := by
    have hall : ∀ n ∈ offered.map fun text => 6 * text.length + 3, n ≤ 213 := by
      intro n hn
      obtain ⟨text, htext, rfl⟩ := List.mem_map.mp hn
      have := hshort text (h.subset htext)
      omega
    have hcard := List.sum_le_card_nsmul _ 213 hall
    simpa using hcard
  have hbytes := jsonBytes_texts_le offered
  rw [texts]
  omega

/-- A list of one short text is short. -/
theorem single_bytes_le {text : JsString} (h : text.length ≤ 35) :
    jsonBytes (texts [text]) ≤ 641 :=
  (offer_single.mpr rfl : Offer [text] text [text]).bytes_le (by simp) (by simpa using h)

/-- So are the codes of two keys. -/
theorem MacOf.bytes_le {mac : List (JsString × JsString)} (h : MacOf scope mac)
    (hscope : ScopeOf scope) : jsonBytes (macJson mac) ≤ 1142 := by
  have hlength := h.length_le
  have hmembers : membersBytes (mac.map fun entry => (entry.1, Json.str entry.2)) ≤
      mac.length * 570 := by
    have hkey : ∀ entry ∈ mac, entry.1.length ≤ 51 := by
      intro entry hentry
      have hprefix : (js "ed25519:").length = 8 := by decide
      have hsigner := h.subset (List.mem_map.mpr ⟨entry, hentry, rfl⟩)
      simp only [List.mem_cons, List.not_mem_nil, or_false] at hsigner
      rcases hsigner with heq | heq
      · rw [heq, deviceKeyId, List.length_append, hprefix,
          length_of_isMatrixDeviceId hscope.senderDeviceId]
        omega
      · rw [heq, masterKeyId, List.length_append, hprefix,
          length_of_isBase64Of hscope.pinnedMasterKey]
    have htext : ∀ entry ∈ mac, entry.2.length = 43 := fun entry hentry =>
      length_of_isBase64Of (h.texts entry hentry)
    clear h hlength
    induction mac with
    | nil => exact Nat.le_refl 0
    | cons entry mac ih =>
      have hrest := ih (fun e he => hkey e (List.mem_cons_of_mem _ he))
        fun e he => htext e (List.mem_cons_of_mem _ he)
      have hfirst := hkey entry List.mem_cons_self
      have hsecond := htext entry List.mem_cons_self
      have hvalue := jsonBytes_str_le entry.2
      rw [List.map_cons, membersBytes_cons, List.length_cons]
      dsimp only
      omega
  have hobj := jsonBytes_obj_le (mac.map fun entry => (entry.1, Json.str entry.2))
  rw [List.length_map] at hlength
  rw [macJson]
  omega

/-- Members are as long as their keys and values. -/
theorem membersBytes_le (hkeys : ∀ e ∈ rest, e.1.length ≤ 28) :
    membersBytes rest ≤ rest.length * 172 + (rest.map fun e => jsonBytes e.2).sum := by
  induction rest with
  | nil => exact Nat.le_refl 0
  | cons e rest ih =>
    have hfirst := hkeys e List.mem_cons_self
    have hrest := ih fun e he => hkeys e (List.mem_cons_of_mem _ he)
    rw [membersBytes_cons, List.length_cons, List.map_cons, List.sum_cons]
    omega

/-- **The fields of every kind are within the limit.** -/
theorem FieldsOf.bytes_le (h : FieldsOf scope kind rest) (hscope : ScopeOf scope) :
    membersBytes rest ≤ 3846 := by
  have hnames : ∀ kind : Verification, ∀ key ∈ kind.fields, key.length ≤ 28 := fun kind => by
    cases kind <;> decide
  -- No name has more than twenty-eight units, so 172 bytes cover it and what surrounds a value.
  have hmembers : membersBytes rest ≤
      rest.length * 172 + (rest.map fun e => jsonBytes e.2).sum := by
    refine membersBytes_le fun e he => hnames kind e.1 (h.keys.symm.subset ?_)
    exact List.mem_cons_of_mem _ (List.mem_map.mpr ⟨e, he, rfl⟩)
  refine hmembers.trans ?_
  have hdevice := jsonBytes_str_le scope.senderDeviceId
  have hsender := length_of_isMatrixDeviceId hscope.senderDeviceId
  have hmethod := @single_bytes_le sasMethod (by decide)
  -- What is left is the sum of the values, kind by kind.
  cases h with
  | request time htime =>
    have htimestamp := @jsonBytes_ofNat_le time 15 (by omega) (by omega)
    simp only [List.length_cons, List.length_nil, List.map_cons, List.map_nil, List.sum_cons,
      List.sum_nil]
    omega
  | ready =>
    simp only [List.length_cons, List.length_nil, List.map_cons, List.map_nil, List.sum_cons,
      List.sum_nil]
    omega
  | start hcodes hstrings =>
    have hmethodText := jsonBytes_str_le sasMethod
    have hmethodLength : sasMethod.length = 8 := by decide
    have hhash := @single_bytes_le sasHash (by decide)
    have hprotocol := @single_bytes_le keyAgreement (by decide)
    have hcodesBytes := hcodes.bytes_le (by decide) (by decide)
    have hstringsBytes := hstrings.bytes_le (by decide) (by decide)
    simp only [List.length_cons, List.length_nil, List.map_cons, List.map_nil, List.sum_cons,
      List.sum_nil]
    omega
  | @accept commitment strings hcommitment hstrings =>
    have hcommitmentText := jsonBytes_str_le commitment
    have hcommitmentLength := length_of_isBase64Of hcommitment
    have hhash := jsonBytes_str_le sasHash
    have hhashLength : sasHash.length = 6 := by decide
    have hprotocol := jsonBytes_str_le keyAgreement
    have hprotocolLength : keyAgreement.length = 22 := by decide
    have hcode := jsonBytes_str_le macV2
    have hcodeLength : macV2.length = 19 := by decide
    have hstringsBytes := hstrings.bytes_le (by decide) (by decide)
    simp only [List.length_cons, List.length_nil, List.map_cons, List.map_nil, List.sum_cons,
      List.sum_nil]
    omega
  | @key key hkey =>
    have hkeyText := jsonBytes_str_le key
    have hkeyLength := length_of_isBase64Of hkey
    simp only [List.length_cons, List.length_nil, List.map_cons, List.map_nil, List.sum_cons,
      List.sum_nil]
    omega
  | @mac mac keys hmac hkeys =>
    have hmacBytes := hmac.bytes_le hscope
    have hkeysText := jsonBytes_str_le keys
    have hkeysLength := length_of_isBase64Of hkeys
    simp only [List.length_cons, List.length_nil, List.map_cons, List.map_nil, List.sum_cons,
      List.sum_nil]
    omega
  | done =>
    simp only [List.length_nil, List.map_nil, List.sum_nil]
    omega
  | @cancel code reason hcode hreason =>
    have hcodes : ∀ code ∈ cancelCodes, code.length ≤ 23 := by decide
    have hcodeText := jsonBytes_str_le code
    have hcodeLength := hcodes code hcode
    have hreasonText := jsonBytes_str_le reason
    have hreasonLength := hreason.units
    simp only [List.length_cons, List.length_nil, List.map_cons, List.map_nil, List.sum_cons,
      List.sum_nil]
    omega

/-- **No accepted message is too large.** -/
theorem bodyBytes_le (h : ContentOf scope kind content) (hscope : ScopeOf scope) :
    byteLength (stringify (bodyJson (messagesJson scope content))) ≤ 8192 := by
  obtain ⟨rest, hrest, rfl⟩ := h
  have hfields := hrest.bytes_le hscope
  have hflow := jsonBytes_str_le scope.flowId
  have hflowLength : scope.flowId.length ≤ 255 := length_of_run hscope.flowId
  have huserLength := length_of_isMatrixUserId hscope.userId
  have hdeviceLength := length_of_isMatrixDeviceId hscope.recipientDeviceId
  have hidLength : (js "transaction_id").length = 14 := by decide
  have hmessagesLength : (js "messages").length = 8 := by decide
  have hcontent := jsonBytes_obj_le ((js "transaction_id", .str scope.flowId) :: rest)
  have hdevices := jsonBytes_obj_le [(scope.recipientDeviceId,
    .obj ((js "transaction_id", .str scope.flowId) :: rest))]
  have husers := jsonBytes_obj_le [(scope.userId, .obj [(scope.recipientDeviceId,
    .obj ((js "transaction_id", .str scope.flowId) :: rest))])]
  have hbody := jsonBytes_obj_le [(js "messages",
    messagesJson scope ((js "transaction_id", .str scope.flowId) :: rest))]
  have hunits := byteLength_le_unitBytes (stringify (bodyJson
    (messagesJson scope ((js "transaction_id", .str scope.flowId) :: rest))))
  simp only [membersBytes_cons, membersBytes_nil] at hcontent hdevices husers hbody
  simp only [bodyJson, jsonBytes, messagesJson] at *
  omega

/-! ## Canonical forms -/

/-- Texts are canonical as they are. -/
theorem canonicalizeItems_texts (values : List JsString) :
    canonicalizeItems (values.map .str) = some (values.map .str) := by
  induction values with
  | nil => rfl
  | cons value values ih =>
    rw [List.map_cons, canonicalizeItems, canonicalize, ih]
    rfl

theorem canonicalize_texts (values : List JsString) :
    canonicalize (texts values) = some (.arr (values.map .str)) := by
  rw [texts, canonicalize, canonicalizeItems_texts]
  rfl

/-- Members with canonical forms have one together. -/
theorem exists_canonicalizeEntries {entries : List (JsString × Json)}
    (h : ∀ e ∈ entries, ∃ c, canonicalize e.2 = some c) :
    ∃ es, canonicalizeEntries entries = some es := by
  induction entries with
  | nil => exact ⟨[], rfl⟩
  | cons e entries ih =>
    obtain ⟨c, hc⟩ := h e List.mem_cons_self
    obtain ⟨es, hes⟩ := ih fun e he => h e (List.mem_cons_of_mem _ he)
    exact ⟨(e.1, c) :: es, by simp [canonicalizeEntries, hc, hes]⟩

/-- An object is canonical if its members are. -/
theorem exists_canonicalize_obj {entries : List (JsString × Json)}
    (h : ∀ e ∈ entries, ∃ c, canonicalize e.2 = some c) :
    ∃ c, canonicalize (.obj entries) = some c := by
  obtain ⟨es, hes⟩ := exists_canonicalizeEntries h
  exact ⟨.obj (sortByKey es), by rw [canonicalize, hes]; rfl⟩

/-- A safe time is canonical. -/
theorem canonicalize_ofNat {time : ℕ} (h : time ≤ 2 ^ 53 - 1) :
    canonicalize (.ofNat time) = some (.int time) := by
  rw [Json.ofNat, canonicalize, if_pos (by omega)]

theorem exists_canonicalize_macJson (mac : List (JsString × JsString)) :
    ∃ c, canonicalize (macJson mac) = some c := by
  refine exists_canonicalize_obj fun e he => ?_
  obtain ⟨entry, -, rfl⟩ := List.mem_map.mp he
  exact ⟨.str entry.2, rfl⟩

/-- **The fields of every kind are canonical.** -/
theorem FieldsOf.canonical (h : FieldsOf scope kind rest) :
    ∀ e ∈ rest, ∃ c, canonicalize e.2 = some c := by
  have hstr : ∀ text, ∃ c, canonicalize (.str text) = some c := fun text => ⟨.str text, rfl⟩
  have htexts : ∀ values, ∃ c, canonicalize (texts values) = some c := fun values =>
    ⟨_, canonicalize_texts values⟩
  cases h with
  | request time htime => simp [hstr, htexts, canonicalize_ofNat htime]
  | mac hmac hkeys => simp [hstr, exists_canonicalize_macJson]
  | _ => simp [hstr, htexts]

theorem distinctItems_texts (values : List JsString) : DistinctItems (values.map .str) := by
  induction values with
  | nil => trivial
  | cons value values ih => exact ⟨trivial, ih⟩

/-- Entries are distinct throughout if each is. -/
theorem distinctEntries_of_forall {entries : List (JsString × Json)}
    (h : ∀ e ∈ entries, e.2.Distinct) : DistinctEntries entries := by
  induction entries with
  | nil => trivial
  | cons e entries ih =>
    exact ⟨h e List.mem_cons_self, ih fun e he => h e (List.mem_cons_of_mem _ he)⟩

theorem MacOf.distinct {mac : List (JsString × JsString)} (h : MacOf scope mac) :
    (macJson mac).Distinct := by
  refine ⟨by rw [List.map_map]; exact h.nodup, distinctEntries_of_forall fun e he => ?_⟩
  obtain ⟨entry, -, rfl⟩ := List.mem_map.mp he
  trivial

/-- The fields of every kind are distinct throughout. -/
theorem FieldsOf.distinct (h : FieldsOf scope kind rest) : ∀ e ∈ rest, e.2.Distinct := by
  have hstr : ∀ text, (Json.str text).Distinct := fun _ => trivial
  have hnum : ∀ n, (Json.ofNat n).Distinct := fun _ => trivial
  have htexts : ∀ values, (texts values).Distinct := distinctItems_texts
  cases h with
  | mac hmac hkeys => simp [hstr, hmac.distinct]
  | _ => simp [hstr, hnum, htexts]

/-- The content has each key once, and a canonical form. -/
theorem ContentOf.regular (h : ContentOf scope kind content) :
    (Json.obj content).Distinct ∧ ∃ c, canonicalize (.obj content) = some c := by
  have hnodup := h.nodup
  obtain ⟨rest, hrest, rfl⟩ := h
  refine ⟨⟨hnodup, trivial, distinctEntries_of_forall hrest.distinct⟩,
    exists_canonicalize_obj fun e he => ?_⟩
  rcases List.mem_cons.mp he with rfl | he
  · exact ⟨.str scope.flowId, rfl⟩
  · exact hrest.canonical e he

/-! ## The request -/

variable {crypto : Crypto} {eventType transactionId : JsString} {value : Json}
variable {request : MatrixSasToDeviceRequest}

/-- An object of one field. -/
theorem record_single_eq_ok {value : Option Json} {key : JsString} {code : ErrorCode}
    {entries : List (JsString × Json)} : record value [key] code = .ok entries ↔
      ∃ found, entries = [(key, found)] ∧ value = some (.obj [(key, found)]) := by
  rw [record_eq_ok (List.nodup_singleton key)]
  constructor
  · rintro ⟨rfl, hperm⟩
    have hkeys : Json.keys entries = [key] := List.perm_singleton.mp hperm.symm
    obtain ⟨entry, rfl, rfl⟩ := List.map_eq_singleton_iff.mp hkeys
    exact ⟨entry.2, rfl, rfl⟩
  · rintro ⟨found, rfl, rfl⟩
    exact ⟨rfl, .refl _⟩

/-- The parts of an accepted request. -/
structure Fits (eventType transactionId : JsString) (expected : MatrixSasExpectation)
    (kind : Verification) (content : List (JsString × Json)) : Prop where
  eventType : eventType = kind.eventType
  transactionId : isTransactionId transactionId = true
  scope : ScopeOf expected
  content : ContentOf expected kind content

/-- **The grammar of a request**: the body has one message, for the recipient, and the members
of its content are those of the kind of the event, in any order. -/
def InGrammar (eventType transactionId : JsString) (expected : MatrixSasExpectation)
    (value : Json) : Prop :=
  ∃ kind content raw, Fits eventType transactionId expected kind content ∧ raw.Perm content ∧
    value = bodyJson (messagesJson expected raw)

/-- The request that is made of a content. -/
structure MadeOf (crypto : Crypto) (eventType transactionId : JsString)
    (expected : MatrixSasExpectation) (content : List (JsString × Json))
    (request : MatrixSasToDeviceRequest) : Prop where
  canonicalSha256 : hashMatrixCanonicalJson crypto (hashInput eventType transactionId expected
    (messagesJson expected content)) = .ok request.canonicalSha256
  eventType : request.eventType = eventType
  transactionId : request.transactionId = transactionId
  flowId : request.flowId = expected.flowId
  senderDeviceId : request.senderDeviceId = expected.senderDeviceId
  recipientDeviceId : request.recipientDeviceId = expected.recipientDeviceId
  messages : request.messages = messagesJson expected content

/-- **A content makes one request.** -/
theorem MadeOf.eq {request' : MatrixSasToDeviceRequest}
    (h : MadeOf crypto eventType transactionId expected content request)
    (h' : MadeOf crypto eventType transactionId expected content request') :
    request = request' := by
  obtain ⟨_, _, _, _, _, _, hash⟩ := request
  obtain ⟨_, _, _, _, _, _, hash'⟩ := request'
  obtain ⟨hhash, rfl, rfl, rfl, rfl, rfl, rfl⟩ := h
  obtain ⟨hhash', rfl, rfl, rfl, rfl, rfl, rfl⟩ := h'
  obtain rfl : hash = hash' := Except.ok.inj (hhash.symm.trans hhash')
  rfl

/-- The messages have each key once, and a canonical form. -/
theorem ContentOf.messages_regular (h : ContentOf expected kind content) :
    (messagesJson expected content).Distinct ∧
      ∃ c, canonicalize (messagesJson expected content) = some c := by
  obtain ⟨hdistinct, hcanonical⟩ := h.regular
  refine ⟨⟨List.nodup_singleton _, ⟨List.nodup_singleton _, hdistinct, trivial⟩, trivial⟩, ?_⟩
  have hdevices : ∃ c, canonicalize (.obj [(expected.recipientDeviceId, .obj content)]) = some c :=
    exists_canonicalize_obj (by simpa using hcanonical)
  exact exists_canonicalize_obj (by simpa using hdevices)

/-- The body that is sent is distinct and canonical. -/
theorem ContentOf.body_regular (h : ContentOf expected kind content) :
    (bodyJson (messagesJson expected content)).Distinct ∧
      ∃ c, canonicalize (bodyJson (messagesJson expected content)) = some c := by
  obtain ⟨hdistinct, hcanonical⟩ := h.messages_regular
  exact ⟨⟨List.nodup_singleton _, hdistinct, trivial⟩,
    exists_canonicalize_obj (by simpa using hcanonical)⟩

/-- The input of the digest has distinct keys. -/
theorem hashInput_nodup (eventType transactionId : JsString) (scope : MatrixSasExpectation)
    (messages : Json) : ([(js "event_type", Json.str eventType),
      (js "transaction_id", .str transactionId), (js "sender_device_id", .str scope.senderDeviceId),
      (js "pinned_master_key", .str scope.pinnedMasterKey),
      (js "messages", messages)].map Prod.fst).Nodup := by
  simp only [List.map_cons, List.map_nil]
  decide

/-- The input of the digest is distinct and canonical. -/
theorem ContentOf.input_regular (h : ContentOf expected kind content)
    (eventType transactionId : JsString) :
    (hashInput eventType transactionId expected (messagesJson expected content)).Distinct ∧
      ∃ c, canonicalize (hashInput eventType transactionId expected
        (messagesJson expected content)) = some c := by
  obtain ⟨hdistinct, hcanonical⟩ := h.messages_regular
  have hstr : ∀ text, ∃ c, canonicalize (.str text) = some c := fun text => ⟨.str text, rfl⟩
  exact ⟨⟨hashInput_nodup .., trivial, trivial, trivial, trivial, hdistinct, trivial⟩,
    exists_canonicalize_obj (by simpa [hstr] using hcanonical)⟩

/-- **The parser accepts the grammar**, and makes the request of the content. -/
theorem parse_eq_ok (hvalue : value.Distinct) :
    parseMatrixSasToDeviceRequest crypto eventType transactionId value expected = .ok request ↔
      ∃ kind content raw, Fits eventType transactionId expected kind content ∧
        raw.Perm content ∧ value = bodyJson (messagesJson expected raw) ∧
        MadeOf crypto eventType transactionId expected content request := by
  constructor
  · intro h
    obtain ⟨kind, hkind, h⟩ := bind_eq_ok.mp h
    obtain ⟨_, htransaction, h⟩ := bind_eq_ok.mp h
    obtain ⟨scope, hscope, h⟩ := bind_eq_ok.mp h
    obtain ⟨body, hbody, h⟩ := bind_eq_ok.mp h
    obtain ⟨users, husers, h⟩ := bind_eq_ok.mp h
    obtain ⟨devices, hdevices, h⟩ := bind_eq_ok.mp h
    obtain ⟨content, hcontent, h⟩ := bind_eq_ok.mp h
    obtain ⟨_, -, h⟩ := bind_eq_ok.mp h
    obtain ⟨hash, hhash, h⟩ := bind_eq_ok.mp h
    cases h
    obtain ⟨rfl, hscope⟩ := scopeRecord_eq_ok.mp hscope
    obtain ⟨messages, rfl, hvalueEq⟩ := record_single_eq_ok.mp hbody
    obtain rfl := Option.some.inj hvalueEq
    obtain ⟨ofUser, rfl, hmessages⟩ := record_single_eq_ok.mp husers
    obtain rfl : messages = _ := by simpa [Json.get?] using hmessages
    obtain ⟨ofDevice, rfl, hofUser⟩ := record_single_eq_ok.mp hdevices
    obtain rfl : ofUser = _ := by simpa [Json.get?] using hofUser
    have hdistinct : ∀ found, Json.get? scope.recipientDeviceId
        [(scope.recipientDeviceId, ofDevice)] = some found → found.Distinct := by
      intro found hfound
      obtain rfl : ofDevice = found := by simpa [Json.get?] using hfound
      exact hvalue.2.1.2.1.2.1
    obtain ⟨hmembers, raw, hraw, hperm⟩ := (parseContent_eq_ok hdistinct).mp hcontent
    obtain rfl : ofDevice = _ := by simpa [Json.get?] using hraw
    exact ⟨kind, content, raw, ⟨ofEventType?_eq_some.mp (orThrow_eq_ok.mp hkind),
      require_eq_ok.mp htransaction, hscope, hmembers⟩, hperm, rfl,
      ⟨hhash, rfl, rfl, rfl, rfl, rfl, rfl⟩⟩
  · rintro ⟨kind, content, raw, hfits, hperm, rfl, hmade⟩
    have hdistinct : ∀ found, Json.get? expected.recipientDeviceId
        [(expected.recipientDeviceId, Json.obj raw)] = some found → found.Distinct := by
      intro found hfound
      obtain rfl : Json.obj raw = found := by simpa [Json.get?] using hfound
      exact hvalue.2.1.2.1.2.1
    have hmessages : Json.get? (js "messages") [(js "messages", messagesJson expected raw)] =
        some (messagesJson expected raw) := by simp [Json.get?]
    refine bind_eq_ok.mpr ⟨kind, orThrow_eq_ok.mpr (ofEventType?_eq_some.mpr hfits.eventType), ?_⟩
    refine bind_eq_ok.mpr ⟨(), require_eq_ok.mpr hfits.transactionId, ?_⟩
    refine bind_eq_ok.mpr ⟨expected, scopeRecord_eq_ok.mpr ⟨rfl, hfits.scope⟩, ?_⟩
    refine bind_eq_ok.mpr ⟨_, record_single_eq_ok.mpr ⟨_, rfl, rfl⟩, ?_⟩
    refine bind_eq_ok.mpr ⟨_, record_single_eq_ok.mpr ⟨_, rfl, hmessages⟩, ?_⟩
    refine bind_eq_ok.mpr ⟨_, record_single_eq_ok.mpr ⟨_, rfl, by simp [Json.get?]; rfl⟩, ?_⟩
    refine bind_eq_ok.mpr ⟨content, (parseContent_eq_ok hdistinct).mpr
      ⟨hfits.content, raw, by simp [Json.get?], hperm⟩, ?_⟩
    refine bind_eq_ok.mpr ⟨(), require_eq_ok.mpr
      (decide_eq_true (bodyBytes_le hfits.content hfits.scope)), ?_⟩
    refine bind_eq_ok.mpr ⟨_, hmade.canonicalSha256, ?_⟩
    obtain ⟨_, _, _, _, _, _, hash⟩ := request
    obtain ⟨-, rfl, rfl, rfl, rfl, rfl, rfl⟩ := hmade
    rfl

/-! ## Requests and what is hashed of them -/

/-- **The same request** up to the order of object keys. -/
structure SameRequest (request request' : MatrixSasToDeviceRequest) : Prop where
  eventType : request.eventType = request'.eventType
  transactionId : request.transactionId = request'.transactionId
  flowId : request.flowId = request'.flowId
  senderDeviceId : request.senderDeviceId = request'.senderDeviceId
  recipientDeviceId : request.recipientDeviceId = request'.recipientDeviceId
  messages : Same request.messages request'.messages
  canonicalSha256 : request.canonicalSha256 = request'.canonicalSha256

/-- The bytes whose digest is taken. -/
def canonicalForm (eventType transactionId : JsString) (scope : MatrixSasExpectation)
    (request : MatrixSasToDeviceRequest) : Except ErrorCode (List UInt8) :=
  encodeMatrixCanonicalJson (hashInput eventType transactionId scope request.messages)

/-- The order of the members does not show in a canonical form. -/
theorem canonicalize_obj_of_perm {entries entries' : List (JsString × Json)}
    (hperm : entries.Perm entries') (hnodup : (entries'.map Prod.fst).Nodup)
    {c : Canonical} (h : canonicalize (.obj entries') = some c) :
    canonicalize (.obj entries) = some c := by
  obtain ⟨es', hes', rfl⟩ := Option.map_eq_some_iff.mp h
  obtain ⟨es, hes, hperm'⟩ := canonicalizeEntries_perm hperm.symm hes'
  have hkeys : (es'.map Prod.fst).Nodup := by
    rw [keys_canonicalizeEntries hes']
    exact hnodup
  rw [canonicalize, hes, sortByKey_eq_of_perm hkeys hperm']
  rfl

/-- An object of one member has the canonical form of the member. -/
theorem canonicalize_single_inj {key : JsString} {v w : Json}
    (h : canonicalize (.obj [(key, v)]) = canonicalize (.obj [(key, w)])) :
    canonicalize v = canonicalize w := by
  cases hv : canonicalize v <;> cases hw : canonicalize w <;>
    simp_all [canonicalize, canonicalizeEntries, sortByKey]

/-- The body that was sent has the canonical form of the one that is built. -/
theorem Fits.canonicalize_eq (h : Fits eventType transactionId expected kind content)
    (hperm : raw.Perm content) : canonicalize (bodyJson (messagesJson expected raw)) =
      canonicalize (bodyJson (messagesJson expected content)) := by
  obtain ⟨-, c, hc⟩ := h.content.regular
  have hraw := canonicalize_obj_of_perm hperm h.content.nodup hc
  simp only [bodyJson, messagesJson, canonicalize, canonicalizeEntries] at hc hraw ⊢
  rw [hc, hraw]

/-- The same bodies have the same messages, and one canonical form. -/
theorem Fits.messages_eq {eventType' transactionId' : JsString} {expected' : MatrixSasExpectation}
    {kind' : Verification} {content' raw' : List (JsString × Json)}
    (h : Fits eventType transactionId expected kind content) (hperm : raw.Perm content)
    (h' : Fits eventType' transactionId' expected' kind' content') (hperm' : raw'.Perm content')
    (hdistinct : (bodyJson (messagesJson expected raw)).Distinct)
    (hsame : Same (bodyJson (messagesJson expected raw)) (bodyJson (messagesJson expected' raw'))) :
    canonicalize (messagesJson expected content) =
      canonicalize (messagesJson expected' content') := by
  obtain ⟨-, c, hc⟩ := h.content.body_regular
  refine @canonicalize_single_inj (js "messages") _ _ ?_
  show canonicalize (bodyJson _) = canonicalize (bodyJson _)
  rw [← h.canonicalize_eq hperm] at hc
  rw [← h.canonicalize_eq hperm, ← h'.canonicalize_eq hperm', hc,
    canonicalize_eq_of_same hsame hdistinct hc]

/-- **What is hashed determines what was given.** -/
theorem Fits.eq_of_canonicalForm {eventType' transactionId' : JsString}
    {expected' : MatrixSasExpectation} {kind' : Verification}
    {content' raw' : List (JsString × Json)} {bytes : List UInt8}
    (h : Fits eventType transactionId expected kind content) (hperm : raw.Perm content)
    (h' : Fits eventType' transactionId' expected' kind' content') (hperm' : raw'.Perm content')
    (hbytes : encodeMatrixCanonicalJson
      (hashInput eventType transactionId expected (messagesJson expected content)) = .ok bytes)
    (hbytes' : encodeMatrixCanonicalJson (hashInput eventType' transactionId' expected'
      (messagesJson expected' content')) = .ok bytes) :
    eventType = eventType' ∧ transactionId = transactionId' ∧ expected = expected' ∧
      Same (bodyJson (messagesJson expected raw)) (bodyJson (messagesJson expected' raw')) := by
  have hinput := same_of_encode_eq (h.content.input_regular eventType transactionId).1
    (h'.content.input_regular eventType' transactionId').1 hbytes hbytes'
  have hmember : ∀ {key : JsString} {v w : Json}, _ → _ → Same v w := fun {key v w} hv hw =>
    @Same.member _ _ key v w hinput (hashInput_nodup ..) hv hw
  have htype := @hmember (js "event_type") (.str eventType) (.str eventType') (by simp) (by simp)
  have htransaction := @hmember (js "transaction_id") (.str transactionId) (.str transactionId')
    (by simp) (by simp)
  have hsender := @hmember (js "sender_device_id") (.str expected.senderDeviceId)
    (.str expected'.senderDeviceId) (by simp) (by simp)
  have hmaster := @hmember (js "pinned_master_key") (.str expected.pinnedMasterKey)
    (.str expected'.pinnedMasterKey) (by simp) (by simp)
  have hmessages := @hmember (js "messages") (messagesJson expected content)
    (messagesJson expected' content') (by simp) (by simp)
  -- the recipient is named by the keys of the messages, the flow by their content
  obtain ⟨users, ofUser, husers, -, huser, hofUser⟩ := same_single_iff.mp hmessages
  obtain rfl := Json.obj.inj husers
  have huserMem := mem_of_get?_eq_some huser
  obtain ⟨huserId, rfl⟩ := Prod.mk.inj (List.mem_singleton.mp huserMem)
  obtain ⟨devices, ofDevice, hdevices, -, hdevice, hofDevice⟩ := same_single_iff.mp hofUser
  obtain rfl := Json.obj.inj hdevices
  obtain ⟨hdeviceId, rfl⟩ := Prod.mk.inj (List.mem_singleton.mp (mem_of_get?_eq_some hdevice))
  have hflow : Same (.str expected.flowId) (.str expected'.flowId) := by
    have hnodup := h'.content.nodup
    obtain ⟨rest, -, rfl⟩ := h.content
    obtain ⟨rest', -, rfl⟩ := h'.content
    exact hofDevice.member hnodup List.mem_cons_self List.mem_cons_self
  simp only [same_str_iff, Json.str.injEq] at htype htransaction hsender hmaster hflow
  have hexpected : expected = expected' := by
    obtain ⟨_, _, _, _, _⟩ := expected
    obtain ⟨_, _, _, _, _⟩ := expected'
    simp only [MatrixSasExpectation.mk.injEq]
    exact ⟨huserId.symm, hsender, hdeviceId.symm, hflow, hmaster⟩
  refine ⟨htype, htransaction, hexpected, ?_⟩
  -- the messages have one canonical form, and with them the bodies
  obtain ⟨hdistinct, c, hc⟩ := h.content.messages_regular
  have hc' := canonicalize_eq_of_same hmessages hdistinct hc
  obtain ⟨-, b, hb⟩ := h.content.body_regular
  have hb' : canonicalize (bodyJson (messagesJson expected' content')) = some b := by
    rw [← hb]
    simp only [bodyJson, canonicalize, canonicalizeEntries, hc, hc']
  exact same_of_canonicalize_eq _ ((h.canonicalize_eq hperm).trans hb)
    ((h'.canonicalize_eq hperm').trans hb')

/-- **The parser is exact and idempotent.** It accepts the grammar; what it makes of a request is
accepted again and gives the same request. Values that differ in the order of object keys only
give the same request, with the same digest; what has one canonical form was given the same. -/
theorem sas_parser_exact (crypto : Crypto) (eventType transactionId : JsString) (value : Json)
    (expected : MatrixSasExpectation) (hvalue : value.Distinct) :
    ((∃ request, parseMatrixSasToDeviceRequest crypto eventType transactionId value expected =
        .ok request) ↔ InGrammar eventType transactionId expected value) ∧
    ∀ request, parseMatrixSasToDeviceRequest crypto eventType transactionId value expected =
        .ok request →
      (∃ bytes, canonicalForm eventType transactionId expected request = .ok bytes) ∧
      parseMatrixSasToDeviceRequest crypto eventType transactionId (bodyJson request.messages)
        expected = .ok request ∧
      ∀ eventType' transactionId' value' expected' request', value'.Distinct →
        parseMatrixSasToDeviceRequest crypto eventType' transactionId' value' expected' =
          .ok request' →
        (eventType = eventType' → transactionId = transactionId' → expected = expected' →
          Same value value' → SameRequest request request') ∧
        (canonicalForm eventType transactionId expected request =
            canonicalForm eventType' transactionId' expected' request' →
          eventType = eventType' ∧ transactionId = transactionId' ∧ expected = expected' ∧
            Same value value') := by
  refine ⟨⟨?_, ?_⟩, fun request hrequest => ?_⟩
  -- What is parsed has the grammar's content.
  · rintro ⟨request, hrequest⟩
    obtain ⟨kind, content, raw, hfits, hperm, hraw, -⟩ := (parse_eq_ok hvalue).mp hrequest
    exact ⟨kind, content, raw, hfits, hperm, hraw⟩
  -- The grammar's content is hashed and made a request.
  · rintro ⟨kind, content, raw, hfits, hperm, hraw⟩
    obtain ⟨-, c, hc⟩ := hfits.content.input_regular eventType transactionId
    have hhash : hashMatrixCanonicalJson crypto (hashInput eventType transactionId expected
        (messagesJson expected content)) = .ok (crypto.sha256Hex (render c)) := by
      rw [hashMatrixCanonicalJson, encodeCanonical_eq, hc]
      rfl
    exact ⟨⟨eventType, transactionId, expected.flowId, expected.senderDeviceId,
      expected.recipientDeviceId, messagesJson expected content, _⟩, (parse_eq_ok hvalue).mpr
      ⟨kind, content, raw, hfits, hperm, hraw, ⟨hhash, rfl, rfl, rfl, rfl, rfl, rfl⟩⟩⟩
  · obtain ⟨kind, content, raw, hfits, hperm, rfl, hmade⟩ := (parse_eq_ok hvalue).mp hrequest
    obtain ⟨-, c, hc⟩ := hfits.content.input_regular eventType transactionId
    have hbytes := encodeMatrixCanonicalJson_eq_ok.mpr ⟨c, hc, rfl⟩
    have hform : canonicalForm eventType transactionId expected request =
        .ok (utf8 (render c)) := by
      rw [canonicalForm, hmade.messages]
      exact hbytes
    refine ⟨⟨_, hform⟩, ?_, fun eventType' transactionId' value' expected' request' hvalue'
      hrequest' => ?_⟩
    · rw [hmade.messages]
      exact (parse_eq_ok hfits.content.body_regular.1).mpr
        ⟨kind, content, content, hfits, .refl _, rfl, hmade⟩
    · obtain ⟨kind', content', raw', hfits', hperm', rfl, hmade'⟩ :=
        (parse_eq_ok hvalue').mp hrequest'
      refine ⟨?_, fun hforms => ?_⟩
      · rintro rfl rfl rfl hsame
        have hmessages := hfits.messages_eq hperm hfits' hperm' hvalue hsame
        obtain ⟨-, m, hm⟩ := hfits.content.messages_regular
        have hinput : canonicalize (hashInput eventType transactionId expected
            (messagesJson expected content)) = canonicalize (hashInput eventType transactionId
              expected (messagesJson expected content')) := by
          simp only [hashInput, canonicalize, canonicalizeEntries, hmessages]
        have hhash := hmade.canonicalSha256
        rw [hash_eq_of_canonicalize hinput] at hhash
        refine ⟨hmade.eventType.trans hmade'.eventType.symm,
          hmade.transactionId.trans hmade'.transactionId.symm,
          hmade.flowId.trans hmade'.flowId.symm,
          hmade.senderDeviceId.trans hmade'.senderDeviceId.symm,
          hmade.recipientDeviceId.trans hmade'.recipientDeviceId.symm, ?_,
          Except.ok.inj (hhash.symm.trans hmade'.canonicalSha256)⟩
        rw [hmade.messages, hmade'.messages]
        exact same_of_canonicalize_eq _ hm (hmessages ▸ hm)
      · have hbytes' : canonicalForm eventType' transactionId' expected' request' =
            .ok (utf8 (render c)) := by
          rw [← hforms, hform]
        rw [canonicalForm, hmade'.messages] at hbytes'
        exact hfits.eq_of_canonicalForm hperm hfits' hperm' hbytes hbytes'

namespace Sample

/-- The key of 32 equal bytes. -/
def key (byte : UInt8) : JsString := unpadded (toBase64 (List.replicate 32 byte))

/-- A repeated byte is a key. -/
theorem isBase64Of_key (byte : UInt8) : IsBase64Of 32 (key byte) :=
  ⟨List.replicate 32 byte, List.length_replicate, rfl⟩

/-- The scope of the flow. -/
def flow : MatrixSasExpectation where
  userId := js "@u00000000000000000000000000000000:chat.example"
  senderDeviceId := js "DAAAAAAAAAAAAAAAAAAAAAAAAAAAAAAAA"
  recipientDeviceId := js "DBBBBBBBBBBBBBBBBBBBBBBBBBBBBBBBB"
  flowId := js "flow-1"
  pinnedMasterKey := key 1

/-- The code of the master key. -/
def macOfMaster : JsString × JsString := (masterKeyId flow, key 2)

/-- The code of the device. -/
def macOfDevice : JsString × JsString := (deviceKeyId flow, key 3)

/-- The members of a content, by the order of the MACs. -/
def members (mac : List (JsString × JsString)) : List (JsString × Json) :=
  [(js "mac", macJson mac), (js "keys", .str (key 4))]

/-- The id of the flow. -/
def flowMember : JsString × Json := (js "transaction_id", .str flow.flowId)

/-- The transaction id last, the master key first. -/
def sent : Json :=
  bodyJson (messagesJson flow (members [macOfMaster, macOfDevice] ++ [flowMember]))

/-- The transaction id first, the device key first. -/
def sentAgain : Json :=
  bodyJson (messagesJson flow (flowMember :: members [macOfDevice, macOfMaster]))

/-- The digest of what is hashed, and zeros elsewhere. -/
def digests : Crypto where
  hmacBase64Url := fun _ => List.replicate 43 0x41
  sha256Hex := fun text =>
    if some text = encodeCanonical (hashInput (js "m.key.verification.mac") (js "txn-1") flow
        (messagesJson flow (flowMember :: members [macOfMaster, macOfDevice]))) then
      js "f988d03d105c87aea604ec936b181a5db2ca8bd4b6002dc284105a41af1ff51b"
    else List.replicate 64 0x30
  hmac_format := fun _ => by decide
  sha256_format := fun text => by
    split <;> decide

/-- The scope of the sample is well formed. -/
theorem scopeOf_flow : ScopeOf flow where
  userId := by decide
  wellFormed := wellFormed_iff.mp (by decide)
  senderDeviceId := by decide
  recipientDeviceId := by decide
  other := by decide
  flowId := by decide
  pinnedMasterKey := isBase64Of_key 1

/-- So are its codes, in either order. -/
theorem macOf_both {mac : List (JsString × JsString)}
    (h : mac.Perm [macOfMaster, macOfDevice]) : MacOf flow mac where
  nodup := (h.map Prod.fst).nodup_iff.mpr (by decide +kernel)
  device := (h.map Prod.fst).mem_iff.mpr (by decide +kernel)
  subset := fun key hkey => by
    have hmem := (h.map Prod.fst).mem_iff.mp hkey
    simpa [macOfMaster, macOfDevice, or_comm] using hmem
  texts := fun entry hentry => by
    have hmem := h.mem_iff.mp hentry
    simp only [List.mem_cons, List.not_mem_nil, or_false] at hmem
    rcases hmem with rfl | rfl
    · exact isBase64Of_key 2
    · exact isBase64Of_key 3

/-- The requests of both orders are the same. -/
theorem sas_parser_exact_mac : ∃ request request',
    parseMatrixSasToDeviceRequest digests (js "m.key.verification.mac") (js "txn-1") sent flow =
      .ok request ∧
    parseMatrixSasToDeviceRequest digests (js "m.key.verification.mac") (js "txn-1") sentAgain
      flow = .ok request' ∧
    parseMatrixSasToDeviceRequest digests (js "m.key.verification.mac") (js "txn-1")
      (bodyJson request.messages) flow = .ok request ∧ SameRequest request request' := by
  have hfits : ∀ mac, mac.Perm [macOfMaster, macOfDevice] →
      Fits (js "m.key.verification.mac") (js "txn-1") flow .mac (flowMember :: members mac) :=
    fun mac hmac => ⟨by decide, by decide, scopeOf_flow, _,
      .mac (macOf_both hmac) (isBase64Of_key 4), rfl⟩
  have hdistinct : sent.Distinct := by
    refine ⟨List.nodup_singleton _, ⟨List.nodup_singleton _, ⟨List.nodup_singleton _,
      ⟨by decide, ?_, trivial, trivial, trivial⟩, trivial⟩, trivial⟩, trivial⟩
    exact (macOf_both (.refl _)).distinct
  have hdistinct' : sentAgain.Distinct := by
    refine ⟨List.nodup_singleton _, ⟨List.nodup_singleton _, ⟨List.nodup_singleton _,
      ⟨by decide, trivial, ?_, trivial, trivial⟩, trivial⟩, trivial⟩, trivial⟩
    exact (macOf_both (.swap ..)).distinct
  obtain ⟨haccepted, hspec⟩ := sas_parser_exact digests (js "m.key.verification.mac") (js "txn-1")
    sent flow hdistinct
  obtain ⟨haccepted', -⟩ := sas_parser_exact digests (js "m.key.verification.mac") (js "txn-1")
    sentAgain flow hdistinct'
  obtain ⟨request, hrequest⟩ := haccepted.mpr ⟨.mac, _, _, hfits _ (.refl _),
    List.perm_append_singleton flowMember _, rfl⟩
  obtain ⟨request', hrequest'⟩ := haccepted'.mpr ⟨.mac, _, _, hfits _ (.swap ..), .refl _, rfl⟩
  obtain ⟨-, hagain, hothers⟩ := hspec request hrequest
  obtain ⟨hsame, -⟩ := hothers _ _ sentAgain flow request' hdistinct' hrequest'
  refine ⟨request, request', hrequest, hrequest', hagain, hsame rfl rfl rfl ?_⟩
  exact same_of_canonicalize_eq sent rfl rfl

end Sample

end SasToDevice

end SinoChat
