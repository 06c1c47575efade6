import SinoChat.CrossSigning.SignedObjects
import SinoChat.Model.SasToDevice

/-!
# The grammar of verification messages

The content of a kind of event is the transaction id of the flow and the members of
its grammar (`FieldsOf`), in any order (`parseContent_eq_ok`). The MACs keep the
order in which the sender lists them; an offered list is distinct allowed texts with
the required one among them (`Offer`), in the sender's order.
-/

namespace SinoChat

open Js

namespace SasToDevice

open CrossSigning (IsBase64Of)

variable {scope expected : MatrixSasExpectation} {raw rest content : List (JsString × Json)}
variable {value : Option Json} {code : ErrorCode}

/-! ## Objects and lists -/

/-- Own entries are those of an object. -/
theorem ownEntries_eq_ok {entries : List (JsString × Json)} :
    ownEntries value code = .ok entries ↔ value = some (.obj entries) := by
  rw [ownEntries, orThrow_eq_ok, record?_eq_some]

/-- **An object with exactly these fields.** -/
theorem record_eq_ok {fields : List JsString} {entries : List (JsString × Json)}
    (hnodup : fields.Nodup) : record value fields code = .ok entries ↔
      value = some (.obj entries) ∧ fields.Perm (Json.keys entries) := by
  constructor
  · intro h
    obtain ⟨found, hfound, h⟩ := bind_eq_ok.mp h
    obtain ⟨_, hkeys, h⟩ := bind_eq_ok.mp h
    obtain ⟨_, hown, h⟩ := bind_eq_ok.mp h
    cases h
    have hlength := (Bool.and_eq_true_iff.mp (require_eq_ok.mp hkeys)).1
    refine ⟨ownEntries_eq_ok.mp hfound, keys_perm_of_exactKeys hnodup ?_⟩
    exact Bool.and_eq_true_iff.mpr
      ⟨beq_iff_eq.mpr (of_decide_eq_true hlength), require_eq_ok.mp hown⟩
  · rintro ⟨rfl, hperm⟩
    refine bind_eq_ok.mpr ⟨entries, ownEntries_eq_ok.mpr rfl, ?_⟩
    refine bind_eq_ok.mpr ⟨(), require_eq_ok.mpr (Bool.and_eq_true_iff.mpr ⟨?_, ?_⟩), ?_⟩
    · exact decide_eq_true hperm.length_eq.symm
    · exact List.all_eq_true.mpr fun key hkey =>
        List.contains_iff_mem.mpr (hperm.mem_iff.mpr hkey)
    · refine bind_eq_ok.mpr ⟨(), require_eq_ok.mpr ?_, rfl⟩
      exact List.all_eq_true.mpr fun key hkey => hasOwn_iff.mpr (hperm.subset hkey)

/-- **An offered list**: distinct allowed texts, with the required one among them. -/
structure Offer (allowed : List JsString) (required : JsString) (offered : List JsString) :
    Prop where
  nodup : offered.Nodup
  subset : offered ⊆ allowed
  mem : required ∈ offered

/-- A list of one allowed text. -/
theorem offer_single {required : JsString} {offered : List JsString} :
    Offer [required] required offered ↔ offered = [required] := by
  constructor
  · rintro ⟨hnodup, hsub, hmem⟩
    have hlength := (List.subperm_of_subset hnodup hsub).length_le
    obtain ⟨text, rfl⟩ := List.length_eq_one_iff.mp
      (Nat.le_antisymm hlength (List.length_pos_of_mem hmem))
    rw [List.mem_singleton.mp hmem]
  · rintro rfl
    exact ⟨List.nodup_singleton _, fun _ h => h, List.mem_singleton_self _⟩

/-- The loop pushes the texts of the items, each allowed and new. -/
theorem readChoices_eq_ok {allowed : List JsString} {items : List Json}
    {result offered : List JsString} (hresult : result.Nodup) :
    readChoices allowed code items result = .ok offered ↔
      ∃ pushed, items = pushed.map .str ∧ offered = result ++ pushed ∧ offered.Nodup ∧
        pushed ⊆ allowed := by
  induction items generalizing result with
  | nil =>
    constructor
    · intro h
      cases h
      exact ⟨[], rfl, (List.append_nil _).symm, hresult, List.nil_subset _⟩
    · rintro ⟨pushed, hpushed, rfl, -, -⟩
      obtain rfl := List.map_eq_nil_iff.mp hpushed.symm
      rw [List.append_nil]
      rfl
  | cons item items ih =>
    constructor
    · intro h
      obtain ⟨text, htext, h⟩ := bind_eq_ok.mp h
      obtain ⟨_, hnew, h⟩ := bind_eq_ok.mp h
      simp only [require_eq_ok, Bool.and_eq_true, List.contains_iff_mem, Bool.not_eq_true',
        ← Bool.not_eq_true] at hnew
      obtain ⟨hallowed, hfresh⟩ := hnew
      have hnodup : (result ++ [text]).Nodup :=
        List.nodup_append.mpr ⟨hresult, List.nodup_singleton _, fun a ha b hb hab =>
          hfresh (List.mem_singleton.mp hb ▸ hab ▸ ha)⟩
      obtain ⟨pushed, rfl, rfl, hoffered, hsub⟩ := (ih hnodup).mp h
      have hitem : some item = some (.str text) :=
        str?_eq_some.mp (show (some item).bind Json.str? = some text from orThrow_eq_ok.mp htext)
      refine ⟨text :: pushed, by rw [Option.some.inj hitem]; rfl, by simp, hoffered, ?_⟩
      exact List.cons_subset.mpr ⟨hallowed, hsub⟩
    · rintro ⟨pushed, hpushed, rfl, hoffered, hsub⟩
      cases pushed with
      | nil => cases hpushed
      | cons text pushed =>
        obtain ⟨rfl, rfl⟩ := List.cons.inj hpushed
        have happend : result ++ text :: pushed = (result ++ [text]) ++ pushed := by simp
        rw [happend] at hoffered
        have hnodup := (List.nodup_append.mp hoffered).1
        have hfresh : text ∉ result := fun hmem =>
          (List.nodup_append.mp hnodup).2.2 text hmem text (List.mem_singleton_self _) rfl
        obtain ⟨hallowed, hsub⟩ := List.cons_subset.mp hsub
        refine bind_eq_ok.mpr ⟨text, rfl, bind_eq_ok.mpr ⟨(), require_eq_ok.mpr ?_, ?_⟩⟩
        · simp [hallowed, hfresh]
        · exact (ih hnodup).mpr ⟨pushed, rfl, happend, by rwa [happend], hsub⟩

/-- **`choices` takes the offered lists**, as they stand. -/
theorem choices_eq_ok {allowed offered : List JsString} {required : JsString} :
    choices value allowed required = .ok offered ↔
      value = some (texts offered) ∧ Offer allowed required offered := by
  constructor
  · intro h
    obtain ⟨items, hitems, h⟩ := bind_eq_ok.mp h
    obtain ⟨_, -, h⟩ := bind_eq_ok.mp h
    obtain ⟨result, hresult, h⟩ := bind_eq_ok.mp h
    obtain ⟨_, hrequired, h⟩ := bind_eq_ok.mp h
    cases h
    obtain ⟨pushed, rfl, rfl, hnodup, hsub⟩ := (readChoices_eq_ok List.nodup_nil).mp hresult
    refine ⟨?_, hnodup, hsub, List.contains_iff_mem.mp (require_eq_ok.mp hrequired)⟩
    refine CrossSigning.texts_eq_some.mp ?_
    rw [orThrow_eq_ok.mp hitems]
    exact CrossSigning.texts?_eq_some.mpr rfl
  · rintro ⟨rfl, hoffer⟩
    have hlength := (List.subperm_of_subset hoffer.nodup hoffer.subset).length_le
    have hpos := List.length_pos_of_mem hoffer.mem
    refine bind_eq_ok.mpr ⟨offered.map .str, rfl, ?_⟩
    refine bind_eq_ok.mpr ⟨(), require_eq_ok.mpr ?_, ?_⟩
    · simp only [List.length_map, Bool.and_eq_true, decide_eq_true_eq]
      omega
    · refine bind_eq_ok.mpr ⟨offered, (readChoices_eq_ok List.nodup_nil).mpr
        ⟨offered, rfl, rfl, hoffer.nodup, hoffer.subset⟩, ?_⟩
      exact bind_eq_ok.mpr
        ⟨(), require_eq_ok.mpr (List.contains_iff_mem.mpr hoffer.mem), rfl⟩

/-! ## Texts and numbers -/

/-- A text is a member's. -/
theorem text?_eq_some {key : String} {text : JsString} :
    text? raw key = some text ↔ Json.get? (js key) raw = some (.str text) :=
  str?_eq_some

/-- **`base64` takes the unpadded text of 32 bytes.** -/
theorem base64_eq_ok {text : JsString} :
    base64 value code = .ok text ↔ value = some (.str text) ∧ IsBase64Of 32 text := by
  constructor
  · intro h
    obtain ⟨found, hfound, h⟩ := bind_eq_ok.mp h
    obtain ⟨_, -, h⟩ := bind_eq_ok.mp h
    obtain ⟨_, hdecoded, h⟩ := bind_eq_ok.mp h
    cases h
    exact ⟨str?_eq_some.mp (orThrow_eq_ok.mp hfound), bufferFromBase64 text,
      by simpa using require_eq_ok.mp hdecoded⟩
  · rintro ⟨rfl, bytes, hlength, rfl⟩
    have hall := List.all_eq_true.mp (CrossSigning.all_isBase64_unpadded bytes)
    refine bind_eq_ok.mpr ⟨_, rfl, bind_eq_ok.mpr ⟨(), require_eq_ok.mpr ?_, ?_⟩⟩
    · exact fixed_times.mpr ⟨by rw [CrossSigning.length_unpadded, hlength], hall⟩
    · refine bind_eq_ok.mpr ⟨(), require_eq_ok.mpr ?_, rfl⟩
      simp [CrossSigning.bufferFromBase64_unpadded, hlength]

/-- **`wellFormed` rejects lone surrogates.** -/
theorem wellFormed_iff {text : JsString} : wellFormed text = true ↔ WellFormed text := by
  -- a high surrogate is not a low one
  have hlow : ∀ u : UInt16, isHighSurrogate u = true → isLowSurrogate u = false := fun u hu => by
    rw [← Bool.not_eq_true, isLowSurrogate_iff]
    have := isHighSurrogate_iff.mp hu
    omega
  constructor
  · intro h
    induction text using wellFormed.induct with
    | case1 => exact .nil
    | case2 u =>
      simp only [wellFormed, Bool.and_eq_true, Bool.not_eq_true'] at h
      exact .unit h.1 h.2 .nil
    | case3 u v text hhigh ih =>
      rw [wellFormed, if_pos hhigh, Bool.and_eq_true] at h
      exact .pair hhigh h.1 (ih h.2)
    | case4 u v text hhigh ih =>
      rw [wellFormed, if_neg hhigh, Bool.and_eq_true] at h
      exact .unit (Bool.eq_false_iff.mpr hhigh) (by simpa using h.1) (ih h.2)
  · intro h
    induction h with
    | nil => rfl
    | @unit u rest hhigh hlow _ ih =>
      cases rest with
      | nil => simp [wellFormed, hhigh, hlow]
      | cons v rest =>
        rw [wellFormed, if_neg (by simp [hhigh]), hlow, ih]
        rfl
    | @pair u v rest hhigh hlow _ ih =>
      rw [wellFormed, if_pos hhigh, hlow, ih]
      rfl

/-- **The timestamp** is a safe integer without a sign. -/
theorem timestamp_eq_ok {n : JsNumber} : timestamp value = .ok n ↔
    ∃ time : ℕ, time ≤ 2 ^ 53 - 1 ∧ n = .integer time ∧ value = some (.ofNat time) := by
  constructor
  · intro h
    rcases value with _ | _ | _ | m | _ | _ | _
    · cases h
    · cases h
    · cases h
    · obtain ⟨_, hcheck, h⟩ := bind_eq_ok.mp h
      cases h
      have hcheck := require_eq_ok.mp hcheck
      simp only [Bool.and_eq_true, decide_eq_true_eq] at hcheck
      obtain ⟨⟨hsafe, hsign⟩, hzero⟩ := hcheck
      cases n with
      | negativeZero => exact absurd rfl hzero
      | fraction s d p hp => cases hsafe
      | integer z =>
        simp only [negative, Bool.not_eq_true', decide_eq_false_iff_not, not_lt] at hsign
        have hbound : z.natAbs ≤ 2 ^ 53 - 1 := of_decide_eq_true hsafe
        have hback : ((z.natAbs : ℕ) : ℤ) = z := Int.natAbs_of_nonneg hsign
        exact ⟨z.natAbs, hbound, by rw [hback], by rw [Json.ofNat, hback]⟩
    · cases h
    · cases h
    · cases h
  · rintro ⟨time, htime, rfl, rfl⟩
    refine bind_eq_ok.mpr ⟨(), require_eq_ok.mpr ?_, rfl⟩
    have hsafe : (JsNumber.integer time).isSafeInteger = true := decide_eq_true (by omega)
    have hsign : negative (.integer time) = false := by simp [negative]
    simp [hsafe, hsign]

/-! ## The grammar -/

/-- The MACs of a message: of the sender's device key, and of the master key or not. -/
structure MacOf (scope : MatrixSasExpectation) (mac : List (JsString × JsString)) : Prop where
  nodup : (mac.map Prod.fst).Nodup
  device : deviceKeyId scope ∈ mac.map Prod.fst
  subset : mac.map Prod.fst ⊆ [deviceKeyId scope, masterKeyId scope]
  texts : ∀ entry ∈ mac, IsBase64Of 32 entry.2

/-- A diagnostic: some text of 512 bytes at most, without control characters. -/
structure Reason (text : JsString) : Prop where
  nonempty : 1 ≤ text.length
  units : text.length ≤ 512
  bytes : byteLength text ≤ 512
  wellFormed : WellFormed text
  plain : ∀ u ∈ text, isControl u = false

/-- **The grammar of a kind of event**: the members of its content behind the transaction id. -/
inductive FieldsOf (scope : MatrixSasExpectation) : Verification → List (JsString × Json) → Prop
  | request (time : ℕ) (htime : time ≤ 2 ^ 53 - 1) : FieldsOf scope .request
      [(js "from_device", .str scope.senderDeviceId), (js "methods", texts [sasMethod]),
        (js "timestamp", .ofNat time)]
  | ready : FieldsOf scope .ready
      [(js "from_device", .str scope.senderDeviceId), (js "methods", texts [sasMethod])]
  | start {codes strings : List JsString} (hcodes : Offer macOffers macV2 codes)
      (hstrings : Offer shortStrings (js "decimal") strings) : FieldsOf scope .start
      [(js "from_device", .str scope.senderDeviceId), (js "method", .str sasMethod),
        (js "hashes", texts [sasHash]), (js "key_agreement_protocols", texts [keyAgreement]),
        (js "message_authentication_codes", texts codes),
        (js "short_authentication_string", texts strings)]
  | accept {commitment : JsString} {strings : List JsString}
      (hcommitment : IsBase64Of 32 commitment)
      (hstrings : Offer shortStrings (js "decimal") strings) : FieldsOf scope .accept
      [(js "commitment", .str commitment), (js "hash", .str sasHash),
        (js "key_agreement_protocol", .str keyAgreement),
        (js "message_authentication_code", .str macV2),
        (js "short_authentication_string", texts strings)]
  | key {key : JsString} (hkey : IsBase64Of 32 key) : FieldsOf scope .key [(js "key", .str key)]
  | mac {mac : List (JsString × JsString)} {keys : JsString} (hmac : MacOf scope mac)
      (hkeys : IsBase64Of 32 keys) : FieldsOf scope .mac
      [(js "mac", macJson mac), (js "keys", .str keys)]
  | done : FieldsOf scope .done []
  | cancel {code reason : JsString} (hcode : code ∈ cancelCodes) (hreason : Reason reason) :
      FieldsOf scope .cancel [(js "code", .str code), (js "reason", .str reason)]

/-- The members are the fields of the kind but the transaction id. -/
theorem FieldsOf.keys {kind : Verification} (h : FieldsOf scope kind rest) :
    kind.fields.Perm (js "transaction_id" :: rest.map Prod.fst) := by
  cases h <;> (simp only [List.map_cons, List.map_nil]; decide)

theorem Verification.fields_nodup (kind : Verification) : kind.fields.Nodup := by
  cases kind <;> decide

/-! ## Each kind -/

/-- The members stand in the content as they are. -/
def Holds (raw rest : List (JsString × Json)) : Prop :=
  ∀ member ∈ rest, Json.get? member.1 raw = some member.2

@[simp] theorem holds_nil : Holds raw [] := nofun

@[simp] theorem holds_cons {member : JsString × Json} :
    Holds raw (member :: rest) ↔ Json.get? member.1 raw = some member.2 ∧ Holds raw rest :=
  List.forall_mem_cons

/-- The sender is the scope's. -/
theorem checkSender_eq_ok {u : Unit} : checkSender raw scope = .ok u ↔
    Json.get? (js "from_device") raw = some (.str scope.senderDeviceId) := by
  rw [checkSender, require_eq_ok, decide_eq_true_eq, text?_eq_some]

/-- **Which fields a request has.** -/
theorem parseFields_request : parseFields .request raw scope = .ok rest ↔
    FieldsOf scope .request rest ∧ Holds raw rest := by
  constructor
  · intro h
    obtain ⟨_, hsender, h⟩ := bind_eq_ok.mp h
    obtain ⟨methods, hmethods, h⟩ := bind_eq_ok.mp h
    obtain ⟨n, hn, h⟩ := bind_eq_ok.mp h
    cases h
    obtain ⟨hvalue, hoffer⟩ := choices_eq_ok.mp hmethods
    obtain rfl := offer_single.mp hoffer
    obtain ⟨time, htime, rfl, htimestamp⟩ := timestamp_eq_ok.mp hn
    exact ⟨.request time htime, by
      simp [checkSender_eq_ok.mp hsender, hvalue, htimestamp, Json.ofNat]⟩
  · rintro ⟨h, hholds⟩
    cases h with
    | request time htime =>
      simp only [holds_cons, holds_nil, and_true] at hholds
      obtain ⟨hsender, hmethods, htimestamp⟩ := hholds
      refine bind_eq_ok.mpr ⟨(), checkSender_eq_ok.mpr hsender, ?_⟩
      refine bind_eq_ok.mpr ⟨[sasMethod], choices_eq_ok.mpr ⟨hmethods, offer_single.mpr rfl⟩, ?_⟩
      exact bind_eq_ok.mpr ⟨_, timestamp_eq_ok.mpr ⟨time, htime, rfl, htimestamp⟩, rfl⟩

/-- **Which fields a ready message has.** -/
theorem parseFields_ready : parseFields .ready raw scope = .ok rest ↔
    FieldsOf scope .ready rest ∧ Holds raw rest := by
  constructor
  · intro h
    obtain ⟨_, hsender, h⟩ := bind_eq_ok.mp h
    obtain ⟨methods, hmethods, h⟩ := bind_eq_ok.mp h
    cases h
    obtain ⟨hvalue, hoffer⟩ := choices_eq_ok.mp hmethods
    obtain rfl := offer_single.mp hoffer
    exact ⟨.ready, by simp [checkSender_eq_ok.mp hsender, hvalue]⟩
  · rintro ⟨h, hholds⟩
    cases h with
    | ready =>
      simp only [holds_cons, holds_nil, and_true] at hholds
      obtain ⟨hsender, hmethods⟩ := hholds
      refine bind_eq_ok.mpr ⟨(), checkSender_eq_ok.mpr hsender, ?_⟩
      exact bind_eq_ok.mpr
        ⟨[sasMethod], choices_eq_ok.mpr ⟨hmethods, offer_single.mpr rfl⟩, rfl⟩

/-- **Which fields a start has.** -/
theorem parseFields_start : parseFields .start raw scope = .ok rest ↔
    FieldsOf scope .start rest ∧ Holds raw rest := by
  constructor
  · intro h
    obtain ⟨_, hsender, h⟩ := bind_eq_ok.mp h
    obtain ⟨_, hmethod, h⟩ := bind_eq_ok.mp h
    obtain ⟨hashes, hhashes, h⟩ := bind_eq_ok.mp h
    obtain ⟨protocols, hprotocols, h⟩ := bind_eq_ok.mp h
    obtain ⟨codes, hcodes, h⟩ := bind_eq_ok.mp h
    obtain ⟨strings, hstrings, h⟩ := bind_eq_ok.mp h
    cases h
    have hmethod := text?_eq_some.mp (of_decide_eq_true (require_eq_ok.mp hmethod))
    obtain ⟨hhashesValue, hoffer⟩ := choices_eq_ok.mp hhashes
    obtain rfl := offer_single.mp hoffer
    obtain ⟨hprotocolsValue, hoffer⟩ := choices_eq_ok.mp hprotocols
    obtain rfl := offer_single.mp hoffer
    obtain ⟨hcodesValue, hcodes⟩ := choices_eq_ok.mp hcodes
    obtain ⟨hstringsValue, hstrings⟩ := choices_eq_ok.mp hstrings
    exact ⟨.start hcodes hstrings, by simp [checkSender_eq_ok.mp hsender, hmethod, hhashesValue,
      hprotocolsValue, hcodesValue, hstringsValue]⟩
  · rintro ⟨h, hholds⟩
    cases h with
    | start hcodes hstrings =>
      simp only [holds_cons, holds_nil, and_true] at hholds
      obtain ⟨hsender, hmethod, hhashes, hprotocols, hcodesValue, hstringsValue⟩ := hholds
      refine bind_eq_ok.mpr ⟨(), checkSender_eq_ok.mpr hsender, ?_⟩
      refine bind_eq_ok.mpr
        ⟨(), require_eq_ok.mpr (decide_eq_true (text?_eq_some.mpr hmethod)), ?_⟩
      refine bind_eq_ok.mpr ⟨_, choices_eq_ok.mpr ⟨hhashes, offer_single.mpr rfl⟩, ?_⟩
      refine bind_eq_ok.mpr ⟨_, choices_eq_ok.mpr ⟨hprotocols, offer_single.mpr rfl⟩, ?_⟩
      refine bind_eq_ok.mpr ⟨_, choices_eq_ok.mpr ⟨hcodesValue, hcodes⟩, ?_⟩
      exact bind_eq_ok.mpr ⟨_, choices_eq_ok.mpr ⟨hstringsValue, hstrings⟩, rfl⟩

/-- **Which fields an acceptance has.** -/
theorem parseFields_accept : parseFields .accept raw scope = .ok rest ↔
    FieldsOf scope .accept rest ∧ Holds raw rest := by
  constructor
  · intro h
    obtain ⟨_, hfixed, h⟩ := bind_eq_ok.mp h
    obtain ⟨commitment, hcommitment, h⟩ := bind_eq_ok.mp h
    obtain ⟨strings, hstrings, h⟩ := bind_eq_ok.mp h
    cases h
    simp only [require_eq_ok, Bool.and_eq_true, decide_eq_true_eq, text?_eq_some] at hfixed
    obtain ⟨⟨hhash, hprotocol⟩, hcode⟩ := hfixed
    obtain ⟨hcommitmentValue, hcommitment⟩ := base64_eq_ok.mp hcommitment
    obtain ⟨hstringsValue, hstrings⟩ := choices_eq_ok.mp hstrings
    exact ⟨.accept hcommitment hstrings, by
      simp [hcommitmentValue, hhash, hprotocol, hcode, hstringsValue]⟩
  · rintro ⟨h, hholds⟩
    cases h with
    | accept hcommitment hstrings =>
      simp only [holds_cons, holds_nil, and_true] at hholds
      obtain ⟨hcommitmentValue, hhash, hprotocol, hcode, hstringsValue⟩ := hholds
      refine bind_eq_ok.mpr ⟨(), ?_, ?_⟩
      · simp only [require_eq_ok, Bool.and_eq_true, decide_eq_true_eq, text?_eq_some]
        exact ⟨⟨hhash, hprotocol⟩, hcode⟩
      refine bind_eq_ok.mpr ⟨_, base64_eq_ok.mpr ⟨hcommitmentValue, hcommitment⟩, ?_⟩
      exact bind_eq_ok.mpr ⟨_, choices_eq_ok.mpr ⟨hstringsValue, hstrings⟩, rfl⟩

/-- **Which fields a key has.** -/
theorem parseFields_key : parseFields .key raw scope = .ok rest ↔
    FieldsOf scope .key rest ∧ Holds raw rest := by
  constructor
  · intro h
    obtain ⟨key, hkey, h⟩ := bind_eq_ok.mp h
    cases h
    obtain ⟨hvalue, hkey⟩ := base64_eq_ok.mp hkey
    exact ⟨.key hkey, by simp [hvalue]⟩
  · rintro ⟨h, hholds⟩
    cases h with
    | key hkey =>
      simp only [holds_cons, holds_nil, and_true] at hholds
      exact bind_eq_ok.mpr ⟨_, base64_eq_ok.mpr ⟨hholds, hkey⟩, rfl⟩

/-- **Which fields a cancellation has.** -/
theorem parseFields_cancel : parseFields .cancel raw scope = .ok rest ↔
    FieldsOf scope .cancel rest ∧ Holds raw rest := by
  constructor
  · intro h
    obtain ⟨code, hcode, h⟩ := bind_eq_ok.mp h
    obtain ⟨_, hknown, h⟩ := bind_eq_ok.mp h
    obtain ⟨reason, hreason, h⟩ := bind_eq_ok.mp h
    obtain ⟨_, htext, h⟩ := bind_eq_ok.mp h
    cases h
    simp only [require_eq_ok, Bool.and_eq_true, decide_eq_true_eq, wellFormed_iff,
      Bool.not_eq_true', List.any_eq_false, Bool.not_eq_true] at htext
    obtain ⟨⟨⟨⟨hnonempty, hunits⟩, hbytes⟩, hwellFormed⟩, hplain⟩ := htext
    refine ⟨.cancel (List.contains_iff_mem.mp (require_eq_ok.mp hknown))
      ⟨hnonempty, hunits, hbytes, hwellFormed, hplain⟩, ?_⟩
    simp [text?_eq_some.mp (orThrow_eq_ok.mp hcode), text?_eq_some.mp (orThrow_eq_ok.mp hreason)]
  · rintro ⟨h, hholds⟩
    cases h with
    | cancel hcode hreason =>
      simp only [holds_cons, holds_nil, and_true] at hholds
      obtain ⟨hcodeValue, hreasonValue⟩ := hholds
      refine bind_eq_ok.mpr ⟨_, orThrow_eq_ok.mpr (text?_eq_some.mpr hcodeValue), ?_⟩
      refine bind_eq_ok.mpr ⟨(), require_eq_ok.mpr (List.contains_iff_mem.mpr hcode), ?_⟩
      refine bind_eq_ok.mpr ⟨_, orThrow_eq_ok.mpr (text?_eq_some.mpr hreasonValue), ?_⟩
      refine bind_eq_ok.mpr ⟨(), ?_, rfl⟩
      simp only [require_eq_ok, Bool.and_eq_true, decide_eq_true_eq, wellFormed_iff,
        Bool.not_eq_true', List.any_eq_false, Bool.not_eq_true]
      exact ⟨⟨⟨⟨hreason.nonempty, hreason.units⟩, hreason.bytes⟩, hreason.wellFormed⟩,
        hreason.plain⟩

/-! ## The MACs -/

/-- One turn of the loop reads the text of a key. -/
theorem parseMac_turn {mac : List (JsString × Json)} {key : JsString}
    {entry : JsString × JsString} :
    (do
      let text ← base64 (Json.get? key mac) "MATRIX_SAS_MAC_INVALID"
      return (key, text) : Except ErrorCode (JsString × JsString)) = .ok entry ↔
      entry.1 = key ∧ Json.get? key mac = some (.str entry.2) ∧ IsBase64Of 32 entry.2 := by
  constructor
  · intro h
    obtain ⟨text, htext, h⟩ := bind_eq_ok.mp h
    cases h
    exact ⟨rfl, base64_eq_ok.mp htext⟩
  · rintro ⟨rfl, htext⟩
    exact bind_eq_ok.mpr ⟨entry.2, base64_eq_ok.mpr htext, rfl⟩

/-- The turns list the members that are looked up. -/
theorem listed_of_turns {own members : List (JsString × Json)} {mac : List (JsString × JsString)}
    (hturns : List.Forall₂ (fun (member : JsString × Json) (entry : JsString × JsString) =>
      entry.1 = member.1 ∧ Json.get? member.1 own = some (.str entry.2) ∧
        IsBase64Of 32 entry.2) members mac)
    (hmembers : ∀ member ∈ members, Json.get? member.1 own = some member.2) :
    members = mac.map (fun entry => (entry.1, Json.str entry.2)) ∧
      ∀ entry ∈ mac, IsBase64Of 32 entry.2 := by
  induction hturns with
  | nil => exact ⟨rfl, nofun⟩
  | @cons member entry members mac hturn _ ih =>
    obtain ⟨hkey, hget, htext⟩ := hturn
    obtain ⟨hrest, htexts⟩ := ih fun other hother =>
      hmembers other (List.mem_cons_of_mem _ hother)
    rw [hmembers member List.mem_cons_self] at hget
    have hmember : member = (entry.1, Json.str entry.2) :=
      Prod.ext hkey.symm (Option.some.inj hget)
    refine ⟨by rw [List.map_cons, ← hmember, ← hrest], fun other hother => ?_⟩
    rcases List.mem_cons.mp hother with rfl | hother
    · exact htext
    · exact htexts other hother

/-- There are two signers at most. -/
theorem MacOf.length_le {mac : List (JsString × JsString)} (h : MacOf scope mac) :
    (mac.map Prod.fst).length ≤ 2 :=
  (List.subperm_of_subset h.nodup h.subset).length_le

/-- **The MACs of an object with each key once**, in its order. -/
theorem parseMac_eq_ok {mac : List (JsString × JsString)}
    (hdistinct : ∀ found, value = some found → found.Distinct) :
    parseMac value scope = .ok mac ↔ value = some (macJson mac) ∧ MacOf scope mac := by
  constructor
  · intro h
    obtain ⟨own, hown, h⟩ := bind_eq_ok.mp h
    obtain ⟨_, hfields, h⟩ := bind_eq_ok.mp h
    obtain ⟨found, hfound, h⟩ := bind_eq_ok.mp h
    obtain rfl := ownEntries_eq_ok.mp hown
    have hnodup : (own.map Prod.fst).Nodup := (hdistinct _ rfl).1
    obtain ⟨hsame, -⟩ := (record_eq_ok hnodup).mp hfound
    obtain rfl : own = found := by simpa using hsame
    simp only [require_eq_ok, Bool.and_eq_true, decide_eq_true_eq, List.contains_iff_mem,
      List.all_eq_true, Bool.or_eq_true] at hfields
    obtain ⟨⟨-, hdevice⟩, hkeys⟩ := hfields
    have hturns : List.Forall₂ (fun (member : JsString × Json) (entry : JsString × JsString) =>
        entry.1 = member.1 ∧ Json.get? member.1 own = some (.str entry.2) ∧
          IsBase64Of 32 entry.2) own mac :=
      List.forall₂_map_left_iff.mp ((mapM_eq_ok h).imp fun _ _ => parseMac_turn.mp)
    -- each member is the one that is looked up under its key
    have hmembers : ∀ member ∈ own, Json.get? member.1 own = some member.2 :=
      fun member hmember => get?_eq_some_of_mem hnodup hmember
    obtain ⟨hlisted, htexts⟩ := listed_of_turns hturns hmembers
    have hkeysEq : Json.keys own = mac.map Prod.fst := by
      rw [hlisted, Json.keys, List.map_map]
      rfl
    refine ⟨by rw [macJson, ← hlisted], ?_, ?_, ?_, htexts⟩
    · rw [← hkeysEq]
      exact hnodup
    · rw [← hkeysEq]
      exact hdevice
    · intro key hkey
      rw [← hkeysEq] at hkey
      simpa using hkeys key hkey
  · rintro ⟨rfl, hmac⟩
    have hkeys : Json.keys (mac.map fun entry => (entry.1, Json.str entry.2)) =
        mac.map Prod.fst := by
      rw [Json.keys, List.map_map]
      rfl
    have hlength := hmac.length_le
    have hpos := List.length_pos_of_mem hmac.device
    refine bind_eq_ok.mpr ⟨_, ownEntries_eq_ok.mpr rfl, ?_⟩
    rw [hkeys]
    refine bind_eq_ok.mpr ⟨(), ?_, ?_⟩
    · simp only [require_eq_ok, Bool.and_eq_true, decide_eq_true_eq, List.contains_iff_mem,
        List.all_eq_true, Bool.or_eq_true]
      exact ⟨⟨⟨hpos, hlength⟩, hmac.device⟩, fun key hkey => by simpa using hmac.subset hkey⟩
    refine bind_eq_ok.mpr ⟨_, (record_eq_ok hmac.nodup).mpr ⟨rfl, by rw [hkeys]⟩, ?_⟩
    refine mapM_of_forall₂ (List.forall₂_map_left_iff.mpr (List.forall₂_same.mpr ?_))
    intro entry hentry
    refine parseMac_turn.mpr ⟨rfl, ?_, hmac.texts entry hentry⟩
    refine get?_eq_some_of_mem (by rw [List.map_map]; exact hmac.nodup) ?_
    exact List.mem_map.mpr ⟨entry, hentry, rfl⟩

/-- **Which fields a code has.** -/
theorem parseFields_mac (hdistinct : DistinctEntries raw) :
    parseFields .mac raw scope = .ok rest ↔ FieldsOf scope .mac rest ∧ Holds raw rest := by
  have hmacDistinct : ∀ found, Json.get? (js "mac") raw = some found → found.Distinct :=
    fun found hfound => hdistinct.get? hfound
  constructor
  · intro h
    obtain ⟨mac, hmac, h⟩ := bind_eq_ok.mp h
    obtain ⟨keys, hkeys, h⟩ := bind_eq_ok.mp h
    cases h
    obtain ⟨hmacValue, hmac⟩ := (parseMac_eq_ok hmacDistinct).mp hmac
    obtain ⟨hkeysValue, hkeys⟩ := base64_eq_ok.mp hkeys
    exact ⟨.mac hmac hkeys, by simp [hmacValue, hkeysValue]⟩
  · rintro ⟨h, hholds⟩
    cases h with
    | mac hmac hkeys =>
      simp only [holds_cons, holds_nil, and_true] at hholds
      obtain ⟨hmacValue, hkeysValue⟩ := hholds
      refine bind_eq_ok.mpr ⟨_, (parseMac_eq_ok hmacDistinct).mpr ⟨hmacValue, hmac⟩, ?_⟩
      exact bind_eq_ok.mpr ⟨_, base64_eq_ok.mpr ⟨hkeysValue, hkeys⟩, rfl⟩

/-! ## The content -/

/-- **Every kind takes the members of its grammar.** -/
theorem parseFields_eq_ok {kind : Verification} (hdistinct : DistinctEntries raw) :
    parseFields kind raw scope = .ok rest ↔ FieldsOf scope kind rest ∧ Holds raw rest := by
  cases kind with
  | request => exact parseFields_request
  | ready => exact parseFields_ready
  | start => exact parseFields_start
  | accept => exact parseFields_accept
  | key => exact parseFields_key
  | mac => exact parseFields_mac hdistinct
  | done =>
    constructor
    · intro h
      cases h
      exact ⟨.done, holds_nil⟩
    · rintro ⟨h, -⟩
      cases h
      rfl
  | cancel => exact parseFields_cancel

/-- **The content of an event**: the transaction id and the members of the grammar. -/
def ContentOf (scope : MatrixSasExpectation) (kind : Verification)
    (content : List (JsString × Json)) : Prop :=
  ∃ rest, FieldsOf scope kind rest ∧
    content = (js "transaction_id", .str scope.flowId) :: rest

/-- A content has the fields of its kind. -/
theorem ContentOf.keys {kind : Verification} (h : ContentOf scope kind content) :
    kind.fields.Perm (content.map Prod.fst) := by
  obtain ⟨rest, hrest, rfl⟩ := h
  exact hrest.keys

/-- Each of them once. -/
theorem ContentOf.nodup {kind : Verification} (h : ContentOf scope kind content) :
    (content.map Prod.fst).Nodup :=
  h.keys.nodup_iff.mp kind.fields_nodup

/-- **`parseContent` takes the members in any order**, and gives them in its own. -/
theorem parseContent_eq_ok {kind : Verification}
    (hdistinct : ∀ found, value = some found → found.Distinct) :
    parseContent kind value scope = .ok content ↔ ContentOf scope kind content ∧
      ∃ raw, value = some (.obj raw) ∧ raw.Perm content := by
  constructor
  · intro h
    obtain ⟨raw, hraw, h⟩ := bind_eq_ok.mp h
    obtain ⟨_, hflow, h⟩ := bind_eq_ok.mp h
    obtain ⟨rest, hrest, h⟩ := bind_eq_ok.mp h
    cases h
    obtain ⟨rfl, hkeys⟩ := (record_eq_ok kind.fields_nodup).mp hraw
    obtain ⟨hfields, hholds⟩ := (parseFields_eq_ok (hdistinct _ rfl).2).mp hrest
    have hflow := text?_eq_some.mp (of_decide_eq_true (require_eq_ok.mp hflow))
    have hcontent : ContentOf scope kind ((js "transaction_id", .str scope.flowId) :: rest) :=
      ⟨rest, hfields, rfl⟩
    refine ⟨hcontent, raw, rfl, (perm_iff_get? hcontent.nodup).mpr ⟨?_, ?_⟩⟩
    · exact hcontent.keys.symm.trans hkeys
    · exact holds_cons.mpr ⟨hflow, hholds⟩
  · rintro ⟨hcontent, raw, rfl, hperm⟩
    obtain ⟨hkeys, hmembers⟩ := (perm_iff_get? hcontent.nodup).mp hperm
    have hfields := hcontent.keys
    obtain ⟨rest, hrest, rfl⟩ := hcontent
    obtain ⟨hflow, hholds⟩ := holds_cons.mp hmembers
    refine bind_eq_ok.mpr ⟨raw, (record_eq_ok kind.fields_nodup).mpr
      ⟨rfl, hfields.trans hkeys⟩, ?_⟩
    refine bind_eq_ok.mpr ⟨(), require_eq_ok.mpr (decide_eq_true (text?_eq_some.mpr hflow)), ?_⟩
    exact bind_eq_ok.mpr ⟨rest, (parseFields_eq_ok (hdistinct _ rfl).2).mpr ⟨hrest, hholds⟩, rfl⟩

end SasToDevice

end SinoChat
