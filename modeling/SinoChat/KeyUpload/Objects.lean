import SinoChat.CrossSigning.SignedObjects
import SinoChat.Model.KeyUpload

/-!
# The signed objects of an upload

Each reader of `matrix-key-upload.ts` takes exactly the values that are, up to the
order of keys, the object it builds: the signatures (`parseExactSignatureMap_eq_ok`),
the device keys (`parseDeviceKeys_eq_ok`) and one key of a map
(`parseCurveKey_eq_ok`). What it builds has the parts an object of its kind has.
-/

namespace SinoChat

open Js

namespace KeyUpload

open CrossSigning

variable {scheme : SignatureScheme}

/-- A record is an object. -/
theorem record_eq_ok {value : Option Json} {code : ErrorCode} {entries : List (JsString × Json)} :
    record value code = .ok entries ↔ value = some (.obj entries) := by
  rw [record, orThrow_eq_ok, record?_eq_some]

/-- It has exactly the keys expected. -/
theorem exactKeys_eq_ok {entries : List (JsString × Json)} {expected : List JsString}
    {code : ErrorCode} {u : Unit} :
    exactKeys entries expected code = .ok u ↔ Json.exactKeys entries expected = true :=
  require_eq_ok

/-- A text is canonical for its length. -/
theorem canonicalText_eq_ok {value : Option Json} {n : ℕ} {code : ErrorCode} {text : JsString} :
    canonicalText value n code = .ok text ↔ value = some (.str text) ∧ IsBase64Of n text := by
  constructor
  · intro h
    obtain ⟨found, hfound, h⟩ := bind_eq_ok.mp h
    obtain ⟨bytes, hbytes, h⟩ := bind_eq_ok.mp h
    cases h
    exact ⟨str?_eq_some.mp (orThrow_eq_ok.mp hfound), isBase64Of_of_canonicalBase64 hbytes⟩
  · rintro ⟨rfl, bytes, hbytes⟩
    exact bind_eq_ok.mpr ⟨text, rfl, bind_eq_ok.mpr ⟨bytes, canonicalBase64_eq_ok.mpr hbytes, rfl⟩⟩

/-! ## Key ids -/

/-- A key id has no colon. -/
theorem not_mem_of_isKeyId {keyId : JsString} (h : isKeyId keyId = true) : (0x3A : UInt16) ∉ keyId := by
  intro hmem
  simp only [isKeyId, run, Bool.and_eq_true] at h
  exact absurd (List.all_eq_true.mp h.2 _ hmem) (by decide)

/-- **A full key id is the name of the algorithm, a colon and a key id.** -/
theorem isFullKeyId_iff {fullKeyId : JsString} : isFullKeyId fullKeyId = true ↔
    ∃ keyId, isKeyId keyId = true ∧ fullKeyId = js "signed_curve25519:" ++ keyId := by
  have hjoin : ∀ keyId : JsString, js "signed_curve25519:" ++ keyId =
      signedCurve25519 ++ 0x3A :: keyId := fun keyId => by
    rw [List.append_cons]
    congr 1
  constructor
  · intro h
    have hback : List.intercalate [0x3A] (fullKeyId.splitOn 0x3A) = fullKeyId :=
      List.intercalate_splitOn (0x3A : UInt16)
    unfold isFullKeyId at h
    split at h
    · rename_i algorithm keyId hsplit
      simp only [Bool.and_eq_true, decide_eq_true_eq] at h
      obtain ⟨rfl, hkeyId⟩ := h
      rw [hsplit] at hback
      refine ⟨keyId, hkeyId, ?_⟩
      rw [hjoin, ← hback]
      simp [List.intercalate, List.intersperse]
    · cases h
  · rintro ⟨keyId, hkeyId, rfl⟩
    have hfirst : signedCurve25519.splitOn 0x3A = [signedCurve25519] :=
      List.splitOn_eq_singleton (by decide)
    have hsecond : keyId.splitOn 0x3A = [keyId] :=
      List.splitOn_eq_singleton (not_mem_of_isKeyId hkeyId)
    rw [isFullKeyId, hjoin, List.splitOn_append_cons_self, hfirst, hsecond]
    simp [hkeyId]

/-! ## Signatures -/

theorem signaturesJson_single (userId keyId text : JsString) :
    signaturesJson userId [(keyId, text)] = .obj [(userId, .obj [(keyId, .str text)])] := rfl

/-- **The one signature of the signer.** -/
theorem parseExactSignatureMap_eq_ok {value : Option Json} {signer keyId : JsString}
    {signatures : Signatures} :
    parseExactSignatureMap value signer keyId = .ok signatures ↔
      ∃ text, signatures = [(keyId, text)] ∧ IsBase64Of 64 text ∧
        ∃ found, value = some found ∧ Same found (signaturesJson signer signatures) := by
  constructor
  · intro h
    obtain ⟨users, husers, h⟩ := bind_eq_ok.mp h
    obtain ⟨_, husersKeys, h⟩ := bind_eq_ok.mp h
    obtain ⟨own, hown, h⟩ := bind_eq_ok.mp h
    obtain ⟨_, hownKeys, h⟩ := bind_eq_ok.mp h
    obtain ⟨text, htext, h⟩ := bind_eq_ok.mp h
    cases h
    obtain ⟨hget, hbase64⟩ := canonicalText_eq_ok.mp htext
    refine ⟨text, rfl, hbase64, .obj users, record_eq_ok.mp husers, ?_⟩
    rw [signaturesJson_single]
    refine same_single_iff.mpr ⟨users, .obj own, rfl, exactKeys_eq_ok.mp husersKeys,
      record_eq_ok.mp hown, ?_⟩
    exact same_single_iff.mpr ⟨own, .str text, rfl, exactKeys_eq_ok.mp hownKeys, hget,
      same_str_iff.mpr rfl⟩
  · rintro ⟨text, rfl, hbase64, found, rfl, hsame⟩
    rw [signaturesJson_single] at hsame
    obtain ⟨users, own, rfl, husersKeys, hown, hsame⟩ := same_single_iff.mp hsame
    obtain ⟨entries, value, rfl, hownKeys, hget, hvalue⟩ := same_single_iff.mp hsame
    obtain rfl := same_str_iff.mp hvalue
    refine bind_eq_ok.mpr ⟨users, record_eq_ok.mpr rfl, ?_⟩
    refine bind_eq_ok.mpr ⟨(), exactKeys_eq_ok.mpr husersKeys, ?_⟩
    refine bind_eq_ok.mpr ⟨entries, record_eq_ok.mpr hown, ?_⟩
    refine bind_eq_ok.mpr ⟨(), exactKeys_eq_ok.mpr hownKeys, ?_⟩
    exact bind_eq_ok.mpr ⟨text, canonicalText_eq_ok.mpr ⟨hget, hbase64⟩, rfl⟩

/-! ## Device keys -/

/-- The two keys of a device have different names. -/
theorem curve25519KeyId_ne (deviceId : JsString) :
    curve25519KeyId deviceId ≠ ed25519KeyId deviceId := by
  intro h
  exact absurd (List.cons.inj h).1 (by decide)

/-- **Which values are the public keys of a device.** -/
theorem same_publicKeysJson_iff {value : Json} {device : MatrixDeviceKeys} :
    Same value (publicKeysJson device) ↔ ∃ keys, value = .obj keys ∧
      Json.exactKeys keys [curve25519KeyId device.deviceId, ed25519KeyId device.deviceId] = true ∧
      Json.get? (curve25519KeyId device.deviceId) keys = some (.str device.curve25519) ∧
      Json.get? (ed25519KeyId device.deviceId) keys = some (.str device.ed25519) := by
  have hnodup : ([(curve25519KeyId device.deviceId, Json.str device.curve25519),
      (ed25519KeyId device.deviceId, .str device.ed25519)].map Prod.fst).Nodup := by
    simp [curve25519KeyId_ne]
  rw [publicKeysJson, same_obj_iff hnodup]
  simp

/-- The keys of a device have distinct names. -/
theorem deviceKeysJson_nodup (device : MatrixDeviceKeys) :
    ([(js "algorithms", Json.arr ([matrixOlmAlgorithm, matrixMegolmAlgorithm].map .str)),
      (js "device_id", .str device.deviceId), (js "keys", publicKeysJson device),
      (js "signatures", signaturesJson device.userId device.signatures),
      (js "user_id", .str device.userId)].map Prod.fst).Nodup := by
  simp only [List.map_cons, List.map_nil]
  decide

/-- The members of a value that is the object of device keys, up to the order of keys. -/
theorem same_deviceKeysJson_iff {value : Json} {device : MatrixDeviceKeys} :
    Same value (deviceKeysJson device) ↔ ∃ input, value = .obj input ∧
      Json.exactKeys input
        [js "algorithms", js "device_id", js "keys", js "signatures", js "user_id"] = true ∧
      Json.get? (js "algorithms") input =
        some (.arr ([matrixOlmAlgorithm, matrixMegolmAlgorithm].map .str)) ∧
      Json.get? (js "device_id") input = some (.str device.deviceId) ∧
      (∃ keys, Json.get? (js "keys") input = some keys ∧ Same keys (publicKeysJson device)) ∧
      (∃ signatures, Json.get? (js "signatures") input = some signatures ∧
        Same signatures (signaturesJson device.userId device.signatures)) ∧
      Json.get? (js "user_id") input = some (.str device.userId) := by
  have halgorithms : ∀ found, Same found (.arr [.str matrixOlmAlgorithm, .str matrixMegolmAlgorithm]) ↔
      found = .arr [.str matrixOlmAlgorithm, .str matrixMegolmAlgorithm] :=
    fun found => @same_texts_iff found [matrixOlmAlgorithm, matrixMegolmAlgorithm]
  rw [deviceKeysJson, same_obj_iff (deviceKeysJson_nodup device)]
  simp [halgorithms]

/-- **The device keys of a device**: values that are, up to the order of keys, the object that is
built of them. -/
theorem parseDeviceKeys_eq_ok {value : Option Json} {userId deviceId : JsString}
    {device : MatrixDeviceKeys} :
    parseDeviceKeys value userId deviceId = .ok device ↔
      DeviceParts userId deviceId (ed25519KeyId deviceId) device ∧
        ∃ found, value = some found ∧ Same found (deviceKeysJson device) := by
  constructor
  · intro h
    obtain ⟨input, hinput, h⟩ := bind_eq_ok.mp h
    obtain ⟨_, hinputKeys, h⟩ := bind_eq_ok.mp h
    obtain ⟨_, hids, h⟩ := bind_eq_ok.mp h
    obtain ⟨_, halgorithms, h⟩ := bind_eq_ok.mp h
    obtain ⟨keys, hkeys, h⟩ := bind_eq_ok.mp h
    obtain ⟨_, hkeysKeys, h⟩ := bind_eq_ok.mp h
    obtain ⟨curve25519, hcurve, h⟩ := bind_eq_ok.mp h
    obtain ⟨ed25519, hed, h⟩ := bind_eq_ok.mp h
    obtain ⟨signatures, hsignatures, h⟩ := bind_eq_ok.mp h
    cases h
    obtain ⟨hcurveValue, hcurveText⟩ := canonicalText_eq_ok.mp hcurve
    obtain ⟨hedValue, hedText⟩ := canonicalText_eq_ok.mp hed
    obtain ⟨text, rfl, htext, found, hfound, hsame⟩ := parseExactSignatureMap_eq_ok.mp hsignatures
    have hids' := require_eq_ok.mp hids
    simp only [Bool.and_eq_true, decide_eq_true_eq] at hids'
    refine ⟨⟨rfl, rfl, hedText, hcurveText, text, rfl, htext⟩, .obj input,
      record_eq_ok.mp hinput, same_deviceKeysJson_iff.mpr ⟨input, rfl, exactKeys_eq_ok.mp hinputKeys,
        texts_eq_some.mp (of_decide_eq_true (require_eq_ok.mp halgorithms)),
        str?_eq_some.mp hids'.2, ⟨.obj keys, record_eq_ok.mp hkeys, ?_⟩, ⟨found, hfound, hsame⟩,
        str?_eq_some.mp hids'.1⟩⟩
    exact same_publicKeysJson_iff.mpr ⟨keys, rfl, exactKeys_eq_ok.mp hkeysKeys, hcurveValue, hedValue⟩
  · rintro ⟨⟨rfl, rfl, hed, hcurve, text, hsignatures, htext⟩, found, rfl, hsame⟩
    obtain ⟨input, rfl, hinputKeys, halgorithms, hdeviceId, ⟨keysValue, hkeys, hkeysSame⟩,
      ⟨signaturesValue, hvalue, hsignaturesSame⟩, huserId⟩ := same_deviceKeysJson_iff.mp hsame
    obtain ⟨keys, rfl, hkeysKeys, hcurveValue, hedValue⟩ := same_publicKeysJson_iff.mp hkeysSame
    refine bind_eq_ok.mpr ⟨input, record_eq_ok.mpr rfl, ?_⟩
    refine bind_eq_ok.mpr ⟨(), exactKeys_eq_ok.mpr hinputKeys, ?_⟩
    refine bind_eq_ok.mpr ⟨(), require_eq_ok.mpr ?_, ?_⟩
    · simp only [Bool.and_eq_true, decide_eq_true_eq]
      exact ⟨str?_eq_some.mpr huserId, str?_eq_some.mpr hdeviceId⟩
    refine bind_eq_ok.mpr ⟨(), require_eq_ok.mpr ?_, ?_⟩
    · exact decide_eq_true (texts_eq_some.mpr halgorithms)
    refine bind_eq_ok.mpr ⟨keys, record_eq_ok.mpr hkeys, ?_⟩
    refine bind_eq_ok.mpr ⟨(), exactKeys_eq_ok.mpr hkeysKeys, ?_⟩
    refine bind_eq_ok.mpr ⟨_, canonicalText_eq_ok.mpr ⟨hcurveValue, hcurve⟩, ?_⟩
    refine bind_eq_ok.mpr ⟨_, canonicalText_eq_ok.mpr ⟨hedValue, hed⟩, ?_⟩
    exact bind_eq_ok.mpr ⟨_, parseExactSignatureMap_eq_ok.mpr ⟨text, hsignatures, htext, _, hvalue,
      hsignaturesSame⟩, rfl⟩

/-! ## Keys of a map -/

/-- A key of a map, as it is built of an entry of it. -/
structure CurveKeyOf (scheme : SignatureScheme) (fallback : Bool)
    (userId deviceId ed25519PublicKey : JsString) (entry : JsString × Json)
    (parsed : JsString × MatrixSignedCurveKey) : Prop where
  fullKeyId : parsed.1 = entry.1 ∧
    ∃ keyId, isKeyId keyId = true ∧ entry.1 = js "signed_curve25519:" ++ keyId
  fallback : parsed.2.fallback = fallback
  key : IsBase64Of 32 parsed.2.key
  signed : ∃ text, parsed.2.signatures = [(ed25519KeyId deviceId, text)] ∧
    Verifies scheme parsed.2.core text ed25519PublicKey
  value : Same entry.2 (parsed.2.toJson userId)

/-- The members of a value that is the object of such a key, up to the order of keys. -/
theorem same_curveKeyJson_iff {value : Json} {userId : JsString} {key : MatrixSignedCurveKey} :
    Same value (key.toJson userId) ↔ ∃ input, value = .obj input ∧
      Json.exactKeys input (curveKeyKeys key.fallback) = true ∧
      Json.get? (js "key") input = some (.str key.key) ∧
      (∃ signatures, Json.get? (js "signatures") input = some signatures ∧
        Same signatures (signaturesJson userId key.signatures)) ∧
      (key.fallback = true → Json.get? (js "fallback") input = some (.bool true)) := by
  obtain ⟨key, fallback, signatures⟩ := key
  cases fallback with
  | true =>
    have hnodup : ([(js "key", Json.str key), (js "signatures", signaturesJson userId signatures),
        (js "fallback", .bool true)].map Prod.fst).Nodup := by
      simp only [List.map_cons, List.map_nil]
      decide
    have hperm : [js "key", js "signatures", js "fallback"].Perm (curveKeyKeys true) := by decide
    simp only [MatrixSignedCurveKey.toJson, if_true]
    rw [same_obj_iff hnodup]
    simp only [List.map_cons, List.map_nil, exactKeys_perm hperm]
    simp
  | false =>
    have hnodup : ([(js "key", Json.str key),
        (js "signatures", signaturesJson userId signatures)].map Prod.fst).Nodup := by
      simp only [List.map_cons, List.map_nil]
      decide
    simp only [MatrixSignedCurveKey.toJson]
    rw [if_neg Bool.false_ne_true, same_obj_iff hnodup]
    simp [curveKeyKeys]

/-- **A key of a map**: an entry with a full key id and, up to the order of keys, the object that
is built of it, which is signed. -/
theorem parseCurveKey_eq_ok {fallback : Bool} {userId deviceId ed25519PublicKey : JsString}
    {entry : JsString × Json} {parsed : JsString × MatrixSignedCurveKey} :
    parseCurveKey scheme fallback userId deviceId ed25519PublicKey entry = .ok parsed ↔
      CurveKeyOf scheme fallback userId deviceId ed25519PublicKey entry parsed := by
  constructor
  · intro h
    obtain ⟨_, hkeyId, h⟩ := bind_eq_ok.mp h
    obtain ⟨input, hinput, h⟩ := bind_eq_ok.mp h
    obtain ⟨_, hkeys, h⟩ := bind_eq_ok.mp h
    obtain ⟨_, hflag, h⟩ := bind_eq_ok.mp h
    obtain ⟨key, hkey, h⟩ := bind_eq_ok.mp h
    obtain ⟨signatures, hsignatures, h⟩ := bind_eq_ok.mp h
    obtain ⟨_, hverified, h⟩ := bind_eq_ok.mp h
    cases h
    obtain ⟨hkeyValue, hkeyText⟩ := canonicalText_eq_ok.mp hkey
    obtain ⟨text, rfl, -, hfound⟩ := parseExactSignatureMap_eq_ok.mp hsignatures
    refine ⟨⟨rfl, isFullKeyId_iff.mp (require_eq_ok.mp hkeyId)⟩, rfl, hkeyText,
      ⟨text, rfl, verify_single_eq_ok.mp hverified⟩, ?_⟩
    refine same_curveKeyJson_iff.mpr ⟨input, Option.some.inj (record_eq_ok.mp hinput),
      exactKeys_eq_ok.mp hkeys, hkeyValue, hfound, fun hfallback => ?_⟩
    have hflag' := require_eq_ok.mp hflag
    have hfallback' : fallback = true := hfallback
    rw [hfallback', Bool.not_true, Bool.false_or, isTrue_iff] at hflag'
    exact hflag'
  · obtain ⟨fullKeyId, value⟩ := entry
    obtain ⟨fullKeyId', key, fallback', signatures⟩ := parsed
    rintro ⟨⟨hid, hkeyId⟩, hfallback, hkey, ⟨text, hsignatures, hverified⟩, hvalue⟩
    obtain rfl : fullKeyId' = fullKeyId := hid
    obtain rfl : fallback' = fallback := hfallback
    obtain rfl : signatures = [(ed25519KeyId deviceId, text)] := hsignatures
    obtain ⟨input, rfl, hkeys, hkeyValue, hfound, hflag⟩ := same_curveKeyJson_iff.mp hvalue
    refine bind_eq_ok.mpr ⟨(), require_eq_ok.mpr (isFullKeyId_iff.mpr hkeyId), ?_⟩
    refine bind_eq_ok.mpr ⟨input, record_eq_ok.mpr rfl, ?_⟩
    refine bind_eq_ok.mpr ⟨(), exactKeys_eq_ok.mpr hkeys, ?_⟩
    refine bind_eq_ok.mpr ⟨(), require_eq_ok.mpr ?_, ?_⟩
    · cases fallback' with
      | false => rfl
      | true => exact isTrue_iff.mpr (hflag rfl)
    refine bind_eq_ok.mpr ⟨key, canonicalText_eq_ok.mpr ⟨hkeyValue, hkey⟩, ?_⟩
    refine bind_eq_ok.mpr ⟨_, parseExactSignatureMap_eq_ok.mpr ⟨text, rfl, hverified.signature,
      hfound⟩, ?_⟩
    exact bind_eq_ok.mpr ⟨(), verify_single_eq_ok.mpr hverified, rfl⟩

/-- What the object of a map may be: an object, or nothing, which counts as an empty one. -/
inductive EntriesOf : Option Json → List (JsString × Json) → Prop
  | absent : EntriesOf none []
  | null : EntriesOf (some .null) []
  | object (input : List (JsString × Json)) : EntriesOf (some (.obj input)) input

/-- An absent map is an empty one. -/
theorem entriesOf_iff {value : Option Json} {input : List (JsString × Json)} {code : ErrorCode} :
    record (some (orEmpty value)) code = .ok input ↔ EntriesOf value input := by
  rw [record_eq_ok]
  constructor
  · intro h
    rcases value with _ | _ | _ | _ | _ | _ | _
    · cases h
      exact .absent
    · cases h
      exact .null
    · cases h
    · cases h
    · cases h
    · cases h
    · cases h
      exact .object input
  · rintro (_ | _ | _)
    · rfl
    · rfl
    · rfl

/-- A map of keys, with at most so many of them. -/
def CurveKeyMapOf (scheme : SignatureScheme) (fallback : Bool)
    (userId deviceId ed25519PublicKey : JsString) (maximumEntries : ℕ) (value : Option Json)
    (keys : List (JsString × MatrixSignedCurveKey)) : Prop :=
  ∃ input, EntriesOf value input ∧ input.length ≤ maximumEntries ∧
    List.Forall₂ (CurveKeyOf scheme fallback userId deviceId ed25519PublicKey) input keys

/-- **Which values are a map of signed keys.** -/
theorem parseCurveKeyMap_eq_ok {fallback : Bool} {userId deviceId ed25519PublicKey : JsString}
    {maximumEntries : ℕ} {value : Option Json} {keys : List (JsString × MatrixSignedCurveKey)} :
    parseCurveKeyMap scheme (orEmpty value) fallback userId deviceId ed25519PublicKey
        maximumEntries = .ok keys ↔
      CurveKeyMapOf scheme fallback userId deviceId ed25519PublicKey maximumEntries value keys := by
  constructor
  · intro h
    obtain ⟨input, hinput, h⟩ := bind_eq_ok.mp h
    obtain ⟨_, hlength, h⟩ := bind_eq_ok.mp h
    refine ⟨input, entriesOf_iff.mp hinput, of_decide_eq_true (require_eq_ok.mp hlength), ?_⟩
    exact (mapM_eq_ok h).imp fun _ _ => parseCurveKey_eq_ok.mp
  · rintro ⟨input, hinput, hlength, hkeys⟩
    refine bind_eq_ok.mpr ⟨input, entriesOf_iff.mpr hinput, ?_⟩
    refine bind_eq_ok.mpr ⟨(), require_eq_ok.mpr (decide_eq_true hlength), ?_⟩
    exact mapM_of_forall₂ (hkeys.imp fun _ _ => parseCurveKey_eq_ok.mpr)

end KeyUpload

end SinoChat
