import SinoChat.CrossSigning.SignedObjects

/-!
# The device object of the cross-signing parser

Its readers take exactly the values that are, up to the order of keys, the object
they build: signatures of given keys (`parseSignatures_eq_ok`) and the device keys
(`parseDevice_eq_ok`).
-/

namespace SinoChat

open Js

namespace CrossSigning

theorem exactRecord_eq_ok_iff {value : Option Json} {expected : List JsString}
    {entries : List (JsString × Json)} (hfew : expected.length ≤ 8) :
    exactRecord value expected = .ok entries ↔
      value = some (.obj entries) ∧ Json.exactKeys entries expected = true := by
  have hkeys : ((Json.keys entries).length = expected.length &&
      expected.all (Json.hasOwn entries)) = Json.exactKeys entries expected := by
    rw [Json.exactKeys]
    congr 1
  constructor
  · intro h
    obtain ⟨input, hinput, h⟩ := bind_eq_ok.mp h
    obtain ⟨_, hexact, h⟩ := bind_eq_ok.mp h
    cases h
    obtain ⟨found, hfound, h⟩ := bind_eq_ok.mp hinput
    obtain ⟨_, -, h⟩ := bind_eq_ok.mp h
    cases h
    refine ⟨record?_eq_some.mp (orThrow_eq_ok.mp hfound), ?_⟩
    rw [← hkeys]
    exact require_eq_ok.mp hexact
  · rintro ⟨rfl, hexact⟩
    have hlength : (Json.keys entries).length = expected.length :=
      beq_iff_eq.mp (Bool.and_eq_true_iff.mp hexact).1
    refine bind_eq_ok.mpr ⟨entries, bind_eq_ok.mpr ⟨entries, rfl, bind_eq_ok.mpr ⟨(), ?_, rfl⟩⟩,
      bind_eq_ok.mpr ⟨(), ?_, rfl⟩⟩
    · exact require_eq_ok.mpr (decide_eq_true (by omega))
    · exact require_eq_ok.mpr (hkeys.trans hexact)

theorem exactArray_eq_ok {value : Option Json} {texts : List JsString} {u : Unit} :
    exactArray value texts = .ok u ↔ value = some (.arr (texts.map .str)) := by
  rw [← texts_eq_some, exactArray, bind_eq_ok]
  simp only [orThrow_eq_ok, require_eq_ok, decide_eq_true_eq, Option.bind_eq_some_iff]

/-! ## Signatures -/

theorem readSignatures_eq_ok {signer : List (JsString × Json)} {keyIds : List JsString}
    {signatures : Signatures} : readSignatures signer keyIds = .ok signatures ↔
      signatures.map Prod.fst = keyIds ∧ ∀ entry ∈ signatures,
        Json.get? entry.1 signer = some (.str entry.2) ∧ IsBase64Of 64 entry.2 := by
  induction keyIds generalizing signatures with
  | nil =>
    constructor
    · intro h
      cases h
      exact ⟨rfl, by simp⟩
    · rintro ⟨hnil, -⟩
      obtain rfl := List.map_eq_nil_iff.mp hnil
      rfl
  | cons keyId rest ih =>
    constructor
    · intro h
      obtain ⟨text, htext, h⟩ := bind_eq_ok.mp h
      obtain ⟨others, hothers, h⟩ := bind_eq_ok.mp h
      cases h
      obtain ⟨hkeys, hall⟩ := ih.mp hothers
      refine ⟨by rw [List.map_cons, hkeys], fun entry hentry => ?_⟩
      rcases List.mem_cons.mp hentry with rfl | hentry
      · exact base64_eq_ok_iff.mp htext
      · exact hall entry hentry
    · rintro ⟨hkeys, hall⟩
      cases signatures with
      | nil => cases hkeys
      | cons entry others =>
        obtain ⟨rfl, hrest⟩ := List.cons.inj hkeys
        refine bind_eq_ok.mpr ⟨entry.2, base64_eq_ok_iff.mpr (hall entry List.mem_cons_self), ?_⟩
        exact bind_eq_ok.mpr ⟨others, ih.mpr ⟨hrest, fun other hother =>
          hall other (List.mem_cons_of_mem _ hother)⟩, rfl⟩

/-- **The signatures of given keys.** -/
theorem parseSignatures_eq_ok {value : Option Json} {userId : JsString} {keyIds : List JsString}
    {signatures : Signatures} (hnodup : keyIds.Nodup) (hfew : keyIds.length ≤ 8) :
    parseSignatures value userId keyIds = .ok signatures ↔
      signatures.map Prod.fst = keyIds ∧ (∀ entry ∈ signatures, IsBase64Of 64 entry.2) ∧
        ∃ found, value = some found ∧ Same found (signaturesJson userId signatures) := by
  have hmembers : ∀ signatures : Signatures,
      (signatures.map fun entry => (entry.1, Json.str entry.2)).map Prod.fst =
        signatures.map Prod.fst := fun signatures => by
    rw [List.map_map]
    rfl
  constructor
  · intro h
    obtain ⟨users, husers, h⟩ := bind_eq_ok.mp h
    obtain ⟨signer, hsigner, h⟩ := bind_eq_ok.mp h
    obtain ⟨hvalue, husersKeys⟩ := (exactRecord_eq_ok_iff (by simp)).mp husers
    obtain ⟨hown, hsignerKeys⟩ := (exactRecord_eq_ok_iff hfew).mp hsigner
    obtain ⟨hkeys, hall⟩ := readSignatures_eq_ok.mp h
    refine ⟨hkeys, fun entry hentry => (hall entry hentry).2, .obj users, hvalue, ?_⟩
    refine same_single_iff.mpr ⟨users, .obj signer, rfl, husersKeys, hown, ?_⟩
    refine (same_obj_iff (by rw [hmembers, hkeys]; exact hnodup)).mpr ⟨signer, rfl, ?_, ?_⟩
    · rw [hmembers, hkeys]
      exact hsignerKeys
    · intro member hmember
      obtain ⟨entry, hentry, rfl⟩ := List.mem_map.mp hmember
      exact ⟨.str entry.2, (hall entry hentry).1, same_str_iff.mpr rfl⟩
  · rintro ⟨hkeys, hall, found, rfl, hsame⟩
    obtain ⟨users, own, rfl, husersKeys, hown, hsame⟩ := same_single_iff.mp hsame
    obtain ⟨signer, rfl, hsignerKeys, hmember⟩ :=
      (same_obj_iff (by rw [hmembers, hkeys]; exact hnodup)).mp hsame
    rw [hmembers, hkeys] at hsignerKeys
    refine bind_eq_ok.mpr ⟨users, (exactRecord_eq_ok_iff (by simp)).mpr ⟨rfl, husersKeys⟩, ?_⟩
    refine bind_eq_ok.mpr ⟨signer, (exactRecord_eq_ok_iff hfew).mpr ⟨hown, hsignerKeys⟩, ?_⟩
    refine readSignatures_eq_ok.mpr ⟨hkeys, fun entry hentry => ⟨?_, hall entry hentry⟩⟩
    obtain ⟨found, hfound, hvalue⟩ := hmember _ (List.mem_map.mpr ⟨entry, hentry, rfl⟩)
    rw [hfound, same_str_iff.mp hvalue]

/-! ## Device keys -/

theorem ed25519KeyId_ne (deviceId : JsString) : ed25519KeyId deviceId ≠ curve25519KeyId deviceId := by
  intro h
  exact absurd (List.cons.inj h).1 (by decide)

/-- The public keys of a device, up to the order of keys. -/
theorem same_keysJson_iff {value : Json} {device : MatrixDeviceKeys} :
    Same value (.obj [(ed25519KeyId device.deviceId, .str device.ed25519),
        (curve25519KeyId device.deviceId, .str device.curve25519)]) ↔
      ∃ keys, value = .obj keys ∧ Json.exactKeys keys
          [ed25519KeyId device.deviceId, curve25519KeyId device.deviceId] = true ∧
        Json.get? (ed25519KeyId device.deviceId) keys = some (.str device.ed25519) ∧
        Json.get? (curve25519KeyId device.deviceId) keys = some (.str device.curve25519) := by
  have hnodup : ([(ed25519KeyId device.deviceId, Json.str device.ed25519),
      (curve25519KeyId device.deviceId, .str device.curve25519)].map Prod.fst).Nodup := by
    simp [ed25519KeyId_ne]
  rw [same_obj_iff hnodup]
  simp

theorem deviceJson_nodup (device : MatrixDeviceKeys) : ((device.core ++
    [(js "signatures", signaturesJson device.userId device.signatures)]).map Prod.fst).Nodup := by
  simp only [MatrixDeviceKeys.core, List.cons_append, List.nil_append, List.map_cons, List.map_nil]
  decide

/-- The members of a value that is the object of device keys, up to the order of keys. -/
theorem same_deviceJson_iff {value : Json} {device : MatrixDeviceKeys} :
    Same value device.toJson ↔ ∃ input, value = .obj input ∧
      Json.exactKeys input
        [js "algorithms", js "device_id", js "keys", js "signatures", js "user_id"] = true ∧
      Json.get? (js "user_id") input = some (.str device.userId) ∧
      Json.get? (js "device_id") input = some (.str device.deviceId) ∧
      Json.get? (js "algorithms") input =
        some (.arr ([matrixOlmAlgorithm, matrixMegolmAlgorithm].map .str)) ∧
      (∃ keys, Json.get? (js "keys") input = some keys ∧
        Same keys (.obj [(ed25519KeyId device.deviceId, .str device.ed25519),
          (curve25519KeyId device.deviceId, .str device.curve25519)])) ∧
      (∃ signatures, Json.get? (js "signatures") input = some signatures ∧
        Same signatures (signaturesJson device.userId device.signatures)) := by
  have halgorithms : ∀ found, Same found (.arr [.str matrixOlmAlgorithm, .str matrixMegolmAlgorithm]) ↔
      found = .arr [.str matrixOlmAlgorithm, .str matrixMegolmAlgorithm] :=
    fun found => @same_texts_iff found [matrixOlmAlgorithm, matrixMegolmAlgorithm]
  have hperm : [js "user_id", js "device_id", js "algorithms", js "keys", js "signatures"].Perm
      [js "algorithms", js "device_id", js "keys", js "signatures", js "user_id"] := by decide
  rw [MatrixDeviceKeys.toJson, same_obj_iff (deviceJson_nodup device)]
  simp only [MatrixDeviceKeys.core, List.cons_append, List.nil_append, List.map_cons, List.map_nil,
    exactKeys_perm hperm]
  simp [halgorithms]

/-- **The device keys of a device**: values that are, up to the order of keys, the object that is
built of them. -/
theorem parseDevice_eq_ok {value : Option Json} {userId deviceId signingKeyId : JsString}
    {device : MatrixDeviceKeys} :
    parseDevice value userId deviceId signingKeyId = .ok device ↔
      DeviceParts userId deviceId signingKeyId device ∧
        ∃ found, value = some found ∧ Same found device.toJson := by
  have hsingle : ∀ {value : Option Json} {signatures : Signatures},
      parseSignatures value userId [signingKeyId] = .ok signatures ↔ _ :=
    parseSignatures_eq_ok (List.nodup_singleton signingKeyId) (by simp)
  constructor
  · intro h
    obtain ⟨input, hinput, h⟩ := bind_eq_ok.mp h
    obtain ⟨_, hids, h⟩ := bind_eq_ok.mp h
    obtain ⟨_, halgorithms, h⟩ := bind_eq_ok.mp h
    obtain ⟨keys, hkeys, h⟩ := bind_eq_ok.mp h
    obtain ⟨ed25519, hed, h⟩ := bind_eq_ok.mp h
    obtain ⟨curve25519, hcurve, h⟩ := bind_eq_ok.mp h
    obtain ⟨signatures, hsignatures, h⟩ := bind_eq_ok.mp h
    cases h
    obtain ⟨hvalue, hinputKeys⟩ := (exactRecord_eq_ok_iff (by decide)).mp hinput
    have hids' := require_eq_ok.mp hids
    simp only [Bool.and_eq_true, decide_eq_true_eq] at hids'
    obtain ⟨hkeysValue, hkeysKeys⟩ := (exactRecord_eq_ok_iff (by simp)).mp hkeys
    obtain ⟨hedValue, hedText⟩ := base64_eq_ok_iff.mp hed
    obtain ⟨hcurveValue, hcurveText⟩ := base64_eq_ok_iff.mp hcurve
    obtain ⟨hsigners, htexts, found, hfound, hsame⟩ := hsingle.mp hsignatures
    obtain ⟨⟨keyId, text⟩, rfl, rfl⟩ := List.map_eq_singleton_iff.mp hsigners
    refine ⟨⟨rfl, rfl, hedText, hcurveText, text, rfl, htexts _ (List.mem_singleton_self _)⟩,
      .obj input, hvalue, same_deviceJson_iff.mpr ⟨input, rfl, hinputKeys,
        str?_eq_some.mp hids'.1, str?_eq_some.mp hids'.2, exactArray_eq_ok.mp halgorithms,
        ⟨.obj keys, hkeysValue, ?_⟩, ⟨found, hfound, hsame⟩⟩⟩
    exact same_keysJson_iff.mpr ⟨keys, rfl, hkeysKeys, hedValue, hcurveValue⟩
  · rintro ⟨⟨rfl, rfl, hed, hcurve, text, hsignatures, htext⟩, found, rfl, hsame⟩
    obtain ⟨input, rfl, hinputKeys, huserId, hdeviceId, halgorithms, ⟨keysValue, hkeys, hkeysSame⟩,
      ⟨signaturesValue, hvalue, hsignaturesSame⟩⟩ := same_deviceJson_iff.mp hsame
    obtain ⟨keys, rfl, hkeysKeys, hedValue, hcurveValue⟩ := same_keysJson_iff.mp hkeysSame
    refine bind_eq_ok.mpr ⟨input, (exactRecord_eq_ok_iff (by decide)).mpr ⟨rfl, hinputKeys⟩, ?_⟩
    refine bind_eq_ok.mpr ⟨(), require_eq_ok.mpr ?_, ?_⟩
    · simp only [Bool.and_eq_true, decide_eq_true_eq]
      exact ⟨str?_eq_some.mpr huserId, str?_eq_some.mpr hdeviceId⟩
    refine bind_eq_ok.mpr ⟨(), exactArray_eq_ok.mpr halgorithms, ?_⟩
    refine bind_eq_ok.mpr ⟨keys, (exactRecord_eq_ok_iff (by simp)).mpr ⟨hkeys, hkeysKeys⟩, ?_⟩
    refine bind_eq_ok.mpr ⟨_, base64_eq_ok_iff.mpr ⟨hedValue, hed⟩, ?_⟩
    refine bind_eq_ok.mpr ⟨_, base64_eq_ok_iff.mpr ⟨hcurveValue, hcurve⟩, ?_⟩
    refine bind_eq_ok.mpr ⟨device.signatures, hsingle.mpr ⟨by rw [hsignatures]; rfl, ?_,
      signaturesValue, hvalue, hsignaturesSame⟩, rfl⟩
    intro entry hentry
    rw [hsignatures] at hentry
    obtain rfl := List.mem_singleton.mp hentry
    exact htext

end CrossSigning

end SinoChat
