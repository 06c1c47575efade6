import SinoChat.KeyUpload.Objects

/-!
# The language of uploads

`Accepts` says what an upload of a device is, without the parser: the maps a body may
have, the keys that are signed and by which key, and which of them must differ. The
parser accepts those bodies with that result, and refuses every other value
(`parseMatrixKeyUpload_exact`).
-/

namespace SinoChat

open Js

namespace KeyUpload

open CrossSigning

variable {scheme : SignatureScheme}

/-- The device keys of a body: absent, or signed by their own Ed25519 key. -/
def DeviceKeysOf (scheme : SignatureScheme) (userId deviceId : JsString) (value : Option Json)
    (deviceKeys : Option MatrixDeviceKeys) : Prop :=
  (value = none ∧ deviceKeys = none) ∨
    ∃ found device, value = some found ∧ deviceKeys = some device ∧
      DeviceParts userId deviceId (ed25519KeyId deviceId) device ∧ Same found (deviceKeysJson device) ∧
      ∃ text, device.signatures = [(ed25519KeyId deviceId, text)] ∧
        Verifies scheme (deviceKeysCore device) text device.ed25519

/-- **What an upload is**: of a body, with `publicKey` the Ed25519 key of the device. -/
structure Accepts (scheme : SignatureScheme) (value : Json) (expected : MatrixKeyUploadExpectation)
    (body : List (JsString × Json)) (publicKey : JsString) (upload : MatrixKeyUpload) : Prop where
  /-- The ids are those of a user and a device. -/
  ids : isMatrixUserId expected.userId = true ∧ isMatrixDeviceId expected.deviceId = true
  object : value = .obj body
  fields : ∀ key ∈ Json.keys body,
    key ∈ [js "device_keys", js "fallback_keys", js "one_time_keys"]
  deviceKeys : DeviceKeysOf scheme expected.userId expected.deviceId
    (Json.get? (js "device_keys") body) upload.deviceKeys
  /-- The key is that of the device keys, or else the one the server has. -/
  signer : (upload.deviceKeys.map MatrixDeviceKeys.ed25519).or expected.existingEd25519PublicKey =
    some publicKey
  /-- The key the server has is a strong point, and the one of the device. -/
  pinned : ∀ existing ∈ expected.existingEd25519PublicKey,
    StrongKey scheme existing ∧ existing = publicKey
  oneTimeKeys : CurveKeyMapOf scheme false expected.userId expected.deviceId publicKey 100
    (Json.get? (js "one_time_keys") body) upload.oneTimeKeys
  fallbackKeys : CurveKeyMapOf scheme true expected.userId expected.deviceId publicKey 1
    (Json.get? (js "fallback_keys") body) upload.fallbackKeys
  /-- No Curve25519 key is there twice. -/
  distinct : (curveKeysOf upload.oneTimeKeys upload.fallbackKeys).Nodup
  notIdentity : ∀ device ∈ upload.deviceKeys,
    device.curve25519 ∉ curveKeysOf upload.oneTimeKeys upload.fallbackKeys

/-- An existing key is strong. -/
theorem assertExisting_eq_ok {existing : Option JsString} {u : Unit} :
    assertExisting scheme existing = .ok u ↔ ∀ key ∈ existing, StrongKey scheme key := by
  cases existing with
  | none => simp [assertExisting]
  | some key => simp [assertExisting, assertMatrixEd25519PublicKey_eq_ok]

/-- **Device keys, and the key that signs the rest.** -/
theorem signingKey_eq_ok {expected : MatrixKeyUploadExpectation} {value : Option Json}
    {deviceKeys : Option MatrixDeviceKeys} {publicKey : JsString} :
    parseDeviceKeysOf value expected.userId expected.deviceId = .ok deviceKeys ∧
        signingKey scheme deviceKeys expected = .ok publicKey ↔
      DeviceKeysOf scheme expected.userId expected.deviceId value deviceKeys ∧
        (deviceKeys.map MatrixDeviceKeys.ed25519).or expected.existingEd25519PublicKey =
          some publicKey ∧
        ∀ existing ∈ expected.existingEd25519PublicKey, existing = publicKey := by
  constructor
  · rintro ⟨hdevice, hkey⟩
    cases value with
    | none =>
      cases hdevice
      have hexisting := orThrow_eq_ok.mp hkey
      refine ⟨.inl ⟨rfl, rfl⟩, hexisting, fun existing h => ?_⟩
      rw [hexisting] at h
      exact (Option.some.inj h).symm
    | some found =>
      obtain ⟨device, hparsed, hdevice⟩ := bind_eq_ok.mp hdevice
      cases hdevice
      obtain ⟨_, hpinned, hkey⟩ := bind_eq_ok.mp hkey
      obtain ⟨_, hverified, hkey⟩ := bind_eq_ok.mp hkey
      cases hkey
      obtain ⟨hparts, found', hfound, hsame⟩ := parseDeviceKeys_eq_ok.mp hparsed
      obtain rfl := Option.some.inj hfound
      obtain ⟨text, hsignatures, -⟩ := hparts.signatures
      rw [hsignatures] at hverified
      refine ⟨.inr ⟨found, device, rfl, rfl, hparts, hsame, text, hsignatures,
        verify_single_eq_ok.mp hverified⟩, rfl, fun existing h => ?_⟩
      rw [Option.mem_def.mp h] at hpinned
      simpa using require_eq_ok.mp hpinned
  · rintro ⟨⟨rfl, rfl⟩ | ⟨found, device, rfl, rfl, hparts, hsame, text, hsignatures, hverified⟩,
      hkey, hpinned⟩
    · exact ⟨rfl, orThrow_eq_ok.mpr hkey⟩
    · obtain rfl := Option.some.inj hkey
      refine ⟨bind_eq_ok.mpr ⟨device, parseDeviceKeys_eq_ok.mpr ⟨hparts, found, rfl, hsame⟩, rfl⟩,
        ?_⟩
      refine bind_eq_ok.mpr ⟨(), require_eq_ok.mpr ?_, bind_eq_ok.mpr ⟨(), ?_, rfl⟩⟩
      · cases hexisting : expected.existingEd25519PublicKey with
        | none => rfl
        | some existing =>
          exact decide_eq_true (hpinned existing (Option.mem_def.mpr hexisting))
      · rw [hsignatures]
        exact verify_single_eq_ok.mpr hverified

/-- **What is parsed is accepted by the grammar.** -/
theorem accepts_of_parse {value : Json} {expected : MatrixKeyUploadExpectation}
    {upload : MatrixKeyUpload} (h : parseMatrixKeyUpload scheme value expected = .ok upload) :
    ∃ body publicKey, Accepts scheme value expected body publicKey upload := by
  obtain ⟨_, hids, h⟩ := bind_eq_ok.mp h
  obtain ⟨body, hbody, h⟩ := bind_eq_ok.mp h
  obtain ⟨_, hfields, h⟩ := bind_eq_ok.mp h
  obtain ⟨deviceKeys, hdevice, h⟩ := bind_eq_ok.mp h
  obtain ⟨_, hexisting, h⟩ := bind_eq_ok.mp h
  obtain ⟨publicKey, hkey, h⟩ := bind_eq_ok.mp h
  obtain ⟨oneTimeKeys, honeTime, h⟩ := bind_eq_ok.mp h
  obtain ⟨fallbackKeys, hfallback, h⟩ := bind_eq_ok.mp h
  obtain ⟨_, hdistinct, h⟩ := bind_eq_ok.mp h
  obtain ⟨_, hidentity, h⟩ := bind_eq_ok.mp h
  cases h
  obtain ⟨hdeviceKeys, hsigner, hpinned⟩ := signingKey_eq_ok.mp ⟨hdevice, hkey⟩
  refine ⟨body, publicKey, ?_, Option.some.inj (record_eq_ok.mp hbody), ?_, hdeviceKeys, hsigner,
    fun existing hmem => ⟨assertExisting_eq_ok.mp hexisting existing hmem, hpinned existing hmem⟩,
    parseCurveKeyMap_eq_ok.mp honeTime, parseCurveKeyMap_eq_ok.mp hfallback,
    of_decide_eq_true (require_eq_ok.mp hdistinct), ?_⟩
  · exact Bool.and_eq_true_iff.mp (require_eq_ok.mp hids)
  · exact fun key hkey => List.contains_iff_mem.mp
      (List.all_eq_true.mp (require_eq_ok.mp hfields) key hkey)
  · intro device hdevice'
    obtain rfl : deviceKeys = some device := hdevice'
    simpa using require_eq_ok.mp hidentity

/-- **What the grammar accepts is parsed.** -/
theorem parse_of_accepts {value : Json} {expected : MatrixKeyUploadExpectation}
    {body : List (JsString × Json)} {publicKey : JsString} {upload : MatrixKeyUpload}
    (h : Accepts scheme value expected body publicKey upload) :
    parseMatrixKeyUpload scheme value expected = .ok upload := by
  obtain ⟨hdevice, hkey⟩ := signingKey_eq_ok.mpr
    ⟨h.deviceKeys, h.signer, fun existing hmem => (h.pinned existing hmem).2⟩
  obtain rfl := h.object
  refine bind_eq_ok.mpr ⟨(), require_eq_ok.mpr (Bool.and_eq_true_iff.mpr h.ids), ?_⟩
  refine bind_eq_ok.mpr ⟨body, record_eq_ok.mpr rfl, ?_⟩
  refine bind_eq_ok.mpr ⟨(), require_eq_ok.mpr ?_, ?_⟩
  · exact List.all_eq_true.mpr fun key hmem => List.contains_iff_mem.mpr (h.fields key hmem)
  refine bind_eq_ok.mpr ⟨upload.deviceKeys, hdevice, ?_⟩
  refine bind_eq_ok.mpr ⟨(), assertExisting_eq_ok.mpr fun existing hmem =>
    (h.pinned existing hmem).1, ?_⟩
  refine bind_eq_ok.mpr ⟨publicKey, hkey, ?_⟩
  refine bind_eq_ok.mpr ⟨_, parseCurveKeyMap_eq_ok.mpr h.oneTimeKeys, ?_⟩
  refine bind_eq_ok.mpr ⟨_, parseCurveKeyMap_eq_ok.mpr h.fallbackKeys, ?_⟩
  refine bind_eq_ok.mpr ⟨(), require_eq_ok.mpr (decide_eq_true h.distinct), ?_⟩
  refine bind_eq_ok.mpr ⟨(), require_eq_ok.mpr ?_, rfl⟩
  cases hupload : upload.deviceKeys with
  | none => rfl
  | some device =>
    have hnot := h.notIdentity device (Option.mem_def.mpr hupload)
    simpa using hnot

/-- **The parser accepts exactly the uploads.** With a value that is one it returns what the value
is, in which every object is signed as it is returned; every other value it refuses. -/
theorem parseMatrixKeyUpload_exact (scheme : SignatureScheme) (value : Json)
    (expected : MatrixKeyUploadExpectation) :
    (∀ upload, parseMatrixKeyUpload scheme value expected = .ok upload ↔
      ∃ body publicKey, Accepts scheme value expected body publicKey upload) ∧
    ((∀ body publicKey upload, ¬ Accepts scheme value expected body publicKey upload) →
      ∃ code, parseMatrixKeyUpload scheme value expected = .error code) := by
  refine ⟨fun upload => ⟨accepts_of_parse, ?_⟩, fun hnone => ?_⟩
  · rintro ⟨body, publicKey, h⟩
    exact parse_of_accepts h
  · cases hparse : parseMatrixKeyUpload scheme value expected with
    | error code => exact ⟨code, rfl⟩
    | ok upload =>
      obtain ⟨body, publicKey, h⟩ := accepts_of_parse hparse
      exact absurd h (hnone body publicKey upload)

end KeyUpload

end SinoChat
