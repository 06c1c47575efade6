import SinoChat.CrossSigning.Objects
import SinoChat.CrossSigning.Identity
import SinoChat.KeyUpload.Grammar
import SinoChat.Model.DeviceCandidate

/-!
# One language of device keys

The device keys of an upload, of a candidate and of the cross-signing parser are read
by three readers. The first two take the same values and make the same device of
them (`parseMatrixDeviceCandidate_eq_ok`); what they take, the third takes too,
however its keys come back from storage (`parseRegistered_of_same`).
-/

namespace SinoChat

open Js

namespace KeyUpload

open CrossSigning

variable {scheme : SignatureScheme}

/-! ## The body of an upload with device keys only -/

/-- The body of a candidate: its keys alone. -/
def onlyDeviceKeys (value : Json) : Json := .obj [(js "device_keys", value)]

/-- Device keys of a device that sign themselves. -/
structure SignedDevice (scheme : SignatureScheme) (userId deviceId : JsString) (value : Json)
    (device : MatrixDeviceKeys) : Prop where
  ids : isMatrixUserId userId = true ∧ isMatrixDeviceId deviceId = true
  parts : DeviceParts userId deviceId (ed25519KeyId deviceId) device
  value : Same value (deviceKeysJson device)
  signed : ∃ text, device.signatures = [(ed25519KeyId deviceId, text)] ∧
    Verifies scheme (deviceKeysCore device) text device.ed25519

/-- Without a value there are no keys. -/
theorem CurveKeyMapOf.eq_nil {fallback : Bool} {userId deviceId publicKey : JsString} {n : ℕ}
    {keys : List (JsString × MatrixSignedCurveKey)}
    (h : CurveKeyMapOf scheme fallback userId deviceId publicKey n none keys) : keys = [] := by
  obtain ⟨input, hinput, -, hkeys⟩ := h
  cases hinput
  cases hkeys
  rfl

theorem curveKeyMapOf_none {fallback : Bool} {userId deviceId publicKey : JsString} {n : ℕ} :
    CurveKeyMapOf scheme fallback userId deviceId publicKey n none [] :=
  ⟨[], .absent, Nat.zero_le n, .nil⟩

/-- **The device part of an initial upload.** -/
theorem parseInitial_onlyDeviceKeys {userId deviceId : JsString} {value : Json}
    {upload : InitialMatrixKeyUpload} :
    parseInitialMatrixKeyUpload scheme (onlyDeviceKeys value) userId deviceId = .ok upload ↔
      ∃ device, upload = ⟨device, [], []⟩ ∧ SignedDevice scheme userId deviceId value device := by
  constructor
  · intro h
    obtain ⟨parsed, hparsed, h⟩ := bind_eq_ok.mp h
    obtain ⟨device, hdevice, h⟩ := bind_eq_ok.mp h
    cases h
    obtain ⟨body, publicKey, haccepts⟩ := accepts_of_parse hparsed
    obtain rfl : [(js "device_keys", value)] = body := Json.obj.inj haccepts.object
    have hkeys := haccepts.deviceKeys
    rw [orThrow_eq_ok.mp hdevice] at hkeys
    obtain ⟨-, hnone⟩ | ⟨found, device', hfound, heq, hparts, hsame, hsigned⟩ := hkeys
    · cases hnone
    · obtain rfl := Option.some.inj heq
      obtain rfl : value = found := Option.some.inj hfound
      refine ⟨device, ?_, haccepts.ids, hparts, hsame, hsigned⟩
      have honeTime := haccepts.oneTimeKeys.eq_nil
      have hfallback := haccepts.fallbackKeys.eq_nil
      rw [honeTime, hfallback]
  · rintro ⟨device, rfl, h⟩
    have haccepts : Accepts scheme (onlyDeviceKeys value) ⟨userId, deviceId, none⟩
        [(js "device_keys", value)] device.ed25519 ⟨some device, [], []⟩ :=
      { ids := h.ids
        object := rfl
        fields := by simp [Json.keys]
        deviceKeys := .inr ⟨value, device, rfl, rfl, h.parts, h.value, h.signed⟩
        signer := rfl
        pinned := by simp
        oneTimeKeys := curveKeyMapOf_none
        fallbackKeys := curveKeyMapOf_none
        distinct := List.nodup_nil
        notIdentity := by simp [curveKeysOf] }
    exact bind_eq_ok.mpr ⟨_, parse_of_accepts haccepts, bind_eq_ok.mpr ⟨device, rfl, rfl⟩⟩

/-! ## The fields of a candidate -/

/-- The fields are those of the entries, in the expected order. -/
structure FieldsOf (entries : List (JsString × Json)) (expected : List JsString)
    (fields : List (JsString × Json)) : Prop where
  keys : fields.map Prod.fst = expected
  get : ∀ key ∈ expected, Json.get? key fields = Json.get? key entries

/-- The fields that are read are the record's. -/
theorem fieldsOf_of_mapM {entries fields : List (JsString × Json)} {expected : List JsString}
    (h : (expected.mapM fun key => (Json.get? key entries).map fun field => (key, field)) =
      some fields) : FieldsOf entries expected fields := by
  induction expected generalizing fields with
  | nil =>
    cases h
    exact ⟨rfl, by simp⟩
  | cons key rest ih =>
    rw [List.mapM_cons] at h
    obtain ⟨entry, hentry, h⟩ := Option.bind_eq_some_iff.mp h
    obtain ⟨others, hothers, h⟩ := Option.bind_eq_some_iff.mp h
    cases h
    obtain ⟨value, hvalue, rfl⟩ := Option.map_eq_some_iff.mp hentry
    obtain ⟨hkeys, hget⟩ := ih hothers
    refine ⟨by rw [List.map_cons, hkeys], fun other hother => ?_⟩
    by_cases heq : key = other
    · subst heq
      simp [Json.get?, hvalue]
    · rw [Json.get?, if_neg heq]
      exact hget other ((List.mem_cons.mp hother).resolve_left fun h => heq h.symm)

/-- Every expected field is read. -/
theorem exists_mapM {entries : List (JsString × Json)} {expected : List JsString}
    (h : ∀ key ∈ expected, Json.hasOwn entries key = true) :
    ∃ fields, (expected.mapM fun key => (Json.get? key entries).map fun field => (key, field)) =
      some fields := by
  induction expected with
  | nil => exact ⟨[], rfl⟩
  | cons key rest ih =>
    obtain ⟨others, hothers⟩ := ih fun other hother => h other (List.mem_cons_of_mem _ hother)
    obtain ⟨value, hvalue⟩ := Option.isSome_iff_exists.mp (h key List.mem_cons_self)
    refine ⟨(key, value) :: others, ?_⟩
    rw [List.mapM_cons, hvalue, hothers]
    rfl

/-- A data record has exactly its fields. -/
theorem dataRecord_eq_ok {value : Option Json} {expected : List JsString}
    {code code' : ErrorCode} {fields : List (JsString × Json)}
    (h : dataRecord value expected code code' = .ok fields) :
    ∃ entries, value = some (.obj entries) ∧ Json.exactKeys entries expected = true ∧
      FieldsOf entries expected fields := by
  obtain ⟨entries, hentries, h⟩ := bind_eq_ok.mp h
  obtain ⟨_, hkeys, h⟩ := bind_eq_ok.mp h
  exact ⟨entries, record_eq_ok.mp hentries, exactKeys_eq_ok.mp hkeys,
    fieldsOf_of_mapM (orThrow_eq_ok.mp h)⟩

/-- Exactly these fields are read. -/
theorem exists_dataRecord {entries : List (JsString × Json)} {expected : List JsString}
    (code code' : ErrorCode) (h : Json.exactKeys entries expected = true) :
    ∃ fields, dataRecord (some (.obj entries)) expected code code' = .ok fields ∧
      FieldsOf entries expected fields := by
  obtain ⟨fields, hfields⟩ :=
    exists_mapM (List.all_eq_true.mp (Bool.and_eq_true_iff.mp h).2)
  refine ⟨fields, ?_, fieldsOf_of_mapM hfields⟩
  exact bind_eq_ok.mpr ⟨entries, record_eq_ok.mpr rfl,
    bind_eq_ok.mpr ⟨(), exactKeys_eq_ok.mpr h, orThrow_eq_ok.mpr hfields⟩⟩

/-- The fields are an object with the expected keys. -/
theorem FieldsOf.exactKeys {entries fields : List (JsString × Json)} {expected : List JsString}
    (h : FieldsOf entries expected fields) : Json.exactKeys fields expected = true :=
  exactKeys_of_perm (List.Perm.of_eq h.keys.symm)

/-- A field is the member's value. -/
theorem field_eq {entries : List (JsString × Json)} {key : JsString} {value : Json}
    (h : Json.get? key entries = some value) : field entries key = value := by
  rw [field, h, Option.getD_some]

theorem arr?_eq_some {value : Option Json} {items : List Json} :
    value.bind Json.arr? = some items ↔ value = some (.arr items) := by
  constructor
  · intro h
    obtain ⟨found, rfl, hfound⟩ := Option.bind_eq_some_iff.mp h
    cases found with
    | arr items' =>
      obtain rfl := Option.some.inj hfound
      rfl
    | null => cases hfound
    | bool b => cases hfound
    | num n => cases hfound
    | str s => cases hfound
    | obj entries => cases hfound
  · rintro rfl
    rfl

/-- The digest of device keys is always taken: they have no number. -/
theorem hashDevice_eq_ok (sha256Hex : List UInt8 → JsString) {userId deviceId keyId : JsString}
    {device : MatrixDeviceKeys} (h : DeviceParts userId deviceId keyId device) :
    ∃ bytes, encodeMatrixCanonicalJson (deviceKeysJson device) = .ok bytes ∧
      hashMatrixCanonicalJson sha256Hex (deviceKeysJson device) = .ok (sha256Hex bytes) := by
  obtain ⟨text, hsignatures, -⟩ := h.signatures
  have hencode : ∃ bytes, encodeMatrixCanonicalJson (deviceKeysJson device) = .ok bytes := by
    rw [deviceKeysJson, hsignatures]
    exact ⟨_, rfl⟩
  obtain ⟨bytes, hbytes⟩ := hencode
  exact ⟨bytes, hbytes, bind_eq_ok.mpr ⟨bytes, hbytes, rfl⟩⟩

/-- The object of device keys whose parts were looked up one by one. -/
theorem same_rebuilt_iff {device publicKeys ownSignatures : List (JsString × Json)}
    {algorithms : List Json} {userId text : JsString} {parsed : MatrixDeviceKeys}
    (hsignatures : parsed.signatures = [(ed25519KeyId parsed.deviceId, text)])
    (huser : parsed.userId = userId)
    (hkeys : Json.exactKeys publicKeys
      [curve25519KeyId parsed.deviceId, ed25519KeyId parsed.deviceId] = true)
    (hown : Json.exactKeys ownSignatures [ed25519KeyId parsed.deviceId] = true) :
    Same (.obj [(js "algorithms", .arr algorithms), (js "device_id", field device (js "device_id")),
        (js "keys", .obj publicKeys), (js "signatures", .obj [(userId, .obj ownSignatures)]),
        (js "user_id", field device (js "user_id"))]) (deviceKeysJson parsed) ↔
      algorithms = [matrixOlmAlgorithm, matrixMegolmAlgorithm].map .str ∧
      field device (js "device_id") = .str parsed.deviceId ∧
      Json.get? (curve25519KeyId parsed.deviceId) publicKeys = some (.str parsed.curve25519) ∧
      Json.get? (ed25519KeyId parsed.deviceId) publicKeys = some (.str parsed.ed25519) ∧
      Json.get? (ed25519KeyId parsed.deviceId) ownSignatures = some (.str text) ∧
      field device (js "user_id") = .str parsed.userId := by
  have hself : ∀ key : JsString, ∀ value : Json, Json.exactKeys [(key, value)] [key] = true :=
    fun key value => exactKeys_of_perm (List.Perm.refl [key])
  have hsame : Same (.obj [(userId, .obj ownSignatures)])
      (signaturesJson parsed.userId parsed.signatures) ↔
      Json.get? (ed25519KeyId parsed.deviceId) ownSignatures = some (.str text) := by
    rw [hsignatures, signaturesJson_single, huser]
    constructor
    · intro h
      obtain ⟨users, own, hobj, -, hget, hvalue⟩ := same_single_iff.mp h
      obtain rfl := Json.obj.inj hobj
      obtain rfl : .obj ownSignatures = own := by simpa [Json.get?] using hget
      obtain ⟨own, found, hobj, -, hget, hvalue⟩ := same_single_iff.mp hvalue
      obtain rfl := Json.obj.inj hobj
      rw [hget, same_str_iff.mp hvalue]
    · intro h
      refine same_single_iff.mpr ⟨_, .obj ownSignatures, rfl, hself _ _, by simp [Json.get?], ?_⟩
      exact same_single_iff.mpr ⟨ownSignatures, .str text, rfl, hown, h, same_str_iff.mpr rfl⟩
  have hpublic : Same (.obj publicKeys) (publicKeysJson parsed) ↔
      Json.get? (curve25519KeyId parsed.deviceId) publicKeys = some (.str parsed.curve25519) ∧
      Json.get? (ed25519KeyId parsed.deviceId) publicKeys = some (.str parsed.ed25519) := by
    rw [same_publicKeysJson_iff]
    constructor
    · rintro ⟨keys, hobj, -, hboth⟩
      obtain rfl := Json.obj.inj hobj
      exact hboth
    · intro hboth
      exact ⟨publicKeys, rfl, hkeys, hboth⟩
  rw [same_deviceKeysJson_iff]
  constructor
  · rintro ⟨input, hobj, -, halgorithms, hdevice, ⟨keys, hget, hkeysSame⟩,
      ⟨signatures, hget', hsignaturesSame⟩, huserId⟩
    obtain rfl := Json.obj.inj hobj
    obtain rfl := Option.some.inj hget
    obtain rfl := Option.some.inj hget'
    obtain ⟨hcurve, hed⟩ := hpublic.mp hkeysSame
    exact ⟨Json.arr.inj (Option.some.inj halgorithms), Option.some.inj hdevice, hcurve, hed,
      hsame.mp hsignaturesSame, Option.some.inj huserId⟩
  · rintro ⟨rfl, hdevice, hcurve, hed, htext, huserId⟩
    exact ⟨_, rfl, exactKeys_of_perm (List.Perm.refl _), rfl, congrArg some hdevice,
      ⟨_, rfl, hpublic.mpr ⟨hcurve, hed⟩⟩, ⟨_, rfl, hsame.mpr htext⟩, congrArg some huserId⟩

/-- An expected field is there. -/
theorem FieldsOf.get_field {entries fields : List (JsString × Json)} {expected : List JsString}
    {key : JsString} (h : FieldsOf entries expected fields) (hkey : key ∈ expected) :
    Json.get? key entries = some (field fields key) := by
  have hown := List.all_eq_true.mp (Bool.and_eq_true_iff.mp h.exactKeys).2 key hkey
  obtain ⟨value, hvalue⟩ := Option.isSome_iff_exists.mp hown
  rw [← h.get key hkey, hvalue, field_eq hvalue]

/-- A candidate's device is a signed one. -/
theorem signedDevice_of_candidate {sha256Hex : List UInt8 → JsString} {value : Json}
    {userId deviceId : JsString} {candidate : MatrixDeviceCandidate}
    (h : parseMatrixDeviceCandidate scheme sha256Hex (onlyDeviceKeys value) userId deviceId =
      .ok candidate) :
    ∃ device, SignedDevice scheme userId deviceId value device ∧
      ∃ bytes, encodeMatrixCanonicalJson (deviceKeysJson device) = .ok bytes ∧
        candidate = ⟨device, sha256Hex bytes, device.ed25519, device.curve25519⟩ := by
  -- The checks of the candidate are peeled off in the order it makes them.
  obtain ⟨_, hids, h⟩ := bind_eq_ok.mp h
  obtain ⟨body, hbody, h⟩ := bind_eq_ok.mp h
  obtain ⟨device, hdevice, h⟩ := bind_eq_ok.mp h
  obtain ⟨publicKeys, hpublicKeys, h⟩ := bind_eq_ok.mp h
  obtain ⟨signatures, hsignatures, h⟩ := bind_eq_ok.mp h
  obtain ⟨own, hown, h⟩ := bind_eq_ok.mp h
  obtain ⟨algorithms, halgorithms, h⟩ := bind_eq_ok.mp h
  obtain ⟨upload, hupload, h⟩ := bind_eq_ok.mp h
  obtain ⟨digest, hdigest, h⟩ := bind_eq_ok.mp h
  cases h
  -- Its last one is the parser of an upload, which gives the device that was signed.
  obtain ⟨parsed, rfl, hsigned⟩ := parseInitial_onlyDeviceKeys.mp hupload
  obtain ⟨bytes, hbytes, hhash⟩ := hashDevice_eq_ok sha256Hex hsigned.parts
  obtain rfl := Except.ok.inj (hhash.symm.trans hdigest)
  refine ⟨parsed, ⟨hsigned.ids, hsigned.parts, ?_, hsigned.signed⟩, bytes, hbytes, rfl⟩
  obtain ⟨entries, hentries, -, hbodyFields⟩ := dataRecord_eq_ok hbody
  obtain rfl : [(js "device_keys", value)] = entries := Json.obj.inj (Option.some.inj hentries)
  have hvalue : Json.get? (js "device_keys") body = some value :=
    hbodyFields.get _ (List.mem_singleton_self _)
  rw [hvalue] at hdevice
  -- What the earlier checks read is the same record, so the device is the value itself.
  obtain ⟨input, hinput, hinputKeys, hfields⟩ := dataRecord_eq_ok hdevice
  obtain rfl : value = .obj input := Option.some.inj hinput
  obtain ⟨keys, hkeys, hkeysKeys, hkeysFields⟩ := dataRecord_eq_ok hpublicKeys
  obtain ⟨users, husers, husersKeys, husersFields⟩ := dataRecord_eq_ok hsignatures
  obtain ⟨signer, hsigner, hsignerKeys, hsignerFields⟩ := dataRecord_eq_ok hown
  obtain ⟨items, hitems, halgorithms⟩ := bind_eq_ok.mp halgorithms
  obtain ⟨_, -, halgorithms⟩ := bind_eq_ok.mp halgorithms
  cases halgorithms
  obtain ⟨text, hsingle, -⟩ := hsigned.parts.signatures
  obtain rfl := hsigned.parts.ofDevice
  obtain rfl := hsigned.parts.ofUser
  obtain ⟨rfl, hdeviceId, hcurve, hed, htext, huserId⟩ :=
    (same_rebuilt_iff hsingle rfl hkeysFields.exactKeys hsignerFields.exactKeys).mp hsigned.value
  have hget := fun key hkey => hfields.get key hkey
  refine same_deviceKeysJson_iff.mpr ⟨input, rfl, hinputKeys, ?_, ?_, ⟨.obj keys, ?_, ?_⟩,
    ⟨.obj users, ?_, ?_⟩, ?_⟩
  · rw [← hget (js "algorithms") (by simp)]
    exact arr?_eq_some.mp (orThrow_eq_ok.mp hitems)
  · rw [hfields.get_field (by simp), hdeviceId]
  · rw [← hget (js "keys") (by simp)]
    exact hkeys
  · refine same_publicKeysJson_iff.mpr ⟨keys, rfl, hkeysKeys, ?_, ?_⟩
    · rw [← hkeysFields.get _ (by simp)]
      exact hcurve
    · rw [← hkeysFields.get _ (by simp)]
      exact hed
  · rw [← hget (js "signatures") (by simp)]
    exact husers
  · rw [hsingle, signaturesJson_single]
    refine same_single_iff.mpr ⟨users, .obj signer, rfl, husersKeys, ?_, ?_⟩
    · rw [← husersFields.get _ (List.mem_singleton_self _)]
      exact hsigner
    · refine same_single_iff.mpr ⟨signer, .str text, rfl, hsignerKeys, ?_, same_str_iff.mpr rfl⟩
      rw [← hsignerFields.get _ (List.mem_singleton_self _)]
      exact htext
  · rw [hfields.get_field (by simp), huserId]

/-- A signed device is a candidate's. -/
theorem candidate_of_signedDevice (sha256Hex : List UInt8 → JsString) {value : Json}
    {userId deviceId : JsString} {parsed : MatrixDeviceKeys} {bytes : List UInt8}
    (h : SignedDevice scheme userId deviceId value parsed)
    (hbytes : encodeMatrixCanonicalJson (deviceKeysJson parsed) = .ok bytes) :
    parseMatrixDeviceCandidate scheme sha256Hex (onlyDeviceKeys value) userId deviceId =
      .ok ⟨parsed, sha256Hex bytes, parsed.ed25519, parsed.curve25519⟩ := by
  obtain ⟨text, hsingle, -⟩ := h.parts.signatures
  obtain rfl := h.parts.ofDevice
  obtain rfl := h.parts.ofUser
  obtain ⟨input, rfl, hinputKeys, halgorithms, hdeviceId, ⟨keysValue, hkeys, hkeysSame⟩,
    ⟨usersValue, husers, husersSame⟩, huserId⟩ := same_deviceKeysJson_iff.mp h.value
  obtain ⟨keys, rfl, hkeysKeys, hcurve, hed⟩ := same_publicKeysJson_iff.mp hkeysSame
  rw [hsingle, signaturesJson_single] at husersSame
  obtain ⟨users, signerValue, rfl, husersKeys, hsigner, hsignerSame⟩ := same_single_iff.mp husersSame
  obtain ⟨signer, textValue, rfl, hsignerKeys, htext, htextSame⟩ := same_single_iff.mp hsignerSame
  obtain rfl := same_str_iff.mp htextSame
  obtain ⟨body, hbody, hbodyFields⟩ := exists_dataRecord "MATRIX_CANDIDATE_BODY_INVALID"
    "MATRIX_CANDIDATE_BODY_INVALID"
    (@exactKeys_of_perm [(js "device_keys", Json.obj input)] _ (List.Perm.refl [js "device_keys"]))
  obtain ⟨device, hdevice, hfields⟩ := exists_dataRecord "MATRIX_DEVICE_KEYS_NOT_OBJECT"
    "MATRIX_DEVICE_KEYS_FIELDS_INVALID" hinputKeys
  obtain ⟨publicKeys, hpublicKeys, hkeysFields⟩ := exists_dataRecord
    "MATRIX_DEVICE_PUBLIC_KEYS_INVALID" "MATRIX_DEVICE_PUBLIC_KEYS_INVALID" hkeysKeys
  obtain ⟨signatures, hsignatures, husersFields⟩ := exists_dataRecord
    "MATRIX_SIGNATURES_INVALID" "MATRIX_SIGNATURES_INVALID" husersKeys
  obtain ⟨own, hown, hsignerFields⟩ := exists_dataRecord
    "MATRIX_SIGNATURES_INVALID" "MATRIX_SIGNATURES_INVALID" hsignerKeys
  have hget := fun key hkey => hfields.get key hkey
  refine bind_eq_ok.mpr ⟨(), require_eq_ok.mpr (Bool.and_eq_true_iff.mpr h.ids), ?_⟩
  refine bind_eq_ok.mpr ⟨body, hbody, ?_⟩
  refine bind_eq_ok.mpr ⟨device, ?_, ?_⟩
  · rw [hbodyFields.get _ (List.mem_singleton_self _)]
    exact hdevice
  refine bind_eq_ok.mpr ⟨publicKeys, ?_, ?_⟩
  · rw [hget (js "keys") (by simp), hkeys]
    exact hpublicKeys
  refine bind_eq_ok.mpr ⟨signatures, ?_, ?_⟩
  · rw [hget (js "signatures") (by simp), husers]
    exact hsignatures
  refine bind_eq_ok.mpr ⟨own, ?_, ?_⟩
  · rw [husersFields.get _ (List.mem_singleton_self _), hsigner]
    exact hown
  refine bind_eq_ok.mpr ⟨[matrixOlmAlgorithm, matrixMegolmAlgorithm].map .str, ?_, ?_⟩
  · refine bind_eq_ok.mpr ⟨[matrixOlmAlgorithm, matrixMegolmAlgorithm].map .str,
      orThrow_eq_ok.mpr (arr?_eq_some.mpr ?_), ?_⟩
    · rw [hget (js "algorithms") (by simp)]
      exact halgorithms
    · exact bind_eq_ok.mpr ⟨(), rfl, rfl⟩
  have hrebuilt := (@same_rebuilt_iff device _ _ _ _ text parsed hsingle rfl hkeysFields.exactKeys
    hsignerFields.exactKeys).mpr ⟨rfl,
      field_eq (by rw [hget (js "device_id") (by simp)]; exact hdeviceId),
      by rw [hkeysFields.get _ (by simp)]; exact hcurve,
      by rw [hkeysFields.get _ (by simp)]; exact hed,
      by rw [hsignerFields.get _ (List.mem_singleton_self _)]; exact htext,
      field_eq (by rw [hget (js "user_id") (by simp)]; exact huserId)⟩
  refine bind_eq_ok.mpr ⟨_, parseInitial_onlyDeviceKeys.mpr
    ⟨parsed, rfl, h.ids, h.parts, hrebuilt, h.signed⟩, ?_⟩
  exact bind_eq_ok.mpr ⟨sha256Hex bytes, bind_eq_ok.mpr ⟨bytes, hbytes, rfl⟩, rfl⟩

/-- **A candidate is the device part of an initial upload**, with its digest. -/
theorem parseMatrixDeviceCandidate_eq_ok {sha256Hex : List UInt8 → JsString} {value : Json}
    {userId deviceId : JsString} {candidate : MatrixDeviceCandidate} :
    parseMatrixDeviceCandidate scheme sha256Hex (onlyDeviceKeys value) userId deviceId =
        .ok candidate ↔
      ∃ device, SignedDevice scheme userId deviceId value device ∧
        ∃ bytes, encodeMatrixCanonicalJson (deviceKeysJson device) = .ok bytes ∧
          candidate = ⟨device, sha256Hex bytes, device.ed25519, device.curve25519⟩ := by
  constructor
  · exact signedDevice_of_candidate
  · rintro ⟨device, hsigned, bytes, hbytes, rfl⟩
    exact candidate_of_signedDevice sha256Hex hsigned hbytes

/-! ## The cross-signing parser -/

/-- The keys of a device are distinct throughout. -/
theorem deviceKeysJson_distinct {userId deviceId keyId : JsString} {device : MatrixDeviceKeys}
    (h : DeviceParts userId deviceId keyId device) : (deviceKeysJson device).Distinct := by
  obtain ⟨text, hsignatures, -⟩ := h.signatures
  have hkeys : ([(curve25519KeyId device.deviceId, Json.str device.curve25519),
      (ed25519KeyId device.deviceId, .str device.ed25519)].map Prod.fst).Nodup := by
    simp [curve25519KeyId_ne]
  rw [deviceKeysJson, hsignatures]
  exact ⟨hsignatures ▸ deviceKeysJson_nodup device, ⟨trivial, trivial, trivial⟩, trivial,
    ⟨hkeys, trivial, trivial, trivial⟩,
    ⟨List.nodup_singleton _, ⟨List.nodup_singleton _, trivial, trivial⟩, trivial⟩, trivial, trivial⟩

/-- The public keys come in either order. -/
theorem same_publicKeys (device : MatrixDeviceKeys) : Same (publicKeysJson device)
    (.obj [(ed25519KeyId device.deviceId, .str device.ed25519),
      (curve25519KeyId device.deviceId, .str device.curve25519)]) := by
  refine same_keysJson_iff.mpr ⟨_, rfl, exactKeys_of_perm (List.Perm.swap _ _ _), ?_, ?_⟩
  · simp [Json.get?, curve25519KeyId_ne]
  · simp [Json.get?]

theorem same_signatures_refl {userId keyId text : JsString} :
    Same (signaturesJson userId [(keyId, text)]) (signaturesJson userId [(keyId, text)]) :=
  .obj (.cons userId (.obj (.cons keyId (.str text) .nil) (List.Perm.refl _)) .nil) (List.Perm.refl _)

/-- Both parsers build the same object. -/
theorem same_deviceJson {userId deviceId keyId : JsString} {device : MatrixDeviceKeys}
    (h : DeviceParts userId deviceId keyId device) :
    Same (deviceKeysJson device) device.toJson := by
  obtain ⟨text, hsignatures, -⟩ := h.signatures
  refine same_deviceJson_iff.mpr ⟨_, rfl, exactKeys_of_perm (List.Perm.refl _), rfl, rfl, rfl,
    ⟨_, rfl, same_publicKeys device⟩, ⟨_, rfl, ?_⟩⟩
  rw [hsignatures]
  exact same_signatures_refl

/-- And sign the same object. -/
theorem encode_core_eq (device : MatrixDeviceKeys) {bytes : List UInt8}
    (hbytes : encodeMatrixCanonicalJson (.obj (deviceKeysCore device)) = .ok bytes) :
    encodeMatrixCanonicalJson (.obj device.core) = .ok bytes := by
  have hkeys : ([(curve25519KeyId device.deviceId, Json.str device.curve25519),
      (ed25519KeyId device.deviceId, .str device.ed25519)].map Prod.fst).Nodup := by
    simp [curve25519KeyId_ne]
  have hdistinct : (Json.obj (deviceKeysCore device)).Distinct := by
    refine ⟨?_, ⟨trivial, trivial, trivial⟩, trivial, ⟨hkeys, trivial, trivial, trivial⟩, trivial,
      trivial⟩
    simp only [deviceKeysCore, List.map_cons, List.map_nil]
    decide
  have hcore : (device.core.map Prod.fst).Nodup := by
    simp only [MatrixDeviceKeys.core, List.map_cons, List.map_nil]
    decide
  have hsame : Same (.obj (deviceKeysCore device)) (.obj device.core) := by
    refine (same_obj_iff hcore).mpr ⟨_, rfl, exactKeys_of_perm ?_, ?_⟩
    · simp only [MatrixDeviceKeys.core, deviceKeysCore, Json.keys, List.map_cons, List.map_nil]
      decide
    · intro member hmember
      simp only [MatrixDeviceKeys.core, List.mem_cons, List.not_mem_nil, or_false] at hmember
      rcases hmember with rfl | rfl | rfl | rfl
      · exact ⟨_, rfl, .str _⟩
      · exact ⟨_, rfl, .str _⟩
      · exact ⟨_, rfl, .arr (.cons (.str _) (.cons (.str _) .nil))⟩
      · exact ⟨_, rfl, same_publicKeys device⟩
  exact encode_eq_of_same hsame hdistinct hbytes

/-- The object of device keys has an encoding: nothing of it is a number. -/
theorem encode_deviceKeysJson {userId deviceId keyId : JsString} {device : MatrixDeviceKeys}
    (h : DeviceParts userId deviceId keyId device) :
    ∃ bytes, encodeMatrixCanonicalJson (deviceKeysJson device) = .ok bytes := by
  obtain ⟨text, hsignatures, -⟩ := h.signatures
  have hcanonical : ∃ c, canonicalize (deviceKeysJson device) = some c := by
    rw [deviceKeysJson, hsignatures]
    exact ⟨_, rfl⟩
  obtain ⟨c, hc⟩ := hcanonical
  exact ⟨_, encodeMatrixCanonicalJson_eq_ok.mpr ⟨c, hc, rfl⟩⟩

/-- The keys of a device can be signed. -/
theorem encode_deviceKeysCore (device : MatrixDeviceKeys) :
    ∃ bytes, encodeMatrixCanonicalJson (.obj (deviceKeysCore device)) = .ok bytes := by
  have hcanonical : ∃ c, canonicalize (.obj (deviceKeysCore device)) = some c := ⟨_, rfl⟩
  obtain ⟨c, hc⟩ := hcanonical
  exact ⟨_, encodeMatrixCanonicalJson_eq_ok.mpr ⟨c, hc, rfl⟩⟩

/-- **Device keys that come back from storage are read again**, whatever the order of keys. -/
theorem parseRegistered_of_same {userId deviceId : JsString} {value stored : Json}
    {device : MatrixDeviceKeys} (h : SignedDevice scheme userId deviceId value device)
    (hstored : Same (deviceKeysJson device) stored)
    (pinned : Option MatrixCrossSigningPublicIdentity) :
    parseRegistered scheme ⟨userId, deviceId, stored, pinned⟩ = .ok device := by
  have hdistinct := deviceKeysJson_distinct h.parts
  obtain ⟨bytes, hbytes⟩ := encode_deviceKeysJson h.parts
  obtain ⟨c, hc, -⟩ := encodeMatrixCanonicalJson_eq_ok.mp hbytes
  have hread : Same stored device.toJson :=
    same_of_canonicalize_eq stored (canonicalize_eq_of_same hstored hdistinct hc)
      (canonicalize_eq_of_same (same_deviceJson h.parts) hdistinct hc)
  obtain ⟨text, hsignatures, hverifies⟩ := h.signed
  -- both parsers verify the signature of one message
  obtain ⟨message, hmessage⟩ := encode_deviceKeysCore device
  have hcore : encodeMatrixCanonicalJson (.obj device.core) =
      encodeMatrixCanonicalJson (.obj (deviceKeysCore device)) := by
    rw [encode_core_eq device hmessage, hmessage]
  refine bind_eq_ok.mpr ⟨device, parseDevice_eq_ok.mpr ⟨h.parts, stored, rfl, hread⟩, ?_⟩
  refine bind_eq_ok.mpr ⟨(), ?_, rfl⟩
  rw [hsignatures]
  exact verify_single_eq_ok.mpr (hverifies.congr hcore)

/-- Two values with the members of one object have one canonical form. -/
theorem encode_stored_eq {userId deviceId : JsString} {stored : Json} {device : MatrixDeviceKeys}
    (h : DeviceParts userId deviceId (ed25519KeyId deviceId) device)
    (hstored : Same (deviceKeysJson device) stored) :
    ∃ bytes, encodeMatrixCanonicalJson (deviceKeysJson device) = .ok bytes ∧
      encodeMatrixCanonicalJson stored = .ok bytes ∧
      encodeMatrixCanonicalJson device.toJson = .ok bytes := by
  obtain ⟨bytes, hbytes⟩ := encode_deviceKeysJson h
  have hdistinct := deviceKeysJson_distinct h
  exact ⟨bytes, hbytes, encode_eq_of_same hstored hdistinct hbytes,
    encode_eq_of_same (same_deviceJson h) hdistinct hbytes⟩

/-- **Device keys have one language.** A candidate is taken exactly when an initial upload of
device keys only takes the same value, and is the device of that upload with its keys and the
digest of its canonical form. What is taken can be stored: every value with the same members is
read by the cross-signing parser as that device, of one canonical form. -/
theorem device_validators_agree (scheme : SignatureScheme) (sha256Hex : List UInt8 → JsString)
    (value : Json) (userId deviceId : JsString) :
    (∀ candidate, parseMatrixDeviceCandidate scheme sha256Hex (onlyDeviceKeys value) userId
        deviceId = .ok candidate ↔
      ∃ upload bytes,
        parseInitialMatrixKeyUpload scheme (onlyDeviceKeys value) userId deviceId = .ok upload ∧
        encodeMatrixCanonicalJson (deviceKeysJson upload.deviceKeys) = .ok bytes ∧
        candidate = ⟨upload.deviceKeys, sha256Hex bytes, upload.deviceKeys.ed25519,
          upload.deviceKeys.curve25519⟩) ∧
    (∀ upload, parseInitialMatrixKeyUpload scheme (onlyDeviceKeys value) userId deviceId =
        .ok upload →
      (∃ candidate, parseMatrixDeviceCandidate scheme sha256Hex (onlyDeviceKeys value) userId
        deviceId = .ok candidate) ∧
      ∀ stored, Same (deviceKeysJson upload.deviceKeys) stored →
        (∀ pinned, parseRegistered scheme ⟨userId, deviceId, stored, pinned⟩ =
          .ok upload.deviceKeys) ∧
        ∃ bytes, encodeMatrixCanonicalJson (deviceKeysJson upload.deviceKeys) = .ok bytes ∧
          encodeMatrixCanonicalJson stored = .ok bytes ∧
          encodeMatrixCanonicalJson upload.deviceKeys.toJson = .ok bytes) := by
  refine ⟨fun candidate => ?_, fun upload hupload => ?_⟩
  · rw [parseMatrixDeviceCandidate_eq_ok]
    constructor
    · rintro ⟨device, hsigned, bytes, hbytes, rfl⟩
      exact ⟨⟨device, [], []⟩, bytes, parseInitial_onlyDeviceKeys.mpr ⟨device, rfl, hsigned⟩,
        hbytes, rfl⟩
    · rintro ⟨upload, bytes, hupload, hbytes, rfl⟩
      obtain ⟨device, rfl, hsigned⟩ := parseInitial_onlyDeviceKeys.mp hupload
      exact ⟨device, hsigned, bytes, hbytes, rfl⟩
  · obtain ⟨device, rfl, hsigned⟩ := parseInitial_onlyDeviceKeys.mp hupload
    obtain ⟨bytes, hbytes⟩ := encode_deviceKeysJson hsigned.parts
    refine ⟨⟨_, candidate_of_signedDevice sha256Hex hsigned hbytes⟩, fun stored hstored => ?_⟩
    exact ⟨parseRegistered_of_same hsigned hstored, encode_stored_eq hsigned.parts hstored⟩

open CrossSigning.Sample in
/-- The keys of the sample device, as the cross-signing parser writes them, are a candidate and
read back. -/
theorem device_validators_agree_client :
    (∃ candidate, parseMatrixDeviceCandidate Sample.scheme (fun _ => js "00") (onlyDeviceKeys device.toJson)
      device.userId device.deviceId = .ok candidate) ∧
    parseRegistered Sample.scheme ⟨device.userId, device.deviceId, device.toJson, none⟩ =
      .ok device := by
  have hupload : (parseInitialMatrixKeyUpload Sample.scheme (onlyDeviceKeys device.toJson)
      device.userId device.deviceId).toOption = some ⟨device, [], []⟩ := by decide +kernel
  obtain ⟨hcandidate, hstored⟩ := (device_validators_agree Sample.scheme (fun _ => js "00")
    device.toJson device.userId device.deviceId).2 _ (ok_of_toOption hupload)
  obtain ⟨_, heq, hsigned⟩ := parseInitial_onlyDeviceKeys.mp (ok_of_toOption hupload)
  cases heq
  exact ⟨hcandidate, (hstored _ (same_deviceJson hsigned.parts)).1 none⟩

end KeyUpload

end SinoChat
