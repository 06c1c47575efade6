import SinoChat.Common.JsonShape
import SinoChat.Model.CrossSigning

/-!
# Encodings and signatures of signed objects

The readers of base64 take exactly the unpadded text of so many bytes
(`IsBase64Of`), and the verification of a signed object succeeds exactly where the
signature of the signer is valid for the canonical form of the object without its
signatures (`Verifies`).
-/

namespace SinoChat

open Js

namespace CrossSigning

/-! ## Texts of bytes -/

/-- The text is the unpadded base64 of so many bytes. -/
def IsBase64Of (n : ℕ) (text : JsString) : Prop :=
  ∃ bytes : List UInt8, bytes.length = n ∧ unpadded (toBase64 bytes) = text

theorem all_isBase64_unpadded (bytes : List UInt8) :
    (unpadded (toBase64 bytes)).all isBase64 = true := by
  rw [unpadded_toBase64]
  exact List.all_eq_true.mpr fun u hu => isBase64_of_mem_sextets hu

theorem length_unpadded (bytes : List UInt8) :
    (unpadded (toBase64 bytes)).length = (bytes.length * 8 + 5) / 6 := by
  rw [unpadded_toBase64, List.length_map, length_sextetsOf]

/-- The text of some bytes without its padding is decoded to them. -/
theorem bufferFromBase64_unpadded (bytes : List UInt8) :
    bufferFromBase64 (unpadded (toBase64 bytes)) = bytes := by
  rw [bufferFromBase64_eq (List.all_eq_true.mp (all_isBase64_unpadded bytes)), unpadded_toBase64,
    filterMap_base64Char sextetsOf_lt, bytesOfSextets_sextetsOf]

/-- **`canonicalBase64` takes the unpadded text of so many bytes** and gives the bytes. -/
theorem canonicalBase64_eq_ok {text : JsString} {n : ℕ} {code : ErrorCode} {bytes : List UInt8} :
    canonicalBase64 text n code = .ok bytes ↔
      bytes.length = n ∧ unpadded (toBase64 bytes) = text := by
  constructor
  · intro h
    obtain ⟨_, -, h⟩ := bind_eq_ok.mp h
    obtain ⟨_, hdecoded, h⟩ := bind_eq_ok.mp h
    cases h
    simpa using require_eq_ok.mp hdecoded
  · rintro ⟨rfl, rfl⟩
    have hmod : (unpadded (toBase64 bytes)).length % 4 ≠ 1 := by
      rw [unpadded_toBase64, List.length_map]
      exact (length_sextetsOf_mod bytes).1
    have hall := all_isBase64_unpadded bytes
    refine bind_eq_ok.mpr ⟨(), require_eq_ok.mpr (by simp [hall, hmod]), ?_⟩
    refine bind_eq_ok.mpr ⟨(), require_eq_ok.mpr (by simp [bufferFromBase64_unpadded]), ?_⟩
    simp only [bufferFromBase64_unpadded]
    rfl

theorem isBase64Of_of_canonicalBase64 {text : JsString} {n : ℕ} {code : ErrorCode}
    {bytes : List UInt8} (h : canonicalBase64 text n code = .ok bytes) : IsBase64Of n text :=
  ⟨bytes, canonicalBase64_eq_ok.mp h⟩

/-- **`base64` takes the unpadded text of so many bytes.** -/
theorem base64_eq_ok_iff {value : Option Json} {n : ℕ} {text : JsString} :
    base64 value n = .ok text ↔ value = some (.str text) ∧ IsBase64Of n text := by
  constructor
  · intro h
    obtain ⟨found, hfound, h⟩ := bind_eq_ok.mp h
    obtain ⟨_, -, h⟩ := bind_eq_ok.mp h
    obtain ⟨_, hdecoded, h⟩ := bind_eq_ok.mp h
    cases h
    refine ⟨?_, bufferFromBase64 text, by simpa using require_eq_ok.mp hdecoded⟩
    obtain ⟨value, rfl, hvalue⟩ := Option.bind_eq_some_iff.mp (orThrow_eq_ok.mp hfound)
    cases value with
    | str s =>
      obtain rfl := Option.some.inj hvalue
      rfl
    | null => cases hvalue
    | bool b => cases hvalue
    | num n => cases hvalue
    | arr items => cases hvalue
    | obj entries => cases hvalue
  · rintro ⟨rfl, bytes, rfl, rfl⟩
    refine bind_eq_ok.mpr ⟨unpadded (toBase64 bytes), rfl, ?_⟩
    have hall := all_isBase64_unpadded bytes
    refine bind_eq_ok.mpr ⟨(), require_eq_ok.mpr (by simp [hall, length_unpadded]), ?_⟩
    exact bind_eq_ok.mpr ⟨(), require_eq_ok.mpr (by simp [bufferFromBase64_unpadded]), rfl⟩

theorem texts?_eq_some {values : List Json} {texts : List JsString} :
    texts? values = some texts ↔ values = texts.map .str := by
  induction values generalizing texts with
  | nil =>
    rw [texts?, List.mapM_nil]
    constructor
    · intro h
      obtain rfl := Option.some.inj h
      rfl
    · intro h
      obtain rfl := List.map_eq_nil_iff.mp h.symm
      rfl
  | cons value values ih =>
    rw [texts?, List.mapM_cons]
    simp only [Option.bind_eq_bind, Option.bind_eq_some_iff, Option.pure_def, Option.some.injEq]
    constructor
    · rintro ⟨text, htext, rest, hrest, rfl⟩
      have hvalue := str?_eq_some.mp (show (some value).bind Json.str? = some text from htext)
      rw [Option.some.inj hvalue, ih.mp hrest]
      rfl
    · intro h
      cases texts with
      | nil => cases h
      | cons text texts =>
        obtain ⟨rfl, hrest⟩ := List.cons.inj h
        exact ⟨text, rfl, texts, ih.mpr hrest, rfl⟩

/-- The value of a list of texts. -/
theorem texts_eq_some {value : Option Json} {texts : List JsString} :
    (value.bind Json.arr?).bind texts? = some texts ↔ value = some (.arr (texts.map .str)) := by
  constructor
  · intro h
    obtain ⟨items, hitems, htexts⟩ := Option.bind_eq_some_iff.mp h
    obtain ⟨found, rfl, hfound⟩ := Option.bind_eq_some_iff.mp hitems
    cases found with
    | arr items' =>
      obtain rfl := Option.some.inj hfound
      rw [texts?_eq_some.mp htexts]
    | null => cases hfound
    | bool b => cases hfound
    | num n => cases hfound
    | str s => cases hfound
    | obj entries => cases hfound
  · rintro rfl
    exact texts?_eq_some.mpr rfl

/-! ## Signatures -/

/-- **The signature is valid**: it and the key are texts of bytes with strong points, and it
verifies the canonical form of the object under the key. -/
def Verifies (scheme : SignatureScheme) (core : List (JsString × Json))
    (text publicKey : JsString) : Prop :=
  ∃ signature key message : List UInt8,
    (signature.length = 64 ∧ unpadded (toBase64 signature) = text) ∧
    (key.length = 32 ∧ unpadded (toBase64 key) = publicKey) ∧
    scheme.strongPoint key = true ∧ scheme.strongPoint (signature.take 32) = true ∧
    encodeMatrixCanonicalJson (.obj core) = .ok message ∧
    scheme.verify message key signature = true

theorem Verifies.signature {scheme : SignatureScheme} {core : List (JsString × Json)}
    {text publicKey : JsString} (h : Verifies scheme core text publicKey) : IsBase64Of 64 text := by
  obtain ⟨signature, _, _, hsignature, -⟩ := h
  exact ⟨signature, hsignature⟩

theorem Verifies.publicKey {scheme : SignatureScheme} {core : List (JsString × Json)}
    {text publicKey : JsString} (h : Verifies scheme core text publicKey) :
    IsBase64Of 32 publicKey := by
  obtain ⟨_, key, _, -, hkey, -⟩ := h
  exact ⟨key, hkey⟩

/-- A valid signature is valid for every object with the same canonical form. -/
theorem Verifies.congr {scheme : SignatureScheme} {core core' : List (JsString × Json)}
    {text publicKey : JsString} (h : Verifies scheme core text publicKey)
    (hcore : encodeMatrixCanonicalJson (.obj core') = encodeMatrixCanonicalJson (.obj core)) :
    Verifies scheme core' text publicKey := by
  obtain ⟨signature, key, message, hsignature, hkey, hstrong, hstrong', hmessage, hverify⟩ := h
  exact ⟨signature, key, message, hsignature, hkey, hstrong, hstrong', hcore.trans hmessage, hverify⟩

variable {scheme : SignatureScheme}

/-- **`verifyMatrixSignedObject` succeeds for valid signatures.** -/
theorem verifyMatrixSignedObject_eq_ok {core : List (JsString × Json)} {signatures : Signatures}
    {keyId publicKey : JsString} {code : ErrorCode} {u : Unit} :
    verifyMatrixSignedObject scheme core signatures keyId publicKey code = .ok u ↔
      ∃ text, (signatures.find? fun entry => entry.1 = keyId).map (·.2) = some text ∧
        Verifies scheme core text publicKey := by
  constructor
  · intro h
    obtain ⟨text, htext, h⟩ := bind_eq_ok.mp h
    obtain ⟨signature, hsignature, h⟩ := bind_eq_ok.mp h
    obtain ⟨key, hkey, h⟩ := bind_eq_ok.mp h
    obtain ⟨_, hstrong, h⟩ := bind_eq_ok.mp h
    obtain ⟨_, hstrong', h⟩ := bind_eq_ok.mp h
    obtain ⟨message, hmessage, h⟩ := bind_eq_ok.mp h
    exact ⟨text, orThrow_eq_ok.mp htext, signature, key, message,
      canonicalBase64_eq_ok.mp hsignature, canonicalBase64_eq_ok.mp hkey,
      require_eq_ok.mp hstrong, require_eq_ok.mp hstrong', hmessage, require_eq_ok.mp h⟩
  · rintro ⟨text, htext, signature, key, message, hsignature, hkey, hstrong, hstrong', hmessage,
      hverify⟩
    refine bind_eq_ok.mpr ⟨text, orThrow_eq_ok.mpr htext, ?_⟩
    refine bind_eq_ok.mpr ⟨signature, canonicalBase64_eq_ok.mpr hsignature, ?_⟩
    refine bind_eq_ok.mpr ⟨key, canonicalBase64_eq_ok.mpr hkey, ?_⟩
    refine bind_eq_ok.mpr ⟨(), require_eq_ok.mpr hstrong, ?_⟩
    refine bind_eq_ok.mpr ⟨(), require_eq_ok.mpr hstrong', ?_⟩
    exact bind_eq_ok.mpr ⟨message, hmessage, require_eq_ok.mpr hverify⟩

/-- With one signature, that one is valid. -/
theorem verify_single_eq_ok {core : List (JsString × Json)} {text keyId publicKey : JsString}
    {code : ErrorCode} {u : Unit} :
    verifyMatrixSignedObject scheme core [(keyId, text)] keyId publicKey code = .ok u ↔
      Verifies scheme core text publicKey := by
  rw [verifyMatrixSignedObject_eq_ok]
  simp

/-- A public key that is a strong point. -/
def StrongKey (scheme : SignatureScheme) (publicKey : JsString) : Prop :=
  ∃ key : List UInt8, (key.length = 32 ∧ unpadded (toBase64 key) = publicKey) ∧
    scheme.strongPoint key = true

theorem assertMatrixEd25519PublicKey_eq_ok {publicKey : JsString} {code : ErrorCode} {u : Unit} :
    assertMatrixEd25519PublicKey scheme publicKey code = .ok u ↔ StrongKey scheme publicKey := by
  rw [assertMatrixEd25519PublicKey, bind_eq_ok]
  simp only [canonicalBase64_eq_ok, require_eq_ok]
  rfl

/-! ## Devices -/

/-- What the device keys of a device are made of, with one signature. -/
structure DeviceParts (userId deviceId signingKeyId : JsString) (device : MatrixDeviceKeys) :
    Prop where
  ofUser : device.userId = userId
  ofDevice : device.deviceId = deviceId
  ed25519 : IsBase64Of 32 device.ed25519
  curve25519 : IsBase64Of 32 device.curve25519
  signatures : ∃ text, device.signatures = [(signingKeyId, text)] ∧ IsBase64Of 64 text

end CrossSigning

end SinoChat
