import SinoChat.CrossSigning.Objects
import SinoChat.CrossSigning.Identity

/-!
# Chains of signatures

What an accepted object was signed by is read off the parsers: `SignedExactly` is an
object each of whose signatures is valid for it under the key of its signer. An
accepted bootstrap is a whole chain (`chain_of_parseBootstrap`). The certificate of a
device rests on an identity the server has; of the chain it shows the last link
(`link_of_parseCertificate`), and nothing of how the three keys belong together.
-/

namespace SinoChat

open Js

namespace CrossSigning

variable {scheme : SignatureScheme}

/-- **The signatures of an object**: those of the signers, in their order, and each of them valid
for the object. A signer is a key id with its public key. -/
def SignedExactly (scheme : SignatureScheme) (core : List (JsString × Json))
    (signatures : Signatures) (signers : List (JsString × JsString)) : Prop :=
  List.Forall₂ (fun signature signer => signature.1 = signer.1 ∧
    Verifies scheme core signature.2 signer.2) signatures signers

/-- A device signs with its own key. -/
def deviceSigner (device : MatrixDeviceKeys) : JsString × JsString :=
  (ed25519KeyId device.deviceId, device.ed25519)

/-- A cross-signing key signs as itself. -/
def keySigner (key : JsString) : JsString × JsString := (ed25519KeyId key, key)

/-- The signed device is the original one with one more signature in front of its own. -/
structure CertifiedBy (scheme : SignatureScheme) (original signed : MatrixDeviceKeys)
    (selfSigningKey : JsString) : Prop where
  extended : ∃ text, signed = { original with
    signatures := (ed25519KeyId selfSigningKey, text) :: original.signatures }
  signed : SignedExactly scheme signed.core signed.signatures
    [keySigner selfSigningKey, deviceSigner original]

/-- The value is, up to the order of keys, a device of these ids with its own signature. -/
structure OwnDevice (userId deviceId : JsString) (value : Json) (device : MatrixDeviceKeys) :
    Prop where
  parts : DeviceParts userId deviceId (ed25519KeyId deviceId) device
  value : Same value device.toJson

/-- **The whole chain**: the device signs the master key, which also signs itself; the master key
signs the other two; the self-signing key signs the device. -/
structure WholeChain (scheme : SignatureScheme) (original : MatrixDeviceKeys)
    (bootstrap : MatrixCrossSigningBootstrap) : Prop where
  master : SignedExactly scheme bootstrap.masterKey.core bootstrap.masterKey.signatures
    [deviceSigner original, keySigner bootstrap.masterKey.key]
  selfSigning : SignedExactly scheme bootstrap.selfSigningKey.core
    bootstrap.selfSigningKey.signatures [keySigner bootstrap.masterKey.key]
  userSigning : SignedExactly scheme bootstrap.userSigningKey.core
    bootstrap.userSigningKey.signatures [keySigner bootstrap.masterKey.key]
  device : CertifiedBy scheme original bootstrap.signedDeviceKeys bootstrap.selfSigningKey.key
  distinct : bootstrap.identity.keys.Nodup
  notDevice : ∀ key ∈ bootstrap.identity.keys, key ≠ original.ed25519 ∧ key ≠ original.curve25519

/-! ## Links -/

theorem signedExactly_single {core : List (JsString × Json)} {signatures : Signatures}
    {keyId publicKey : JsString} {code : ErrorCode} {u : Unit}
    (hkeys : signatures.map Prod.fst = [keyId])
    (h : verifyMatrixSignedObject scheme core signatures keyId publicKey code = .ok u) :
    SignedExactly scheme core signatures [(keyId, publicKey)] := by
  obtain ⟨⟨keyId', text⟩, rfl, rfl⟩ := List.map_eq_singleton_iff.mp hkeys
  exact .cons ⟨rfl, verify_single_eq_ok.mp h⟩ .nil

theorem signedExactly_pair {core : List (JsString × Json)} {signatures : Signatures}
    {keyId keyId' publicKey publicKey' : JsString} {code code' : ErrorCode} {u u' : Unit}
    (hkeys : signatures.map Prod.fst = [keyId, keyId']) (hne : keyId ≠ keyId')
    (h : verifyMatrixSignedObject scheme core signatures keyId publicKey code = .ok u)
    (h' : verifyMatrixSignedObject scheme core signatures keyId' publicKey' code' = .ok u') :
    SignedExactly scheme core signatures [(keyId, publicKey), (keyId', publicKey')] := by
  obtain ⟨⟨first, text⟩, rest, rfl, rfl, hrest⟩ := List.map_eq_cons_iff.mp hkeys
  obtain ⟨⟨second, text'⟩, rfl, rfl⟩ := List.map_eq_singleton_iff.mp hrest
  obtain ⟨found, hfound, hverifies⟩ := verifyMatrixSignedObject_eq_ok.mp h
  obtain ⟨found', hfound', hverifies'⟩ := verifyMatrixSignedObject_eq_ok.mp h'
  have hfirst : text = found := by simpa using hfound
  have hsecond : text' = found' := by simpa [List.find?_cons, hne] using hfound'
  subst hfirst hsecond
  exact .cons ⟨rfl, hverifies⟩ (.cons ⟨rfl, hverifies'⟩ .nil)

/-- The id of a device is no public key, so their key ids differ. -/
theorem ed25519KeyId_device_ne {deviceId key : JsString} (hdevice : isMatrixDeviceId deviceId = true)
    (hkey : IsBase64Of 32 key) : ed25519KeyId deviceId ≠ ed25519KeyId key := by
  intro h
  have heq : deviceId = key := List.append_cancel_left h
  have hlength : deviceId.length = 33 := (length_of_fixed hdevice).trans (by decide)
  obtain ⟨bytes, hbytes, rfl⟩ := hkey
  rw [heq, length_unpadded, hbytes] at hlength
  omega

/-- A key that was read: it is for its usage and user, it is a key, and it has the signatures that
were asked for. -/
theorem key_of_parseKey {value : Option Json} {usage : CrossSigningUsage}
    {userId signingKeyId : JsString} {key : MatrixCrossSigningKey}
    (hmaster : usage = .master → ∀ key, IsBase64Of 32 key → signingKeyId ≠ ed25519KeyId key)
    (h : parseKey scheme value usage userId signingKeyId = .ok key) :
    key.usage = usage ∧ key.userId = userId ∧ StrongKey scheme key.key ∧
      key.signatures.map Prod.fst =
        if usage = .master then [signingKeyId, ed25519KeyId key.key] else [signingKeyId] := by
  obtain ⟨input, -, h⟩ := bind_eq_ok.mp h
  obtain ⟨_, -, h⟩ := bind_eq_ok.mp h
  obtain ⟨_, -, h⟩ := bind_eq_ok.mp h
  obtain ⟨keys, -, h⟩ := bind_eq_ok.mp h
  obtain ⟨keyId, -, h⟩ := bind_eq_ok.mp h
  obtain ⟨text, htext, h⟩ := bind_eq_ok.mp h
  obtain ⟨_, hkeyId, h⟩ := bind_eq_ok.mp h
  obtain ⟨_, hstrong, h⟩ := bind_eq_ok.mp h
  obtain ⟨signatures, hsignatures, h⟩ := bind_eq_ok.mp h
  cases h
  obtain rfl : keyId = ed25519KeyId text := of_decide_eq_true (require_eq_ok.mp hkeyId)
  have hbase64 := (base64_eq_ok_iff.mp htext).2
  refine ⟨rfl, rfl, assertMatrixEd25519PublicKey_eq_ok.mp hstrong, ?_⟩
  by_cases husage : usage = .master
  · rw [if_pos husage] at hsignatures ⊢
    have hne := hmaster husage text hbase64
    exact ((parseSignatures_eq_ok (by simp [hne]) (by simp)).mp hsignatures).1
  · rw [if_neg husage] at hsignatures ⊢
    exact ((parseSignatures_eq_ok (List.nodup_singleton _) (by simp)).mp hsignatures).1

/-! ## The certificate -/

theorem deviceCore_distinct (device : MatrixDeviceKeys) : (Json.obj device.core).Distinct := by
  refine ⟨?_, trivial, trivial, ⟨trivial, trivial, trivial⟩, ⟨?_, trivial, trivial, trivial⟩,
    trivial⟩
  · simp only [MatrixDeviceKeys.core, List.map_cons, List.map_nil]
    decide
  · simp [ed25519KeyId_ne]

/-- Devices of one id with one canonical form have the same keys. -/
theorem keys_eq_of_encode_eq {device other : MatrixDeviceKeys} {bytes : List UInt8}
    (hid : device.deviceId = other.deviceId)
    (h : encodeMatrixCanonicalJson (.obj device.core) = .ok bytes)
    (h' : encodeMatrixCanonicalJson (.obj other.core) = .ok bytes) :
    device.ed25519 = other.ed25519 ∧ device.curve25519 = other.curve25519 := by
  have hsame := same_of_encode_eq (deviceCore_distinct device) (deviceCore_distinct other) h h'
  have hnodup : (other.core.map Prod.fst).Nodup := (deviceCore_distinct other).1
  obtain ⟨entries, heq, -, hmembers⟩ := (same_obj_iff hnodup).mp hsame
  obtain rfl := Json.obj.inj heq
  obtain ⟨found, hfound, hkeys⟩ := hmembers _ (List.mem_cons_of_mem _ (List.mem_cons_of_mem _
    (List.mem_cons_of_mem _ List.mem_cons_self)))
  obtain ⟨keys, rfl, -, hed, hcurve⟩ := same_keysJson_iff.mp hkeys
  have hvalue : Json.get? (js "keys") device.core =
      some (.obj [(ed25519KeyId device.deviceId, .str device.ed25519),
        (curve25519KeyId device.deviceId, .str device.curve25519)]) := by
    rfl
  rw [hvalue] at hfound
  obtain rfl := Json.obj.inj (Option.some.inj hfound)
  rw [hid] at hed hcurve
  have hne := ed25519KeyId_ne other.deviceId
  constructor
  · simpa [Json.get?] using hed
  · simpa [Json.get?, hne] using hcurve

/-- The registered device was read as it is, and signed itself. -/
theorem ownDevice_of_parseRegistered {expected : MatrixCrossSigningBootstrapExpectation}
    {original : MatrixDeviceKeys} (h : parseRegistered scheme expected = .ok original) :
    OwnDevice expected.userId expected.deviceId expected.registeredDeviceKeys original ∧
      SignedExactly scheme original.core original.signatures [deviceSigner original] := by
  obtain ⟨device, hdevice, h⟩ := bind_eq_ok.mp h
  obtain ⟨_, hverified, h⟩ := bind_eq_ok.mp h
  cases h
  obtain ⟨hparts, found, hfound, hsame⟩ := parseDevice_eq_ok.mp hdevice
  obtain rfl := Option.some.inj hfound
  refine ⟨⟨hparts, hsame⟩, ?_⟩
  obtain ⟨text, hsignatures, -⟩ := hparts.signatures
  rw [deviceSigner, hparts.ofDevice]
  exact signedExactly_single (by rw [hsignatures]; rfl) hverified

/-- **The last link**: the original device with one more signature, valid under the self-signing
key. -/
theorem link_of_parseCertificate {value : Option Json}
    {expected : MatrixCrossSigningBootstrapExpectation} {original signed : MatrixDeviceKeys}
    {selfSigningKey : JsString}
    (horiginal : OwnDevice expected.userId expected.deviceId expected.registeredDeviceKeys original)
    (hown : SignedExactly scheme original.core original.signatures [deviceSigner original])
    (h : parseCertificate scheme value expected original selfSigningKey = .ok signed) :
    CertifiedBy scheme original signed selfSigningKey := by
  obtain ⟨users, -, h⟩ := bind_eq_ok.mp h
  obtain ⟨devices, -, h⟩ := bind_eq_ok.mp h
  obtain ⟨device, hdevice, h⟩ := bind_eq_ok.mp h
  obtain ⟨encoded, hencoded, h⟩ := bind_eq_ok.mp h
  obtain ⟨registered, hregistered, h⟩ := bind_eq_ok.mp h
  obtain ⟨_, hequal, h⟩ := bind_eq_ok.mp h
  obtain ⟨_, hverified, h⟩ := bind_eq_ok.mp h
  cases h
  obtain ⟨hparts, -⟩ := parseDevice_eq_ok.mp hdevice
  obtain rfl : encoded = registered := of_decide_eq_true (require_eq_ok.mp hequal)
  have hid : device.deviceId = original.deviceId :=
    hparts.ofDevice.trans horiginal.parts.ofDevice.symm
  have huser : device.userId = original.userId := hparts.ofUser.trans horiginal.parts.ofUser.symm
  obtain ⟨hed, hcurve⟩ := keys_eq_of_encode_eq hid hencoded hregistered
  obtain ⟨text, hsignatures, -⟩ := hparts.signatures
  have hextended : { device with signatures := device.signatures ++ original.signatures } =
      { original with signatures := (ed25519KeyId selfSigningKey, text) :: original.signatures } := by
    rw [hsignatures, List.singleton_append]
    obtain ⟨userId, deviceId, ed25519, curve25519, signatures⟩ := device
    subst hid huser hed hcurve
    rfl
  have hcore : device.core = original.core := by
    simp only [MatrixDeviceKeys.core, hid, huser, hed, hcurve]
  refine ⟨⟨text, hextended⟩, ?_⟩
  rw [hsignatures] at hverified
  have hlink : Verifies scheme original.core text selfSigningKey :=
    hcore ▸ verify_single_eq_ok.mp hverified
  rw [hextended]
  exact .cons ⟨rfl, hlink⟩ hown

/-! ## The bootstrap -/

theorem notDevice_of_any {keys : List JsString} {original : MatrixDeviceKeys}
    (h : (!keys.any [original.ed25519, original.curve25519].contains) = true) :
    ∀ key ∈ keys, key ≠ original.ed25519 ∧ key ≠ original.curve25519 := by
  intro key hkey
  have hnot : [original.ed25519, original.curve25519].contains key = false := by
    rw [Bool.not_eq_true', List.any_eq_false] at h
    simpa using h key hkey
  simpa [List.contains_cons] using hnot

/-- **An accepted bootstrap is a whole chain**, on the registered device. -/
theorem chain_of_parseBootstrap {signingKeys deviceSignatures : Option Json}
    {expected : MatrixCrossSigningBootstrapExpectation} {bootstrap : MatrixCrossSigningBootstrap}
    (h : parseBootstrap scheme signingKeys deviceSignatures expected = .ok bootstrap) :
    ∃ original, OwnDevice expected.userId expected.deviceId expected.registeredDeviceKeys original ∧
      WholeChain scheme original bootstrap := by
  obtain ⟨_, hids, h⟩ := bind_eq_ok.mp h
  obtain ⟨original, horiginal, h⟩ := bind_eq_ok.mp h
  obtain ⟨pinned, -, h⟩ := bind_eq_ok.mp h
  obtain ⟨keys, hkeys, h⟩ := bind_eq_ok.mp h
  obtain ⟨signed, hsigned, h⟩ := bind_eq_ok.mp h
  cases h
  obtain ⟨hown, hsignature⟩ := ownDevice_of_parseRegistered horiginal
  have hdeviceId := (Bool.and_eq_true_iff.mp (require_eq_ok.mp hids)).2
  obtain ⟨body, -, hkeys⟩ := bind_eq_ok.mp hkeys
  obtain ⟨master, hmaster, hkeys⟩ := bind_eq_ok.mp hkeys
  obtain ⟨selfSigning, hself, hkeys⟩ := bind_eq_ok.mp hkeys
  obtain ⟨userSigning, huser, hkeys⟩ := bind_eq_ok.mp hkeys
  obtain ⟨_, hdistinct, hkeys⟩ := bind_eq_ok.mp hkeys
  obtain ⟨_, -, hkeys⟩ := bind_eq_ok.mp hkeys
  obtain ⟨_, hdeviceSigns, hkeys⟩ := bind_eq_ok.mp hkeys
  obtain ⟨_, hmasterSigns, hkeys⟩ := bind_eq_ok.mp hkeys
  obtain ⟨_, hselfSigned, hkeys⟩ := bind_eq_ok.mp hkeys
  obtain ⟨_, huserSigned, hkeys⟩ := bind_eq_ok.mp hkeys
  cases hkeys
  obtain ⟨-, -, ⟨bytes, hmasterKey, -⟩, hmasterIds⟩ := key_of_parseKey
    (fun _ _ hkey => ed25519KeyId_device_ne hdeviceId hkey) hmaster
  obtain ⟨-, -, -, hselfIds⟩ := key_of_parseKey (by rintro ⟨⟩) hself
  obtain ⟨-, -, -, huserIds⟩ := key_of_parseKey (by rintro ⟨⟩) huser
  have hne := ed25519KeyId_device_ne hdeviceId ⟨bytes, hmasterKey⟩
  obtain ⟨hnodup, hnotDevice⟩ := Bool.and_eq_true_iff.mp (require_eq_ok.mp hdistinct)
  refine ⟨original, hown, ?_, signedExactly_single hselfIds hselfSigned,
    signedExactly_single huserIds huserSigned, link_of_parseCertificate hown hsignature hsigned,
    of_decide_eq_true hnodup, notDevice_of_any hnotDevice⟩
  rw [deviceSigner, hown.parts.ofDevice]
  exact signedExactly_pair hmasterIds hne hdeviceSigns hmasterSigns

/-! ## The certificate of another device -/

theorem assertStrongKeys_eq_ok {keys : List JsString} {u : Unit} :
    assertStrongKeys scheme keys = .ok u ↔ ∀ key ∈ keys, StrongKey scheme key := by
  induction keys with
  | nil => simp [assertStrongKeys]
  | cons key rest ih =>
    rw [assertStrongKeys, bind_eq_ok]
    simp [assertMatrixEd25519PublicKey_eq_ok, ih]

/-- The value of an identity, as it is stored. -/
def pinnedIdentityJson (userId : JsString) (identity : MatrixCrossSigningPublicIdentity) : Json :=
  .obj [(js "userId", .str userId), (js "masterKey", .str identity.masterKey),
    (js "selfSigningKey", .str identity.selfSigningKey),
    (js "userSigningKey", .str identity.userSigningKey)]

theorem same_of_parsePinnedIdentityOf {value : Json} {userId : JsString}
    {identity : MatrixCrossSigningPublicIdentity}
    (h : parsePinnedIdentityOf value userId = .ok identity) :
    Same value (pinnedIdentityJson userId identity) := by
  obtain ⟨input, hinput, h⟩ := bind_eq_ok.mp h
  obtain ⟨_, huser, h⟩ := bind_eq_ok.mp h
  obtain ⟨masterKey, hmaster, h⟩ := bind_eq_ok.mp h
  obtain ⟨selfSigningKey, hself, h⟩ := bind_eq_ok.mp h
  obtain ⟨userSigningKey, huserKey, h⟩ := bind_eq_ok.mp h
  cases h
  obtain ⟨hvalue, hkeys⟩ := (exactRecord_eq_ok_iff (by decide)).mp hinput
  have huser' := str?_eq_some.mp (of_decide_eq_true (require_eq_ok.mp huser))
  have hnodup : ([(js "userId", Json.str userId), (js "masterKey", .str masterKey),
      (js "selfSigningKey", .str selfSigningKey),
      (js "userSigningKey", .str userSigningKey)].map Prod.fst).Nodup := by
    simp only [List.map_cons, List.map_nil]
    decide
  rw [pinnedIdentityJson, same_obj_iff hnodup]
  refine ⟨input, Option.some.inj hvalue, hkeys, ?_⟩
  simp [huser', (base64_eq_ok_iff.mp hmaster).1, (base64_eq_ok_iff.mp hself).1,
    (base64_eq_ok_iff.mp huserKey).1]

/-- **What an accepted certificate shows**: the identity is the stored one, of three strong keys
that are none of the device, and the device is the original one signed by the self-signing key. -/
structure CertificateLink (scheme : SignatureScheme) (expected : MatrixDeviceCertificateExpectation)
    (original : MatrixDeviceKeys) (certificate : MatrixDeviceCertificate) : Prop where
  pinned : Same expected.pinnedIdentity (pinnedIdentityJson expected.userId certificate.identity)
  strong : ∀ key ∈ certificate.identity.keys, StrongKey scheme key
  distinct : certificate.identity.keys.Nodup
  notDevice : ∀ key ∈ certificate.identity.keys,
    key ≠ original.ed25519 ∧ key ≠ original.curve25519
  device : CertifiedBy scheme original certificate.signedDeviceKeys
    certificate.identity.selfSigningKey

theorem link_of_parseMatrixDeviceCertificate {value : Option Json}
    {expected : MatrixDeviceCertificateExpectation} {certificate : MatrixDeviceCertificate}
    (h : parseMatrixDeviceCertificate scheme value expected = .ok certificate) :
    ∃ original, OwnDevice expected.userId expected.deviceId expected.originalDeviceKeys original ∧
      CertificateLink scheme expected original certificate := by
  obtain ⟨_, -, h⟩ := bind_eq_ok.mp h
  obtain ⟨identity, hidentity, h⟩ := bind_eq_ok.mp h
  obtain ⟨_, hdistinct, h⟩ := bind_eq_ok.mp h
  obtain ⟨_, hstrong, h⟩ := bind_eq_ok.mp h
  obtain ⟨original, horiginal, h⟩ := bind_eq_ok.mp h
  obtain ⟨_, hnotDevice, h⟩ := bind_eq_ok.mp h
  obtain ⟨signed, hsigned, h⟩ := bind_eq_ok.mp h
  cases h
  obtain ⟨hown, hsignature⟩ := ownDevice_of_parseRegistered horiginal
  exact ⟨original, hown, same_of_parsePinnedIdentityOf hidentity, assertStrongKeys_eq_ok.mp hstrong,
    of_decide_eq_true (require_eq_ok.mp hdistinct), notDevice_of_any (require_eq_ok.mp hnotDevice),
    link_of_parseCertificate hown hsignature hsigned⟩

/-- **Both parsers are sound.** An accepted bootstrap is a whole chain on the registered device; an
accepted certificate is a link from the stored identity to the original device. -/
theorem cross_signing_parsers_sound (scheme : SignatureScheme) :
    (∀ signingKeys deviceSignatures expected bootstrap,
      parseBootstrap scheme signingKeys deviceSignatures expected = .ok bootstrap →
      ∃ original, OwnDevice expected.userId expected.deviceId expected.registeredDeviceKeys
        original ∧ WholeChain scheme original bootstrap) ∧
    ∀ value expected certificate,
      parseMatrixDeviceCertificate scheme value expected = .ok certificate →
      ∃ original, OwnDevice expected.userId expected.deviceId expected.originalDeviceKeys
        original ∧ CertificateLink scheme expected original certificate :=
  ⟨fun _ _ _ _ => chain_of_parseBootstrap, fun _ _ _ => link_of_parseMatrixDeviceCertificate⟩

/-! ## A certificate without a chain -/

/-- **The claim on certificates**: an accepted one comes with the whole chain, made of three keys
with the identity's public keys. -/
def CertificatesAreChains (scheme : SignatureScheme) : Prop :=
  ∀ value expected certificate,
    parseMatrixDeviceCertificate scheme value expected = .ok certificate →
    ∃ original bootstrap, OwnDevice expected.userId expected.deviceId expected.originalDeviceKeys
      original ∧ bootstrap.identity = certificate.identity ∧
      bootstrap.signedDeviceKeys = certificate.signedDeviceKeys ∧
      WholeChain scheme original bootstrap

namespace Sample

open SinoChat.Sample (clientKeys)

/-- Every point is strong, and every signature valid but those under the master key. -/
def unsignedScheme : SignatureScheme :=
  ⟨fun _ => true, fun _ key _ => key ≠ bufferFromBase64 identity.masterKey⟩

/-- The certificate of the client's device. -/
def certificateBody : Json :=
  .obj [(clientKeys.matrixUserId, .obj [(clientKeys.matrixDeviceId,
    .obj (device.core ++ [(js "signatures", signaturesJson clientKeys.matrixUserId
      (request.signedDeviceKeys.signatures.take 1))]))])]

/-- What the certificate of the client's device has to certify. -/
def certificateExpectation : MatrixDeviceCertificateExpectation where
  userId := clientKeys.matrixUserId
  deviceId := clientKeys.matrixDeviceId
  originalDeviceKeys := device.toJson
  pinnedIdentity := pinnedIdentityJson clientKeys.matrixUserId identity

/-- The bodies are accepted, the certificate also where the master key signs nothing. -/
theorem accepted : (parseBootstrap Sample.scheme (some request.signingKeys) (some certificateBody)
      ⟨certificateExpectation.userId, certificateExpectation.deviceId, device.toJson,
        none⟩).toOption = some request ∧
    (parseMatrixDeviceCertificate Sample.scheme (some certificateBody)
      certificateExpectation).toOption = some ⟨request.signedDeviceKeys, identity⟩ ∧
    (parseMatrixDeviceCertificate unsignedScheme (some certificateBody)
      certificateExpectation).toOption = some ⟨request.signedDeviceKeys, identity⟩ := by
  decide +kernel

end Sample

/-- The bootstrap and the certificate of one device. -/
theorem cross_signing_parsers_sound_client :
    (∃ original, OwnDevice Sample.certificateExpectation.userId
      Sample.certificateExpectation.deviceId Sample.device.toJson original ∧
      WholeChain Sample.scheme original Sample.request) ∧
    ∃ original, OwnDevice Sample.certificateExpectation.userId
      Sample.certificateExpectation.deviceId Sample.device.toJson original ∧
      CertificateLink Sample.scheme Sample.certificateExpectation original
        ⟨Sample.request.signedDeviceKeys, Sample.identity⟩ := by
  obtain ⟨hboot, hcertificate, -⟩ := Sample.accepted
  exact ⟨(cross_signing_parsers_sound Sample.scheme).1 _ _ _ _ (ok_of_toOption hboot),
    (cross_signing_parsers_sound Sample.scheme).2 _ _ _ (ok_of_toOption hcertificate)⟩

/-- **A certificate is accepted where nothing was ever signed by the master key.** -/
theorem not_certificatesAreChains : ¬ CertificatesAreChains Sample.unsignedScheme := by
  intro hclaim
  obtain ⟨original, bootstrap, -, hidentity, -, hchain⟩ :=
    hclaim _ _ _ (ok_of_toOption Sample.accepted.2.2)
  have hmaster : bootstrap.masterKey.key = Sample.identity.masterKey :=
    congrArg MatrixCrossSigningPublicIdentity.masterKey hidentity
  obtain ⟨_, _, ⟨-, _, key, _, -, hkey, -, -, -, hverify⟩, -⟩ :=
    List.forall₂_cons_right_iff.mp hchain.selfSigning
  have htext : unpadded (toBase64 key) = Sample.identity.masterKey := hkey.2.trans hmaster
  have hbytes : key = bufferFromBase64 Sample.identity.masterKey := by
    rw [← htext, bufferFromBase64_unpadded]
  simp [Sample.unsignedScheme, hbytes] at hverify

end CrossSigning

end SinoChat
