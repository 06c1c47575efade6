import SinoChat.Model.CrossSigningService
import SinoChat.ToDevice.Script

/-!
# A cross-signing identity is stored once

The rows of an identity and of its certificate are those of one accepted request
(`Stored`), which every step keeps. A bootstrap of a user who has an identity
changes nothing: it answers the stored one where its content is the stored
content, and is refused elsewhere.

The runs that show a hypothesis can be met are those of the registered device of a
client and the request of an identity, with real keys, signatures and digests (`Sample`).
-/

namespace SinoChat

open Js

namespace CrossSigning

/-! ## A small directory -/

namespace Sample

open SinoChat.Sample (accounts client clientId clientKeys digestAt hex cashierKeys fixed_hex
  base64Url fixed_base64Url)

/-- A long text in short pieces, which the kernel reads much faster than one literal. -/
def inPieces (pieces : List String) : JsString := pieces.flatMap js

/-- The keys of the client's device, and its signature of them. -/
def device : MatrixDeviceKeys where
  userId := clientKeys.matrixUserId
  deviceId := clientKeys.matrixDeviceId
  ed25519 := inPieces ["zhwLS/DBhGnh1g7", "cGYrlr+dE9nWIVh", "pgCMBseWRzvRg"]
  curve25519 := inPieces ["rmSI4rQx/g5nR9I", "eicI3QXJZJ4d3bc", "s/HOXeTjZsEvk"]
  signatures := [(ed25519KeyId clientKeys.matrixDeviceId, inPieces
      ["7P0LeWO3IO0Ve0v", "5Hi4LR4jyT1mt6n", "d08b7NQGF/QLVvS",
       "/VZzs5OZXp4UXyo", "KExXkS+YlJzYyWf", "f+jA2kIoGCw"])]

/-- The public keys of an identity. -/
def identity : MatrixCrossSigningPublicIdentity where
  masterKey := inPieces ["cdJYQFJdOAIb2sf", "i7B8kDjkdKs3LD8", "LjXY8Fy4s7sgg"]
  selfSigningKey := inPieces ["q6/OJGKbP0bYYbb", "SBBL6jbL1FeQXuf", "zEJwF2wxQycQE"]
  userSigningKey := inPieces ["YTxBR/NLxbIM6Fr", "CkeIS0acCT2a35f", "Se2jR9tVBnZX8"]

/-- The request of that identity: the master key is signed by the device and by
itself, the other keys by the master key, the device by the self-signing key. -/
def request : MatrixCrossSigningBootstrap where
  masterKey := ⟨.master, clientKeys.matrixUserId, identity.masterKey,
    [(ed25519KeyId clientKeys.matrixDeviceId, inPieces
      ["WoPlRG+ZDdK6Lbr", "Ellzl259OuJ69yt", "k0wA8UjXKiRA8gR",
       "lEce742xl3+e875", "aq55nQbFIm1x+rj", "R/1KX6VN4Bw"]),
    (ed25519KeyId identity.masterKey, inPieces
      ["vhQnX9fVfMjlHkV", "TnXM9iUV/n5uIPA", "77mKrkbuaZe0urr",
       "y28LqZVfToYp1Bo", "d0oAD/MWv9W2siw", "L2DPMbZ6wDw"])]⟩
  selfSigningKey := ⟨.selfSigning, clientKeys.matrixUserId, identity.selfSigningKey,
    [(ed25519KeyId identity.masterKey, inPieces
      ["aAN62OKTNfXWawB", "MavMeNMjADAhn41", "H8DYUy8CtUyC1Ox",
       "MhOgtx3No2rdwqT", "1QT3063pDBFvS5A", "2g7tx0hx/Bg"])]⟩
  userSigningKey := ⟨.userSigning, clientKeys.matrixUserId, identity.userSigningKey,
    [(ed25519KeyId identity.masterKey, inPieces
      ["spFeN7DbAcCvVdC", "QmZR89UgQWLnFJB", "7vlijXcqpa5eFYG",
       "azOuHQeFrQIArSE", "XueVGqiiVCXAdHt", "9OsUK01S6AQ"])]⟩
  signedDeviceKeys := { device with
    signatures := (ed25519KeyId identity.selfSigningKey, inPieces
      ["Zb/9LIbLGa7S7c0", "uJWZK6OcXPHi+19", "bOBM8JiHAIVRumC",
       "4B5+Qh0SdpTnLEy", "ISMS35N3615fzy0", "Vt5eY9rxICg"]) ::
        device.signatures }

/-- The certificate of the device alone. -/
def deviceSignatures : Json :=
  .obj [(clientKeys.matrixUserId, .obj [(clientKeys.matrixDeviceId,
    .obj (device.core ++ [(js "signatures", signaturesJson clientKeys.matrixUserId
      (request.signedDeviceKeys.signatures.take 1))]))])]

/-- The body of the request. -/
def body : Json :=
  .obj [(js "signing_keys", request.signingKeys), (js "device_signatures", deviceSignatures)]

/-- The digests of the request, and zero elsewhere. -/
def crypto : Crypto where
  hmacBase64Url := fun _ => base64Url 0
  sha256Hex := fun text => hex 64 (digestAt
    [((encodeCanonical request.hashInput).getD [],
        0xd8c0eb3520c8b1c3b4e7c3831123a01a557ae8d7a68b1b77b34bd57d544ba08b),
      ((encodeCanonical request.signedDeviceKeys.toJson).getD [],
        0x8504f53f6dc034ea75f68f3e9bc8f094b5e5936ffe4973b0c3a1ea5f2ad70566)] text)
  hmac_format := fun _ => fixed_base64Url _
  sha256_format := fun _ => fixed_hex _ _

/-- The deployment with these digests. -/
def deployment : Deployment := ⟨crypto, js "chat.example"⟩

/-- Every key of these is strong, and every signature valid. -/
def scheme : SignatureScheme := ⟨fun _ => true, fun _ _ _ => true⟩

/-- The client's device, registered, without an identity. -/
def directory : Directory where
  accounts := { accounts with
    deviceKeys := ⟨[{ clientKeys with curve25519Key := device.curve25519 }, cashierKeys],
      by decide +kernel⟩ }
  deviceKeys := Function.update (fun _ => none) clientKeys.deviceId (some device.toJson)
  lists := DeviceLists.empty
  identities := .empty
  certificates := .empty

/-- The client at their device. -/
def call : IdentityCall := ⟨client, 1000, 1000, 1000⟩

end Sample

variable {env : Deployment} {scheme : SignatureScheme}

/-- A call as a step. -/
def execBootstrap (env : Deployment) (scheme : SignatureScheme) (command : IdentityCall × Json)
    (db : Directory) : Option (DirectoryAction × Directory) :=
  match bootstrap env scheme command.1 command.2 db with
  | .ok (db', answer) => some (.bootstrapped command.1 command.2 answer, db')
  | .error error => some (.refused command.1 command.2 error, db)

theorem step_of_execBootstrap {command : IdentityCall × Json} {db db' : Directory}
    {action : DirectoryAction}
    (h : execBootstrap env scheme command db = some (action, db')) :
    (directory env scheme).step db action db' := by
  unfold execBootstrap at h
  split at h
  · rename_i answer hbootstrap
    cases h
    exact .bootstrap hbootstrap
  · rename_i error hbootstrap
    cases h
    exact .refuse hbootstrap

theorem Sample.directory_init :
    (CrossSigning.directory Sample.deployment Sample.scheme).init Sample.directory := by
  refine ⟨rfl, rfl, by decide +kernel, by decide +kernel⟩

/-! ## Parsing a request again -/

theorem base64_eq_ok {value : Option Json} {bytes : ℕ} {text : JsString}
    (h : base64 value bytes = .ok text) : base64 (some (.str text)) bytes = .ok text := by
  obtain ⟨found, hfound, h⟩ := bind_eq_ok.mp h
  obtain ⟨_, hlength, h⟩ := bind_eq_ok.mp h
  obtain ⟨_, hdecoded, h⟩ := bind_eq_ok.mp h
  cases h
  exact bind_eq_ok.mpr ⟨text, rfl, bind_eq_ok.mpr ⟨(), hlength, bind_eq_ok.mpr ⟨(), hdecoded, rfl⟩⟩⟩

theorem base64_of_parseKey {value : Option Json} {usage : CrossSigningUsage}
    {userId signingKeyId : JsString} {key : MatrixCrossSigningKey}
    (h : parseKey scheme value usage userId signingKeyId = .ok key) :
    base64 (some (.str key.key)) 32 = .ok key.key := by
  obtain ⟨input, -, h⟩ := bind_eq_ok.mp h
  obtain ⟨_, -, h⟩ := bind_eq_ok.mp h
  obtain ⟨_, -, h⟩ := bind_eq_ok.mp h
  obtain ⟨keys, -, h⟩ := bind_eq_ok.mp h
  obtain ⟨keyId, -, h⟩ := bind_eq_ok.mp h
  obtain ⟨text, htext, h⟩ := bind_eq_ok.mp h
  obtain ⟨_, -, h⟩ := bind_eq_ok.mp h
  obtain ⟨_, -, h⟩ := bind_eq_ok.mp h
  obtain ⟨signatures, -, h⟩ := bind_eq_ok.mp h
  cases h
  exact base64_eq_ok htext

/-- The keys of a request, read with its own identity pinned. -/
theorem parseSigningKeys_pinned {value : Option Json}
    {expected : MatrixCrossSigningBootstrapExpectation} {original : MatrixDeviceKeys}
    {pinned : Option MatrixCrossSigningPublicIdentity} {keys : SigningKeys}
    (h : parseSigningKeys scheme value expected original none = .ok keys)
    (hpinned : ∀ identity ∈ pinned,
      identity = ⟨keys.masterKey.key, keys.selfSigningKey.key, keys.userSigningKey.key⟩) :
    parseSigningKeys scheme value { expected with pinnedIdentity := pinned } original pinned =
      .ok keys := by
  obtain ⟨body, hbody, h⟩ := bind_eq_ok.mp h
  obtain ⟨master, hmaster, h⟩ := bind_eq_ok.mp h
  obtain ⟨selfSigning, hself, h⟩ := bind_eq_ok.mp h
  obtain ⟨userSigning, huser, h⟩ := bind_eq_ok.mp h
  obtain ⟨_, hdistinct, h⟩ := bind_eq_ok.mp h
  obtain ⟨_, -, h⟩ := bind_eq_ok.mp h
  obtain ⟨_, hdevice, h⟩ := bind_eq_ok.mp h
  obtain ⟨_, hmasterSigned, h⟩ := bind_eq_ok.mp h
  obtain ⟨_, hselfSigned, h⟩ := bind_eq_ok.mp h
  obtain ⟨_, huserSigned, h⟩ := bind_eq_ok.mp h
  cases h
  refine bind_eq_ok.mpr ⟨body, hbody, bind_eq_ok.mpr ⟨master, hmaster,
    bind_eq_ok.mpr ⟨selfSigning, hself, bind_eq_ok.mpr ⟨userSigning, huser,
    bind_eq_ok.mpr ⟨(), hdistinct, bind_eq_ok.mpr ⟨(), require_eq_ok.mpr ?_,
    bind_eq_ok.mpr ⟨(), hdevice, bind_eq_ok.mpr ⟨(), hmasterSigned,
    bind_eq_ok.mpr ⟨(), hselfSigned, bind_eq_ok.mpr ⟨(), huserSigned, rfl⟩⟩⟩⟩⟩⟩⟩⟩⟩⟩
  cases pinned with
  | none => rfl
  | some identity =>
    rw [Option.all_some, decide_eq_true_eq]
    exact hpinned identity rfl

/-- The keys of a request can be pinned. -/
theorem base64_of_parseSigningKeys {value : Option Json}
    {expected : MatrixCrossSigningBootstrapExpectation} {original : MatrixDeviceKeys}
    {pinned : Option MatrixCrossSigningPublicIdentity} {keys : SigningKeys}
    (h : parseSigningKeys scheme value expected original pinned = .ok keys) :
    base64 (some (.str keys.masterKey.key)) 32 = .ok keys.masterKey.key ∧
      base64 (some (.str keys.selfSigningKey.key)) 32 = .ok keys.selfSigningKey.key ∧
      base64 (some (.str keys.userSigningKey.key)) 32 = .ok keys.userSigningKey.key := by
  obtain ⟨body, hbody, h⟩ := bind_eq_ok.mp h
  obtain ⟨master, hmaster, h⟩ := bind_eq_ok.mp h
  obtain ⟨selfSigning, hself, h⟩ := bind_eq_ok.mp h
  obtain ⟨userSigning, huser, h⟩ := bind_eq_ok.mp h
  obtain ⟨_, -, h⟩ := bind_eq_ok.mp h
  obtain ⟨_, -, h⟩ := bind_eq_ok.mp h
  obtain ⟨_, -, h⟩ := bind_eq_ok.mp h
  obtain ⟨_, -, h⟩ := bind_eq_ok.mp h
  obtain ⟨_, -, h⟩ := bind_eq_ok.mp h
  obtain ⟨_, -, h⟩ := bind_eq_ok.mp h
  cases h
  exact ⟨base64_of_parseKey hmaster, base64_of_parseKey hself, base64_of_parseKey huser⟩

/-- **A request is read again with its own identity pinned.** -/
theorem parseBootstrap_pinned {signingKeys deviceSignatures : Option Json}
    {userId deviceId : JsString} {registered : Json} {parsed : MatrixCrossSigningBootstrap}
    (h : parseBootstrap scheme signingKeys deviceSignatures ⟨userId, deviceId, registered, none⟩ =
      .ok parsed) :
    parseBootstrap scheme signingKeys deviceSignatures
      ⟨userId, deviceId, registered, some parsed.identity⟩ = .ok parsed := by
  obtain ⟨_, hids, h⟩ := bind_eq_ok.mp h
  obtain ⟨original, horiginal, h⟩ := bind_eq_ok.mp h
  obtain ⟨pinned, hnone, hrest⟩ := bind_eq_ok.mp h
  obtain rfl : none = pinned := Except.ok.inj hnone
  obtain ⟨keys, hkeys, hbuild⟩ := bind_eq_ok.mp hrest
  obtain ⟨signed, hsigned, hparsed⟩ := bind_eq_ok.mp hbuild
  obtain rfl := Except.ok.inj hparsed
  obtain ⟨hmaster, hself, huser⟩ := base64_of_parseSigningKeys hkeys
  have hpinned : parsePinned (some
      (MatrixCrossSigningBootstrap.mk keys.masterKey keys.selfSigningKey keys.userSigningKey
        signed).identity) = .ok (some ⟨keys.masterKey.key, keys.selfSigningKey.key,
          keys.userSigningKey.key⟩) :=
    bind_eq_ok.mpr ⟨_, bind_eq_ok.mpr ⟨_, hmaster, bind_eq_ok.mpr ⟨_, hself,
      bind_eq_ok.mpr ⟨_, huser, rfl⟩⟩⟩, rfl⟩
  exact bind_eq_ok.mpr ⟨(), hids, bind_eq_ok.mpr ⟨original, horiginal,
    bind_eq_ok.mpr ⟨_, hpinned, bind_eq_ok.mpr ⟨keys,
      parseSigningKeys_pinned hkeys fun identity hidentity => (Option.some.inj hidentity).symm,
      bind_eq_ok.mpr ⟨signed, hsigned, rfl⟩⟩⟩⟩⟩

theorem parseAndHash_eq_ok {crypto : Crypto} {body : Json × Json} {context : IdentityContext}
    {pinned : Option MatrixCrossSigningPublicIdentity} {request : HashedBootstrap} :
    parseAndHash crypto scheme body context pinned = .ok request ↔
      parseBootstrap scheme (some body.1) (some body.2)
          ⟨context.matrixUserId, context.matrixDeviceId, context.deviceKeys, pinned⟩ =
        .ok request.parsed ∧
      hashMatrixCanonicalJson crypto request.parsed.hashInput = .ok request.bootstrapSha256 ∧
      hashMatrixCanonicalJson crypto request.parsed.signedDeviceKeys.toJson =
        .ok request.canonicalSha256 := by
  constructor
  · intro h
    obtain ⟨parsed, hparsed, h⟩ := bind_eq_ok.mp h
    obtain ⟨bootstrapSha256, hbootstrap, h⟩ := bind_eq_ok.mp h
    obtain ⟨canonicalSha256, hcanonical, h⟩ := bind_eq_ok.mp h
    cases h
    exact ⟨orHttp_eq_ok.mp hparsed, orHttp_eq_ok.mp hbootstrap, orHttp_eq_ok.mp hcanonical⟩
  · rintro ⟨hparsed, hbootstrap, hcanonical⟩
    exact bind_eq_ok.mpr ⟨_, orHttp_eq_ok.mpr hparsed, bind_eq_ok.mpr ⟨_, orHttp_eq_ok.mpr hbootstrap,
      bind_eq_ok.mpr ⟨_, orHttp_eq_ok.mpr hcanonical, rfl⟩⟩⟩

/-! ## Contexts -/

/-- What a context says of the caller's device. -/
structure ContextOf (env : Deployment) (call : IdentityCall) (db : Directory)
    (context : IdentityContext) : Prop where
  matrixUserId : context.matrixUserId =
    matrixUserIdFromUuid call.principal.id env.matrixServerName
  matrixDeviceId : context.matrixDeviceId =
    MessagePayload.matrixDeviceIdFromUuid context.deviceId
  registered : db.deviceKeys context.deviceId = some context.deviceKeys
  published : ∃ row ∈ db.accounts.deviceKeys,
    row.deviceId = context.deviceId ∧ row.userId = call.principal.id
  device : ∃ device ∈ db.accounts.devices,
    device.id = context.deviceId ∧ device.userId = call.principal.id

theorem openContext_eq_ok {call : IdentityCall} {db : Directory} {context : IdentityContext}
    (h : openContext env.matrixServerName call db = .ok context) :
    ContextOf env call db context := by
  obtain ⟨_, -, h⟩ := bind_eq_ok.mp h
  obtain ⟨deviceId, -, h⟩ := bind_eq_ok.mp h
  obtain ⟨_, -, h⟩ := bind_eq_ok.mp h
  obtain ⟨subscriptionEndsAt, -, h⟩ := bind_eq_ok.mp h
  obtain ⟨_, hlocked, h⟩ := bind_eq_ok.mp h
  obtain ⟨_, -, h⟩ := bind_eq_ok.mp h
  obtain ⟨original, horiginal, h⟩ := bind_eq_ok.mp h
  obtain ⟨deviceKeys, hkeys, h⟩ := bind_eq_ok.mp h
  cases h
  obtain ⟨hfound, hmatches⟩ := Option.filter_eq_some_iff.mp (orThrow_eq_ok.mp horiginal)
  obtain ⟨hrow, hdevice⟩ := Table.find?_eq_some.mp hfound
  simp only [Bool.and_eq_true, decide_eq_true_eq] at hmatches
  rw [require_eq_ok, lockedSession, Bool.and_eq_true] at hlocked
  obtain ⟨device, hdeviceRow, hactive⟩ := (Option.any_eq_true _ _).mp hlocked.1
  simp only [Bool.and_eq_true, decide_eq_true_eq] at hactive
  obtain ⟨hmember, hid⟩ := Table.find?_eq_some.mp hdeviceRow
  refine ⟨rfl, rfl, ?_, ⟨original, hrow, hdevice, hmatches.1.1⟩, device, hmember, hid, hactive.1⟩
  rw [← hdevice]
  exact orThrow_eq_ok.mp hkeys

/-! ## Stored rows -/

/-- The rows of an identity and its certificate, with the request they are the rows of. -/
structure Stored (env : Deployment) (scheme : SignatureScheme) (db : Directory)
    (row : MatrixCrossSigningIdentity) (certificate : MatrixDeviceCrossSigning)
    (body : Json × Json) (request : HashedBootstrap) : Prop where
  found : db.certificates.find? row.bootstrapDeviceId = some certificate
  owner : certificate.userId = row.userId
  published : ∃ published ∈ db.accounts.deviceKeys,
    published.deviceId = row.bootstrapDeviceId ∧ published.userId = row.userId
  registered : ∃ context : IdentityContext,
    context.matrixUserId = matrixUserIdFromUuid row.userId env.matrixServerName ∧
    context.matrixDeviceId = MessagePayload.matrixDeviceIdFromUuid row.bootstrapDeviceId ∧
    db.deviceKeys row.bootstrapDeviceId = some context.deviceKeys ∧
    parseAndHash env.crypto scheme body context none = .ok request
  identity : row.identity = request.parsed.identity
  signingKeys : row.signingKeys = request.parsed.signingKeys
  bootstrapSha256 : row.bootstrapSha256 = request.bootstrapSha256
  signedDeviceKeys : certificate.signedDeviceKeys = request.parsed.signedDeviceKeys.toJson
  canonicalSha256 : certificate.canonicalSha256 = request.canonicalSha256

/-- Every identity has its certificate, and both are of one request. -/
structure Inv (env : Deployment) (scheme : SignatureScheme) (db : Directory) : Prop where
  constraints : DeviceConstraints db.accounts
  stored : ∀ row ∈ db.identities, ∃ certificate body request,
    Stored env scheme db row certificate body request

/-- Rows stay as they are. -/
structure Kept (db db' : Directory) : Prop where
  identities : ∀ userId row, db.identities.find? userId = some row →
    db'.identities.find? userId = some row
  certificates : ∀ deviceId certificate, db.certificates.find? deviceId = some certificate →
    db'.certificates.find? deviceId = some certificate

theorem Kept.refl (db : Directory) : Kept db db := ⟨fun _ _ h => h, fun _ _ h => h⟩

theorem Kept.trans {a b c : Directory} (h : Kept a b) (h' : Kept b c) : Kept a c :=
  ⟨fun userId row hrow => h'.identities userId row (h.identities userId row hrow),
    fun deviceId certificate hrow =>
      h'.certificates deviceId certificate (h.certificates deviceId certificate hrow)⟩

/-- Rows and published device keys stay as they are. -/
structure Grown (db db' : Directory) : Prop where
  kept : Kept db db'
  published : ∀ row ∈ db.accounts.deviceKeys, row ∈ db'.accounts.deviceKeys
  registered : ∀ deviceId value, db.deviceKeys deviceId = some value →
    db'.deviceKeys deviceId = some value

theorem Grown.refl (db : Directory) : Grown db db := ⟨.refl db, fun _ h => h, fun _ _ h => h⟩

/-- What keeps the rows and what they refer to keeps them stored. -/
theorem Stored.grown {db db' : Directory} {row : MatrixCrossSigningIdentity}
    {certificate : MatrixDeviceCrossSigning} {body : Json × Json} {request : HashedBootstrap}
    (h : Stored env scheme db row certificate body request) (hgrown : Grown db db') :
    Stored env scheme db' row certificate body request := by
  obtain ⟨published, hpublished, hids⟩ := h.published
  obtain ⟨context, huser, hdevice, hregistered, hparsed⟩ := h.registered
  exact ⟨hgrown.kept.certificates _ _ h.found, h.owner,
    ⟨published, hgrown.published _ hpublished, hids⟩,
    ⟨context, huser, hdevice, hgrown.registered _ _ hregistered, hparsed⟩, h.identity,
    h.signingKeys, h.bootstrapSha256, h.signedDeviceKeys, h.canonicalSha256⟩

/-! ## What a bootstrap does -/

/-- A bootstrap that succeeds does so in its context, before and behind the operation. -/
theorem bootstrap_eq_ok {call : IdentityCall} {value : Json} {db db' : Directory}
    {answer : IdentityStatus} :
    bootstrap env scheme call value db = .ok (db', answer) ↔
      ∃ body context, parseBody value = .ok body ∧
        openContext env.matrixServerName call db = .ok context ∧
        bootstrapIn env.crypto scheme call body context db = .ok (db', answer) ∧
        requireCurrentSession db.accounts call.principal context.deviceId
          context.subscriptionEndsAt call.later = .ok () := by
  constructor
  · intro h
    obtain ⟨_, -, h⟩ := bind_eq_ok.mp h
    obtain ⟨body, hbody, h⟩ := bind_eq_ok.mp h
    obtain ⟨context, hcontext, h⟩ := bind_eq_ok.mp h
    obtain ⟨outcome, houtcome, h⟩ := bind_eq_ok.mp h
    obtain ⟨_, hsession, h⟩ := bind_eq_ok.mp h
    cases h
    exact ⟨body, context, hbody, hcontext, houtcome, hsession⟩
  · rintro ⟨body, context, hbody, hcontext, houtcome, hsession⟩
    obtain ⟨_, hparticipant, -⟩ := bind_eq_ok.mp hcontext
    exact bind_eq_ok.mpr ⟨(), hparticipant, bind_eq_ok.mpr ⟨body, hbody,
      bind_eq_ok.mpr ⟨context, hcontext, bind_eq_ok.mpr ⟨(db', answer), houtcome,
      bind_eq_ok.mpr ⟨(), hsession, rfl⟩⟩⟩⟩⟩

/-- A bootstrap for a stored identity writes nothing. -/
theorem bootstrapFor_some_eq_ok {call : IdentityCall} {body : Json × Json}
    {context : IdentityContext} {db db' : Directory} {stored : MatrixCrossSigningIdentity}
    {answer : IdentityStatus}
    (h : bootstrapFor env.crypto scheme call body context db (some stored) = .ok (db', answer)) :
    db' = db ∧ answer = response context (some stored.identity) ∧
      ∃ request certificate,
        parseAndHash env.crypto scheme body context (some stored.identity) = .ok request ∧
        db.certificates.find? context.deviceId = some certificate ∧
        context.deviceId = stored.bootstrapDeviceId ∧
        stored.bootstrapSha256 = request.bootstrapSha256 ∧
        certificate.canonicalSha256 = request.canonicalSha256 := by
  obtain ⟨request, hrequest, h⟩ := bind_eq_ok.mp h
  obtain ⟨certificate, hcertificate, h⟩ := bind_eq_ok.mp h
  obtain ⟨_, hhashes, h⟩ := bind_eq_ok.mp h
  cases h
  rw [require_eq_ok, Bool.and_eq_true, decide_eq_true_eq, decide_eq_true_eq] at hhashes
  obtain ⟨_, hdevice, hcertificate⟩ := bind_eq_ok.mp hcertificate
  rw [require_eq_ok, decide_eq_true_eq] at hdevice
  exact ⟨rfl, rfl, request, certificate, hrequest,
    (Option.filter_eq_some_iff.mp (orThrow_eq_ok.mp hcertificate)).1, hdevice, hhashes⟩

/-- A first bootstrap stores both rows and publishes one change of the device set. -/
structure Created (call : IdentityCall) (context : IdentityContext) (request : HashedBootstrap)
    (db db' : Directory) : Prop where
  noIdentity : db.identities.find? call.principal.id = none
  noCertificate : db.certificates.find? context.deviceId = none
  identities : ∀ userId, db'.identities.find? userId =
    if call.principal.id = userId then some (identityRow call context request)
    else db.identities.find? userId
  certificates : ∀ deviceId, db'.certificates.find? deviceId =
    if context.deviceId = deviceId then some (certificateRow call context request)
    else db.certificates.find? deviceId
  accounts : db'.accounts = db.accounts
  deviceKeys : db'.deviceKeys = db.deviceKeys
  lists : db'.lists = db.lists.publishDeviceSetChanged db.accounts call.principal.id

theorem createIdentity_eq_ok {call : IdentityCall} {context : IdentityContext}
    {request : HashedBootstrap} {db db' : Directory}
    (h : createIdentity call context request db = .ok db') :
    Created call context request db db' := by
  unfold createIdentity at h
  split_ifs at h with hidentity hcertificate
  cases h
  exact ⟨hidentity, hcertificate, fun userId => Table.find?_insert (h := hidentity),
    fun deviceId => Table.find?_insert (h := hcertificate), rfl, rfl, rfl⟩

theorem Created.grown {call : IdentityCall} {context : IdentityContext}
    {request : HashedBootstrap} {db db' : Directory} (h : Created call context request db db') :
    Grown db db' := by
  refine ⟨⟨fun userId row hrow => ?_, fun deviceId certificate hrow => ?_⟩,
    fun row hrow => ?_, fun deviceId value hvalue => ?_⟩
  · rw [h.identities, if_neg fun hid => ?_, hrow]
    rw [← hid, h.noIdentity] at hrow
    cases hrow
  · rw [h.certificates, if_neg fun hid => ?_, hrow]
    rw [← hid, h.noCertificate] at hrow
    cases hrow
  · rw [h.accounts]
    exact hrow
  · rw [h.deviceKeys]
    exact hvalue

theorem bootstrapFor_none_eq_ok {call : IdentityCall} {body : Json × Json}
    {context : IdentityContext} {db db' : Directory} {answer : IdentityStatus}
    (h : bootstrapFor env.crypto scheme call body context db none = .ok (db', answer)) :
    ∃ request, parseAndHash env.crypto scheme body context none = .ok request ∧
      Created call context request db db' ∧
      answer = response context (some request.parsed.identity) := by
  obtain ⟨request, hrequest, h⟩ := bind_eq_ok.mp h
  obtain ⟨created, hcreated, h⟩ := bind_eq_ok.mp h
  cases h
  exact ⟨request, hrequest, createIdentity_eq_ok hcreated, rfl⟩

/-- The rows a bootstrap creates are stored. -/
theorem Created.stored {call : IdentityCall} {context : IdentityContext}
    {request : HashedBootstrap} {body : Json × Json} {db db' : Directory}
    (h : Created call context request db db') (hcontext : ContextOf env call db context)
    (hrequest : parseAndHash env.crypto scheme body context none = .ok request) :
    Stored env scheme db' (identityRow call context request) (certificateRow call context request)
      body request := by
  refine ⟨by rw [h.certificates]; exact if_pos rfl, rfl, ?_, ⟨context, hcontext.matrixUserId,
    hcontext.matrixDeviceId, by rw [h.deviceKeys]; exact hcontext.registered, hrequest⟩,
    rfl, rfl, rfl, rfl, rfl⟩
  rw [h.accounts]
  exact hcontext.published

/-! ## Steps -/

/-- **What a bootstrap can do**: nothing where an identity is stored, else both rows. -/
theorem bootstrap_cases {call : IdentityCall} {value : Json} {db db' : Directory}
    {answer : IdentityStatus}
    (h : bootstrap env scheme call value db = .ok (db', answer)) :
    (∃ row, db.identities.find? call.principal.id = some row ∧ db' = db ∧
      answer.identity = some row.identity) ∨
      ∃ body context request, parseBody value = .ok body ∧ ContextOf env call db context ∧
        parseAndHash env.crypto scheme body context none = .ok request ∧
        Created call context request db db' ∧
        answer.identity = some request.parsed.identity := by
  obtain ⟨body, context, hbody, hcontext, hin, -⟩ := bootstrap_eq_ok.mp h
  obtain ⟨_, -, hfor⟩ := bind_eq_ok.mp hin
  cases hrow : db.identities.find? call.principal.id with
  | some row =>
    rw [hrow] at hfor
    obtain ⟨hsame, hanswer, -⟩ := bootstrapFor_some_eq_ok hfor
    exact .inl ⟨row, rfl, hsame, congrArg IdentityStatus.identity hanswer⟩
  | none =>
    rw [hrow] at hfor
    obtain ⟨request, hrequest, hcreated, hanswer⟩ := bootstrapFor_none_eq_ok hfor
    exact .inr ⟨body, context, request, hbody, openContext_eq_ok hcontext, hrequest, hcreated,
      congrArg IdentityStatus.identity hanswer⟩

/-- **Every step keeps the rows.** -/
theorem grown_of_step {db db' : Directory} {action : DirectoryAction}
    (h : DirectoryStep env scheme db action db') : Grown db db' := by
  cases h with
  | bootstrap hbootstrap =>
    rcases bootstrap_cases hbootstrap with
      ⟨row, -, rfl, -⟩ | ⟨body, context, request, -, -, -, hcreated, -⟩
    · exact .refl _
    · exact hcreated.grown
  | refuse _ => exact .refl _
  | @registerDevice deviceId value hnew =>
    refine ⟨⟨fun _ _ h => h, fun _ _ h => h⟩, fun _ h => h, fun other found hfound => ?_⟩
    have hother : other ≠ deviceId := by
      rintro rfl
      rw [hnew] at hfound
      cases hfound
    show Function.update db.deviceKeys deviceId (some value) other = some found
    rw [Function.update_of_ne hother, hfound]
  | changeAccounts hrows _ => exact ⟨⟨fun _ _ h => h, fun _ _ h => h⟩, hrows, fun _ _ h => h⟩
  | registerList => exact ⟨⟨fun _ _ h => h, fun _ _ h => h⟩, fun _ h => h, fun _ _ h => h⟩
  | publish => exact ⟨⟨fun _ _ h => h, fun _ _ h => h⟩, fun _ h => h, fun _ _ h => h⟩

/-- The steps between two states keep the rows. -/
theorem kept_of_steps {trace : List DirectoryAction} {db db' : Directory}
    (h : (directory env scheme).Steps db trace db') : Kept db db' :=
  h.rel Kept.refl (fun _ _ _ => Kept.trans) fun _ _ _ hstep => (grown_of_step hstep).kept

/-- Rows that stay in place stay stored. -/
theorem Inv.grown {db db' : Directory} (h : Inv env scheme db)
    (hconstraints : DeviceConstraints db'.accounts) (hgrown : Grown db db')
    (hidentities : db'.identities = db.identities) : Inv env scheme db' := by
  refine ⟨hconstraints, fun row hrow => ?_⟩
  rw [hidentities] at hrow
  obtain ⟨certificate, body, request, hstored⟩ := h.stored row hrow
  exact ⟨certificate, body, request, hstored.grown hgrown⟩

/-- **Every step keeps the invariant.** -/
theorem Inv.step {db db' : Directory} {action : DirectoryAction} (h : Inv env scheme db)
    (hstep : DirectoryStep env scheme db action db') : Inv env scheme db' := by
  have hgrown := grown_of_step hstep
  cases hstep with
  | bootstrap hbootstrap =>
    rcases bootstrap_cases hbootstrap with
      ⟨row, -, rfl, -⟩ | ⟨body, context, request, -, hcontext, hrequest, hcreated, -⟩
    · exact h
    · refine ⟨hcreated.accounts ▸ h.constraints, fun row hrow => ?_⟩
      have hfind : db'.identities.find? row.userId = some row := Table.find?_eq_some.mpr ⟨hrow, rfl⟩
      rw [hcreated.identities] at hfind
      split_ifs at hfind
      · cases hfind
        exact ⟨_, body, request, hcreated.stored hcontext hrequest⟩
      · obtain ⟨certificate, body', request', hstored⟩ :=
          h.stored row (Table.find?_eq_some.mp hfind).1
        exact ⟨certificate, body', request', hstored.grown hgrown⟩
  | refuse _ => exact h
  | registerDevice _ => exact h.grown h.constraints hgrown rfl
  | changeAccounts _ hconstraints => exact h.grown hconstraints hgrown rfl
  | registerList => exact h.grown h.constraints hgrown rfl
  | publish => exact h.grown h.constraints hgrown rfl

theorem inv_of_run {trace : List DirectoryAction} {db : Directory}
    (h : (directory env scheme).Run trace db) : Inv env scheme db := by
  refine h.stateInvariant (I := Inv env scheme) (fun db hdb => ?_) fun _ _ _ => Inv.step
  obtain ⟨hidentities, -, hconstraints⟩ := hdb
  refine ⟨hconstraints, fun row hrow => ?_⟩
  rw [hidentities] at hrow
  cases hrow

/-! ## Replays -/

/-- What the digest of a stored identity was taken of. -/
def storedInput (row : MatrixCrossSigningIdentity) (certificate : MatrixDeviceCrossSigning) :
    Json :=
  .obj [(js "signingKeys", row.signingKeys), (js "signedDeviceKeys", certificate.signedDeviceKeys)]

/-- **A request with the stored content**, up to the order of object keys. -/
structure SameContent (parsed : MatrixCrossSigningBootstrap) (row : MatrixCrossSigningIdentity)
    (certificate : MatrixDeviceCrossSigning) : Prop where
  bootstrap : canonicalize parsed.hashInput = canonicalize (storedInput row certificate)
  certificate : canonicalize parsed.signedDeviceKeys.toJson =
    canonicalize certificate.signedDeviceKeys

/-- The digest tells the request from the stored content. -/
structure Distinguishes (crypto : Crypto) (parsed : MatrixCrossSigningBootstrap)
    (row : MatrixCrossSigningIdentity) (certificate : MatrixDeviceCrossSigning) : Prop where
  bootstrap : NoCollision crypto parsed.hashInput (storedInput row certificate)
  certificate : NoCollision crypto parsed.signedDeviceKeys.toJson certificate.signedDeviceKeys

/-- The caller may act, throughout the call, in this context. -/
structure Authorised (env : Deployment) (call : IdentityCall) (db : Directory)
    (context : IdentityContext) : Prop where
  opened : openContext env.matrixServerName call db = .ok context
  current : requireCurrentSession db.accounts call.principal context.deviceId
    context.subscriptionEndsAt call.later = .ok ()

variable {db : Directory} {row : MatrixCrossSigningIdentity}
  {certificate : MatrixDeviceCrossSigning} {body : Json × Json} {request : HashedBootstrap}

/-- The digests that are stored are those of the stored content. -/
theorem Stored.hashes (h : Stored env scheme db row certificate body request) :
    hashMatrixCanonicalJson env.crypto (storedInput row certificate) = .ok row.bootstrapSha256 ∧
      hashMatrixCanonicalJson env.crypto certificate.signedDeviceKeys =
        .ok certificate.canonicalSha256 := by
  obtain ⟨context, -, -, -, hparsed⟩ := h.registered
  obtain ⟨-, hbootstrap, hcanonical⟩ := parseAndHash_eq_ok.mp hparsed
  rw [storedInput, h.signingKeys, h.signedDeviceKeys, h.bootstrapSha256, h.canonicalSha256]
  exact ⟨hbootstrap, hcanonical⟩

/-- The digests of a request with the stored content are the stored ones. -/
theorem Stored.hashes_of_sameContent (h : Stored env scheme db row certificate body request)
    {context : IdentityContext} {pinned : Option MatrixCrossSigningPublicIdentity}
    {body' : Json × Json} {request' : HashedBootstrap}
    (hrequest : parseAndHash env.crypto scheme body' context pinned = .ok request')
    (hsame : SameContent request'.parsed row certificate) :
    row.bootstrapSha256 = request'.bootstrapSha256 ∧
      certificate.canonicalSha256 = request'.canonicalSha256 := by
  obtain ⟨hstored, hcertificate⟩ := h.hashes
  obtain ⟨-, hbootstrap, hcanonical⟩ := parseAndHash_eq_ok.mp hrequest
  rw [hash_eq_of_canonicalize hsame.bootstrap, hstored] at hbootstrap
  rw [hash_eq_of_canonicalize hsame.certificate, hcertificate] at hcanonical
  exact ⟨Except.ok.inj hbootstrap, Except.ok.inj hcanonical⟩

/-- A user has one device, so a context is that of the device that bootstrapped. -/
theorem Inv.device_eq (h : Inv env scheme db) {call : IdentityCall} {context : IdentityContext}
    (hstored : Stored env scheme db row certificate body request)
    (hcontext : ContextOf env call db context) (huser : call.principal.id = row.userId) :
    context.deviceId = row.bootstrapDeviceId := by
  obtain ⟨device, hdevice, hid, howner⟩ := hcontext.device
  obtain ⟨published, hpublished, hdeviceId, hpublisher⟩ := hstored.published
  obtain ⟨other, hother, hotherId, hotherOwner⟩ := h.constraints.owner published hpublished
  have hsame : device = other := by
    refine h.constraints.one device hdevice other hother ?_
    rw [howner, hotherOwner, hpublisher, huser]
  rw [← hid, hsame, hotherId, hdeviceId]

/-- A user with a device has one. -/
theorem DeviceConstraints.length_eq_one {accounts : Accounts} (h : DeviceConstraints accounts)
    {device : Device} (hdevice : device ∈ accounts.devices) :
    (accounts.devices.rows.filter fun other => other.userId = device.userId).length = 1 := by
  have hmem : ∀ other ∈ accounts.devices.rows.filter (fun other => other.userId = device.userId),
      other = device := by
    intro other hother
    obtain ⟨hrow, huser⟩ := List.mem_filter.mp hother
    exact h.one other hrow device hdevice (of_decide_eq_true huser)
  have hnodup : (accounts.devices.rows.filter fun other => other.userId = device.userId).Nodup :=
    (List.Nodup.of_map Device.id accounts.devices.nodup).filter _
  have hself : device ∈ accounts.devices.rows.filter fun other => other.userId = device.userId :=
    List.mem_filter.mpr ⟨hdevice, decide_eq_true rfl⟩
  have hreplicate := List.eq_replicate_of_mem hmem
  rw [hreplicate] at hnodup hself
  have hle := List.nodup_replicate.mp hnodup
  have hpos : (accounts.devices.rows.filter fun other => other.userId = device.userId).length ≠ 0 :=
    (List.mem_replicate.mp hself).1
  omega

/-- **A request with the stored content is answered with the stored identity.** -/
theorem Inv.replay (h : Inv env scheme db) {call : IdentityCall} {context : IdentityContext}
    {value : Json} {body' : Json × Json} {request' : HashedBootstrap}
    (hrow : db.identities.find? call.principal.id = some row)
    (hstored : Stored env scheme db row certificate body request)
    (hauthorised : Authorised env call db context) (hbody : parseBody value = .ok body')
    (hrequest : parseAndHash env.crypto scheme body' context (some row.identity) = .ok request')
    (hsame : SameContent request'.parsed row certificate) :
    bootstrap env scheme call value db =
      .ok (db, response context (some row.identity)) := by
  have hcontext := openContext_eq_ok hauthorised.opened
  have huser : call.principal.id = row.userId := (Table.find?_eq_some.mp hrow).2.symm
  have hdevice := h.device_eq hstored hcontext huser
  obtain ⟨device, hmember, -, howner⟩ := hcontext.device
  have hcount := h.constraints.length_eq_one hmember
  rw [howner] at hcount
  have hcertificate : requireStoredCertificate db call.principal.id context.deviceId
      row.bootstrapDeviceId = .ok certificate := by
    refine bind_eq_ok.mpr ⟨(), require_eq_ok.mpr (decide_eq_true hdevice), orThrow_eq_ok.mpr ?_⟩
    rw [hdevice, hstored.found]
    exact Option.filter_some_pos (decide_eq_true (hstored.owner.trans huser.symm))
  obtain ⟨hbootstrap, hcanonical⟩ := hstored.hashes_of_sameContent hrequest hsame
  refine bootstrap_eq_ok.mpr ⟨body', context, hbody, hauthorised.opened, ?_, hauthorised.current⟩
  refine bind_eq_ok.mpr ⟨(), require_eq_ok.mpr (decide_eq_true hcount), ?_⟩
  rw [hrow]
  refine bind_eq_ok.mpr ⟨request', hrequest, bind_eq_ok.mpr ⟨certificate, hcertificate,
    bind_eq_ok.mpr ⟨(), require_eq_ok.mpr ?_, rfl⟩⟩⟩
  rw [Bool.and_eq_true]
  exact ⟨decide_eq_true hbootstrap, decide_eq_true hcanonical⟩

/-- **The request that was stored is read again.** -/
theorem Inv.parse_again (h : Inv env scheme db) {call : IdentityCall} {context : IdentityContext}
    (hrow : db.identities.find? call.principal.id = some row)
    (hstored : Stored env scheme db row certificate body request)
    (hcontext : ContextOf env call db context) :
    parseAndHash env.crypto scheme body context (some row.identity) = .ok request := by
  have huser : call.principal.id = row.userId := (Table.find?_eq_some.mp hrow).2.symm
  have hdevice := h.device_eq hstored hcontext huser
  obtain ⟨origin, huserId, hdeviceId, hregistered, hparsed⟩ := hstored.registered
  obtain ⟨hparse, hbootstrap, hcanonical⟩ := parseAndHash_eq_ok.mp hparsed
  have hkeys : origin.deviceKeys = context.deviceKeys := by
    rw [← hdevice, hcontext.registered] at hregistered
    exact (Option.some.inj hregistered).symm
  rw [huserId, hdeviceId, hkeys, ← huser, ← hdevice, ← hcontext.matrixUserId,
    ← hcontext.matrixDeviceId] at hparse
  refine parseAndHash_eq_ok.mpr ⟨?_, hbootstrap, hcanonical⟩
  rw [hstored.identity]
  exact parseBootstrap_pinned hparse

theorem Stored.sameContent (h : Stored env scheme db row certificate body request) :
    SameContent request.parsed row certificate := by
  refine ⟨?_, by rw [h.signedDeviceKeys]⟩
  rw [storedInput, h.signingKeys, h.signedDeviceKeys]
  rfl

/-- What is accepted for a stored identity has the stored content, and writes nothing. -/
theorem Stored.accepted (hstored : Stored env scheme db row certificate body request)
    {call : IdentityCall} {value : Json} {db' : Directory} {answer : IdentityStatus}
    (hrow : db.identities.find? call.principal.id = some row)
    (haccepted : bootstrap env scheme call value db = .ok (db', answer)) :
    db' = db ∧ answer.identity = some row.identity ∧
      ∃ body' context request', parseBody value = .ok body' ∧
        parseAndHash env.crypto scheme body' context (some row.identity) = .ok request' ∧
        (Distinguishes env.crypto request'.parsed row certificate →
          SameContent request'.parsed row certificate) := by
  obtain ⟨body', context, hbody, hcontext, hin, -⟩ := bootstrap_eq_ok.mp haccepted
  obtain ⟨_, -, hfor⟩ := bind_eq_ok.mp hin
  rw [hrow] at hfor
  obtain ⟨hsame, hanswer, request', found, hrequest, hfound, hdevice, hbootstrap, hcanonical⟩ :=
    bootstrapFor_some_eq_ok hfor
  rw [hdevice, hstored.found] at hfound
  cases hfound
  obtain ⟨hstoredHash, hcertificateHash⟩ := hstored.hashes
  obtain ⟨-, hhash, hcertificateHash'⟩ := parseAndHash_eq_ok.mp hrequest
  refine ⟨hsame, by rw [hanswer]; rfl, body', context, request', hbody, hrequest,
    fun hdistinguishes => ⟨?_, ?_⟩⟩
  · exact canonicalize_eq_of_hash hdistinguishes.bootstrap hhash (hbootstrap ▸ hstoredHash)
  · exact canonicalize_eq_of_hash hdistinguishes.certificate hcertificateHash'
      (hcanonical ▸ hcertificateHash)

/-- A step of the user's own bootstrap, where an identity is stored, changes nothing. -/
theorem unchanged_of_bootstraps {db' : Directory} {action : DirectoryAction} {userId : Uuid}
    (hstep : DirectoryStep env scheme db action db')
    (hrow : db.identities.find? userId = some row) (haction : action.bootstraps userId = true) :
    db' = db := by
  cases hstep with
  | bootstrap hbootstrap =>
    have huser := of_decide_eq_true haction
    rcases bootstrap_cases hbootstrap with
      ⟨_, -, hsame, -⟩ | ⟨_, context, _, -, -, -, hcreated, -⟩
    · exact hsame
    · have hnone := hcreated.noIdentity
      rw [huser, hrow] at hnone
      cases hnone
  | refuse _ => rfl
  | registerDevice _ => cases haction
  | changeAccounts _ _ => cases haction
  | registerList => cases haction
  | publish => cases haction

/-- **A cross-signing identity is immutable.** In every run, the rows of an identity
and of its certificate stay as they are, whatever follows. They are those of one
request, which is answered with the stored identity whenever its user may act; so
is any other request with the same content, and, digests apart, nothing else. No
bootstrap of that user changes anything, and the one that stored the rows
published one change of the device set. -/
theorem cross_signing_identity_immutable (env : Deployment) (scheme : SignatureScheme)
    {trace : List DirectoryAction} {db : Directory} (hrun : (directory env scheme).Run trace db) :
    (∀ later db', (directory env scheme).Steps db later db' → Kept db db') ∧
      (∀ call value db' answer, db.identities.find? call.principal.id = none →
        bootstrap env scheme call value db = .ok (db', answer) →
        (∃ row certificate, db'.identities.find? call.principal.id = some row ∧
          db'.certificates.find? row.bootstrapDeviceId = some certificate) ∧
        db'.lists = db.lists.publishDeviceSetChanged db.accounts call.principal.id) ∧
      ∀ userId row, db.identities.find? userId = some row →
        (∀ action db', (directory env scheme).step db action db' →
          action.bootstraps userId = true → db' = db) ∧
        ∃ certificate body request, Stored env scheme db row certificate body request ∧
          ∀ call value, call.principal.id = userId →
            (∀ db' answer, bootstrap env scheme call value db = .ok (db', answer) →
              db' = db ∧ answer.identity = some row.identity ∧
              ∃ body' context request', parseBody value = .ok body' ∧
                parseAndHash env.crypto scheme body' context (some row.identity) = .ok request' ∧
                (Distinguishes env.crypto request'.parsed row certificate →
                  SameContent request'.parsed row certificate)) ∧
            ∀ context, Authorised env call db context →
              parseAndHash env.crypto scheme body context (some row.identity) = .ok request ∧
              ∀ body' request', parseBody value = .ok body' →
                parseAndHash env.crypto scheme body' context (some row.identity) = .ok request' →
                SameContent request'.parsed row certificate →
                bootstrap env scheme call value db =
                  .ok (db, response context (some row.identity)) := by
  have hinv := inv_of_run hrun
  refine ⟨fun later db' hsteps => kept_of_steps hsteps,
    fun call value db' answer hnone hbootstrap => ?_, fun userId row hrow => ⟨?_, ?_⟩⟩
  · rcases bootstrap_cases hbootstrap with
      ⟨row, hrow, -⟩ | ⟨body, context, request, -, -, -, hcreated, -⟩
    · rw [hnone] at hrow
      cases hrow
    · refine ⟨⟨identityRow call context request, certificateRow call context request, ?_, ?_⟩,
        hcreated.lists⟩
      · rw [hcreated.identities, if_pos rfl]
      · rw [hcreated.certificates]
        exact if_pos rfl
  · intro action db' hstep haction
    exact unchanged_of_bootstraps hstep hrow haction
  · obtain ⟨certificate, body, request, hstored⟩ :=
      hinv.stored row (Table.find?_eq_some.mp hrow).1
    refine ⟨certificate, body, request, hstored, fun call value huser => ?_⟩
    subst huser
    refine ⟨fun db' answer haccepted => hstored.accepted hrow haccepted,
      fun context hauthorised => ⟨?_, fun body' request' hbody hrequest hsame => ?_⟩⟩
    · exact hinv.parse_again hrow hstored (openContext_eq_ok hauthorised.opened)
    · exact hinv.replay hrow hstored hauthorised hbody hrequest hsame

/-- The client's identity is stored, and stays. -/
theorem cross_signing_identity_immutable_client :
    ∃ trace db row, (directory Sample.deployment Sample.scheme).Run trace db ∧
      db.identities.find? Sample.call.principal.id = some row ∧
      row.identity = Sample.identity ∧
      ∀ action db', (directory Sample.deployment Sample.scheme).step db action db' →
        action.bootstraps Sample.call.principal.id = true → db' = db := by
  obtain ⟨trace, db, hrun, hcheck⟩ := Machine.exists_run_of_perform
    (M := directory Sample.deployment Sample.scheme)
    (fun command db action db' => @step_of_execBootstrap Sample.deployment Sample.scheme command
      db db' action) Sample.directory_init
    [(Sample.call, Sample.body)]
    (fun _ db => (db.identities.find? Sample.call.principal.id).any fun row =>
      row.identity = Sample.identity) (by decide +kernel)
  obtain ⟨row, hrow, hidentity⟩ := (Option.any_eq_true _ _).mp hcheck
  exact ⟨trace, db, row, hrun, hrow, of_decide_eq_true hidentity,
    ((cross_signing_identity_immutable Sample.deployment Sample.scheme hrun).2.2 _ row hrow).1⟩

end CrossSigning

end SinoChat
