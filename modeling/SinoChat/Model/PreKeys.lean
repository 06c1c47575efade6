import SinoChat.Common.Base64
import SinoChat.Common.Heap
import SinoChat.Common.Run
import SinoChat.Common.Sorting
import SinoChat.Model.ToDevice

/-!
# One-time pre-keys of the legacy transport

`devices.service.ts`: a device uploads pre-keys (`uploadPreKeys`), and a participant of
a conversation claims one for each device of the other (`claimPeerBundles`). Both are
transactions, run statement by statement, with any statements of others in between:
the advisory locks of the device sets, the row lock of `FOR UPDATE`, the versions of rows
and the unique indexes are those of the database. A statement that would wait, or
throw, is not carried out; a transaction that is not done can fail at any point,
and takes its rows away.

Which conversations and accounts are current, and the devices, are the environment's.
-/

namespace SinoChat

open Js

namespace PreKeys

open Heap (Row seen committed)

/-! ## Tables -/

/-- A row of `devices` with the keys of the legacy protocol. -/
structure Device where
  id : Uuid
  userId : Uuid
  active : Bool
  createdAt : ℕ
  registrationId : Option ℕ
  identityPublicKey : Option (List UInt8)
  identityKeyFingerprint : Option JsString
  signedPreKeyId : Option ℕ
  signedPreKeyPublic : Option (List UInt8)
  signedPreKeySignature : Option (List UInt8)
  protocolVersion : JsString
  deriving DecidableEq

/-- A row of the one-time keys; a claimed one has the time of its claim. -/
structure OneTimePreKey where
  id : Uuid
  deviceId : Uuid
  keyId : ℕ
  publicKey : List UInt8
  signature : Option (List UInt8)
  createdAt : ℕ
  claimedAt : Option ℕ
  deriving DecidableEq

/-- A row of the claims, with the key that was handed out, if any. -/
structure OneTimePreKeyClaim where
  id : Uuid
  requesterDeviceId : Uuid
  conversationId : Uuid
  recipientDeviceId : Uuid
  oneTimePreKeyId : Option Uuid
  claimedAt : ℕ
  deriving DecidableEq

/-- `one_time_pre_key_claims_request_key`. -/
def OneTimePreKeyClaim.request (claim : OneTimePreKeyClaim) : Uuid × Uuid × Uuid :=
  (claim.requesterDeviceId, claim.conversationId, claim.recipientDeviceId)

/-- What no update changes: `one_time_pre_keys_history_trigger`. -/
def OneTimePreKey.content (key : OneTimePreKey) : OneTimePreKey := { key with claimedAt := none }

/-- The key, claimed. -/
def OneTimePreKey.mark (time : ℕ) (key : OneTimePreKey) : OneTimePreKey :=
  { key with claimedAt := some time }

/-- The answer of `lockCurrent`. -/
structure CurrentConversationAccess where
  assignmentId : Uuid
  clientUserId : Uuid
  cashierUserId : Uuid
  deriving DecidableEq

/-! ## Answers -/

/-- A one-time key as a bundle carries it. -/
structure PreKeyAnswer where
  keyId : ℕ
  publicKey : JsString
  signature : Option JsString
  deriving DecidableEq

/-- What is handed out of one device. -/
structure Bundle where
  deviceId : Uuid
  registrationId : ℕ
  identityPublicKey : JsString
  identityKeyFingerprint : JsString
  signedPreKeyId : ℕ
  signedPreKeyPublic : JsString
  signedPreKeySignature : JsString
  protocolVersion : JsString
  claimId : Uuid
  claimedAt : ℕ
  oneTimePreKey : Option PreKeyAnswer
  deriving DecidableEq

/-- The answer to a claim: one bundle for each device of the peer. -/
structure PeerBundles where
  peerUserId : Uuid
  devices : List Bundle
  deriving DecidableEq

/-- The key as a bundle carries it. -/
def OneTimePreKey.answer (key : OneTimePreKey) : PreKeyAnswer where
  keyId := key.keyId
  publicKey := toBase64 key.publicKey
  signature := key.signature.map toBase64

/-- The bundle of a device whose legacy columns are all there; it throws for another. -/
def bundle? (device : Device) (claim : OneTimePreKeyClaim) (preKey : Option OneTimePreKey) :
    Option Bundle := do
  let registrationId ← device.registrationId
  let identityPublicKey ← device.identityPublicKey
  let identityKeyFingerprint ← device.identityKeyFingerprint
  let signedPreKeyId ← device.signedPreKeyId
  let signedPreKeyPublic ← device.signedPreKeyPublic
  let signedPreKeySignature ← device.signedPreKeySignature
  return {
    deviceId := device.id
    registrationId
    identityPublicKey := toBase64 identityPublicKey
    identityKeyFingerprint
    signedPreKeyId
    signedPreKeyPublic := toBase64 signedPreKeyPublic
    signedPreKeySignature := toBase64 signedPreKeySignature
    protocolVersion := device.protocolVersion
    claimId := claim.id
    claimedAt := claim.claimedAt
    oneTimePreKey := preKey.map (·.answer) }

/-- The legacy columns are all there. -/
def Device.isLegacy (device : Device) : Bool :=
  device.registrationId.isSome && device.identityPublicKey.isSome &&
    device.identityKeyFingerprint.isSome && device.signedPreKeyId.isSome &&
    device.signedPreKeyPublic.isSome && device.signedPreKeySignature.isSome

/-! ## Transactions -/

/-- A claim of the keys of a conversation's peer. -/
structure ClaimCall where
  userId : Uuid
  requesterDeviceId : Uuid
  conversationId : Uuid
  deriving DecidableEq

/-- A one-time key of an upload. -/
structure PreKeyUpload where
  keyId : ℕ
  publicKey : List UInt8
  signature : Option (List UInt8)
  deriving DecidableEq

/-- An upload of one-time keys. -/
structure UploadCall where
  userId : Uuid
  deviceId : Uuid
  keys : List PreKeyUpload
  deriving DecidableEq

/-- The loop over the devices of the peer. -/
structure Loop where
  peerUserId : Uuid
  claimedAt : ℕ
  todo : List Device
  bundles : List Bundle
  deriving DecidableEq

/-- The next statement of `claimPeerBundles`. -/
inductive ClaimPhase where
  | authorizing
  | locking (assignmentId peerUserId : Uuid) (participants : List Uuid)
  | reauthorizing (assignmentId peerUserId : Uuid)
  | timing (peerUserId : Uuid)
  | listing (peerUserId : Uuid) (claimedAt : ℕ)
  | looking (loop : Loop)
  | selecting (loop : Loop)
  | marking (loop : Loop) (candidate : Uuid)
  | recording (loop : Loop) (candidate : Option Uuid)
  | committing (loop : Loop)
  deriving DecidableEq

/-- The next statement of `uploadPreKeys`. -/
inductive UploadPhase where
  | locking
  | checking
  | identifying
  | inserting
  | committing
  deriving DecidableEq

/-- What a transaction does, and how far it is. -/
inductive Job where
  | claim (call : ClaimCall) (phase : ClaimPhase)
  | upload (call : UploadCall) (phase : UploadPhase)
  | done
  deriving DecidableEq

/-- A transaction, and the users whose device sets it has locked. -/
structure Transaction where
  startedAt : ℕ
  held : List Uuid
  job : Job
  deriving DecidableEq

/-- The committed state and the transactions, running or done. -/
structure World where
  now : ℕ
  devices : List Device
  lockCurrent : Uuid → Uuid → Option Uuid → Option CurrentConversationAccess
  operational : Uuid → Bool
  preKeys : List (Row OneTimePreKey)
  claims : List (Row OneTimePreKeyClaim)
  /-- By the number of the transaction. -/
  transactions : List Transaction

/-! ## Statements of a claim -/

/-- `pg_advisory_xact_lock` would not wait. -/
def World.lockFree (w : World) (i : ℕ) (userId : Uuid) : Bool :=
  w.transactions.zipIdx.all fun entry => entry.2 == i || !entry.1.held.contains userId

/-- `transaction.device.findFirst` of an active device. -/
def World.ownsActive (w : World) (userId deviceId : Uuid) : Bool :=
  w.devices.any fun device => device.id == deviceId && device.userId == userId && device.active

/-- The devices of the peer, in the order of their creation. -/
def World.legacyDevices (w : World) (userId : Uuid) : List Device :=
  (w.devices.filter fun device => device.userId == userId && device.active && device.isLegacy).sortBy
    fun device => device.createdAt

/-- The order in which the pre-keys of a device are handed out. -/
def handOutOrder (key : OneTimePreKey) : ℕ ×ₗ List ℕ := toLex (key.createdAt, unitOrder key.id.text)

/-- The oldest pre-key of a device that is not claimed. -/
def World.candidate (w : World) (i : ℕ) (deviceId : Uuid) : Option OneTimePreKey :=
  (((seen i w.preKeys).filter fun key => key.deviceId == deviceId && key.claimedAt.isNone).sortBy
    handOutOrder).head?

/-- The pre-key of a claim, with the claim. -/
def World.preKeyOf (w : World) (i : ℕ) (claim : OneTimePreKeyClaim) : Option OneTimePreKey :=
  claim.oneTimePreKeyId.bind fun id => (seen i w.preKeys).find? fun key => key.id == id

/-- The row is locked by no other transaction. -/
def World.unlocked (w : World) (i : ℕ) (id : Uuid) : Bool :=
  w.preKeys.all fun r => r.value.id != id || !r.lockedAgainst i

/-- The unique indexes of the claims let a row pass. -/
def World.insertable (w : World) (claim : OneTimePreKeyClaim) : Bool :=
  w.claims.all fun r => r.value.id != claim.id && r.value.request != claim.request &&
    (claim.oneTimePreKeyId.isNone || r.value.oneTimePreKeyId != claim.oneTimePreKeyId)

/-- `peerUserId` of a conversation. -/
def ClaimCall.peer (call : ClaimCall) (conversation : CurrentConversationAccess) : Uuid :=
  if conversation.clientUserId = call.userId then conversation.cashierUserId
  else conversation.clientUserId

/-- The claim `getOrCreatePreKeyClaim` creates. -/
def ClaimCall.created (call : ClaimCall) (id : Uuid) (device : Device) (candidate : Option Uuid)
    (claimedAt : ℕ) : OneTimePreKeyClaim where
  id := id
  requesterDeviceId := call.requesterDeviceId
  conversationId := call.conversationId
  recipientDeviceId := device.id
  oneTimePreKeyId := candidate
  claimedAt := claimedAt

/-- What a statement leaves: the world with its rows written, the users locked, and the next one. -/
abbrev Outcome (γ : Type) := World × List Uuid × γ

/-- The next statement of a claim; `fresh` is the id of a row it may create. -/
def claimStatement (w : World) (i : ℕ) (held : List Uuid) (call : ClaimCall) (fresh : Uuid) :
    ClaimPhase → Option (Outcome ClaimPhase)
  | .authorizing => do
    let conversation ← w.lockCurrent call.userId call.conversationId none
    let peerUserId := call.peer conversation
    return (w, held, .locking conversation.assignmentId peerUserId
      ([call.userId, peerUserId].sortBy fun user => unitOrder user.text))
  | .locking assignmentId peerUserId (user :: rest) =>
    if w.lockFree i user then some (w, user :: held, .locking assignmentId peerUserId rest) else none
  | .locking assignmentId peerUserId [] =>
    if w.ownsActive call.userId call.requesterDeviceId then
      some (w, held, .reauthorizing assignmentId peerUserId)
    else none
  | .reauthorizing assignmentId peerUserId => do
    let conversation ← w.lockCurrent call.userId call.conversationId (some call.requesterDeviceId)
    if conversation.assignmentId = assignmentId then some (w, held, .timing peerUserId) else none
  | .timing peerUserId => some (w, held, .listing peerUserId w.now)
  | .listing peerUserId claimedAt =>
    let devices := w.legacyDevices peerUserId
    if devices = [] then none else some (w, held, .looking ⟨peerUserId, claimedAt, devices, []⟩)
  | .looking loop =>
    match loop.todo with
    | [] => do
      let _ ← w.lockCurrent call.userId call.conversationId (some call.requesterDeviceId)
      return (w, held, .committing loop)
    | device :: rest =>
      let request := (call.requesterDeviceId, call.conversationId, device.id)
      match (seen i w.claims).find? fun claim => claim.request == request with
      | some existing => do
        let bundle ← bundle? device existing (w.preKeyOf i existing)
        return (w, held, .looking { loop with todo := rest, bundles := loop.bundles ++ [bundle] })
      | none => some (w, held, .selecting loop)
  | .selecting loop =>
    match loop.todo with
    | [] => none
    | device :: _ =>
      match w.candidate i device.id with
      | none => some (w, held, .recording loop none)
      -- `FOR UPDATE` locks the row as it is.
      | some key =>
        if w.unlocked i key.id then
          some ({ w with preKeys := Heap.write i (·.id == key.id) id w.preKeys }, held,
            .marking loop key.id)
        else none
  | .marking loop candidate =>
    match loop.todo with
    | [] => none
    | device :: _ =>
      let isCandidate := fun key : OneTimePreKey =>
        key.id == candidate && key.deviceId == device.id && key.claimedAt.isNone
      if (seen i w.preKeys).any isCandidate && w.unlocked i candidate then
        some ({ w with preKeys := Heap.write i isCandidate (·.mark loop.claimedAt) w.preKeys }, held,
          .recording loop (some candidate))
      else none
  | .recording loop candidate =>
    match loop.todo with
    | [] => none
    | device :: rest =>
      let claim := call.created fresh device candidate loop.claimedAt
      if w.insertable claim then do
        let bundle ← bundle? device claim (w.preKeyOf i claim)
        return ({ w with claims := Heap.insert (some i) [claim] w.claims }, held,
          .looking { loop with todo := rest, bundles := loop.bundles ++ [bundle] })
      else none
  | .committing _ => none

/-! ## Statements of an upload -/

/-- The row of an uploaded key. -/
def PreKeyUpload.row (key : PreKeyUpload) (id deviceId : Uuid) (createdAt : ℕ) : OneTimePreKey where
  id := id
  deviceId := deviceId
  keyId := key.keyId
  publicKey := key.publicKey
  signature := key.signature
  createdAt := createdAt
  claimedAt := none

/-- The unique indexes of the pre-keys let some rows pass. -/
def World.uploadable (w : World) (keys : List OneTimePreKey) : Bool :=
  decide ((keys.map (·.id)).Nodup) && decide ((keys.map fun key => (key.deviceId, key.keyId)).Nodup) &&
    w.preKeys.all fun r => keys.all fun key =>
      r.value.id != key.id && (r.value.deviceId, r.value.keyId) != (key.deviceId, key.keyId)

/-- The next statement of an upload; `fresh` are the ids of the rows it may create. -/
def uploadStatement (w : World) (i : ℕ) (held : List Uuid) (startedAt : ℕ) (call : UploadCall)
    (fresh : List Uuid) : UploadPhase → Option (Outcome UploadPhase)
  | .locking => if w.lockFree i call.userId then some (w, call.userId :: held, .checking) else none
  | .checking => if w.operational call.userId then some (w, held, .identifying) else none
  | .identifying => if w.ownsActive call.userId call.deviceId then some (w, held, .inserting) else none
  | .inserting =>
    let rows := (call.keys.zip fresh).map fun entry => entry.1.row entry.2 call.deviceId startedAt
    if fresh.length = call.keys.length ∧ w.uploadable rows then
      some ({ w with preKeys := Heap.insert (some i) rows w.preKeys }, held, .committing)
    else none
  | .committing => none

/-! ## The system -/

/-- What a step shows. -/
inductive Event where
  | answered (call : ClaimCall) (response : PeerBundles)
  | uploaded (call : UploadCall)
  | failed (i : ℕ)
  | progress

/-- The next move of the scheduler. -/
inductive Command where
  | claim (call : ClaimCall)
  | upload (call : UploadCall)
  /-- The next statement of a transaction; the ids are fresh ones. -/
  | advance (i : ℕ) (fresh : Uuid) (ids : List Uuid)
  | commit (i : ℕ)
  | fail (i : ℕ)
  /-- A device is registered, with its first pre-keys. -/
  | register (device : Device) (keys : List OneTimePreKey)
  /-- The rest of the system and the clock move. -/
  | environment (now : ℕ) (devices : List Device)
      (lockCurrent : Uuid → Uuid → Option Uuid → Option CurrentConversationAccess)
      (operational : Uuid → Bool)

/-- A transaction begins, at the time of the clock. -/
def World.start (w : World) (job : Job) : World :=
  { w with transactions := w.transactions ++ [⟨w.now, [], job⟩] }

/-- Transaction `i` goes on. -/
def World.goOn (w : World) (i : ℕ) (transaction : Transaction) : World :=
  { w with transactions := w.transactions.set i transaction }

/-- A transaction ends: its locks are free. -/
def World.finish (w : World) (i : ℕ) (transaction : Transaction) : World :=
  w.goOn i { transaction with held := [], job := .done }

/-- The rows of a transaction are there. -/
def World.commitRows (w : World) (i : ℕ) : World :=
  { w with preKeys := Heap.commit i w.preKeys, claims := Heap.commit i w.claims }

/-- The rows of a transaction are taken away. -/
def World.abortRows (w : World) (i : ℕ) : World :=
  { w with preKeys := Heap.abort i w.preKeys, claims := Heap.abort i w.claims }

/-- Carry out the next statement of a transaction. -/
def World.advance (w : World) (i : ℕ) (fresh : Uuid) (ids : List Uuid) : Option World := do
  let transaction ← w.transactions[i]?
  match transaction.job with
  | .claim call phase =>
    let (w', held, phase') ← claimStatement w i transaction.held call fresh phase
    return w'.goOn i { transaction with held, job := .claim call phase' }
  | .upload call phase =>
    let (w', held, phase') ←
      uploadStatement w i transaction.held transaction.startedAt call ids phase
    return w'.goOn i { transaction with held, job := .upload call phase' }
  | .done => none

/-- Commit a transaction whose statements are done. -/
def World.commit (w : World) (i : ℕ) : Option (Event × World) := do
  let transaction ← w.transactions[i]?
  match transaction.job with
  | .claim call (.committing loop) =>
    return (.answered call ⟨loop.peerUserId, loop.bundles⟩,
      (w.commitRows i).finish i transaction)
  | .upload call .committing => return (.uploaded call, (w.commitRows i).finish i transaction)
  | _ => none

/-- `assertKeyMaterial`, and `assertSignature`. -/
def isKeyMaterial (bytes : List UInt8) : Bool := 16 ≤ bytes.length && bytes.length ≤ 4096

/-- `assertPreKeys` and `assertDistinctPreKeyIds`. -/
def UploadCall.isValid (call : UploadCall) : Bool :=
  (call.keys.all fun key => isKeyMaterial key.publicKey && key.signature.all isKeyMaterial) &&
    decide ((call.keys.map (·.keyId)).Nodup)

/-- One step of the system. -/
def World.step (w : World) : Command → Option (Event × World)
  | .claim call => some (.progress, w.start (.claim call .authorizing))
  | .upload call =>
    if call.isValid then some (.progress, w.start (.upload call .locking)) else none
  | .advance i fresh ids => (w.advance i fresh ids).map fun w' => (.progress, w')
  | .commit i => w.commit i
  | .fail i => do
    let transaction ← w.transactions[i]?
    if transaction.job = .done then none
    else some (.failed i, (w.abortRows i).finish i transaction)
  | .register device keys =>
    if w.uploadable keys ∧ keys.all fun key => key.claimedAt.isNone && key.deviceId == device.id then
      some (.progress, { w with
        devices := w.devices ++ [device], preKeys := Heap.insert none keys w.preKeys })
    else none
  | .environment now devices lockCurrent operational =>
    if w.now ≤ now then some (.progress, { w with now, devices, lockCurrent, operational }) else none

/-- The claims and uploads of pre-keys, from empty tables. -/
def preKeySystem : Machine World Event where
  init w := w.preKeys = [] ∧ w.claims = [] ∧ w.transactions = []
  step w event w' := ∃ command, w.step command = some (event, w')

end PreKeys

end SinoChat
