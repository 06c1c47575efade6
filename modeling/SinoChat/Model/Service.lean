import SinoChat.Common.Run
import SinoChat.Model.KeyDirectory

/-!
# The service as a machine

All requests and jobs that touch the to-device queue, the key tables and the
device-list stream, as steps of one machine over the database. A request
that fails rolls its transaction back and changes nothing.

A step of `send` and of the key directory is a whole transaction. A sync is
two steps, so between its readings and its locks anything may happen. The
UUIDs the service draws are new: no draw returns one that was drawn before
or that a waiting sync happens to name in its position.

The first upload of a device registers it as well: here these are the steps
that change the accounts, open its cursor, register its list, upload its
keys and publish, one after the other.

What the rest of the system does to the accounts is left open, except that
published device identities are never changed or removed; a publication of
the device-list stream may be about anyone.
-/

namespace SinoChat

open Js

/-- What a deployment fixes: the digests and the Matrix server name. -/
structure Deployment where
  crypto : Crypto
  matrixServerName : JsString

/-- The database, the syncs that wait for their locks and the UUIDs drawn. -/
structure World where
  db : Db
  calls : List SyncCall
  drawn : List Uuid

/-- One of the two ways to claim keys. -/
inductive KeyClaim where
  | ofConversation (conversationId : Uuid) (call : ClaimCall)
  | related (call : ClaimCall)

namespace KeyClaim

/-- The call of a claim, whichever way it is admitted. -/
def call : KeyClaim → ClaimCall
  | ofConversation _ call => call
  | related call => call

/-- The service method behind a claim. -/
def run (env : Deployment) (claim : KeyClaim) (db : Db) :
    Except HttpException (Db × ClaimedKeys) :=
  match claim with
  | ofConversation conversationId call =>
    claimKeys env.crypto env.matrixServerName conversationId call db
  | related call => claimRelatedKeys env.crypto env.matrixServerName call db

end KeyClaim

/-- The token of a waiting sync names a batch id. -/
def SyncCall.names (call : SyncCall) (id : Uuid) : Prop :=
  ∃ since, call.since = some since ∧ parseMatrixSyncTokenBatchId since = .ok id.text

instance (call : SyncCall) (id : Uuid) : Decidable (call.names id) :=
  decidable_of_iff (call.since.any fun since =>
    decide (parseMatrixSyncTokenBatchId since = .ok id.text)) (by simp [SyncCall.names, Option.any_eq_true])

/-- What a step is about. -/
inductive Action where
  /-- A send, with the events it queued. -/
  | sent (call : SendCall) (enqueued : List MatrixToDeviceEvent)
  | sendFailed (call : SendCall) (error : HttpException)
  | syncBegan (call : SyncCall)
  /-- A sync that answered. -/
  | synced (call : SyncCall) (result : SyncResult)
  | syncFailed (call : SyncCall) (error : HttpException)
  | uploaded (principal : SessionPrincipal) (upload : MatrixKeyUpload)
  | uploadFailed (principal : SessionPrincipal) (upload : MatrixKeyUpload)
      (error : HttpException)
  /-- A claim, with the keys it answered with. -/
  | claimed (claim : KeyClaim) (keys : ClaimedKeys)
  | claimFailed (claim : KeyClaim) (error : HttpException)
  | cursorOpened (deviceId : Uuid)
  | listRegistered (userId : Uuid) (matrixUserId : JsString)
  | published (subjectUserId : Uuid) (recipients : List Uuid) (changeType : ChangeType)
      (bumpSubjectVersion : Bool)
  | accountsChanged
  | eventsPurged (now : ℕ)
  | batchesPurged (now : ℕ)
  | ticked

/-- The row ids an upload would use. -/
def MatrixKeyUpload.rowIds (upload : MatrixKeyUpload) : List Uuid :=
  (upload.oneTimeKeys ++ upload.fallbackKeys).map UploadedKey.rowId

/-- **The steps of the service.** -/
inductive ServiceStep (env : Deployment) : World → Action → World → Prop
  | send {w : World} {call : SendCall} {db' : Db} {enqueued : List MatrixToDeviceEvent} :
      call.now ≤ w.db.clock → call.eligibilityNow ≤ w.db.clock → call.rowId ∉ w.drawn →
      send env.crypto call w.db = .ok db' →
      db'.queue.events = w.db.queue.events ++ enqueued →
      ServiceStep env w (.sent call enqueued)
        { w with db := db', drawn := call.rowId :: w.drawn }
  | sendFailed {w : World} {call : SendCall} {error : HttpException} :
      send env.crypto call w.db = .error error → ServiceStep env w (.sendFailed call error) w
  | syncBegin {w : World} {principal : SessionPrincipal} {rawSince rawTimeout : Option Json}
      {call : SyncCall} :
      beginSync principal rawSince rawTimeout w.db = .ok call →
      ServiceStep env w (.syncBegan call) { w with calls := call :: w.calls }
  | sync {w : World} {call : SyncCall} {id : Uuid} {result : SyncResult} :
      call ∈ w.calls → id ∉ w.drawn → (∀ waiting ∈ w.calls, ¬ waiting.names id) →
      sync env.crypto call id w.db = .ok result →
      ServiceStep env w (.synced call result)
        { db := result.db, calls := w.calls.erase call, drawn := id :: w.drawn }
  | syncFailed {w : World} {call : SyncCall} {id : Uuid} {error : HttpException} :
      call ∈ w.calls → sync env.crypto call id w.db = .error error →
      ServiceStep env w (.syncFailed call error) { w with calls := w.calls.erase call }
  | upload {w : World} {principal : SessionPrincipal} {upload : MatrixKeyUpload} {db' : Db} :
      upload.rowIds.Nodup → (∀ id ∈ upload.rowIds, id ∉ w.drawn) →
      uploadKeys env.crypto principal upload w.db = .ok db' →
      ServiceStep env w (.uploaded principal upload)
        { w with db := db', drawn := upload.rowIds ++ w.drawn }
  | uploadFailed {w : World} {principal : SessionPrincipal} {upload : MatrixKeyUpload}
      {error : HttpException} :
      uploadKeys env.crypto principal upload w.db = .error error →
      ServiceStep env w (.uploadFailed principal upload error) w
  | claim {w : World} {claim : KeyClaim} {db' : Db} {keys : ClaimedKeys} :
      claim.call.now ≤ w.db.clock → claim.call.eligibilityNow ≤ w.db.clock →
      claim.call.rowId ∉ w.drawn → claim.run env w.db = .ok (db', keys) →
      ServiceStep env w (.claimed claim keys)
        { w with db := db', drawn := claim.call.rowId :: w.drawn }
  | claimFailed {w : World} {claim : KeyClaim} {error : HttpException} :
      claim.run env w.db = .error error → ServiceStep env w (.claimFailed claim error) w
  | openCursor {w : World} {deviceId : Uuid} :
      w.db.queue.latestSequence deviceId = none →
      ServiceStep env w (.cursorOpened deviceId)
        { w with db := { w.db with queue := { w.db.queue with
          latestSequence := Function.update w.db.queue.latestSequence deviceId (some 0) } } }
  | registerList {w : World} {userId : Uuid} {matrixUserId : JsString} :
      ServiceStep env w (.listRegistered userId matrixUserId)
        { w with db := { w.db with lists := w.db.lists.register userId matrixUserId } }
  | publish {w : World} {subjectUserId : Uuid} {recipients : List Uuid} {changeType : ChangeType}
      {bump : Bool} :
      ServiceStep env w (.published subjectUserId recipients changeType bump)
        { w with db := { w.db with
          lists := w.db.lists.publish subjectUserId recipients changeType bump } }
  | changeAccounts {w : World} {accounts : Accounts} :
      (∀ row ∈ w.db.accounts.deviceKeys, row ∈ accounts.deviceKeys) →
      ServiceStep env w .accountsChanged { w with db := { w.db with accounts } }
  | purgeEvents {w : World} {now : ℕ} :
      now ≤ w.db.clock →
      ServiceStep env w (.eventsPurged now)
        { w with db := { w.db with queue := w.db.queue.purgeEvents now } }
  | purgeBatches {w : World} {now : ℕ} :
      now ≤ w.db.clock →
      ServiceStep env w (.batchesPurged now)
        { w with db := { w.db with queue := w.db.queue.purgeBatches now } }
  | tick {w : World} {clock : ℕ} :
      w.db.clock ≤ clock →
      ServiceStep env w .ticked { w with db := { w.db with clock } }

/-- Nothing has been queued, published or claimed, and no request waits. -/
structure Initial (w : World) : Prop where
  queue : w.db.queue = ⟨fun _ => none, [], [], []⟩
  lists : w.db.lists = DeviceLists.empty
  keys : w.db.keys = ⟨[], [], fun _ => none, [], []⟩
  calls : w.calls = []

/-- **The service.** -/
def service (env : Deployment) : Machine World Action where
  init := Initial
  step := ServiceStep env

end SinoChat
