import SinoChat.Model.ToDevice

/-!
# The database's own rules for sync batches

The check constraints and triggers of `matrix_to_device_sync_batches`, as
the migrations leave them: what a row must satisfy, what an insertion must
satisfy against the cursor, the device-list stream and the parent row, and
what an update may change. The service states the same lineage rules; a row
that breaks one of these aborts its transaction.
-/

namespace SinoChat

open Js

/-- `INTERVAL '30 days'`. -/
def thirtyDaysMs : ℕ := 30 * 24 * 60 * 60 * 1000

/-- `INTERVAL '48 hours'`. -/
def fortyEightHoursMs : ℕ := 48 * 60 * 60 * 1000

/-- The check constraints: range, token, clock and key count. -/
def SyncBatchRecord.constraints (row : SyncBatchRecord) : Bool :=
  row.fromSequence ≤ row.upToSequence &&
    row.fromDeviceListPosition ≤ row.deviceListPosition &&
    fixed hashPattern row.tokenHash &&
    row.createdAt < row.expiresAt &&
    (row.acknowledgedAt.all fun acknowledgedAt => row.createdAt ≤ acknowledgedAt) &&
    row.oneTimeKeyCount ≤ 100

/-- What `sinochat_validate_matrix_sync_batch` asks of the parent of a new
row; the columns of a parent that is not there are null and distinct from
the row's. -/
def validatePredecessor (db : Db) (new : SyncBatchRecord) : Bool :=
  match new.previousBatchId with
  | none => new.fromSequence == 0 && new.fromDeviceListPosition == 0
  | some previousBatchId =>
    match db.queue.batches.find? fun row => row.id = previousBatchId with
    | none => false
    | some previous =>
      previous.deviceId == new.deviceId && previous.upToSequence == new.fromSequence &&
        previous.deviceListPosition == new.fromDeviceListPosition &&
        previous.createdAt ≤ new.createdAt && new.createdAt < previous.expiresAt &&
        previous.acknowledgedAt == none

/-- `sinochat_validate_matrix_sync_batch` on an insertion. -/
def validateMatrixSyncBatch (db : Db) (new : SyncBatchRecord) : Bool :=
  validatePredecessor db new &&
    (db.queue.latestSequence new.deviceId).any (fun latestSequence =>
      new.upToSequence ≤ latestSequence) &&
    new.deviceListPosition ≤ db.lists.position &&
    new.fromSequence ≤ new.upToSequence &&
    new.fromDeviceListPosition ≤ new.deviceListPosition &&
    new.expiresAt ≤ new.createdAt + thirtyDaysMs

/-- `sinochat_validate_matrix_sync_batch` and
`sinochat_enforce_matrix_sync_crypto_snapshot` on an update. -/
def validateMatrixSyncBatchUpdate (clock : ℕ) (old new : SyncBatchRecord) : Bool :=
  new.toMatrixSyncTokenData = old.toMatrixSyncTokenData && new.tokenHash == old.tokenHash &&
    new.createdAt == old.createdAt && new.expiresAt == old.expiresAt &&
    old.acknowledgedAt == none && new.acknowledgedAt.any fun acknowledgedAt => acknowledgedAt ≤ clock

/-- The events of a row's range that had not expired when it was made. -/
def Queue.liveIn (queue : Queue) (row : SyncBatchRecord) : List MatrixToDeviceEvent :=
  queue.events.filter fun event =>
    event.recipientDeviceId == row.deviceId && row.fromSequence < event.recipientSequence &&
      event.recipientSequence ≤ row.upToSequence && row.createdAt < event.expiresAt

/-- `earliest_event_expiry`. -/
def earliestEventExpiry (db : Db) (new : SyncBatchRecord) : Option ℕ :=
  ((db.queue.liveIn new).map MatrixToDeviceEvent.expiresAt).min?

/-- `sinochat_validate_matrix_sync_replay_window`. -/
def validateMatrixSyncReplayWindow (db : Db) (new : SyncBatchRecord) : Bool :=
  new.expiresAt ≤ new.createdAt + fortyEightHoursMs &&
    (earliestEventExpiry db new).all fun earliest => new.expiresAt ≤ earliest

end SinoChat
