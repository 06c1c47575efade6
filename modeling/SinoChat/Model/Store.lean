import SinoChat.Model.DeviceList
import SinoChat.Model.SyncToken

/-!
# The database

The tables the to-device service and the key directory share. A cursor
counts the events ever queued for a device; a transaction row is the record
that a send was done and is never deleted; an event row waits until it is
acknowledged or expires; a batch row is one page handed out by a sync. The
clock is the one PostgreSQL reads.
-/

namespace SinoChat

open Js

/-! ## The to-device queue -/

/-- A row of the transactions of a sender. -/
structure MatrixToDeviceTransaction where
  id : Uuid
  senderDeviceId : Uuid
  transactionId : JsString
  eventType : JsString
  requestSha256 : JsString
  createdAt : ℕ
  deriving DecidableEq

/-- A row of the queue of a recipient. -/
structure MatrixToDeviceEvent where
  transactionRowId : Uuid
  recipientUserId : Uuid
  recipientDeviceId : Uuid
  recipientSequence : ℕ
  conversationId : Option Uuid
  content : Json
  createdAt : ℕ
  expiresAt : ℕ

/-- A row of the sync batches: the token data, its digest and its times. -/
structure SyncBatchRecord extends MatrixSyncTokenData where
  tokenHash : JsString
  createdAt : ℕ
  expiresAt : ℕ
  acknowledgedAt : Option ℕ
  deriving DecidableEq

/-- The cursors, the transaction records, the events and the batches. -/
structure Queue where
  latestSequence : Uuid → Option ℕ
  transactions : List MatrixToDeviceTransaction
  events : List MatrixToDeviceEvent
  batches : List SyncBatchRecord

/-! ## The key directory -/

/-- A row of the one-time keys; a claimed one has the time of its claim. -/
structure MatrixOneTimeKey where
  id : Uuid
  deviceId : Uuid
  keyId : JsString
  curve25519Key : JsString
  signedKey : Json
  canonicalSha256 : JsString
  uploadedAt : ℕ
  claimedAt : Option ℕ

/-- A row of the fallback keys, with its first claim. -/
structure MatrixFallbackKey where
  id : Uuid
  deviceId : Uuid
  keyId : JsString
  curve25519Key : JsString
  signedKey : Json
  canonicalSha256 : JsString
  uploadedAt : ℕ
  firstClaimedAt : Option ℕ

/-- A row of the claims, under its request id. -/
structure MatrixKeyClaimRequest where
  id : Uuid
  requesterDeviceId : Uuid
  conversationId : Option Uuid
  requestId : JsString
  requestSha256 : JsString
  deriving DecidableEq

/-- A row of what a claim handed out. -/
structure MatrixKeyClaimResult where
  claimRequestId : Uuid
  recipientDeviceId : Uuid
  oneTimeKeyId : Option Uuid
  fallbackKeyId : Option Uuid
  claimedAt : ℕ
  deriving DecidableEq

/-- The key tables. Every key is of the one algorithm `signed_curve25519`;
`slots` is the current fallback key of a device. -/
structure KeyStore where
  oneTimeKeys : List MatrixOneTimeKey
  fallbackKeys : List MatrixFallbackKey
  slots : Uuid → Option Uuid
  claimRequests : List MatrixKeyClaimRequest
  claimResults : List MatrixKeyClaimResult

namespace KeyStore

/-- The keys of a device no request has claimed. -/
def unclaimed (keys : KeyStore) (deviceId : Uuid) : List MatrixOneTimeKey :=
  keys.oneTimeKeys.filter fun key => key.deviceId == deviceId && key.claimedAt.isNone

/-- The current fallback key of a device. -/
def currentFallback (keys : KeyStore) (deviceId : Uuid) : Option MatrixFallbackKey :=
  (keys.slots deviceId).bind fun id => keys.fallbackKeys.find? fun key => key.id = id

end KeyStore

/-- The whole database, with its clock. -/
structure Db where
  clock : ℕ
  accounts : Accounts
  lists : DeviceLists
  queue : Queue
  keys : KeyStore

end SinoChat
