import SinoChat.Model.Service

/-!
# Key transactions and their clock readings

An upload and the two claims of the key directory as transactions that read
the clock, pass the eligibility query and take the device-set locks one by
one, each in its own order: `claimRelatedKeys` reads the clock first, the
other two after their locks. Between two steps of a transaction the others
run and the clock goes on; what a transaction writes is seen at its commit.

The database checks the times a claim writes (`clockChecks`): the claim and
the first use of a key are not before its upload, a result is of the time its
one-time key was claimed at and not before the first use of its fallback key,
and nothing is of the future. A claim that fails the checks is rejected.
-/

namespace SinoChat

open Js

/-! ## The conditions on the times -/

/-- `matrix_one_time_keys_claim_clock_check`. -/
def claimClockCheck (key : MatrixOneTimeKey) : Bool := key.claimedAt.all fun t => key.uploadedAt ≤ t

/-- `matrix_fallback_keys_claim_clock_check`. -/
def firstClaimClockCheck (key : MatrixFallbackKey) : Bool :=
  key.firstClaimedAt.all fun t => key.uploadedAt ≤ t

/-- The times in `sinochat_validate_matrix_key_claim_result`. -/
def resultClockCheck (keys : KeyStore) (clock : ℕ) (result : MatrixKeyClaimResult) : Bool :=
  (result.oneTimeKeyId.all fun id =>
    keys.oneTimeKeys.any fun key => key.id == id && key.claimedAt == some result.claimedAt) &&
  (result.fallbackKeyId.all fun id =>
    keys.fallbackKeys.any fun key => key.id == id &&
      key.firstClaimedAt.any fun t => t ≤ result.claimedAt) &&
  result.claimedAt ≤ clock

/-- The conditions on the times of a claim that commits at `clock`: on all
keys and on the results it adds. -/
def clockChecks (clock : ℕ) (before after : KeyStore) : Bool :=
  after.oneTimeKeys.all claimClockCheck && after.fallbackKeys.all firstClaimClockCheck &&
    (after.claimResults.drop before.claimResults.length).all (resultClockCheck after clock)

/-! ## Transactions -/

/-- A request to the key directory that writes times. -/
inductive KeyRequest where
  | upload (principal : SessionPrincipal) (upload : MatrixKeyUpload)
  | claim (claim : KeyClaim)

/-- A transaction: its clock reading, what it may touch, the device sets it
has still to lock and those it has. -/
structure KeyTransaction where
  request : KeyRequest
  now : Option ℕ
  scope : Option ClaimScope
  pending : List Uuid
  locked : List Uuid

/-- The order of the device-set locks. -/
def lockOrder (users : List Uuid) : List Uuid := users.dedup.sortBy fun id => unitOrder id.text

namespace KeyRequest

/-- `claimRelatedKeys`. -/
def Related : KeyRequest → Prop
  | claim (.related _) => True
  | _ => False

instance : DecidablePred Related
  | upload _ _ => inferInstanceAs (Decidable False)
  | claim (.ofConversation _ _) => inferInstanceAs (Decidable False)
  | claim (.related _) => inferInstanceAs (Decidable True)

/-- The user a related claim names. -/
def target (serverName : JsString) : KeyRequest → Option Uuid
  | claim (.related call) =>
    match parseClaimCall call.rawRequestId call.value with
    | .ok parsed =>
      match parsed.claim.oneTimeKeys with
      | [(matrixUserId, _)] => sinochatUserIdFromMatrixUserId matrixUserId serverName
      | _ => none
    | .error _ => none
  | _ => none

/-- The checks on the caller that follow the clock reading. -/
def checkSession (accounts : Accounts) (now : ℕ) : KeyRequest → Except HttpException Unit
  | upload principal _ => do
    let deviceId ← requireDirectoryDevice principal
    require (accounts.operational principal.id)
      (.forbidden "La cuenta no está disponible para esta acción.")
    require (accounts.currentUserSession principal deviceId now)
      (.unauthorized "La sesion ya no esta vigente.")
    require (accounts.deviceKeys.find? deviceId).isSome
      (.conflict "El dispositivo no publico una identidad Matrix.")
  | claim request => do
    let deviceId ← requireDirectoryDevice request.call.principal
    require (accounts.currentUserSession request.call.principal deviceId now)
      (.unauthorized "La sesion ya no esta vigente.")

/-- Whose keys the transaction may touch, and the device sets to lock. An
upload touches its own user's. -/
def admission (env : Deployment) (accounts : Accounts) (now : ℕ) :
    KeyRequest → Except HttpException (ClaimScope × List Uuid)
  | upload principal _ =>
    .ok (⟨principal.id, matrixUserIdFromUuid principal.id env.matrixServerName, none⟩,
      [principal.id])
  | claim (.ofConversation conversationId call) => do
    let deviceId ← requireDirectoryDevice call.principal
    let parsed ← parseClaimCall call.rawRequestId call.value
    let parties ← conversationParties accounts call.principal conversationId deviceId now
    let peerUserId := if parties.1 = call.principal.id then parties.2 else parties.1
    let peerMatrixUserId := matrixUserIdFromUuid peerUserId env.matrixServerName
    require (parsed.claim.oneTimeKeys.map Prod.fst == [peerMatrixUserId])
      (.forbidden "El reclamo de claves solo puede dirigirse a la contraparte actual.")
    return (⟨peerUserId, peerMatrixUserId, some conversationId⟩, lockOrder [parties.1, parties.2])
  | claim (.related call) => do
    let deviceId ← requireDirectoryDevice call.principal
    let parsed ← parseClaimCall call.rawRequestId call.value
    match parsed.claim.oneTimeKeys with
    | [(matrixUserId, _)] => do
      let scope ← relatedScope env.matrixServerName accounts call.principal deviceId matrixUserId
        now
      return (scope, lockOrder [call.principal.id, scope.userId])
    | _ => .error (.withBody 400 (.obj [
        (js "error", .str (js "MATRIX_KEYS_CLAIM_SINGLE_USER_REQUIRED")),
        (js "message",
          .str (js "Cada subsolicitud de claves Matrix debe tener un destinatario."))]))

/-- What the transaction does with its locks and its clock reading. -/
def apply (env : Deployment) (scope : ClaimScope) (now : ℕ) (db : Db) :
    KeyRequest → Except HttpException Db
  | upload principal new => do
    let deviceId ← requireDirectoryDevice principal
    let inserted ← insertOneTimeKeys env.crypto deviceId now new.oneTimeKeys db.keys
    let keys ← rotateFallbackKey env.crypto deviceId now new.fallbackKeys inserted
    return { db with keys }
  | claim request => do
    let deviceId ← requireDirectoryDevice request.call.principal
    let parsed ← parseClaimCall request.call.rawRequestId request.call.value
    let hash ← claimSha256 env.crypto parsed.claim
    let excluded := match request with
      | .ofConversation _ _ => none
      | .related _ => some deviceId
    let claimed ← runClaim db deviceId scope parsed hash excluded request.call.rowId now
    return claimed.1

/-- The database checks the times of a claim. -/
def Rejected (clock : ℕ) (before after : KeyStore) : KeyRequest → Prop
  | upload _ _ => False
  | claim _ => clockChecks clock before after = false

instance (clock : ℕ) (before after : KeyStore) : DecidablePred (Rejected clock before after)
  | upload _ _ => inferInstanceAs (Decidable False)
  | claim _ => inferInstanceAs (Decidable (clockChecks clock before after = false))

/-- The ids of the rows the transaction may write. -/
def rowIds : KeyRequest → List Uuid
  | upload _ new => new.rowIds
  | claim request => [request.call.rowId]

end KeyRequest

/-! ## The machine -/

/-- The database, the transactions under way by number, and the UUIDs drawn. -/
structure KeyClockWorld where
  db : Db
  transactions : ℕ → Option KeyTransaction
  drawn : List Uuid

/-- What a transaction, or the clock, did. -/
inductive KeyClockAction where
  | begun (n : ℕ) (request : KeyRequest)
  | clockRead (n : ℕ)
  | admitted (n : ℕ)
  | locked (n : ℕ) (userId : Uuid)
  | committed (n : ℕ)
  /-- A claim the database rejects for the times it writes. -/
  | rejected (n : ℕ)
  | ended (n : ℕ)
  | accountsChanged
  | ticked

/-- A session that is bound to a device belongs to the user of the device. -/
def Accounts.SessionsOwnDevices (accounts : Accounts) : Prop :=
  ∀ session ∈ accounts.sessions, ∀ row ∈ accounts.deviceKeys,
    session.deviceId = some row.deviceId → row.userId = session.userId

/-- **The steps.** -/
inductive KeyClockStep (env : Deployment) : KeyClockWorld → KeyClockAction → KeyClockWorld → Prop
  | begin {w : KeyClockWorld} {n : ℕ} {request : KeyRequest} :
      w.transactions n = none → request.rowIds.Nodup → (∀ id ∈ request.rowIds, id ∉ w.drawn) →
      KeyClockStep env w (.begun n request)
        { w with
          transactions := Function.update w.transactions n (some ⟨request, none, none, [], []⟩)
          drawn := request.rowIds ++ w.drawn }
  /-- A related claim reads before it is admitted, the others with all locks. -/
  | readClock {w : KeyClockWorld} {n : ℕ} {t : KeyTransaction} :
      w.transactions n = some t → t.now = none →
      (if t.request.Related then t.scope = none else t.scope.isSome ∧ t.pending = []) →
      t.request.checkSession w.db.accounts w.db.clock = .ok () →
      KeyClockStep env w (.clockRead n)
        { w with
          transactions := Function.update w.transactions n
            (some { t with now := some w.db.clock }) }
  | admission {w : KeyClockWorld} {n : ℕ} {t : KeyTransaction} {scope : ClaimScope}
      {users : List Uuid} :
      w.transactions n = some t → t.scope = none → (t.request.Related → t.now.isSome) →
      t.request.admission env w.db.accounts w.db.clock = .ok (scope, users) →
      KeyClockStep env w (.admitted n)
        { w with
          transactions := Function.update w.transactions n
            (some { t with scope := some scope, pending := users }) }
  | lock {w : KeyClockWorld} {n : ℕ} {t : KeyTransaction} {userId : Uuid} {rest : List Uuid} :
      w.transactions n = some t → t.pending = userId :: rest →
      (∀ m other, w.transactions m = some other → userId ∉ other.locked) →
      KeyClockStep env w (.locked n userId)
        { w with
          transactions := Function.update w.transactions n
            (some { t with pending := rest, locked := userId :: t.locked }) }
  | commit {w : KeyClockWorld} {n now : ℕ} {t : KeyTransaction} {scope : ClaimScope} {db' : Db} :
      w.transactions n = some t → t.now = some now → t.scope = some scope → t.pending = [] →
      t.request.apply env scope now w.db = .ok db' →
      ¬ t.request.Rejected w.db.clock w.db.keys db'.keys →
      KeyClockStep env w (.committed n)
        { w with db := db', transactions := Function.update w.transactions n none }
  | reject {w : KeyClockWorld} {n now : ℕ} {t : KeyTransaction} {scope : ClaimScope} {db' : Db} :
      w.transactions n = some t → t.now = some now → t.scope = some scope → t.pending = [] →
      t.request.apply env scope now w.db = .ok db' →
      t.request.Rejected w.db.clock w.db.keys db'.keys →
      KeyClockStep env w (.rejected n)
        { w with transactions := Function.update w.transactions n none }
  /-- The request fails otherwise, or its process ends. -/
  | abort {w : KeyClockWorld} {n : ℕ} :
      KeyClockStep env w (.ended n)
        { w with transactions := Function.update w.transactions n none }
  | changeAccounts {w : KeyClockWorld} {accounts : Accounts} :
      (∀ row ∈ w.db.accounts.deviceKeys, row ∈ accounts.deviceKeys) →
      accounts.SessionsOwnDevices →
      KeyClockStep env w .accountsChanged { w with db := { w.db with accounts } }
  | tick {w : KeyClockWorld} {clock : ℕ} : w.db.clock ≤ clock →
      KeyClockStep env w .ticked { w with db := { w.db with clock } }

/-- No keys, and no transaction runs. -/
structure KeyClockInitial (w : KeyClockWorld) : Prop where
  keys : w.db.keys = ⟨[], [], fun _ => none, [], []⟩
  transactions : w.transactions = fun _ => none
  sessions : w.db.accounts.SessionsOwnDevices

/-- **The key directory with its clock readings.** -/
def keyClock (env : Deployment) : Machine KeyClockWorld KeyClockAction where
  init := KeyClockInitial
  step := KeyClockStep env

end SinoChat
