import SinoChat.ToDevice.Log

/-!
# Scripts

The service as a function: a script orders one request or job after the
other, and running it gives the labels and the state of a run of the machine
(`run_script`). A script stops where the machine has no such step.

The scripts run in a small deployment (`Sample`): a client and a cashier with one
device each and a conversation. Its digests are the ones of HMAC-SHA-256 and SHA-256,
under a secret of 32 letters `s`, at the texts these runs reach, and zero elsewhere.
-/

namespace SinoChat

open Js

variable {env : Deployment}

/-- One request or job. -/
inductive Command where
  | send (call : SendCall)
  | syncBegin (principal : SessionPrincipal) (rawSince : Option Json)
  /-- The newest waiting sync goes on, with the UUID a new batch would get. -/
  | sync (id : Uuid)
  | upload (principal : SessionPrincipal) (upload : MatrixKeyUpload)
  | claim (claim : KeyClaim)
  | openCursor (deviceId : Uuid)
  | registerList (userId : Uuid) (matrixUserId : JsString)
  | publish (subjectUserId : Uuid) (recipients : List Uuid) (changeType : ChangeType)
      (bumpSubjectVersion : Bool)
  | changeAccounts (accounts : Accounts)
  | purgeEvents
  | purgeBatches
  | tick (clock : ℕ)

/-- The request or job as a step, where the machine can make it. -/
def Command.exec (env : Deployment) (w : World) : Command → Option (Action × World)
  | .send call =>
    if call.now ≤ w.db.clock ∧ call.eligibilityNow ≤ w.db.clock ∧ call.rowId ∉ w.drawn then
      match SinoChat.send env.crypto call w.db with
      | .ok db' => some (.sent call (db'.queue.events.drop w.db.queue.events.length),
          { w with db := db', drawn := call.rowId :: w.drawn })
      | .error error => some (.sendFailed call error, w)
    else none
  | .syncBegin principal rawSince =>
    match beginSync principal rawSince none w.db with
    | .ok call => some (.syncBegan call, { w with calls := call :: w.calls })
    | .error _ => none
  | .sync id =>
    match w.calls with
    | [] => none
    | call :: rest =>
      if id ∉ w.drawn ∧ ∀ waiting ∈ w.calls, ¬ waiting.names id then
        match SinoChat.sync env.crypto call id w.db with
        | .ok result => some (.synced call result,
            { db := result.db, calls := rest, drawn := id :: w.drawn })
        | .error error => some (.syncFailed call error, { w with calls := rest })
      else none
  | .upload principal keys =>
    if keys.rowIds.Nodup ∧ ∀ id ∈ keys.rowIds, id ∉ w.drawn then
      match uploadKeys env.crypto principal keys w.db with
      | .ok db' => some (.uploaded principal keys,
          { w with db := db', drawn := keys.rowIds ++ w.drawn })
      | .error error => some (.uploadFailed principal keys error, w)
    else none
  | .claim request =>
    if request.call.now ≤ w.db.clock ∧ request.call.eligibilityNow ≤ w.db.clock ∧
        request.call.rowId ∉ w.drawn then
      match request.run env w.db with
      | .ok (db', keys) => some (.claimed request keys,
          { w with db := db', drawn := request.call.rowId :: w.drawn })
      | .error error => some (.claimFailed request error, w)
    else none
  | .openCursor deviceId =>
    if w.db.queue.latestSequence deviceId = none then
      some (.cursorOpened deviceId, { w with db := { w.db with queue := { w.db.queue with
        latestSequence := Function.update w.db.queue.latestSequence deviceId (some 0) } } })
    else none
  | .registerList userId matrixUserId =>
    some (.listRegistered userId matrixUserId,
      { w with db := { w.db with lists := w.db.lists.register userId matrixUserId } })
  | .publish subjectUserId recipients changeType bump =>
    some (.published subjectUserId recipients changeType bump, { w with db := { w.db with
      lists := w.db.lists.publish subjectUserId recipients changeType bump } })
  | .changeAccounts accounts =>
    if ∀ row ∈ w.db.accounts.deviceKeys.rows, row ∈ accounts.deviceKeys.rows then
      some (.accountsChanged, { w with db := { w.db with accounts } })
    else none
  | .purgeEvents =>
    some (.eventsPurged w.db.clock,
      { w with db := { w.db with queue := w.db.queue.purgeEvents w.db.clock } })
  | .purgeBatches =>
    some (.batchesPurged w.db.clock,
      { w with db := { w.db with queue := w.db.queue.purgeBatches w.db.clock } })
  | .tick clock =>
    if w.db.clock ≤ clock then some (.ticked, { w with db := { w.db with clock } }) else none

/-- A send that succeeds leaves the events that waited in place. -/
theorem send_events {crypto : Crypto} {call : SendCall} {db db' : Db}
    (h : send crypto call db = .ok db') :
    db'.queue.events = db.queue.events ++ db'.queue.events.drop db.queue.events.length := by
  obtain ⟨deviceId, request, hash, -, ⟨-, rfl⟩ | ⟨targets, -, rfl⟩⟩ := send_cases h
  · simp
  · obtain ⟨new, hnew⟩ := enqueues_afterSend db.queue call deviceId request hash targets
    have hevents : (db.queue.afterSend call deviceId request hash targets).events =
      db.queue.events ++ new := hnew.events
    rw [hevents, List.drop_left]

/-- **A command makes a step of the machine.** -/
theorem Command.exec_step {w w' : World} {command : Command} {a : Action}
    (h : command.exec env w = some (a, w')) : ServiceStep env w a w' := by
  cases command with
  | send call =>
    simp only [Command.exec] at h
    split_ifs at h with hcond
    obtain ⟨hnow, helig, hfresh⟩ := hcond
    split at h
    · rename_i db' hsend
      cases h
      exact .send hnow helig hfresh hsend (send_events hsend)
    · rename_i error hsend
      cases h
      exact .sendFailed hsend
  | syncBegin principal rawSince =>
    simp only [Command.exec] at h
    split at h
    · rename_i call hbegin
      cases h
      exact .syncBegin hbegin
    · cases h
  -- The newest waiting call goes on, and leaves the calls by its reply.
  | sync id =>
    simp only [Command.exec] at h
    split at h
    · cases h
    · rename_i call rest hcalls
      have hmem : call ∈ w.calls := by rw [hcalls]; exact List.mem_cons_self
      have herase : w.calls.erase call = rest := by rw [hcalls, List.erase_cons_head]
      split_ifs at h with hcond
      rw [← herase] at h
      split at h
      · rename_i result hsync
        cases h
        exact .sync hmem hcond.1 hcond.2 hsync
      · rename_i error hsync
        cases h
        exact .syncFailed hmem hsync
  | upload principal upload =>
    simp only [Command.exec] at h
    split_ifs at h with hcond
    split at h
    · rename_i db' hupload
      cases h
      exact .upload hcond.1 hcond.2 hupload
    · rename_i error hupload
      cases h
      exact .uploadFailed hupload
  | claim claim =>
    simp only [Command.exec] at h
    split_ifs at h with hcond
    obtain ⟨hnow, helig, hfresh⟩ := hcond
    split at h
    · rename_i db' keys hclaim
      cases h
      exact .claim hnow helig hfresh hclaim
    · rename_i error hclaim
      cases h
      exact .claimFailed hclaim
  | openCursor deviceId =>
    simp only [Command.exec] at h
    split_ifs at h with hnone
    cases h
    exact .openCursor hnone
  | registerList userId matrixUserId =>
    cases h
    exact .registerList
  | publish subjectUserId recipients changeType bump =>
    cases h
    exact .publish
  | changeAccounts accounts =>
    simp only [Command.exec] at h
    split_ifs at h with hkept
    cases h
    exact .changeAccounts hkept
  | purgeEvents =>
    cases h
    exact .purgeEvents le_rfl
  | purgeBatches =>
    cases h
    exact .purgeBatches le_rfl
  | tick clock =>
    simp only [Command.exec] at h
    split_ifs at h with hclock
    cases h
    exact .tick hclock

/-- Run a script, from a state and the labels that led to it. -/
def runScript (env : Deployment) : List Command → List Action → World →
    Option (List Action × World)
  | [], trace, w => some (trace, w)
  | command :: rest, trace, w =>
    match command.exec env w with
    | some (a, w') => runScript env rest (a :: trace) w'
    | none => none

/-- **A script that runs through is a run.** -/
theorem run_script {script : List Command} {trace trace' : List Action} {w w' : World}
    (hrun : (service env).Run trace w) (h : runScript env script trace w = some (trace', w')) :
    (service env).Run trace' w' := by
  induction script generalizing trace w with
  | nil =>
    cases h
    exact hrun
  | cons command rest ih =>
    rw [runScript] at h
    split at h
    · rename_i a t hexec
      exact ih (hrun.step (Command.exec_step hexec)) h
    · cases h

/-! ## A small deployment -/

namespace Sample

/-! ### Digits -/

/-- The last `width` digits of a number, by the alphabet of its base. -/
def digits (alphabet : ℕ → UInt16) (base width n : ℕ) : JsString :=
  (List.range width).reverse.map fun i => alphabet (n / base ^ i % base)

theorem fixed_digits {alphabet : ℕ → UInt16} {base : ℕ} {c : CharClass} (hbase : 0 < base)
    (hclass : ∀ d < base, c (alphabet d) = true) (width n : ℕ) :
    fixed (times width c) (digits alphabet base width n) = true := by
  refine fixed_times.mpr ⟨by simp [digits], ?_⟩
  intro u hu
  obtain ⟨i, -, rfl⟩ := List.mem_map.mp hu
  exact hclass _ (Nat.mod_lt _ hbase)

/-- A number in hexadecimal. -/
def hex (width n : ℕ) : JsString := digits hexDigit 16 width n

theorem fixed_hex (width n : ℕ) : fixed (times width isLowerHex) (hex width n) = true :=
  fixed_digits (by decide) (by decide) width n

/-- A digit of the URL-safe base 64. -/
def base64UrlDigit (d : ℕ) : UInt16 :=
  (if d < 26 then 0x41 + d else if d < 52 then 0x61 + (d - 26) else if d < 62 then 0x30 + (d - 52)
    else if d = 62 then 0x2D else 0x5F).toUInt16

/-- 32 bytes in the URL-safe base 64, without padding: 43 digits, the last
one with two bits of zero. -/
def base64Url (n : ℕ) : JsString := digits base64UrlDigit 64 43 (n * 4)

theorem fixed_base64Url (n : ℕ) : fixed (times 43 isBase64Url) (base64Url n) = true :=
  fixed_digits (by decide) (by decide) 43 (n * 4)

/-- The UUID of a number. -/
def uuidOf (n : ℕ) : Uuid where
  text := hex 8 (n / 16 ^ 24) ++ js "-" ++ hex 4 (n / 16 ^ 20) ++ js "-" ++ hex 4 (n / 16 ^ 16) ++
    js "-" ++ hex 4 (n / 16 ^ 12) ++ js "-" ++ hex 12 n
  valid := by
    have hdash : fixed (lit "-") (js "-") = true := fixed_lit.mpr rfl
    unfold uuid uuidPattern
    exact fixed_append_of (fixed_append_of (fixed_append_of (fixed_append_of (fixed_append_of
      (fixed_append_of (fixed_append_of (fixed_append_of (fixed_hex _ _) hdash) (fixed_hex _ _))
        hdash) (fixed_hex _ _)) hdash) (fixed_hex _ _)) hdash) (fixed_hex _ _)

/-- A digest by its values at some texts, in numbers. -/
def digestAt (table : List (JsString × ℕ)) (text : JsString) : ℕ :=
  ((table.find? fun entry => entry.1 = text).map Prod.snd).getD 0

/-! ### Accounts -/

/-- The ids of the deployment. -/
def clientId : Uuid := uuidOf 0x0c000000000040008000000000000001
def cashierId : Uuid := uuidOf 0x0a000000000040008000000000000001
def clientDevice : Uuid := uuidOf 0x0c000000000040008000000000000002
def cashierDevice : Uuid := uuidOf 0x0a000000000040008000000000000002
def clientSession : Uuid := uuidOf 0x0c000000000040008000000000000003
def cashierSession : Uuid := uuidOf 0x0a000000000040008000000000000003
def subscriptionId : Uuid := uuidOf 0x0a000000000040008000000000000004
def assignmentId : Uuid := uuidOf 0x0e000000000040008000000000000001
def conversationId : Uuid := uuidOf 0x0e000000000040008000000000000002

/-- The published keys of the client's device. -/
def clientKeys : MatrixDeviceKey where
  deviceId := clientDevice
  userId := clientId
  matrixUserId := js "@u" ++ hex 32 0x0c000000000040008000000000000001 ++ js ":chat.example"
  matrixDeviceId := js "D0C000000000040008000000000000002"
  curve25519Key := List.replicate 43 0x43

/-- The published keys of the cashier's device. -/
def cashierKeys : MatrixDeviceKey where
  deviceId := cashierDevice
  userId := cashierId
  matrixUserId := js "@u" ++ hex 32 0x0a000000000040008000000000000001 ++ js ":chat.example"
  matrixDeviceId := js "D0A000000000040008000000000000002"
  curve25519Key := List.replicate 43 0x41

/-- The tables, with the state of the cashier and of the conversation left open. -/
def accountsWith (cashierStatus : AccountStatus) (endedAt : Option ℕ)
    (conversationStatus : ConversationStatus) : Accounts where
  users := ⟨[⟨clientId, .client, .active, false, 1⟩, ⟨cashierId, .cashier, cashierStatus, false, 1⟩],
    show [clientId, cashierId].Nodup by decide +kernel⟩
  devices := ⟨[⟨clientDevice, clientId, .active⟩, ⟨cashierDevice, cashierId, .active⟩],
    by decide +kernel⟩
  deviceKeys := ⟨[clientKeys, cashierKeys], by decide +kernel⟩
  sessions := ⟨[⟨clientSession, clientId, some clientDevice, 1, 10000000000, none⟩,
    ⟨cashierSession, cashierId, some cashierDevice, 1, 10000000000, none⟩], by decide +kernel⟩
  cashierProfiles := ⟨[⟨cashierId, .approved, some 1, some 1⟩], by decide +kernel⟩
  subscriptions := ⟨[⟨subscriptionId, cashierId, .active, 0, none⟩], by decide +kernel⟩
  assignments := ⟨[⟨assignmentId, clientId, cashierId, endedAt⟩],
    show [assignmentId].Nodup by decide +kernel⟩
  conversations := ⟨[⟨conversationId, assignmentId, conversationStatus⟩],
    show [conversationId].Nodup by decide +kernel⟩

/-- The client is the cashier's. -/
def accounts : Accounts := accountsWith .active none .active

/-- The cashier has been suspended and the client taken away. -/
def suspended : Accounts := accountsWith .suspended (some 1000) .closed

/-- The client at their device. -/
def client : SessionPrincipal := ⟨clientId, .client, clientSession, some clientDevice⟩

/-- The cashier at their device. -/
def cashier : SessionPrincipal := ⟨cashierId, .cashier, cashierSession, some cashierDevice⟩

/-- The service before the first request. -/
def world : World where
  db :=
    { clock := 1000
      accounts := accounts
      lists := DeviceLists.empty
      queue := ⟨fun _ => none, [], [], []⟩
      keys := ⟨[], [], fun _ => none, [], []⟩ }
  calls := []
  drawn := []

theorem world_initial : Initial world := ⟨rfl, rfl, rfl, rfl⟩

/-! ### Requests -/

/-- A message of the cashier's device to the client's. -/
def content : Json :=
  .obj [(js "algorithm", .str (js "m.olm.v1.curve25519-aes-sha2")),
    (js "ciphertext", .obj [(clientKeys.curve25519Key,
      .obj [(js "body", .str (js "c2lubw==")), (js "type", Json.ofNat 0)])]),
    (js "org.matrix.msgid", .str (hex 32 0x0123456789abcdef0123456789abcdef)),
    (js "sender_key", .str cashierKeys.curve25519Key)]

/-- The body of the send. -/
def body : Json :=
  .obj [(js "messages", .obj [(clientKeys.matrixUserId,
    .obj [(clientKeys.matrixDeviceId, content)])])]

/-- The row of the send. -/
def sendRow : Uuid := uuidOf 0x0d000000000040008000000000000001

/-- The cashier sends it. -/
def sendCall : SendCall where
  principal := cashier
  rawEventType := js "m.room.encrypted"
  rawTransactionId := js "txn-1"
  value := body
  rowId := sendRow
  now := 1000
  eligibilityNow := 1000

/-! ### Tokens -/

/-- A batch of the client's device. -/
def batch (id : Uuid) (previousBatchId : Option Uuid) (fromSequence upToSequence position : ℕ) :
    MatrixSyncTokenData :=
  { id, deviceId := clientDevice, previousBatchId, fromSequence, upToSequence
    fromDeviceListPosition := 0, deviceListPosition := position
    oneTimeKeyCount := 0, unusedFallbackKey := false }

/-- The ids of the batches. -/
def rootId : Uuid := uuidOf 0x0b000000000040008000000000000001
def nextId : Uuid := uuidOf 0x0b000000000040008000000000000002
def emptyRootId : Uuid := uuidOf 0x0b000000000040008000000000000003
def laterId : Uuid := uuidOf 0x0b000000000040008000000000000004
def secondRootId : Uuid := uuidOf 0x0b000000000040008000000000000005
def secondNextId : Uuid := uuidOf 0x0b000000000040008000000000000006
def resetRootId : Uuid := uuidOf 0x0b000000000040008000000000000007

/-- An id for a sync that makes no batch. -/
def spareId : Uuid := uuidOf 0x0b000000000040008000000000000008

/-- An initial batch that covers the event, and its successor. -/
def root := batch rootId none 0 1 0

/-- The successor of it. -/
def next := batch nextId (some rootId) 1 1 0

/-- An initial batch from before the event, and its successor that covers it. -/
def emptyRoot := batch emptyRootId none 0 0 0

/-- The successor of it. -/
def later := batch laterId (some emptyRootId) 0 1 0

/-- A second initial batch that covers the event, and its successor. -/
def secondRoot := batch secondRootId none 0 1 0

/-- The successor of it. -/
def secondNext := batch secondNextId (some secondRootId) 1 1 0

/-- An initial batch behind the first row of the device-list stream. -/
def resetRoot := batch resetRootId none 0 0 1

/-- The MACs of the batches and the digests of their tokens. -/
def tokens : List (MatrixSyncTokenData × ℕ × ℕ) :=
  [(root, 0xab1e5fa9f9e147cddc2ca07cfbbbfd6538f42c988b352e557598f5ab3b8fbcc3,
      0x9278a79ae2a1d7c612330892ff7f4342506d6324e2bb036b91fc8d3601175a3b),
    (next, 0x3d9b1fae33b1ee7dfb0e5e91e8f439f3f73b80f6b6817a8f5ee22e180a85fd41,
      0x73457dc9598209bef71a6fad67e8f11a0b428f89d843f41acd6217ed05619c4c),
    (emptyRoot, 0x5045eb35a0723aec041ab445c026904a6c2407128a3611b866cb3cb1810d6141,
      0x843866b181f76c30c8aaf76a30f9d0d7121ff8bd16b63e865114824ee12a9dbd),
    (later, 0xbf872b0914b7312eb7495934fc7ea739bc3b36472f57b2ddf66a9ff856c362b6,
      0x271bde4748653283718769c2d0c944343efcf07cb68c4a6b32ef0183e9dc0682),
    (secondRoot, 0x519c08e3d0a433a5749380e12ffc7343da11574da3aad4d079f0c0bbabeaa6d0,
      0x6bea452902eccc1003596b26faf0b1a5c9e01db4bb22ae284201872e42c22400),
    (secondNext, 0xd07bfb482efedd30fcacffd5355e82c470f0255842be69e662bd832ca862d2bc,
      0x0d91e318a7a9c5bbffdc472b7137b3da5abee25c65e80e7ca09195c65b9de0ef),
    (resetRoot, 0xfd62109ea5a5bfef8a541c6914ef779fce7992b235eec5b63ebc5ab8b0ec0a60,
      0xa12cfaf18ddd44c26f598b9c7c9498979cf651cfd63311deebbbe1e31442b5fd)]

/-- The texts that are signed, with their MACs. -/
def macs : List (JsString × ℕ) := tokens.map fun entry => (tokenPayload entry.1, entry.2.1)

/-- The digest input of the message. -/
def hashInput : Json :=
  .obj [(js "event_type", .str sendCall.rawEventType), (js "messages", .obj [(clientKeys.matrixUserId,
    .obj [(clientKeys.matrixDeviceId, content)])])]

/-! ### Keys -/

/-- A one-time key of the client's device, signed by it. -/
def preKey : JsString :=
  base64Url 0x76027d94c9b012fe940c94e7080cdce37385d0f161acacd6ccd81c01105ae0f4

/-- The key with its signature. -/
def signedKey : Json :=
  .obj [(js "key", .str preKey),
    (js "signatures", .obj [(clientKeys.matrixUserId,
      .obj [(js "ed25519:" ++ clientKeys.matrixDeviceId, .str (digits base64UrlDigit 64 86
        (0x5e49372a0dac19c42b7cc385ee51046f60059929b74378817e87cdc84ba76014d9de7079cd48047e99582dd69cc84dc05ccdaab2cc5a44d7429500103cd62d0c
          * 16)))])])]

/-- The upload of that key alone. -/
def upload (rowId : Uuid) : MatrixKeyUpload :=
  ⟨[⟨js "signed_curve25519:AAAAAQ", preKey, signedKey, rowId⟩], []⟩

/-- The cashier's claim of a key of the client's device. -/
def keysClaim : Json :=
  .obj [(js "one_time_keys", .obj [(clientKeys.matrixUserId,
    .obj [(clientKeys.matrixDeviceId, .str (js "signed_curve25519"))])])]

/-- A claim of it in the conversation. -/
def claim (requestId : JsString) (rowId : Uuid) : KeyClaim :=
  .ofConversation conversationId ⟨cashier, requestId, keysClaim, rowId, 1000, 1000⟩

/-! ### Digests -/

/-- The texts that are hashed, with their digests. -/
def hashes : List (JsString × ℕ) :=
  ((encodeCanonical hashInput).getD [],
      0xdf3ac47d23450f4bdf05d7f7565f5eb45e77cfcf48a1790d0d8a32b3e70bb8a2) ::
    ((encodeCanonical signedKey).getD [],
      0x7aeab82ea9162d136023074b9846d3e71499de3dac064dadeec6a68a8f470fe2) ::
    ((encodeCanonical keysClaim).getD [],
      0xe2430efb7eedc2b319a2f771288b5eba3d6d6f60e1c8f9c0250ee29d2b95f40e) ::
    tokens.map fun entry =>
      (js "sct1." ++ entry.1.id.text ++ js "." ++ base64Url entry.2.1, entry.2.2)

/-- The digests, at these inputs those of the real functions. -/
def crypto : Crypto where
  hmacBase64Url := fun text => base64Url (digestAt macs text)
  sha256Hex := fun text => hex 64 (digestAt hashes text)
  hmac_format := fun _ => fixed_base64Url _
  sha256_format := fun _ => fixed_hex _ _

/-- The deployment with these digests. -/
def deployment : Deployment := ⟨crypto, js "chat.example"⟩

/-- A script whose outcome passes a test gives a run that passes it. -/
theorem exists_run (script : List Command) (check : List Action → World → Bool)
    (h : (runScript deployment script [] world).any (fun outcome => check outcome.1 outcome.2) =
      true) : ∃ trace w, (service deployment).Run trace w ∧ check trace w = true := by
  obtain ⟨outcome, houtcome, hcheck⟩ := (Option.any_eq_true _ _).mp h
  exact ⟨outcome.1, outcome.2, run_script (.init world_initial) houtcome, hcheck⟩

/-- The same with one more step behind the script. -/
theorem exists_step (script : List Command) (command : Command)
    (check : List Action → World → Action → World → Bool)
    (h : (runScript deployment script [] world).any (fun outcome =>
      (command.exec deployment outcome.2).any fun step =>
        check outcome.1 outcome.2 step.1 step.2) = true) :
    ∃ trace w a w', (service deployment).Run trace w ∧ ServiceStep deployment w a w' ∧
      check trace w a w' = true := by
  obtain ⟨outcome, houtcome, hrest⟩ := (Option.any_eq_true _ _).mp h
  obtain ⟨step, hstep, hcheck⟩ := (Option.any_eq_true _ _).mp hrest
  exact ⟨outcome.1, outcome.2, step.1, step.2, run_script (.init world_initial) houtcome,
    Command.exec_step hstep, hcheck⟩

/-- The client's device has a queue and the cashier sends the message. -/
def sendScript : List Command := [.openCursor clientDevice, .send sendCall]

/-- The client's device syncs from the start and begins a sync from where that ended. -/
def syncAgain : List Command :=
  [.syncBegin client none, .sync rootId, .syncBegin client (some (.str (tokenText crypto root)))]

/-- The message is delivered and acknowledged. -/
def syncScript : List Command := sendScript ++ syncAgain ++ [.sync nextId]

end Sample

end SinoChat
