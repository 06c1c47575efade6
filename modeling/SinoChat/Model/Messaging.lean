import SinoChat.Common.Run
import SinoChat.Model.MessagePage
import SinoChat.Model.Retention

/-!
# Messaging as a machine

Sends, upload requests, reports, purges and polls, any number of each at a
time, with the storage, as the steps of one machine. A transaction or a
single statement is a step; what happens between two of them may happen
between two steps, also a crash, which drops an attempt. Attempts are known
by numbers that are never used again.

A send holds the advisory locks of both participants, the row of its message
and the row of its reservation from the insertion to the commit, and is two
steps: the sequence number is taken in the first, the rows appear in the second.
-/

namespace SinoChat

open Js

namespace Messaging

/-! ## Attempts -/

/-- Where a send stands. -/
inductive SendPhase where
  | started
  | acknowledging
  | preparing
  /-- The reservation of the photo has been found. -/
  | reserved (grant : UploadGrant)
  | prepared (grant : Option UploadGrant)
  /-- In the transaction, with the rows to be committed. -/
  | inserted (locked : LockedConversation) (writes : MessageWrites)
  /-- The insertion has met the unique index. -/
  | violated
  | committed (message : Message)

/-- A send under way. -/
structure SendAttempt where
  number : ℕ
  request : SendRequest
  phase : SendPhase

/-- Where a request for an upload stands. -/
inductive UploadPhase where
  /-- The grant is made, with the clock reading of the request. -/
  | granted (now : ℕ)
  | reserved (now : ℕ)
  deriving DecidableEq

/-- What is to be uploaded. -/
inductive UploadKind where
  | image (grant : UploadGrant)
  | evidence (grant : EvidenceUploadGrant)
  deriving DecidableEq

/-- The key of the object that is to be uploaded. -/
def UploadKind.objectKey : UploadKind → JsString
  | image grant => grant.objectKey
  | evidence grant => grant.objectKey

/-- The reservation of the upload. -/
def UploadKind.reservationId : UploadKind → Uuid
  | image grant => grant.reservationId
  | evidence grant => grant.reservationId

/-- An upload request under way. -/
structure UploadAttempt where
  number : ℕ
  kind : UploadKind
  phase : UploadPhase

/-- A `reportCashier` that has found its reservation and its object. -/
structure ReportAttempt where
  number : ℕ
  grant : EvidenceUploadGrant

/-- A device that reads a conversation page by page: the cursor of the first
request and of the next one, and the pages so far. -/
structure Poll where
  number : ℕ
  userId : Uuid
  conversationId : Uuid
  deviceId : Uuid
  start : JsString
  cursor : JsString
  pages : List MessagePage

/-! ## The world -/

/-- The tables, the storage, and the requests under way. -/
structure MessagingWorld where
  clock : ℕ
  accounts : Accounts
  db : LedgerTables
  storage : ObjectStorage
  /-- The last `server_sequence`. -/
  sequence : ℕ
  /-- The reservations drawn so far. -/
  drawn : List Uuid
  /-- How many attempts have started. -/
  started : ℕ
  sends : Table ℕ SendAttempt SendAttempt.number
  uploads : Table ℕ UploadAttempt UploadAttempt.number
  reports : Table ℕ ReportAttempt ReportAttempt.number
  purges : Table ℕ PurgeAttempt PurgeAttempt.number
  polls : Table ℕ Poll Poll.number

namespace MessagingWorld

variable (w : MessagingWorld)

/-- The sends whose transaction is open. -/
def open? (a : SendAttempt) : Option (LockedConversation × MessageWrites) :=
  match a.phase with
  | .inserted locked writes => some (locked, writes)
  | _ => none

/-- The open transactions. -/
def transactions : List (LockedConversation × MessageWrites) := w.sends.rows.filterMap open?

/-- The advisory locks of the two users are free. -/
def lockFree (clientUserId cashierUserId : Uuid) : Bool :=
  w.transactions.all fun t => t.1.clientUserId ≠ clientUserId && t.1.clientUserId ≠ cashierUserId &&
    t.1.cashierUserId ≠ clientUserId && t.1.cashierUserId ≠ cashierUserId

/-- No open transaction inserts a message with this key. -/
def keyFree (senderDeviceId clientMessageId : Uuid) : Bool :=
  w.transactions.all fun t => t.2.message.senderDeviceId ≠ senderDeviceId ||
    t.2.message.clientMessageId ≠ clientMessageId

/-- No open transaction deletes this reservation. -/
def reservationFree (reservationId : Uuid) : Bool :=
  w.transactions.all fun t => t.2.reservationId ≠ some reservationId

/-- The row of a purge is not locked. -/
def targetFree : PurgeTarget → Bool
  | .upload reservationId => w.reservationFree reservationId
  | _ => true

/-- A send goes on, with other tables or not. -/
def sendMoves (n : ℕ) (phase : SendPhase) : MessagingWorld :=
  { w with sends := w.sends.update n (fun a => { a with phase }) fun _ => rfl }

/-- A send is over. -/
def sendEnds (n : ℕ) : MessagingWorld := { w with sends := w.sends.remove n }

/-- The upload requests after one has its reservation. -/
def uploadsReserved (n now : ℕ) : Table ℕ UploadAttempt UploadAttempt.number :=
  w.uploads.update n (fun a => { a with phase := .reserved now }) fun _ => rfl

/-- The purges after a step of one. -/
def purgesAfter (n : ℕ) : Option PurgePhase → Table ℕ PurgeAttempt PurgeAttempt.number
  | some phase => w.purges.update n (fun a => { a with phase }) fun _ => rfl
  | none => w.purges.remove n

/-- The polls after a page of one. -/
def pollsAfter (n : ℕ) (page : MessagePage) : Table ℕ Poll Poll.number :=
  w.polls.update n (fun p =>
    { p with cursor := page.nextAfterSequence, pages := p.pages ++ [page] }) fun _ => rfl

/-- The tables of the messages change. -/
def withMessages (messages : MessageTables) : MessagingWorld :=
  { w with db := { w.db with messages } }

/-- The tables of the evidence change. -/
def withEvidence (evidence : EvidenceTables) : MessagingWorld :=
  { w with db := { w.db with evidence } }

end MessagingWorld

/-- What an update of the accounts leaves as it is: who takes part in a
conversation, and whose device a device is. -/
structure AccountsKept (before after : Accounts) : Prop where
  conversations : ∀ id c, before.conversations.find? id = some c →
    ∃ c', after.conversations.find? id = some c' ∧ c'.assignmentId = c.assignmentId
  assignments : ∀ id a, before.assignments.find? id = some a →
    ∃ a', after.assignments.find? id = some a' ∧ a'.clientUserId = a.clientUserId ∧
      a'.cashierUserId = a.cashierUserId

/-- `/^[0-9a-f]{8}-[0-9a-f]{4}-4[0-9a-f]{3}-[89ab][0-9a-f]{3}-[0-9a-f]{12}$/`. -/
def isUuidV4 (text : JsString) : Bool :=
  fixed (times 8 isLowerHex ++ lit "-" ++ times 4 isLowerHex ++ lit "-4" ++ times 3 isLowerHex ++
    lit "-" ++ [fun u => u == 0x38 || u == 0x39 || u == 0x61 || u == 0x62] ++ times 3 isLowerHex ++
    lit "-" ++ times 12 isLowerHex) text

/-- `'D' || upper(replace(id, '-', ''))`. -/
def matrixDeviceIdOf (id : Uuid) : JsString :=
  0x44 :: (id.text.filter (· ≠ 0x2D)).map fun u => if isLower u then u - 0x20 else u

/-- Drawn ids, and the check on the Matrix id of a published device. -/
structure AccountsChecked (accounts : Accounts) : Prop where
  participants : ∀ a ∈ accounts.assignments,
    isUuidV4 a.clientUserId.text = true ∧ isUuidV4 a.cashierUserId.text = true
  devices : ∀ d ∈ accounts.devices, isUuidV4 d.id.text = true
  deviceKeys : ∀ k ∈ accounts.deviceKeys, k.matrixDeviceId = matrixDeviceIdOf k.deviceId

/-- What the validation of a `send` lets pass. -/
def SendMessage.valid (input : SendMessage) : Bool :=
  isUuidV4 input.clientMessageId.text && 1 ≤ input.envelopes.length && input.envelopes.length ≤ 64

/-! ## Steps -/

/-- What a send did next. -/
inductive SendEvent where
  | lookedUp | prepared | objectFound | inserted | violated | committed | duplicateFound
  | answered (answer : Except HttpException MessageAcknowledgement)
  | crashed

/-- What happened, with the number of the request. -/
inductive MessagingAction where
  | sendStarted (n : ℕ) (request : SendRequest)
  | send (n : ℕ) (event : SendEvent)
  | uploadRequested (n : ℕ) (kind : UploadKind)
  | uploadReserved (n : ℕ)
  | uploadSigned (n : ℕ)
  | uploadEnded (n : ℕ)
  | uploaded (key : JsString)
  | reportStarted (n : ℕ)
  | reported (n : ℕ)
  | reportEnded (n : ℕ)
  | purgeStarted (n : ℕ)
  | purge (n : ℕ) (event : PurgeEvent)
  | messagesExpired
  | notificationsExpired
  | receiptUpdated
  | pollStarted (n : ℕ)
  | polled (n : ℕ)
  | accountsChanged
  | ticked

/-- **The steps of one send.** A time that is read is read at the step or before. -/
inductive SendStep (decoders : Decoders) (w : MessagingWorld) (a : SendAttempt) :
    SendEvent → MessagingWorld → Prop
  | lookup : a.phase = .started →
      SendStep decoders w a .lookedUp (w.sendMoves a.number
        (if (w.db.messages.findMessage a.request.input.senderDeviceId
          a.request.input.clientMessageId).isSome then .acknowledging else .preparing))
  | prepare {now : ℕ} {grant : Option UploadGrant} : a.phase = .preparing → now ≤ w.clock →
      w.db.messages.prepareAttachment decoders a.request now = .ok grant →
      SendStep decoders w a .prepared (w.sendMoves a.number
        (match grant with
          | some grant => .reserved grant
          | none => .prepared none))
  | refusePreparation {now : ℕ} {e : HttpException} : a.phase = .preparing → now ≤ w.clock →
      w.db.messages.prepareAttachment decoders a.request now = .error e →
      SendStep decoders w a (.answered (.error e)) (w.sendEnds a.number)
  /-- `assertUploaded` finds the object as it was declared. -/
  | findObject {grant : UploadGrant} : a.phase = .reserved grant →
      grant.objectKey ∈ w.storage.objects →
      SendStep decoders w a .objectFound (w.sendMoves a.number (.prepared (some grant)))
  /-- It finds no object or another one, or the storage fails. -/
  | refuseObject {grant : UploadGrant} {e : HttpException} : a.phase = .reserved grant →
      SendStep decoders w a (.answered (.error e)) (w.sendEnds a.number)
  | insert {grant : Option UploadGrant} {now : ℕ} {locked : LockedConversation} {id : Uuid} :
      a.phase = .prepared grant → now ≤ w.clock →
      w.db.messages.prepareWrites decoders w.accounts a.request grant now = .ok locked →
      w.lockFree locked.clientUserId locked.cashierUserId = true →
      w.keyFree a.request.input.senderDeviceId a.request.input.clientMessageId = true →
      (∀ g, grant = some g → w.reservationFree g.reservationId = true) →
      w.db.messages.findMessage a.request.input.senderDeviceId
        a.request.input.clientMessageId = none →
      w.db.messages.messages.find? id = none → isUuidV4 id.text = true →
      (∀ t ∈ w.transactions, t.2.message.id ≠ id) →
      SendStep decoders w a .inserted ({ w with sequence := w.sequence + 1 }.sendMoves a.number
        (.inserted locked
          (newMessage decoders a.request grant locked id (w.sequence + 1) w.clock)))
  | refuseInsertion {grant : Option UploadGrant} {now : ℕ} {e : HttpException} :
      a.phase = .prepared grant → now ≤ w.clock →
      w.db.messages.prepareWrites decoders w.accounts a.request grant now = .error e →
      SendStep decoders w a (.answered (.error e)) (w.sendEnds a.number)
  /-- `P2002`; the number is used up, the reservation is back. -/
  | violate {grant : Option UploadGrant} {now : ℕ} {locked : LockedConversation} :
      a.phase = .prepared grant → now ≤ w.clock →
      w.db.messages.prepareWrites decoders w.accounts a.request grant now = .ok locked →
      w.lockFree locked.clientUserId locked.cashierUserId = true →
      (w.db.messages.findMessage a.request.input.senderDeviceId
        a.request.input.clientMessageId).isSome →
      SendStep decoders w a .violated
        ({ w with sequence := w.sequence + 1 }.sendMoves a.number .violated)
  | commit {locked : LockedConversation} {writes : MessageWrites} {now : ℕ} {users : Uuid × Uuid}
      {messages : MessageTables} : a.phase = .inserted locked writes → now ≤ w.clock →
      lockCurrent w.accounts a.request.userId a.request.conversationId
        a.request.input.senderDeviceId now = .ok users →
      w.db.messages.store writes = .ok messages →
      SendStep decoders w a .committed
        ((w.withMessages messages).sendMoves a.number (.committed writes.message))
  | rollback {locked : LockedConversation} {writes : MessageWrites} {now : ℕ}
      {e : HttpException} : a.phase = .inserted locked writes → now ≤ w.clock →
      lockCurrent w.accounts a.request.userId a.request.conversationId
        a.request.input.senderDeviceId now = .error e →
      SendStep decoders w a (.answered (.error e)) (w.sendEnds a.number)
  | answer {message : Message} : a.phase = .committed message →
      SendStep decoders w a (.answered (.ok (messageAcknowledgement message true)))
        (w.sendEnds a.number)
  | findDuplicate : a.phase = .violated →
      (w.db.messages.findMessage a.request.input.senderDeviceId
        a.request.input.clientMessageId).isSome →
      SendStep decoders w a .duplicateFound (w.sendMoves a.number .acknowledging)
  | missDuplicate : a.phase = .violated →
      w.db.messages.findMessage a.request.input.senderDeviceId
        a.request.input.clientMessageId = none →
      SendStep decoders w a (.answered (.error (.internal "Unique constraint failed.")))
        (w.sendEnds a.number)
  | acknowledge {now : ℕ} {users : Uuid × Uuid} {ack : MessageAcknowledgement} :
      a.phase = .acknowledging → now ≤ w.clock →
      lockCurrent w.accounts a.request.userId a.request.conversationId
        a.request.input.senderDeviceId now = .ok users →
      w.lockFree users.1 users.2 = true →
      w.db.messages.acknowledgeExistingMessage w.accounts a.request now = .ok ack →
      SendStep decoders w a (.answered (.ok ack)) (w.sendEnds a.number)
  | refuseAcknowledgement {now : ℕ} {e : HttpException} :
      a.phase = .acknowledging → now ≤ w.clock →
      w.db.messages.acknowledgeExistingMessage w.accounts a.request now = .error e →
      SendStep decoders w a (.answered (.error e)) (w.sendEnds a.number)
  | crash : SendStep decoders w a .crashed (w.sendEnds a.number)

/-- **The steps.** -/
inductive MessagingStep (decoders : Decoders) (presignDownload : JsString → ℕ → ℕ → JsString) :
    MessagingWorld → MessagingAction → MessagingWorld → Prop
  | startSend {w : MessagingWorld} {request : SendRequest} (hfree : w.sends.find? w.started = none) :
      request.input.valid = true →
      MessagingStep decoders presignDownload w (.sendStarted w.started request)
        { w with sends := w.sends.insert ⟨w.started, request, .started⟩ hfree
                 started := w.started + 1 }
  | send {w w' : MessagingWorld} {n : ℕ} {a : SendAttempt} {event : SendEvent} :
      w.sends.find? n = some a → SendStep decoders w a event w' →
      MessagingStep decoders presignDownload w (.send n event) w'
  /-- A request for the upload of a photo. -/
  | requestUpload {w : MessagingWorld} {userId conversationId reservationId : Uuid}
      {input : RequestUpload} {now : ℕ} (hfree : w.uploads.find? w.started = none) :
      now ≤ w.clock → input.valid = true → reservationId ∉ w.drawn →
      MessagingStep decoders presignDownload w
        (.uploadRequested w.started (.image (.create userId conversationId input reservationId now)))
        { w with
          uploads := w.uploads.insert
            ⟨w.started, .image (.create userId conversationId input reservationId now),
              .granted now⟩ hfree
          drawn := reservationId :: w.drawn, started := w.started + 1 }
  /-- A request for the upload of evidence. -/
  | requestEvidence {w : MessagingWorld} {clientUserId reservationId : Uuid}
      {input : RequestEvidenceUpload} {now : ℕ} {grant : EvidenceUploadGrant}
      (hfree : w.uploads.find? w.started = none) :
      now ≤ w.clock → reservationId ∉ w.drawn →
      w.db.evidence.grantEvidence w.accounts clientUserId input reservationId now = .ok grant →
      MessagingStep decoders presignDownload w (.uploadRequested w.started (.evidence grant))
        { w with
          uploads := w.uploads.insert ⟨w.started, .evidence grant, .granted now⟩ hfree
          drawn := reservationId :: w.drawn, started := w.started + 1 }
  | reserveImage {w : MessagingWorld} {n now transactionNow : ℕ} {grant : UploadGrant}
      {messages : MessageTables} : w.uploads.find? n = some ⟨n, .image grant, .granted now⟩ →
      transactionNow ≤ w.clock →
      w.db.messages.reserve w.accounts grant transactionNow = .ok messages →
      MessagingStep decoders presignDownload w (.uploadReserved n)
        { w.withMessages messages with uploads := w.uploadsReserved n now }
  | reserveEvidence {w : MessagingWorld} {n now : ℕ} {grant : EvidenceUploadGrant}
      {evidence : EvidenceTables} : w.uploads.find? n = some ⟨n, .evidence grant, .granted now⟩ →
      w.db.evidence.reserve grant = .ok evidence →
      MessagingStep decoders presignDownload w (.uploadReserved n)
        { w.withEvidence evidence with uploads := w.uploadsReserved n now }
  /-- The URL is signed with the time of the request and may reach its sender. -/
  | sign {w : MessagingWorld} {n now : ℕ} {kind : UploadKind} :
      w.uploads.find? n = some ⟨n, kind, .reserved now⟩ →
      MessagingStep decoders presignDownload w (.uploadSigned n)
        { w with
          storage := w.storage.presignUpload kind.objectKey now
          uploads := w.uploads.remove n }
  /-- The request is refused, or the process ends. -/
  | endUpload {w : MessagingWorld} {n : ℕ} :
      MessagingStep decoders presignDownload w (.uploadEnded n)
        { w with uploads := w.uploads.remove n }
  | upload {w : MessagingWorld} {key : JsString} : w.storage.accepts key w.clock →
      MessagingStep decoders presignDownload w (.uploaded key)
        { w with storage := w.storage.putObject key }
  | startReport {w : MessagingWorld} {clientUserId : Uuid} {grant : EvidenceUploadGrant} {now : ℕ}
      (hfree : w.reports.find? w.started = none) : now ≤ w.clock →
      w.db.evidence.checkReport clientUserId grant now = .ok () →
      grant.objectKey ∈ w.storage.objects →
      MessagingStep decoders presignDownload w (.reportStarted w.started)
        { w with reports := w.reports.insert ⟨w.started, grant⟩ hfree, started := w.started + 1 }
  | report {w : MessagingWorld} {n now : ℕ} {a : ReportAttempt} {reportId : Uuid}
      {evidence : EvidenceTables} : w.reports.find? n = some a → now ≤ w.clock →
      w.db.evidence.fileReport w.accounts a.grant reportId now = .ok evidence →
      MessagingStep decoders presignDownload w (.reported n)
        { w.withEvidence evidence with reports := w.reports.remove n }
  | endReport {w : MessagingWorld} {n : ℕ} :
      MessagingStep decoders presignDownload w (.reportEnded n)
        { w with reports := w.reports.remove n }
  /-- A batch selects a row that is due at its time. -/
  | startPurge {w : MessagingWorld} {target : PurgeTarget} {objectKey : JsString}
      {databaseNow : ℕ} (hfree : w.purges.find? w.started = none) : databaseNow ≤ w.clock →
      w.db.due target databaseNow = some objectKey →
      MessagingStep decoders presignDownload w (.purgeStarted w.started)
        { w with
          purges := w.purges.insert ⟨w.started, target, objectKey, databaseNow, .selected⟩ hfree
          started := w.started + 1 }
  /-- A purge waits for the row it works on. -/
  | purge {w : MessagingWorld} {n : ℕ} {a : PurgeAttempt} {event : PurgeEvent}
      {db : LedgerTables} {storage : ObjectStorage} {next : Option PurgePhase} :
      w.purges.find? n = some a → w.targetFree a.target = true →
      PurgeStep w.db w.storage a event db storage next →
      MessagingStep decoders presignDownload w (.purge n event)
        { w with
          db, storage
          purges := w.purgesAfter n next }
  | expireMessages {w : MessagingWorld} {databaseNow : ℕ} : databaseNow ≤ w.clock →
      MessagingStep decoders presignDownload w .messagesExpired
        (w.withMessages (w.db.messages.removeExpiredMessages databaseNow))
  | expireNotifications {w : MessagingWorld} {databaseNow : ℕ} : databaseNow ≤ w.clock →
      MessagingStep decoders presignDownload w .notificationsExpired
        (w.withMessages (w.db.messages.removeExpiredNotifications databaseNow))
  | updateReceipt {w : MessagingWorld} {userId messageId : Uuid}
      {requested : MessageDeliveryStatus} {now : ℕ} {messages : MessageTables} : now ≤ w.clock →
      w.db.messages.updateReceipt w.accounts userId messageId requested now = some messages →
      MessagingStep decoders presignDownload w .receiptUpdated (w.withMessages messages)
  | startPoll {w : MessagingWorld} {userId conversationId deviceId : Uuid} {start : JsString}
      (hfree : w.polls.find? w.started = none) :
      MessagingStep decoders presignDownload w (.pollStarted w.started)
        { w with
          polls := w.polls.insert ⟨w.started, userId, conversationId, deviceId, start, start, []⟩
            hfree
          started := w.started + 1 }
  /-- The next request of a poll. -/
  | poll {w : MessagingWorld} {n limit now : ℕ} {p : Poll} {page : MessagePage} :
      w.polls.find? n = some p → now ≤ w.clock →
      (ListMessagesQuery.mk p.deviceId (some p.cursor) limit).valid = true →
      w.db.messages.listMessages w.accounts presignDownload p.userId p.conversationId
        ⟨p.deviceId, some p.cursor, limit⟩ now = .ok page →
      MessagingStep decoders presignDownload w (.polled n)
        { w with polls := w.pollsAfter n page }
  | changeAccounts {w : MessagingWorld} {accounts : Accounts} :
      AccountsKept w.accounts accounts → AccountsChecked accounts →
      MessagingStep decoders presignDownload w .accountsChanged { w with accounts }
  | tick {w : MessagingWorld} {clock : ℕ} : w.clock ≤ clock →
      MessagingStep decoders presignDownload w .ticked { w with clock }

/-- Accounts as they may be, and nothing else. -/
structure MessagingInitial (w : MessagingWorld) : Prop where
  accounts : AccountsChecked w.accounts
  messages : w.db.messages = ⟨Table.empty, [], [], Table.empty, [], Table.empty⟩
  evidence : w.db.evidence = ⟨Table.empty, Table.empty⟩
  storage : w.storage = ⟨[], []⟩
  drawn : w.drawn = []
  sends : w.sends = Table.empty
  uploads : w.uploads = Table.empty
  reports : w.reports = Table.empty
  purges : w.purges = Table.empty
  polls : w.polls = Table.empty

/-- **Messaging.** -/
def messaging (decoders : Decoders) (presignDownload : JsString → ℕ → ℕ → JsString) :
    Machine MessagingWorld MessagingAction where
  init := MessagingInitial
  step := MessagingStep decoders presignDownload

end Messaging

end SinoChat
