import SinoChat.Model.Messaging

/-!
# What the steps do to the messages

A step is a step of a send, or it leaves the sends alone and no more than
trims the messages: some may be gone, with all that belongs to them, and what
is left of the others is as it was, up to the progress of receipts and expired
notifications. A message goes only in two kinds of steps, and only when it has
expired.
-/

namespace SinoChat

open Js

namespace Messaging

variable {decoders : Decoders} {presignDownload : JsString → ℕ → ℕ → JsString}
variable {w w' : MessagingWorld} {action : MessagingAction} {db db' : MessageTables}

/-! ## The rows of a message -/

namespace MessageTables

/-- The envelopes of a message. -/
def envelopesOf (db : MessageTables) (messageId : Uuid) : List MessageEnvelope :=
  db.envelopes.filter (·.messageId = messageId)

/-- The receipts of a message. -/
def receiptsOf (db : MessageTables) (messageId : Uuid) : List MessageReceipt :=
  db.receipts.filter (·.messageId = messageId)

/-- The notifications of a message. -/
def notificationsOf (db : MessageTables) (messageId : Uuid) : List InAppNotification :=
  db.notifications.filter (·.messageId = messageId)

/-- Every row belongs to a message. -/
structure Owned (db : MessageTables) : Prop where
  envelopes : ∀ e ∈ db.envelopes, (db.messages.find? e.messageId).isSome
  receipts : ∀ r ∈ db.receipts, (db.messages.find? r.messageId).isSome
  notifications : ∀ n ∈ db.notifications, (db.messages.find? n.messageId).isSome

end MessageTables

open MessageTables

/-- **Fewer messages, the others as they were.** -/
structure Trimmed (before after : MessageTables) : Prop where
  messages : ∀ m ∈ after.messages, m ∈ before.messages
  envelopes : ∀ m ∈ after.messages, after.envelopesOf m.id = before.envelopesOf m.id
  receipts : ∀ m ∈ after.messages, (after.receiptsOf m.id).map MessageReceipt.recipientUserId =
    (before.receiptsOf m.id).map MessageReceipt.recipientUserId
  notifications : ∀ m ∈ after.messages,
    (after.notificationsOf m.id).Sublist (before.notificationsOf m.id)
  owned : before.Owned → after.Owned

/-- Tables with the same rows for the messages. -/
theorem Trimmed.of_eq (hmessages : db'.messages = db.messages)
    (henvelopes : db'.envelopes = db.envelopes) (hreceipts : db'.receipts = db.receipts)
    (hnotifications : db'.notifications = db.notifications) : Trimmed db db' := by
  refine ⟨fun m hm => hmessages ▸ hm, fun m _ => ?_, fun m _ => ?_, fun m _ => ?_, fun h => ?_⟩
  · rw [envelopesOf, envelopesOf, henvelopes]
  · rw [receiptsOf, receiptsOf, hreceipts]
  · rw [notificationsOf, notificationsOf, hnotifications]
  · refine ⟨fun e he => ?_, fun r hr => ?_, fun n hn => ?_⟩
    · rw [hmessages]
      exact h.envelopes e (henvelopes ▸ he)
    · rw [hmessages]
      exact h.receipts r (hreceipts ▸ hr)
    · rw [hmessages]
      exact h.notifications n (hnotifications ▸ hn)

/-- Rows kept for a message. -/
theorem filter_gone {α : Type} (key : α → Uuid) {rows : List α} (gone : Uuid → Bool) {id : Uuid}
    (h : gone id = false) : (rows.filter fun row => !gone (key row)).filter (key · = id) =
      rows.filter (key · = id) := by
  rw [List.filter_filter]
  refine List.filter_congr fun row _ => ?_
  by_cases hkey : key row = id
  · simp [hkey, h]
  · simp [hkey]

/-- The messages a removal takes are no longer found. -/
theorem find?_removeMessages {p : Message → Bool} {id : Uuid} :
    (db.removeMessages p).messages.find? id = (db.messages.find? id).filter fun m => !p m := by
  cases hfind : db.messages.find? id with
  | none =>
    refine Table.find?_eq_none.mpr fun m hm => ?_
    exact Table.find?_eq_none.mp hfind m (Table.mem_filter.mp hm).1
  | some m =>
    obtain ⟨hm, hid⟩ := Table.find?_eq_some.mp hfind
    rw [Option.filter_some]
    split
    · rename_i hp
      exact Table.find?_eq_some.mpr ⟨Table.mem_filter.mpr ⟨hm, hp⟩, hid⟩
    · rename_i hp
      refine Table.find?_eq_none.mpr fun m' hm' hid' => ?_
      obtain ⟨hm', hp'⟩ := Table.mem_filter.mp hm'
      exact hp (Table.eq_of_key_eq hm' hm (hid'.trans hid.symm) ▸ hp')

/-- Removing messages trims. -/
theorem trimmed_removeMessages (p : Message → Bool) : Trimmed db (db.removeMessages p) := by
  have hkept : ∀ m ∈ (db.removeMessages p).messages,
      ((db.messages.find? m.id).any p) = false := by
    intro m hm
    obtain ⟨hm, hp⟩ := Table.mem_filter.mp hm
    rw [Table.find?_eq_some.mpr ⟨hm, rfl⟩]
    simpa using hp
  have hstill : ∀ id, (db.messages.find? id).isSome → (db.messages.find? id).any p = false →
      ((db.removeMessages p).messages.find? id).isSome := by
    intro id hsome hnot
    rw [find?_removeMessages]
    cases hfind : db.messages.find? id with
    | none =>
      rw [hfind] at hsome
      cases hsome
    | some m =>
      rw [hfind] at hnot
      have hp : p m = false := by simpa using hnot
      simp [hp]
  let gone (id : Uuid) : Bool := (db.messages.find? id).any p
  refine ⟨fun m hm => (Table.mem_filter.mp hm).1,
    fun m hm => filter_gone MessageEnvelope.messageId gone (hkept m hm),
    fun m hm => ?_, fun m hm => ?_, fun h => ⟨fun e he => ?_, fun r hr => ?_, fun n hn => ?_⟩⟩
  · exact congrArg (List.map _) (filter_gone MessageReceipt.messageId gone (hkept m hm))
  · have hrows := @filter_gone _ InAppNotification.messageId db.notifications gone m.id (hkept m hm)
    unfold notificationsOf
    rw [← hrows]
    exact List.Sublist.refl _
  · obtain ⟨he, hgone⟩ := List.mem_filter.mp he
    exact hstill _ (h.envelopes e he) (by simpa using hgone)
  · obtain ⟨hr, hgone⟩ := List.mem_filter.mp hr
    exact hstill _ (h.receipts r hr) (by simpa using hgone)
  · obtain ⟨hn, hgone⟩ := List.mem_filter.mp hn
    exact hstill _ (h.notifications n hn) (by simpa using hgone)

theorem trimmed_removeExpiredNotifications (now : ℕ) :
    Trimmed db (db.removeExpiredNotifications now) := by
  refine ⟨fun m hm => hm, fun m _ => rfl, fun m _ => rfl, fun m _ => ?_, fun h =>
    ⟨h.envelopes, h.receipts, fun n hn => h.notifications n (List.mem_filter.mp hn).1⟩⟩
  exact List.filter_sublist.filter _

/-- The progress of a receipt. -/
theorem trimmed_updateReceipt {accounts : Accounts} {userId messageId : Uuid}
    {requested : MessageDeliveryStatus} {now : ℕ}
    (h : db.updateReceipt accounts userId messageId requested now = some db') : Trimmed db db' := by
  unfold updateReceipt at h
  split at h
  · obtain ⟨-, h⟩ := Option.ite_none_right_eq_some.mp h
    obtain ⟨-, h⟩ := Option.ite_none_right_eq_some.mp h
    cases h
    refine ⟨fun m hm => hm, fun m _ => rfl, fun m _ => ?_, fun m _ => List.Sublist.refl _,
      fun h => ⟨h.envelopes, fun r hr => ?_, h.notifications⟩⟩
    · unfold receiptsOf
      rw [List.filter_map, List.map_map]
      have hid : ∀ receipt : MessageReceipt, (if receipt.messageId = messageId ∧
          receipt.recipientUserId = userId ∧ rank receipt.status < rank requested then
          progress requested now receipt else receipt).messageId = receipt.messageId := by
        intro receipt
        split
        · rfl
        · rfl
      have hfilter : ((fun x : MessageReceipt => decide (x.messageId = m.id)) ∘ fun receipt =>
          if receipt.messageId = messageId ∧ receipt.recipientUserId = userId ∧
            rank receipt.status < rank requested then
          progress requested now receipt else receipt) = fun x => decide (x.messageId = m.id) := by
        funext receipt
        simp only [Function.comp_apply, hid]
      rw [hfilter]
      refine List.map_congr_left fun receipt _ => ?_
      simp only [Function.comp_apply]
      split
      · rfl
      · rfl
    · obtain ⟨r', hr', rfl⟩ := List.mem_map.mp hr
      split
      · exact h.receipts r' hr'
      · exact h.receipts r' hr'
  · cases h

/-- Nothing but receipts is updated. -/
theorem updateReceipt_eq_some {accounts : Accounts} {userId messageId : Uuid}
    {requested : MessageDeliveryStatus} {now : ℕ}
    (h : db.updateReceipt accounts userId messageId requested now = some db') :
    ∃ receipts, db' = { db with receipts } := by
  unfold updateReceipt at h
  split at h
  · obtain ⟨-, h⟩ := Option.ite_none_right_eq_some.mp h
    obtain ⟨-, h⟩ := Option.ite_none_right_eq_some.mp h
    cases h
    exact ⟨_, rfl⟩
  · cases h

/-- The notifications of messages that are not removed are not removed. -/
theorem mem_notifications_removeMessages {p : Message → Bool} {x : InAppNotification}
    (hx : x ∈ db.notifications)
    (hsome : ((db.removeMessages p).messages.find? x.messageId).isSome) :
    x ∈ (db.removeMessages p).notifications := by
  refine List.mem_filter.mpr ⟨hx, ?_⟩
  rw [find?_removeMessages] at hsome
  cases hfind : db.messages.find? x.messageId with
  | none => simp [hfind]
  | some m =>
    rw [hfind, Option.filter_some] at hsome
    split at hsome
    · rename_i hp
      simpa [hfind] using hp
    · cases hsome

/-! ## Purges -/

/-- A mark changes no message. -/
theorem trimmed_mark {tables : LedgerTables} (target : PurgeTarget)
    (status : AttachmentUploadStatus) (now : ℕ) :
    Trimmed tables.messages (tables.mark target status now).messages := by
  cases target <;> exact .of_eq rfl rfl rfl rfl

theorem messages_mark {tables : LedgerTables} (target : PurgeTarget)
    (status : AttachmentUploadStatus) (now : ℕ) :
    (tables.mark target status now).messages.messages = tables.messages.messages := by
  cases target <;> rfl

theorem notifications_mark {tables : LedgerTables} (target : PurgeTarget)
    (status : AttachmentUploadStatus) (now : ℕ) :
    (tables.mark target status now).messages.notifications = tables.messages.notifications := by
  cases target <;> rfl

/-- A removal of a row trims. -/
theorem trimmed_remove {tables : LedgerTables} (target : PurgeTarget) (objectKey : JsString)
    (now : ℕ) : Trimmed tables.messages (tables.remove target objectKey now).messages := by
  cases target with
  | attachment messageId =>
    unfold LedgerTables.remove
    dsimp only
    split
    · let kept : MessageTables :=
        { tables.messages with attachments := tables.messages.attachments.remove messageId }
      obtain ⟨hm, he, hr, hn, ho⟩ := @trimmed_removeMessages kept (·.id = messageId)
      exact ⟨hm, he, hr, hn, fun h => ho ⟨h.envelopes, h.receipts, h.notifications⟩⟩
    · exact .of_eq rfl rfl rfl rfl
  | upload => exact .of_eq rfl rfl rfl rfl
  | evidence => exact .of_eq rfl rfl rfl rfl

/-- Only an expired message goes with its attachment. -/
theorem mem_messages_remove {tables : LedgerTables} {target : PurgeTarget} {objectKey : JsString}
    {now : ℕ} {m : Message} (hm : m ∈ tables.messages.messages) (hlive : now < m.expiresAt) :
    m ∈ (tables.remove target objectKey now).messages.messages := by
  cases target with
  | attachment messageId =>
    unfold LedgerTables.remove
    dsimp only
    split
    · rename_i h
      refine Table.mem_filter.mpr ⟨hm, ?_⟩
      by_contra hid
      have hid' : m.id = messageId := by simpa using hid
      have hexpired := (Bool.and_eq_true_iff.mp h).2
      unfold expired at hexpired
      rw [← hid', Table.find?_eq_some.mpr ⟨hm, rfl⟩] at hexpired
      have hle : m.expiresAt ≤ now := by simpa using hexpired
      omega
    · exact hm
  | upload => exact hm
  | evidence => exact hm

theorem mem_notifications_remove {tables : LedgerTables} {target : PurgeTarget}
    {objectKey : JsString} {now : ℕ} {x : InAppNotification}
    (hx : x ∈ tables.messages.notifications)
    (hsome : ((tables.remove target objectKey now).messages.messages.find? x.messageId).isSome) :
    x ∈ (tables.remove target objectKey now).messages.notifications := by
  cases target with
  | attachment messageId =>
    unfold LedgerTables.remove at hsome ⊢
    dsimp only at hsome ⊢
    split
    · rename_i h
      rw [if_pos h] at hsome
      exact mem_notifications_removeMessages (by exact hx) hsome
    · exact hx
  | upload => exact hx
  | evidence => exact hx

/-! ## Steps that are not of a send -/

/-- The steps that may remove a message. -/
def Removes : MessagingAction → Prop
  | .messagesExpired | .purge _ .rowDeleted => True
  | _ => False

/-- No label of a send. -/
def Aside : MessagingAction → Prop
  | .sendStarted _ _ | .send _ _ => False
  | _ => True

/-- The purges under way read the clock before. -/
def PurgesRead (w : MessagingWorld) : Prop := ∀ a ∈ w.purges, a.databaseNow ≤ w.clock

/-- **What a step does**, to the sends and to the messages. -/
inductive SendEffect (decoders : Decoders) (w : MessagingWorld) :
    MessagingAction → MessagingWorld → Prop
  | aside {action : MessagingAction} {w' : MessagingWorld} : Aside action → w'.sends = w.sends →
      w.started ≤ w'.started → w.clock ≤ w'.clock → w'.sequence = w.sequence →
      Trimmed w.db.messages w'.db.messages →
      (∀ m ∈ w.db.messages.messages, (Removes action → w.clock < m.expiresAt) →
        m ∈ w'.db.messages.messages) →
      (∀ x ∈ w.db.messages.notifications, w.clock < x.expiresAt →
        (w'.db.messages.messages.find? x.messageId).isSome → x ∈ w'.db.messages.notifications) →
      SendEffect decoders w action w'
  | start {request : SendRequest} {w' : MessagingWorld} (hfree : w.sends.find? w.started = none) :
      w'.sends = w.sends.insert ⟨w.started, request, .started⟩ hfree →
      w'.started = w.started + 1 → w'.clock = w.clock → w'.sequence = w.sequence → w'.db = w.db →
      SendEffect decoders w (.sendStarted w.started request) w'
  | send {n : ℕ} {a : SendAttempt} {event : SendEvent} {w' : MessagingWorld} :
      w.sends.find? n = some a → SendStep decoders w a event w' →
      SendEffect decoders w (.send n event) w'

/-- The messages stay the same. -/
theorem SendEffect.aside_of_eq (haction : Aside action) (hsends : w'.sends = w.sends)
    (hstarted : w.started ≤ w'.started) (hclock : w.clock ≤ w'.clock)
    (hsequence : w'.sequence = w.sequence) (htrimmed : Trimmed w.db.messages w'.db.messages)
    (hmessages : w'.db.messages.messages = w.db.messages.messages)
    (hnotifications : w'.db.messages.notifications = w.db.messages.notifications) :
    SendEffect decoders w action w' :=
  .aside haction hsends hstarted hclock hsequence htrimmed (fun _ hm _ => hmessages ▸ hm)
    fun _ hx _ _ => hnotifications ▸ hx

theorem reserve_eq_ok {accounts : Accounts} {grant : UploadGrant} {now : ℕ}
    (h : db.reserve accounts grant now = .ok db') :
    ∃ hnew : db.pendingAttachments.find? (PendingAttachmentUpload.ofGrant grant).id = none,
      db' = { db with pendingAttachments := db.pendingAttachments.insert (.ofGrant grant) hnew } := by
  obtain ⟨_, -, h⟩ := bind_eq_ok.mp h
  obtain ⟨_, -, h⟩ := bind_eq_ok.mp h
  obtain ⟨pending, hpending, h⟩ := bind_eq_ok.mp h
  obtain ⟨hnew, rfl⟩ := Table.create_eq_ok.mp hpending
  cases h
  exact ⟨hnew, rfl⟩

/-- **Every step has its effect.** -/
theorem effect_of_step (hread : PurgesRead w)
    (h : MessagingStep decoders presignDownload w action w') : SendEffect decoders w action w' := by
  cases h with
  | startSend hfree hvalid => exact .start hfree rfl rfl rfl rfl rfl
  | send hfind hstep => exact .send hfind hstep
  | requestUpload hfree hnow hvalid hdrawn =>
    exact .aside_of_eq trivial rfl (Nat.le_succ _) le_rfl rfl (.of_eq rfl rfl rfl rfl) rfl rfl
  | requestEvidence hfree hnow hdrawn hgrant =>
    exact .aside_of_eq trivial rfl (Nat.le_succ _) le_rfl rfl (.of_eq rfl rfl rfl rfl) rfl rfl
  | reserveImage hfind hnow hreserve =>
    obtain ⟨hnew, rfl⟩ := reserve_eq_ok hreserve
    exact .aside_of_eq trivial rfl le_rfl le_rfl rfl (.of_eq rfl rfl rfl rfl) rfl rfl
  | reserveEvidence hfind hreserve =>
    exact .aside_of_eq trivial rfl le_rfl le_rfl rfl (.of_eq rfl rfl rfl rfl) rfl rfl
  | sign hfind => exact .aside_of_eq trivial rfl le_rfl le_rfl rfl (.of_eq rfl rfl rfl rfl) rfl rfl
  | endUpload => exact .aside_of_eq trivial rfl le_rfl le_rfl rfl (.of_eq rfl rfl rfl rfl) rfl rfl
  | upload haccepts => exact .aside_of_eq trivial rfl le_rfl le_rfl rfl (.of_eq rfl rfl rfl rfl) rfl rfl
  | startReport hfree hnow hcheck hobject =>
    exact .aside_of_eq trivial rfl (Nat.le_succ _) le_rfl rfl (.of_eq rfl rfl rfl rfl) rfl rfl
  | report hfind hnow hfile =>
    exact .aside_of_eq trivial rfl le_rfl le_rfl rfl (.of_eq rfl rfl rfl rfl) rfl rfl
  | endReport => exact .aside_of_eq trivial rfl le_rfl le_rfl rfl (.of_eq rfl rfl rfl rfl) rfl rfl
  | startPurge hfree hnow hdue =>
    exact .aside_of_eq trivial rfl (Nat.le_succ _) le_rfl rfl (.of_eq rfl rfl rfl rfl) rfl rfl
  -- A purge deletes only what had expired at the clock it read.
  | @purge n a event tables storage next hfind hfree hstep =>
    have hclock : a.databaseNow ≤ w.clock := hread a (Table.find?_eq_some.mp hfind).1
    cases hstep with
    | claim hphase hdue =>
      exact .aside_of_eq trivial rfl le_rfl le_rfl rfl (trimmed_mark _ _ _) (messages_mark _ _ _)
        (notifications_mark _ _ _)
    | miss hphase hdue =>
      exact .aside_of_eq trivial rfl le_rfl le_rfl rfl (.of_eq rfl rfl rfl rfl) rfl rfl
    | deleteObject hphase =>
      exact .aside_of_eq trivial rfl le_rfl le_rfl rfl (.of_eq rfl rfl rfl rfl) rfl rfl
    | deleteRow hphase =>
      refine .aside trivial rfl le_rfl le_rfl rfl (trimmed_remove _ _ _) (fun m hm hlive => ?_)
        fun x hx _ => mem_notifications_remove hx
      exact mem_messages_remove hm (hclock.trans_lt (hlive trivial))
    | fail hphase hstorage =>
      exact .aside_of_eq trivial rfl le_rfl le_rfl rfl (.of_eq rfl rfl rfl rfl) rfl rfl
    | record hphase =>
      exact .aside_of_eq trivial rfl le_rfl le_rfl rfl (trimmed_mark _ _ _) (messages_mark _ _ _)
        (notifications_mark _ _ _)
    | crash => exact .aside_of_eq trivial rfl le_rfl le_rfl rfl (.of_eq rfl rfl rfl rfl) rfl rfl
  -- So does the expiry of messages.
  | @expireMessages now hnow =>
    refine .aside trivial rfl le_rfl le_rfl rfl (trimmed_removeMessages _) (fun m hm hlive => ?_)
      fun x hx _ => mem_notifications_removeMessages hx
    refine Table.mem_filter.mpr ⟨hm, ?_⟩
    have hlt : w.clock < m.expiresAt := hlive trivial
    have hnot : ¬ m.expiresAt ≤ now := by omega
    simp [hnot]
  | expireNotifications hnow =>
    refine .aside trivial rfl le_rfl le_rfl rfl (trimmed_removeExpiredNotifications _)
      (fun m hm _ => hm) fun x hx hlive _ => List.mem_filter.mpr ⟨hx, ?_⟩
    exact decide_eq_true (hnow.trans_lt hlive)
  | updateReceipt hnow hupdate =>
    obtain ⟨receipts, hmessages⟩ := updateReceipt_eq_some hupdate
    refine .aside_of_eq trivial rfl le_rfl le_rfl rfl (trimmed_updateReceipt hupdate) ?_ ?_
    · rw [hmessages]
      rfl
    · rw [hmessages]
      rfl
  | startPoll hfree =>
    exact .aside_of_eq trivial rfl (Nat.le_succ _) le_rfl rfl (.of_eq rfl rfl rfl rfl) rfl rfl
  | poll hfind hnow hvalid hpage =>
    exact .aside_of_eq trivial rfl le_rfl le_rfl rfl (.of_eq rfl rfl rfl rfl) rfl rfl
  | changeAccounts hkept hchecked =>
    exact .aside_of_eq trivial rfl le_rfl le_rfl rfl (.of_eq rfl rfl rfl rfl) rfl rfl
  | tick hle => exact .aside_of_eq trivial rfl le_rfl hle rfl (.of_eq rfl rfl rfl rfl) rfl rfl

/-- A purge after a step is one from before, in its phase or another. -/
theorem mem_purgesAfter {n : ℕ} {next : Option PurgePhase} {b : PurgeAttempt}
    (h : b ∈ w.purgesAfter n next) :
    ∃ a ∈ w.purges, b = a ∨ ∃ phase, b = { a with phase } := by
  unfold MessagingWorld.purgesAfter at h
  cases next with
  | none => exact ⟨b, (Table.mem_remove.mp h).1, .inl rfl⟩
  | some phase =>
    rcases Table.mem_update.mp h with ⟨a, ha, -, rfl⟩ | ⟨hb, -⟩
    · exact ⟨a, ha, .inr ⟨phase, rfl⟩⟩
    · exact ⟨b, hb, .inl rfl⟩

/-- Purges read the clock before they start. -/
theorem purgesRead_of_run {trace : List MessagingAction}
    (h : (messaging decoders presignDownload).Run trace w) : PurgesRead w := by
  refine h.stateInvariant (fun w hw a ha => ?_) fun w action w' hread hstep => ?_
  · rw [hw.purges] at ha
    cases ha
  · cases hstep with
    | send hfind hstep =>
      have hpurges : ∀ {event : SendEvent} {a : SendAttempt} {w' : MessagingWorld},
          SendStep decoders w a event w' → w'.purges = w.purges ∧ w'.clock = w.clock := by
        intro event a w' hstep
        cases hstep <;> exact ⟨rfl, rfl⟩
      obtain ⟨hp, hc⟩ := hpurges hstep
      intro a ha
      rw [hc]
      exact hread a (hp ▸ ha)
    | startPurge hfree hnow hdue =>
      intro a ha
      rcases (Table.mem_insert (h := hfree)).mp ha with ha | rfl
      · exact hread a ha
      · exact hnow
    | @purge n a event tables storage next hfind hfree hstep =>
      intro b hb
      rcases mem_purgesAfter hb with ⟨c, hc, heq | ⟨phase, heq⟩⟩
      · exact heq ▸ hread c hc
      · exact heq ▸ hread c hc
    | tick hle => exact fun a ha => (hread a ha).trans hle
    | _ => exact hread

end Messaging

end SinoChat
