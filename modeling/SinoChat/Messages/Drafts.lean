import SinoChat.Messages.Sends

/-!
# Open transactions and stored messages

Between its insertion and its commit a send has a draft: the rows of one new
message, of its own key and with an id that is not in use. No message and no
other draft has the key. So messages have different keys in every state of a
run, and every message has one receipt and at most one notification.
-/

namespace SinoChat

open Js

namespace Messaging

open MessageTables

variable {decoders : Decoders} {presignDownload : JsString → ℕ → ℕ → JsString}
variable {w w' : MessagingWorld} {action : MessagingAction} {db db' : MessageTables}
variable {trace : List MessagingAction} {a : SendAttempt} {event : SendEvent} {n : ℕ}
variable {locked : LockedConversation} {writes : MessageWrites}

/-! ## Commits -/

/-- **What a commit stores.** -/
structure Stores (db : MessageTables) (writes : MessageWrites) (db' : MessageTables) : Prop where
  fresh : db.messages.find? writes.message.id = none
  messages : ∀ m, m ∈ db'.messages ↔ m ∈ db.messages ∨ m = writes.message
  envelopes : db'.envelopes = db.envelopes ++ writes.envelopes
  receipts : db'.receipts = db.receipts ++ [writes.receipt]
  notifications : db'.notifications = db.notifications ++ [writes.notification]
  attachments : ∀ x, x ∈ db'.attachments ↔ x ∈ db.attachments ∨ writes.attachment = some x
  pendingAttachments : ∀ p, p ∈ db'.pendingAttachments ↔
    p ∈ db.pendingAttachments ∧ writes.reservationId ≠ some p.id

theorem stores_of_store (h : db.store writes = .ok db') : Stores db writes db' := by
  obtain ⟨messages, hmessages, h⟩ := bind_eq_ok.mp h
  obtain ⟨attachments, hattachments, h⟩ := bind_eq_ok.mp h
  obtain ⟨hfresh, rfl⟩ := Table.create_eq_ok.mp hmessages
  cases h
  refine ⟨hfresh, fun m => Table.mem_insert (h := hfresh), rfl, rfl, rfl, fun x => ?_, fun p => ?_⟩
  · cases hattachment : writes.attachment with
    | none =>
      rw [hattachment] at hattachments
      cases hattachments
      simp
    | some y =>
      rw [hattachment] at hattachments
      obtain ⟨hnew, rfl⟩ := Table.create_eq_ok.mp hattachments
      rw [Table.mem_insert (h := hnew)]
      simp [eq_comm]
  · cases hreservation : writes.reservationId with
    | none => simp
    | some id => simp [eq_comm]

/-! ## Drafts -/

/-- The rows of an open transaction are those of a new message. -/
def Draft (decoders : Decoders) (request : SendRequest) (locked : LockedConversation)
    (writes : MessageWrites) : Prop :=
  ∃ grant serverSequence createdAt, writes =
    newMessage decoders request grant locked writes.message.id serverSequence createdAt

/-- A send with an open transaction. -/
structure Opens (w : MessagingWorld) (n : ℕ) (a : SendAttempt) (locked : LockedConversation)
    (writes : MessageWrites) : Prop where
  find : w.sends.find? n = some a
  phase : a.phase = .inserted locked writes

/-- A phase without rows of its own. -/
def SendPhase.Idle : SendPhase → Prop
  | .inserted _ _ | .committed _ => False
  | _ => True

/-- **The drafts of a state.** -/
structure Drafts (decoders : Decoders) (w : MessagingWorld) : Prop where
  owned : w.db.messages.Owned
  keys : ∀ m ∈ w.db.messages.messages, ∀ m' ∈ w.db.messages.messages, m.key = m'.key → m = m'
  receipts : ∀ m ∈ w.db.messages.messages, (w.db.messages.receiptsOf m.id).length = 1
  notifications : ∀ m ∈ w.db.messages.messages, (w.db.messages.notificationsOf m.id).length ≤ 1
  notified : ∀ m ∈ w.db.messages.messages, w.clock < m.expiresAt →
    ∃ x ∈ w.db.messages.notifications, x.messageId = m.id ∧ x.expiresAt = m.expiresAt
  draft : ∀ n a locked writes, Opens w n a locked writes → Draft decoders a.request locked writes
  fresh : ∀ n a locked writes, Opens w n a locked writes →
    w.db.messages.messages.find? writes.message.id = none
  absent : ∀ n a locked writes, Opens w n a locked writes →
    ∀ m ∈ w.db.messages.messages, m.key ≠ a.request.key
  apart : ∀ n a locked writes n' a' locked' writes', Opens w n a locked writes →
    Opens w n' a' locked' writes' → n ≠ n' →
    writes.message.id ≠ writes'.message.id ∧ a.request.key ≠ a'.request.key
  committed : ∀ n a m, w.sends.find? n = some a → a.phase = .committed m → m.Matches a.request

theorem Draft.matches (h : Draft decoders a.request locked writes) :
    writes.message.Matches a.request := by
  obtain ⟨grant, sequence, createdAt, hwrites⟩ := h
  rw [hwrites]
  exact ⟨rfl, rfl, rfl, rfl⟩

/-- Fewer messages and no new draft. -/
theorem Drafts.trim (h : Drafts decoders w) (htrimmed : Trimmed w.db.messages w'.db.messages)
    (hclock : w.clock ≤ w'.clock)
    (hnotifications : ∀ x ∈ w.db.messages.notifications, w.clock < x.expiresAt →
      (w'.db.messages.messages.find? x.messageId).isSome → x ∈ w'.db.messages.notifications)
    (hsends : ∀ n a, w'.sends.find? n = some a → w.sends.find? n = some a ∨ a.phase.Idle) :
    Drafts decoders w' := by
  have hopens : ∀ {n a locked writes}, Opens w' n a locked writes → Opens w n a locked writes := by
    intro n a locked writes hopen
    rcases hsends n a hopen.find with hfind | hidle
    · exact ⟨hfind, hopen.phase⟩
    · rw [hopen.phase] at hidle
      cases hidle
  refine ⟨htrimmed.owned h.owned, fun m hm m' hm' => ?_, fun m hm => ?_, fun m hm => ?_,
    fun m hm hlive => ?_, fun n a locked writes hopen => h.draft n a _ _ (hopens hopen),
    fun n a locked writes hopen => ?_, fun n a locked writes hopen m hm => ?_,
    fun n a l ws n' a' l' ws' hopen hopen' => h.apart n a l ws n' a' l' ws' (hopens hopen) (hopens hopen'),
    fun n a m ha hphase => ?_⟩
  · exact h.keys m (htrimmed.messages m hm) m' (htrimmed.messages m' hm')
  · have hlength := congrArg List.length (htrimmed.receipts m hm)
    rw [List.length_map, List.length_map] at hlength
    rw [hlength]
    exact h.receipts m (htrimmed.messages m hm)
  · exact (htrimmed.notifications m hm).length_le.trans
      (h.notifications m (htrimmed.messages m hm))
  · obtain ⟨x, hx, hid, hexpires⟩ := h.notified m (htrimmed.messages m hm) (hclock.trans_lt hlive)
    refine ⟨x, hnotifications x hx (hexpires ▸ hclock.trans_lt hlive) ?_, hid, hexpires⟩
    exact Option.isSome_iff_exists.mpr ⟨m, Table.find?_eq_some.mpr ⟨hm, hid.symm⟩⟩
  · refine Table.find?_eq_none.mpr fun m hm => ?_
    exact Table.find?_eq_none.mp (h.fresh n a _ _ (hopens hopen)) m (htrimmed.messages m hm)
  · exact h.absent n a _ _ (hopens hopen) m (htrimmed.messages m hm)
  · rcases hsends n a ha with ha | hidle
    · exact h.committed n a m ha hphase
    · rw [hphase] at hidle
      cases hidle

/-- The tables stay and no draft is new. -/
theorem Drafts.same (h : Drafts decoders w) (hdb : w'.db = w.db) (hclock : w.clock ≤ w'.clock)
    (hsends : ∀ n a, w'.sends.find? n = some a → w.sends.find? n = some a ∨ a.phase.Idle) :
    Drafts decoders w' :=
  h.trim (.of_eq (by rw [hdb]) (by rw [hdb]) (by rw [hdb]) (by rw [hdb])) hclock
    (fun _ hx _ _ => hdb ▸ hx) hsends

/-- A send that moves to a phase without rows. -/
theorem Drafts.moves (h : Drafts decoders w) {phase : SendPhase} (hidle : phase.Idle)
    (hdb : w'.db = w.db) (hclock : w'.clock = w.clock)
    (hsends : w'.sends = (w.sendMoves n phase).sends) : Drafts decoders w' := by
  refine h.same hdb hclock.ge fun m b hb => ?_
  rw [hsends] at hb
  rcases of_find?_sendMoves hb with ⟨-, a, -, rfl⟩ | ⟨-, hb⟩
  · exact .inr hidle
  · exact .inl hb

theorem Drafts.ends (h : Drafts decoders w) (hdb : w'.db = w.db) (hclock : w'.clock = w.clock)
    (hsends : w'.sends = (w.sendEnds n).sends) : Drafts decoders w' := by
  refine h.same hdb hclock.ge fun m b hb => ?_
  rw [hsends] at hb
  exact .inl (of_find?_sendEnds hb).2

/-- A send opens its transaction. -/
theorem Drafts.insert (h : Drafts decoders w) (ha : w.sends.find? n = some a)
    (hdraft : Draft decoders a.request locked writes)
    (habsent : ∀ m ∈ w.db.messages.messages, m.key ≠ a.request.key)
    (hfresh : w.db.messages.messages.find? writes.message.id = none)
    (hapart : ∀ t ∈ w.transactions, t.2.message.id ≠ writes.message.id ∧
      t.2.message.key ≠ a.request.key)
    (hdb : w'.db = w.db) (hclock : w'.clock = w.clock)
    (hsends : w'.sends = (w.sendMoves n (.inserted locked writes)).sends) :
    Drafts decoders w' := by
  have hopens : ∀ {m b l ws}, Opens w' m b l ws →
      m = n ∧ b.request = a.request ∧ l = locked ∧ ws = writes ∨ m ≠ n ∧ Opens w m b l ws := by
    intro m b l ws hopen
    have hfind := hopen.find
    rw [hsends] at hfind
    rcases of_find?_sendMoves hfind with ⟨rfl, a', ha', rfl⟩ | ⟨hm, hb⟩
    · rw [ha] at ha'
      cases ha'
      cases hopen.phase
      exact .inl ⟨rfl, rfl, rfl, rfl⟩
    · exact .inr ⟨hm, hb, hopen.phase⟩
  have hother : ∀ {m b l ws}, Opens w m b l ws →
      ws.message.id ≠ writes.message.id ∧ b.request.key ≠ a.request.key := by
    intro m b l ws hopen
    obtain ⟨hid, hkey⟩ := hapart (l, ws) (mem_transactions.mpr ⟨m, b, hopen.find, hopen.phase⟩)
    exact ⟨hid, (h.draft m b l ws hopen).matches.key ▸ hkey⟩
  refine ⟨hdb ▸ h.owned, hdb ▸ h.keys, hdb ▸ h.receipts, hdb ▸ h.notifications,
    hclock ▸ hdb ▸ h.notified, fun m b l ws hopen => ?_, fun m b l ws hopen => ?_, fun m b l ws hopen msg hmsg => ?_,
    fun m b l ws m' b' l' ws' hopen hopen' hne => ?_, fun m b msg hb hphase => ?_⟩
  · rcases hopens hopen with ⟨-, hrequest, rfl, rfl⟩ | ⟨-, hopen⟩
    · rw [hrequest]
      exact hdraft
    · exact h.draft m b l ws hopen
  · rw [hdb]
    rcases hopens hopen with ⟨-, -, -, rfl⟩ | ⟨-, hopen⟩
    · exact hfresh
    · exact h.fresh m b l ws hopen
  · rw [hdb] at hmsg
    rcases hopens hopen with ⟨-, hrequest, -, -⟩ | ⟨-, hopen⟩
    · rw [hrequest]
      exact habsent msg hmsg
    · exact h.absent m b l ws hopen msg hmsg
  · rcases hopens hopen with ⟨rfl, hrequest, -, rfl⟩ | ⟨-, hopen⟩
    · rcases hopens hopen' with ⟨rfl, -⟩ | ⟨-, hopen'⟩
      · exact absurd rfl hne
      · rw [hrequest]
        exact ⟨(hother hopen').1.symm, (hother hopen').2.symm⟩
    · rcases hopens hopen' with ⟨rfl, hrequest', -, rfl⟩ | ⟨-, hopen'⟩
      · rw [hrequest']
        exact hother hopen
      · exact h.apart m b l ws m' b' l' ws' hopen hopen' hne
  · rw [hsends] at hb
    rcases of_find?_sendMoves hb with ⟨-, a', -, rfl⟩ | ⟨-, hb⟩
    · cases hphase
    · exact h.committed m b msg hb hphase

/-- The rows a commit adds are of no message before. -/
theorem filter_append_of_owned {α : Type} {key : α → Uuid} {rows new : List α} {id id' : Uuid}
    (hnew : ∀ row ∈ new, key row = id') (hne : id ≠ id') :
    (rows ++ new).filter (key · = id) = rows.filter (key · = id) := by
  have hnone : new.filter (key · = id) = [] := by
    refine List.filter_eq_nil_iff.mpr fun row hrow hid => ?_
    have hid' : key row = id := by simpa using hid
    exact hne (hid'.symm.trans (hnew row hrow))
  rw [List.filter_append, hnone, List.append_nil]

/-- The rows a commit adds are all of its message, which had none. -/
theorem filter_append_of_unowned {α : Type} {key : α → Uuid} {rows new : List α} {id : Uuid}
    (hrows : ∀ row ∈ rows, key row ≠ id) (hnew : ∀ row ∈ new, key row = id) :
    (rows ++ new).filter (key · = id) = new := by
  have hnone : rows.filter (key · = id) = [] :=
    List.filter_eq_nil_iff.mpr fun row hrow hid => hrows row hrow (by simpa using hid)
  rw [List.filter_append, hnone, List.nil_append]
  exact List.filter_eq_self.mpr fun row hrow => by simpa using hnew row hrow

/-- The rows of the messages after a commit. -/
theorem rows_of_stores (h : Stores db writes db') (howned : db.Owned)
    (hdraft : Draft decoders a.request locked writes) :
    (∀ m ∈ db.messages, db'.envelopesOf m.id = db.envelopesOf m.id ∧
      db'.receiptsOf m.id = db.receiptsOf m.id ∧
      db'.notificationsOf m.id = db.notificationsOf m.id) ∧
    db'.envelopesOf writes.message.id = writes.envelopes ∧
    db'.receiptsOf writes.message.id = [writes.receipt] ∧
    db'.notificationsOf writes.message.id = [writes.notification] := by
  have hrows : (∀ e ∈ writes.envelopes, e.messageId = writes.message.id) ∧
      writes.receipt.messageId = writes.message.id ∧
      writes.notification.messageId = writes.message.id := by
    obtain ⟨grant, sequence, createdAt, hwrites⟩ := hdraft
    rw [hwrites]
    refine ⟨fun e he => ?_, rfl, rfl⟩
    obtain ⟨input, -, rfl⟩ := List.mem_map.mp he
    rfl
  obtain ⟨henvelopes, hreceipt, hnotification⟩ := hrows
  have hunowned : ∀ {id : Uuid}, (db.messages.find? id).isSome → id ≠ writes.message.id := by
    rintro id hsome rfl
    rw [h.fresh] at hsome
    cases hsome
  refine ⟨fun m hm => ?_, ?_, ?_, ?_⟩
  · have hne : m.id ≠ writes.message.id :=
      hunowned (Option.isSome_iff_exists.mpr ⟨m, Table.find?_eq_some.mpr ⟨hm, rfl⟩⟩)
    refine ⟨?_, ?_, ?_⟩
    · unfold envelopesOf
      rw [h.envelopes]
      exact filter_append_of_owned henvelopes hne
    · unfold receiptsOf
      rw [h.receipts]
      exact filter_append_of_owned (by simpa using hreceipt) hne
    · unfold notificationsOf
      rw [h.notifications]
      exact filter_append_of_owned (by simpa using hnotification) hne
  · unfold envelopesOf
    rw [h.envelopes]
    exact filter_append_of_unowned (fun e he => hunowned (howned.envelopes e he)) henvelopes
  · unfold receiptsOf
    rw [h.receipts]
    exact filter_append_of_unowned (fun r hr => hunowned (howned.receipts r hr))
      (by simpa using hreceipt)
  · unfold notificationsOf
    rw [h.notifications]
    exact filter_append_of_unowned (fun r hr => hunowned (howned.notifications r hr))
      (by simpa using hnotification)

theorem owned_of_stores (h : Stores db writes db') (howned : db.Owned)
    (hdraft : Draft decoders a.request locked writes) : db'.Owned := by
  have hold : ∀ {id : Uuid}, (db.messages.find? id).isSome → (db'.messages.find? id).isSome := by
    intro id hsome
    obtain ⟨m, hm⟩ := Option.isSome_iff_exists.mp hsome
    obtain ⟨hm, hid⟩ := Table.find?_eq_some.mp hm
    exact Option.isSome_iff_exists.mpr ⟨m, Table.find?_eq_some.mpr ⟨(h.messages m).mpr (.inl hm), hid⟩⟩
  have hnew : (db'.messages.find? writes.message.id).isSome :=
    Option.isSome_iff_exists.mpr ⟨writes.message,
      Table.find?_eq_some.mpr ⟨(h.messages _).mpr (.inr rfl), rfl⟩⟩
  obtain ⟨grant, sequence, createdAt, hwrites⟩ := hdraft
  refine ⟨fun e he => ?_, fun r hr => ?_, fun r hr => ?_⟩
  · rw [h.envelopes] at he
    rcases List.mem_append.mp he with he | he
    · exact hold (howned.envelopes e he)
    · rw [hwrites] at he
      obtain ⟨input, -, rfl⟩ := List.mem_map.mp he
      exact hnew
  · rw [h.receipts] at hr
    rcases List.mem_append.mp hr with hr | hr
    · exact hold (howned.receipts r hr)
    · rw [hwrites] at hr
      cases List.mem_singleton.mp hr
      exact hnew
  · rw [h.notifications] at hr
    rcases List.mem_append.mp hr with hr | hr
    · exact hold (howned.notifications r hr)
    · rw [hwrites] at hr
      cases List.mem_singleton.mp hr
      exact hnew

/-- **A send commits** its draft. -/
theorem Drafts.commit (h : Drafts decoders w) {messages : MessageTables}
    (hopen : Opens w n a locked writes) (hstore : w.db.messages.store writes = .ok messages)
    (hdb : w'.db = { w.db with messages }) (hclock : w'.clock = w.clock)
    (hsends : w'.sends = (w.sendMoves n (.committed writes.message)).sends) :
    Drafts decoders w' := by
  have hstores := stores_of_store hstore
  have hdraft := h.draft n a locked writes hopen
  obtain ⟨hrows, -, hreceipts, hnotifications⟩ := rows_of_stores hstores h.owned hdraft
  -- The drafts that are still open are those of other transactions.
  have hopens : ∀ {m b l ws}, Opens w' m b l ws → m ≠ n ∧ Opens w m b l ws := by
    intro m b l ws hopen'
    have hfind := hopen'.find
    rw [hsends] at hfind
    rcases of_find?_sendMoves hfind with ⟨-, a', -, rfl⟩ | ⟨hm, hb⟩
    · cases hopen'.phase
    · exact ⟨hm, hb, hopen'.phase⟩
  -- The only new message is the one of the draft.
  have hmem : ∀ m, m ∈ w'.db.messages.messages ↔ m ∈ w.db.messages.messages ∨ m = writes.message := by
    intro m
    rw [hdb]
    exact hstores.messages m
  -- What was open was kept apart from the draft that commits, in id and in key.
  refine ⟨hdb ▸ owned_of_stores hstores h.owned hdraft, fun m hm m' hm' hkey => ?_,
    fun m hm => ?_, fun m hm => ?_, fun m hm hlive => ?_,
    fun m b l ws hopen' => h.draft m b l ws (hopens hopen').2,
    fun m b l ws hopen' => ?_, fun m b l ws hopen' msg hmsg => ?_,
    fun m b l ws m' b' l' ws' ho ho' => h.apart m b l ws m' b' l' ws' (hopens ho).2 (hopens ho').2,
    fun m b msg hb hphase => ?_⟩
  · rcases (hmem m).mp hm with hm | rfl
    · rcases (hmem m').mp hm' with hm' | rfl
      · exact h.keys m hm m' hm' hkey
      · exact absurd (hkey.trans hdraft.matches.key) (h.absent n a locked writes hopen m hm)
    · rcases (hmem m').mp hm' with hm' | rfl
      · exact absurd (hkey.symm.trans hdraft.matches.key) (h.absent n a locked writes hopen m' hm')
      · rfl
  · rw [hdb]
    rcases (hmem m).mp hm with hm | rfl
    · rw [(hrows m hm).2.1]
      exact h.receipts m hm
    · rw [hreceipts]
      rfl
  · rw [hdb]
    rcases (hmem m).mp hm with hm | rfl
    · rw [(hrows m hm).2.2]
      exact h.notifications m hm
    · rw [hnotifications]
      exact le_rfl
  · rw [hdb]
    rw [hclock] at hlive
    have hmem' : ∀ x, x ∈ messages.notifications ↔
        x ∈ w.db.messages.notifications ∨ x = writes.notification := by
      intro x
      rw [hstores.notifications, List.mem_append, List.mem_singleton]
    rcases (hmem m).mp hm with hm | rfl
    · obtain ⟨x, hx, hrest⟩ := h.notified m hm hlive
      exact ⟨x, (hmem' x).mpr (.inl hx), hrest⟩
    · refine ⟨writes.notification, (hmem' _).mpr (.inr rfl), ?_⟩
      obtain ⟨grant, sequence, createdAt, hwrites⟩ := hdraft
      rw [hwrites]
      exact ⟨rfl, rfl⟩
  · obtain ⟨hne, hopen'⟩ := hopens hopen'
    refine Table.find?_eq_none.mpr fun msg hmsg => ?_
    rcases (hmem msg).mp hmsg with hmsg | rfl
    · exact Table.find?_eq_none.mp (h.fresh m b l ws hopen') msg hmsg
    · exact (h.apart n a locked writes m b l ws hopen hopen' hne.symm).1
  · obtain ⟨hne, hopen'⟩ := hopens hopen'
    rcases (hmem msg).mp hmsg with hmsg | rfl
    · exact h.absent m b l ws hopen' msg hmsg
    · rw [hdraft.matches.key]
      exact (h.apart n a locked writes m b l ws hopen hopen' hne.symm).2
  -- The attempt that committed has the message of its own draft.
  · rw [hsends] at hb
    rcases of_find?_sendMoves hb with ⟨-, a', ha', rfl⟩ | ⟨-, hb⟩
    · cases hphase
      rw [hopen.find] at ha'
      cases ha'
      exact hdraft.matches
    · exact h.committed m b msg hb hphase

/-- A step of a send keeps the drafts. -/
theorem Drafts.step (h : Drafts decoders w) (ha : w.sends.find? n = some a)
    (hstep : SendStep decoders w a event w') : Drafts decoders w' := by
  have hn : a.number = n := number_of_find? ha
  cases hstep with
  | lookup hphase =>
    refine h.moves (n := a.number) ?_ rfl rfl rfl
    split <;> trivial
  | @prepare now grant hphase hnow hprepare =>
    refine h.moves (n := a.number) ?_ rfl rfl rfl
    cases grant <;> trivial
  | refusePreparation hphase => exact h.ends rfl rfl rfl
  | findObject hphase => exact h.moves (by trivial) rfl rfl rfl
  | refuseObject hphase => exact h.ends rfl rfl rfl
  | @insert grant now locked id hphase hnow hprepare hlock hkey hreservation hnone hid hv4 hids =>
    refine h.insert ha ⟨grant, _, _, rfl⟩ (findMessage_eq_none.mp hnone) hid (fun t ht => ?_)
      rfl rfl (by rw [← hn]; rfl)
    refine ⟨hids t ht, fun heq => ?_⟩
    have hfree := List.all_eq_true.mp hkey t ht
    unfold Message.key SendRequest.key at heq
    simp only [Prod.mk.injEq] at heq
    simp [heq.1, heq.2] at hfree
  | refuseInsertion hphase => exact h.ends rfl rfl rfl
  | violate hphase => exact h.moves (n := a.number) (by trivial) rfl rfl rfl
  | commit hphase hnow hlock hstore =>
    exact h.commit ⟨ha, hphase⟩ hstore rfl rfl (by rw [← hn]; rfl)
  | rollback hphase => exact h.ends rfl rfl rfl
  | answer hphase => exact h.ends rfl rfl rfl
  | findDuplicate hphase => exact h.moves (by trivial) rfl rfl rfl
  | missDuplicate hphase => exact h.ends rfl rfl rfl
  | acknowledge hphase => exact h.ends rfl rfl rfl
  | refuseAcknowledgement hphase => exact h.ends rfl rfl rfl
  | crash => exact h.ends rfl rfl rfl

/-- **Drafts, in every run.** -/
theorem drafts_of_run (h : (messaging decoders presignDownload).Run trace w) :
    Drafts decoders w := by
  refine h.invariant (I := fun _ w => Drafts decoders w) (fun w hw => ?_)
    fun trace w action w' hrun hdrafts hstep => ?_
  · have hempty : ∀ {n a}, w.sends.find? n ≠ some a := by
      intro n a ha
      rw [hw.sends] at ha
      cases ha
    refine ⟨?_, fun m hm => ?_, fun m hm => ?_, fun m hm => ?_, fun m hm => ?_,
      fun n a _ _ ho => absurd ho.find hempty,
      fun n a _ _ ho => absurd ho.find hempty, fun n a _ _ ho => absurd ho.find hempty,
      fun n a _ _ _ _ _ _ ho => absurd ho.find hempty, fun n a _ ha => absurd ha hempty⟩
    · rw [hw.messages]
      exact ⟨by simp, by simp, by simp⟩
    · rw [hw.messages] at hm
      cases hm
    · rw [hw.messages] at hm
      cases hm
    · rw [hw.messages] at hm
      cases hm
    · rw [hw.messages] at hm
      cases hm
  · cases effect_of_step (purgesRead_of_run hrun) hstep with
    | aside haction hsends hstarted hclock hsequence htrimmed hkept hnotifications =>
      exact hdrafts.trim htrimmed hclock hnotifications fun n a ha => .inl (hsends ▸ ha)
    | start hfree hsends hstarted hclock hsequence hdb =>
      refine hdrafts.same hdb hclock.ge fun n a ha => ?_
      rw [hsends, Table.find?_insert] at ha
      split at ha
      · cases ha
        exact .inr trivial
      · exact .inl ha
    | send hfind hstep => exact hdrafts.step hfind hstep

end Messaging

end SinoChat
